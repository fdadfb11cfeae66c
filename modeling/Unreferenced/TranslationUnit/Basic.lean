/-
Unreferenced/TranslationUnit/Basic.lean

Translation units: a main file and the headers it includes, with everything that
is known once all of them are read.
-/
import Unreferenced.FileContents
import Unreferenced.Include.Graph
import Unreferenced.Facts
import Unreferenced.Tree.ErrorSearch
import Unreferenced.TranslationUnit.Override

namespace Unreferenced

/-- A translation unit. -/
structure TranslationUnit where
  main : String
  search : SearchPath
  graph : IncludeGraph
  hierarchy : Hierarchy
  /-- All function sites, in include order. -/
  functions : List FunctionSite
  chains : List Chain
  /-- The declarations at the function sites, by number. -/
  declarations : Array (Declaration Nat)
  /-- The types of global variables. -/
  globals : OrderedMap String String
  /-- The identifiers in macros. -/
  macroNames : OrderedSet String
  notes : List Note
deriving Inhabited

/-- What the files of a translation unit declare, and the classes they define. -/
structure Reading where
  registry : Registry := .empty
  contents : List FileContents := []

namespace TranslationUnit

/-- Read one file of a unit. -/
def readFile (language : Language) (graph : IncludeGraph) (r : Reading) (path : String) : Reading :=
  match graph.files.get? path with
  | some root =>
    let s := FileContents.read language r.registry path root
    ⟨s.registry, r.contents ++ [s.contents]⟩
  | none => r

/-- Read the files of a unit in include order. -/
def readFiles (language : Language) (graph : IncludeGraph) : Reading :=
  graph.order.foldl (readFile language graph) {}

/-- Whether one of the files makes a name weak. -/
def isWeakName (contents : List FileContents) (name : String) : Bool :=
  contents.any fun c => c.weakNames.toList.contains name

/-- A site with what pragmas say about it; they speak of functions that are no members. -/
def withPragmas (contents : List FileContents) (s : FunctionSite) : FunctionSite :=
  if s.owner = none ∧ isWeakName contents s.name then { s with isWeak := true } else s

/-- All function sites of the files. -/
def sitesOf (contents : List FileContents) : List FunctionSite :=
  (contents.flatMap FileContents.functions).map (withPragmas contents)

/-- The unit made of the files of an include graph. -/
def ofGraph (main : String) (language : Language) (search : SearchPath) (graph : IncludeGraph) :
    TranslationUnit :=
  let r := readFiles language graph
  let sites := sitesOf r.contents
  let hierarchy := Hierarchy.ofRegistry r.registry
  let chains := Chain.settleOverrides hierarchy (Chain.group (Member.number sites))
  { main := main
    search := search
    graph := graph
    hierarchy := hierarchy
    functions := sites
    chains := chains
    declarations := (Chain.declarationsOf chains (Member.number sites)).toArray
    globals := r.contents.foldl (fun m c => m.insertAll c.globals) .empty
    macroNames := r.contents.foldl
      (fun s c => c.macroNames.toList.foldl OrderedSet.insert s) .empty
    notes := graph.notes ++ r.contents.flatMap FileContents.notes ++
      sites.flatMap (View.symbolNotes FunctionSite.alone) ++ Hierarchy.baseNotes r.registry ++
      hierarchy.cycleNotes }

/-- The translation unit of a compile command. -/
def load (fs : FileSystem) (command : CompileCommand) (extraSystemDirs : List String) :
    TranslationUnit :=
  let search := SearchPath.ofCommand fs.workingDirectory command extraSystemDirs
  ofGraph command.file command.language search
    (IncludeGraph.build fs search command.language command.file)

variable (u : TranslationUnit)

/-- The classes of the unit. -/
def registry : Registry :=
  u.hierarchy.registry

/-- Whether the main file could not be read. -/
def mainIsMissing : Bool :=
  !u.graph.files.contains u.main

/-- The files with syntax errors, each with the line of the first one. -/
def syntaxErrors : List (String × Nat) :=
  u.graph.order.filterMap fun path =>
    match u.graph.files.get? path with
    | some root => if root.hasError then some (path, root.firstErrorLine) else none
    | none => none

/-- What the declarations of the unit are. -/
def view : View Nat :=
  fun index => u.declarations.getD index default

/-- The files of the unit as the facts see them. -/
def files : UnitFiles where
  main := u.main
  isSystem := fun path => u.graph.systemHeaders.contains path || u.search.isSystem path

/-- The first site whose node starts at an offset of a file. -/
def siteAt? (path : String) (start : Nat) : Option FunctionSite :=
  u.functions.find? fun s => s.location.file == path && s.start == start

end TranslationUnit

end Unreferenced
