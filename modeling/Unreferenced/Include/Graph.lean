/-
Unreferenced/Include/Graph.lean

Include graphs: the files of a translation unit and how they include one
another.

The main file is parsed, then depth first every header it reaches, each once,
as include guards would have it.  Headers of the system are noted and never
parsed.  A file is finished after the files it includes, and `order` lists the
files as they are finished.
-/
import Unreferenced.Container.OrderedMap
import Unreferenced.Container.OrderedSet
import Unreferenced.Include.Guard
import Unreferenced.Include.SearchPath
import Unreferenced.Note
import Unreferenced.Text.Blank

namespace Unreferenced

open Text

/-- The files of a translation unit. -/
structure IncludeGraph where
  /-- Every file met, and whether it belongs to the system. -/
  nodes : OrderedMap String Bool := .empty
  /-- The pairs of a file and one that it includes. -/
  edges : OrderedSet (String × String) := .empty
  /-- The parsed files, as they were parsed. -/
  files : OrderedMap String Node := .empty
  /-- The parsed files, as they were finished. -/
  order : List String := []
  systemHeaders : List String := []
  /-- The directives no file is found for. -/
  unresolved : List (String × String) := []
  notes : List Note := []
deriving Inhabited

/-! ### Directives -/

/-- The directive that the text of an include path stands for. -/
def IncludeDirective.ofText? (text : String) : Option IncludeDirective :=
  let trimmed := String.ofList (trim text.toList)
  if beginsWith "<" trimmed && endsWith ">" trimmed then
    some ⟨String.ofList (trim (dropEnds trimmed).toList), true⟩
  else if beginsWith "\"" trimmed && endsWith "\"" trimmed then some ⟨dropEnds trimmed, false⟩
  else none

namespace Node

mutual

/-- The include directives in a tree, from top to bottom, in whatever branch they stand. -/
def includeDirectives : Node → List IncludeDirective
  | ⟨kind, _, _, _, _, _, _, _, children⟩ =>
    if kind = "preproc_include" then
      ((children.find? fun c => c.field == "path").bind fun c =>
        IncludeDirective.ofText? c.text).toList
    else includeDirectivesAll children

/-- The include directives in several trees. -/
def includeDirectivesAll : List Node → List IncludeDirective
  | [] => []
  | n :: rest => includeDirectives n ++ includeDirectivesAll rest

end

end Node

/-! ### The graph -/

/-- The syntax tree of a file, over its bytes with the guards resolved. -/
def StoredFile.parse (f : StoredFile) (language : Language) : Node :=
  (f.tree language).over (.ofBytes (Guard.resolve language f.bytes))

namespace IncludeGraph

/-- Add a file. -/
def addNode (g : IncludeGraph) (path : String) (isSystem : Bool) : IncludeGraph :=
  { g with nodes := g.nodes.insert path isSystem }

/-- Add the edge of an include directive. -/
def addEdge (g : IncludeGraph) (path target : String) : IncludeGraph :=
  { g with edges := g.edges.insert (path, target) }

/-- Add a note. -/
def addNote (g : IncludeGraph) (note : Note) : IncludeGraph :=
  { g with notes := g.notes ++ [note] }

/-- Follow one include directive of a file; `visit` takes up a file that is new. -/
def follow (fs : FileSystem) (search : SearchPath) (visit : String → IncludeGraph → IncludeGraph)
    (path : String) (g : IncludeGraph) (d : IncludeDirective) : IncludeGraph :=
  match search.resolve? fs d path with
  | none =>
    { g.addNote (.cannotFindInclude path d.spelling) with
      unresolved := g.unresolved ++ [(path, d.spelling)] }
  | some target =>
    if g.nodes.contains target then g.addEdge path target
    else if search.isSystem target then
      { (g.addNode target true).addEdge path target with
        systemHeaders := g.systemHeaders ++ [target] }
    else visit target ((g.addNode target false).addEdge path target)

/-- Take up a file and all that it includes, so many levels deep. -/
def visit (fs : FileSystem) (search : SearchPath) (language : Language) :
    Nat → String → IncludeGraph → IncludeGraph
  | 0, _, g => g
  | depth + 1, path, g =>
    let g := g.addNode path false
    match fs.read path with
    | .error e => g.addNote (.cannotRead path (e.message path))
    | .ok f =>
      let root := f.parse language
      let g := root.includeDirectives.foldl (follow fs search (visit fs search language depth) path)
        { g with files := g.files.insert path root }
      { g with order := g.order ++ [path] }

/-- How deep includes are followed.  Every level takes up a path that is new, so absolute paths
never get deeper than there are spellings of files, with one slash in front or with two; relative
ones can spell one file in ever new ways. -/
def depthLimit (fs : FileSystem) : Nat :=
  2 * fs.size + 1000

/-- The include graph of a main file. -/
def build (fs : FileSystem) (search : SearchPath) (language : Language) (main : String) :
    IncludeGraph :=
  visit fs search language (depthLimit fs) main {}

end IncludeGraph

end Unreferenced
