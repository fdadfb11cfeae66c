/-
Unreferenced/Compile/Discovery.lean

Making up a database for a project that has none: every source file below the
project's root is compiled with the root, and its `include` directory if there
is one, as search directories.

The sources of a directory come before those of its subdirectories, both in the
order of their names.  Hidden directories and those that usually hold built or
foreign code are left out.
-/
import Unreferenced.Compile.Database

namespace Unreferenced.Database

/-- The names of directories that are never entered. -/
def excludedNames : List String :=
  ["build", "cmake-build-debug", "cmake-build-release", "out", "dist", "vendor", "extern",
   "external", "third_party", "thirdparty", "deps", ".git", ".svn", ".hg", "node_modules", ".cache",
   "CMakeFiles"]

/-- Whether a directory is left out, given further excluded names. -/
def isExcluded (extra : List String) (name : String) : Bool :=
  excludedNames.contains name || extra.contains name || Text.beginsWith "." name

/-- The spelling of an entry of a directory. -/
def entryPath (directory name : String) : String :=
  if Text.endsWith "/" directory then directory ++ name else directory ++ "/" ++ name

/-- Whether a file of this name is compiled on its own. -/
def isSourceName (name : String) : Bool :=
  Language.isSourceExtension (Path.parse name).suffix

/-- The names of the source files of a directory, in order. -/
def sourceNames (items : List (String × Item)) : List String :=
  (items.filterMap fun (name, item) =>
    match item with
    | .file _ => if isSourceName name then some name else none
    | .directory _ => none).mergeSort fun a b => decide (a ≤ b)

mutual

/-- The source files below an item at a path. -/
def sourcesBelow (extra : List String) (path : String) : Item → List String
  | .file _ => []
  | .directory items =>
    (sourceNames items).map (entryPath path) ++
      ((sourcesInside extra path items).mergeSort fun a b => decide (a.1 ≤ b.1)).flatMap Prod.snd

/-- The source files inside the subdirectories of a directory at a path, by the names of these. -/
def sourcesInside (extra : List String) (path : String) :
    List (String × Item) → List (String × List String)
  | [] => []
  | (name, item) :: rest =>
    let later := sourcesInside extra path rest
    match item with
    | .file _ => later
    | .directory items =>
      if isExcluded extra name then later
      else (name, sourcesBelow extra (entryPath path name) (.directory items)) :: later

end

/-- The command for a discovered source. -/
def discoveredCommand (wd : WorkingDirectory) (root : String) (includes : List String)
    (source : String) : CompileCommand :=
  let compiler := if Language.ofFile? source = some .c then "cc" else "c++"
  .ofArguments wd source root ([compiler] ++ includes ++ ["-c", source])

/-- The database of all sources below a project's root. -/
def discover (fs : FileSystem) (projectRoot : String) (extra : List String) : Database :=
  let root := Path.absolute fs.workingDirectory projectRoot
  let header := ((Path.parse root).child "include").render
  let includes := ("-I" ++ root) :: (if fs.isDirectory header then ["-I" ++ header] else [])
  let sources :=
    match fs.item? root with
    | some item => sourcesBelow extra root item
    | none => []
  ofCommands (some root) (sources.map (discoveredCommand fs.workingDirectory root includes))

end Unreferenced.Database
