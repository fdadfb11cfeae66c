/-
Unreferenced/Include/SearchPath.lean

Search paths: where the headers of a translation unit are looked for, and which
of them belong to the system.

A quoted include is looked for beside the including file and in the quote
directories first; after that every include is looked for in the include
directories and in the system directories.  A header belongs to the system if
the deepest directory that contains it is a system directory.
-/
import Unreferenced.Compile.Command
import Unreferenced.FileSystem

namespace Unreferenced

/-- The directories that headers are looked for in. -/
structure SearchPath where
  quoteDirs : List String
  includeDirs : List String
  systemDirs : List String
deriving DecidableEq, Repr, Inhabited

/-- One include directive: the text between its delimiters, and whether those are angle brackets. -/
structure IncludeDirective where
  spelling : String
  angled : Bool
deriving DecidableEq, Repr, Inhabited

namespace SearchPath

/-- The directories that hold system headers in any case. -/
def defaultSystemDirs : List String :=
  ["/usr/include", "/usr/local/include"]

/-- The list with a directory at its end, unless it is in it. -/
def addDirectory (dirs : List String) (dir : String) : List String :=
  if dirs.contains dir then dirs else dirs ++ [dir]

/-- The search path of a compile command, with extra system directories. -/
def ofCommand (wd : WorkingDirectory) (command : CompileCommand) (extra : List String) :
    SearchPath where
  quoteDirs := command.quoteDirs
  includeDirs := command.includeDirs
  systemDirs :=
    ((extra ++ defaultSystemDirs).map (Path.absolute wd)).foldl addDirectory command.systemDirs

/-- The directories an include directive in a file is looked for in, first one first. -/
def directories (p : SearchPath) (d : IncludeDirective) (includingFile : String) : List Path :=
  (if d.angled then [] else Path.directoryOf includingFile :: p.quoteDirs.map Path.parse) ++
    (p.includeDirs ++ p.systemDirs).map Path.parse

/-- The file that an include directive in a file stands for. -/
def resolve? (p : SearchPath) (fs : FileSystem) (d : IncludeDirective) (includingFile : String) :
    Option String :=
  ((p.directories d includingFile).map fun dir =>
    (dir.under (Path.parse d.spelling)).normal.render).find? fs.isFile

/-- The length of the longest directory that a path lies in. -/
def longest? (dirs : List String) (path : String) : Option Nat :=
  ((dirs.filter (Path.isWithin path)).map String.length).max?

/-- Whether a file belongs to the system.  A user directory inside a system directory wins. -/
def isSystem (p : SearchPath) (path : String) : Bool :=
  match longest? p.systemDirs path, longest? (p.quoteDirs ++ p.includeDirs) path with
  | none, _ => false
  | some _, none => true
  | some system, some user => decide (user < system)

end SearchPath

end Unreferenced
