/-
Unreferenced/Compile/Database.lean

Compilation databases: one compile command for every file, in order.  Of
several commands for a file the first is kept.
-/
import Unreferenced.Compile.Command
import Unreferenced.Container.OrderedMap
import Unreferenced.FileSystem
import Unreferenced.Pattern.Matching
import Unreferenced.Pattern.Reader
import Unreferenced.Shell

namespace Unreferenced

open Text

/-- Why there is no usable database. -/
inductive DatabaseError where
  /-- The file cannot be read. -/
  | unreadable (path : String) (reason : ReadError)
  /-- The path of the file has a null character in it. -/
  | embeddedNull
  /-- The file is not JSON. -/
  | notJson (path : String)
  /-- The file is not UTF-8. -/
  | notUtf8
  /-- The values in the file nest deeper than they can be read. -/
  | nestedTooDeep
  | notArray (path : String)
  /-- An entry is not an object with the two keys it needs. -/
  | incompleteEntry (path : String) (index : Nat)
  /-- The command of an entry cannot be split into words. -/
  | badCommand (path : String) (index : Nat) (reason : Shell.Error)
  | noArguments (path : String) (index : Nat)
  /-- The arguments of an entry are not a collection. -/
  | argumentsNotCollection
  /-- The command of an entry is not a text. -/
  | commandNotText
  /-- A path of an entry is not a text. -/
  | pathNotText
  | invalidPattern (pattern : String)
  /-- The flags of a pattern exclude each other. -/
  | conflictingFlags
  /-- A pattern repeats something too often. -/
  | repetitionTooLarge
  /-- A number, in the file or in a pattern, is written with too many digits. -/
  | numberTooLong
  | notFound (buildPath : String)
deriving DecidableEq, Repr

/-- The wording of a database error. -/
def DatabaseError.message : DatabaseError → String
  | .unreadable path reason => "cannot load " ++ path ++ ": " ++ reason.message path
  | .embeddedNull => ReadError.embeddedNull.message ""
  | .notJson path => "cannot load " ++ path ++ ": "
  | .notUtf8 => "the compilation database is not UTF-8"
  | .nestedTooDeep => "the values in the compilation database nest too deep"
  | .notArray path => path ++ ": expected a JSON array of compile commands"
  | .incompleteEntry path index =>
    path ++ ": entry " ++ toString index ++ " needs 'file' and 'directory'"
  | .badCommand path index reason =>
    path ++ ": entry " ++ toString index ++ ": " ++ reason.message
  | .noArguments path index =>
    path ++ ": entry " ++ toString index ++ " has neither 'arguments' nor 'command'"
  | .argumentsNotCollection => "the arguments of an entry are not a collection"
  | .commandNotText => "the command of an entry is not a text"
  | .pathNotText => "a path of an entry is not a text"
  | .invalidPattern pattern => "invalid --filter pattern " ++ quoted pattern ++ ": "
  | .conflictingFlags => "the flags of a pattern exclude each other"
  | .repetitionTooLarge => "a pattern repeats something too often"
  | .numberTooLong => "a number has too many digits"
  | .notFound buildPath => "no compile_commands.json found in " ++ buildPath

/-- The commands of a run by their files. -/
structure Database where
  /-- Where the commands come from. -/
  source : Option String
  byFile : OrderedMap String CompileCommand

namespace Database

/-- The database of a list of commands. -/
def ofCommands (source : Option String) (commands : List CompileCommand) : Database where
  source := source
  byFile := OrderedMap.ofListFirst (commands.map fun c => (c.file, c))

/-- The commands in order. -/
def commands (db : Database) : List CompileCommand :=
  db.byFile.values

/-- The number of commands. -/
def size (db : Database) : Nat :=
  db.byFile.size

/-- The commands for the files with a property. -/
def restrict (db : Database) (keep : String → Bool) : Database :=
  ofCommands db.source (db.commands.filter fun c => keep c.file)

/-- The commands for the files in whose paths a pattern is found; no pattern and the empty one keep
everything. -/
def filtered (db : Database) (pattern : Option String) : Except DatabaseError Database :=
  match pattern with
  | none => .ok db
  | some "" => .ok db
  | some text =>
    match Pattern.read text with
    | .ok p => .ok (db.restrict p.foundIn)
    | .error .malformed => .error (.invalidPattern text)
    | .error .conflictingFlags => .error .conflictingFlags
    | .error .repetitionTooLarge => .error .repetitionTooLarge
    | .error .numberTooLong => .error .numberTooLong

/-- The commands with arguments added at the end of each. -/
def withExtraArguments (wd : WorkingDirectory) (db : Database) (extra : List String) : Database :=
  if extra = [] then db
  else
    ofCommands db.source
      (db.commands.map fun c => .ofArguments wd c.file c.directory (c.arguments ++ extra))

end Database

end Unreferenced
