/-
Unreferenced/Compile/Load.lean

Loading a compilation database from a `compile_commands.json` file, and finding
that file.

The arguments of an entry are a list, whose items are taken as texts, an object,
whose keys are taken, or a text, whose characters are; an entry without
arguments has a command to be split into words.  A command that is `null` is read
from the standard input, all of it, so nothing is left for the next such entry;
some hosts refuse it.
-/
import Unreferenced.Compile.Database
import Unreferenced.Host
import Unreferenced.Json.Reader

namespace Unreferenced.Database

open Text

/-- The name of a database file. -/
def fileName : String := "compile_commands.json"

/-- The arguments of an entry as a list of texts. -/
def argumentsOf? : Json → Option (List String)
  | .array items => some (items.map Json.shown)
  | .object fields => some (fields.map fun f => f.1.text)
  | .string s => some (s.map fun c => JsonString.text [c])
  | _ => none

/-- The words of a command. -/
def commandWords (path : String) (index : Nat) (command : Option String) :
    Except DatabaseError (List String) :=
  match command with
  | none => .error (.badCommand path index .noText)
  | some text =>
    match Shell.split text with
    | .ok words => .ok words
    | .error e => .error (.badCommand path index e)

/-- The arguments of the entry at a position, with what is left on the standard input. -/
def entryArguments (path : String) (index : Nat) (input : Option String)
    (fields : List (JsonString × Json)) : Except DatabaseError (List String) :=
  match Json.get? fields "arguments", Json.get? fields "command" with
  | some value, _ =>
    match argumentsOf? value with
    | some arguments => .ok arguments
    | none => .error .argumentsNotCollection
  | none, some (.string command) => commandWords path index (some command.text)
  | none, some .null => commandWords path index input
  | none, some _ => .error .commandNotText
  | none, none => .error (.noArguments path index)

/-- The command of the entry at a position. -/
def entryCommand (wd : WorkingDirectory) (path : String) (index : Nat) (input : Option String)
    (entry : Json) : Except DatabaseError CompileCommand :=
  match entry with
  | .object fields =>
    match Json.get? fields "file", Json.get? fields "directory" with
    | some file, some directory =>
      match entryArguments path index input fields with
      | .error e => .error e
      | .ok arguments =>
        match file, directory with
        | .string file, .string directory =>
          .ok (.ofArguments wd file.text directory.text arguments)
        | _, _ => .error .pathNotText
    | _, _ => .error (.incompleteEntry path index)
  | _ => .error (.incompleteEntry path index)

/-- Whether an entry takes its arguments from the standard input. -/
def readsInput : Json → Bool
  | .object fields =>
    match Json.get? fields "arguments", Json.get? fields "command" with
    | none, some .null => true
    | _, _ => false
  | _ => false

/-- What an entry leaves on the standard input. -/
def inputAfter (input : Option String) (entry : Json) : Option String :=
  if readsInput entry then input.map fun _ => "" else input

/-- The commands of entries that follow `index` others. -/
def entryCommands (wd : WorkingDirectory) (path : String) (index : Nat) (input : Option String) :
    List Json → Except DatabaseError (List CompileCommand)
  | [] => .ok []
  | entry :: rest =>
    match entryCommand wd path index input entry with
    | .error e => .error e
    | .ok command =>
      match entryCommands wd path (index + 1) (inputAfter input entry) rest with
      | .error e => .error e
      | .ok commands => .ok (command :: commands)

/-- The database a file at `path` with these bytes holds. -/
def ofBytes (host : Host) (wd : WorkingDirectory) (path : String) (bytes : List UInt8) :
    Except DatabaseError Database :=
  match Utf8.decodeStrict? bytes with
  | none => .error .notUtf8
  | some text =>
    match Json.read host.jsonNesting text with
    | .error .malformed => .error (.notJson path)
    | .error .numberTooLong => .error .numberTooLong
    | .error .nestedTooDeep => .error .nestedTooDeep
    | .ok (.array entries) =>
      match entryCommands wd path 0 host.standardInput entries with
      | .ok commands => .ok (ofCommands (some path) commands)
      | .error e => .error e
    | .ok _ => .error (.notArray path)

/-- Load the database at a path. -/
def load (host : Host) (fs : FileSystem) (path : String) : Except DatabaseError Database :=
  let path := (Path.parse path).render
  match fs.read path with
  | .error .embeddedNull => .error .embeddedNull
  | .error e => .error (.unreadable path e)
  | .ok file => ofBytes host fs.workingDirectory path file.bytes

/-- The places where a database may be: at the build path if one is given, which names the file
itself if it ends in `.json`, else in the project's root or in its build directory. -/
def candidates (root : String) (build : Option String) : List Path :=
  match build with
  | some build =>
    let path := Path.parse build
    [if path.suffix = ".json" then path else path.child fileName]
  | none =>
    let path := Path.parse root
    [path.child fileName, (path.child "build").child fileName]

/-- The path of the database of a project. -/
def find? (fs : FileSystem) (root : String) (build : Option String) : Option String :=
  ((candidates root build).find? fun path => fs.isFile path.render).map Path.render

end Unreferenced.Database
