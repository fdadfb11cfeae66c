/-
Unreferenced/Compile/Command.lean

Compile commands: the file a translation unit is made from, and the arguments
its compiler is called with.  Of the arguments only the language and the search
directories for headers matter; `CompileCommand.ofArguments` reads them off.
-/
import Unreferenced.Language

namespace Unreferenced

open Text

/-- How one translation unit is compiled.  All paths are absolute. -/
structure CompileCommand where
  file : String
  directory : String
  arguments : List String
  language : Language := .cpp
  quoteDirs : List String := []
  includeDirs : List String := []
  systemDirs : List String := []
deriving DecidableEq, Repr, Inhabited

/-- The three lists of search directories. -/
inductive SearchList where
  | quote
  | include
  | system
deriving DecidableEq, Repr

namespace CompileCommand

/-- The switches that name a search directory, with the list it goes to.  All of them take the
directory as the next argument or after an equals sign; those marked may have it attached. -/
def searchSwitches : List (String × SearchList × Bool) :=
  [("-I", .include, true), ("--include-directory", .include, false), ("-iquote", .quote, true),
   ("-isystem", .system, true), ("-idirafter", .system, true)]

/-- The text after `start`, if the argument begins with it. -/
def attached? (start argument : String) : Option String :=
  (after? start.toList argument.toList).map String.ofList

/-- The search list an argument adds to, and the directory unless it is the next argument. -/
def searchSwitch? (argument : String) : Option (SearchList × Option String) :=
  searchSwitches.findSome? fun (switch, list, mayAttach) =>
    if argument = switch then some (list, none)
    else
      match attached? (switch ++ "=") argument with
      | some value => some (list, some value)
      | none =>
        if mayAttach then (attached? switch argument).map fun value => (list, some value) else none

/-- Add a directory to a search list. -/
def addDirectory (c : CompileCommand) (list : SearchList) (value : String) : CompileCommand :=
  let path := Path.normalizeIn value c.directory
  match list with
  | .quote => { c with quoteDirs := c.quoteDirs ++ [path] }
  | .include => { c with includeDirs := c.includeDirs ++ [path] }
  | .system => { c with systemDirs := c.systemDirs ++ [path] }

/-- Select a language; a value that names none leaves it alone. -/
def selectLanguage (c : CompileCommand) (value : String) : CompileCommand :=
  { c with language := (Language.ofSwitch? value).getD c.language }

/-- Read the arguments after the compiler's name. -/
def readArguments (c : CompileCommand) : List String → CompileCommand
  | [] => c
  | argument :: rest =>
    if argument = "-x" then
      match rest with
      | [] => c
      | value :: rest => readArguments (c.selectLanguage value) rest
    else
      match attached? "-x" argument with
      | some value => readArguments (c.selectLanguage value) rest
      | none =>
        match searchSwitch? argument with
        | none => readArguments c rest
        | some (list, some value) => readArguments (c.addDirectory list value) rest
        | some (list, none) =>
          match rest with
          | [] => c
          | value :: rest => readArguments (c.addDirectory list value) rest

/-- The command that compiles `file` in `directory` with the arguments, the compiler's name first. -/
def ofArguments (wd : WorkingDirectory) (file directory : String) (arguments : List String) :
    CompileCommand :=
  let directory := Path.absolute wd directory
  let file := Path.normalizeIn file directory
  readArguments
    { file := file, directory := directory, arguments := arguments,
      language := (Language.ofFile? file).getD .cpp }
    arguments.tail

end CompileCommand

end Unreferenced
