/-
Unreferenced/CommandLine/Arguments.lean

Reading the arguments of a command line.

An option that takes a value has it in the next argument, after an equals sign
if its name is long, or attached if its name is short.  The next argument is
taken as it is, also if it looks like an option.  Two dashes end the options.
Before the command only the options of the program itself may stand.
-/
import Unreferenced.CommandLine.Count
import Unreferenced.Text.Cut

namespace Unreferenced.CommandLine

open Text

/-- What is wrong with a command line. -/
inductive UsageError where
  | unknownOption (name : String)
  | missingValue (name : String)
  /-- An option that takes no value has one. -/
  | unexpectedValue (name : String)
  | surplusArgument (argument : String)
  | missingCommand
  | unknownCommand (name : String)
  /-- The number of workers is not a positive number. -/
  | badJobs (value : String)
deriving DecidableEq, Repr

/-- The wording of a usage error. -/
def UsageError.message : UsageError → String
  | .unknownOption name => "No such option: " ++ name
  | .missingValue name => "Option '" ++ name ++ "' requires an argument."
  | .unexpectedValue name => "Option '" ++ name ++ "' does not take a value."
  | .surplusArgument argument => "Got unexpected extra argument (" ++ argument ++ ")"
  | .missingCommand => "Missing command."
  | .unknownCommand name => "No such command '" ++ name ++ "'."
  | .badJobs value => "Invalid value for '--jobs' / '-j': '" ++ value ++ "'."

/-! ### Options -/

/-- The options, whatever command they belong to. -/
inductive OptionName where
  | build
  | pattern
  | jobs
  | extraArgument
  | printStatistics
  | debug
  | noProgress
  | version
  | help
deriving DecidableEq, Repr

/-- Whether an option takes a value. -/
def OptionName.takesValue : OptionName → Bool
  | .build | .pattern | .jobs | .extraArgument => true
  | _ => false

/-- The spellings of the options that one command knows. -/
abbrev Spellings := List (String × OptionName)

/-- The options before the command. -/
def programOptions : Spellings :=
  [("--version", .version), ("--help", .help)]

/-- The options of the command that lists translation units. -/
def listOptions : Spellings :=
  [("--build-path", .build), ("-p", .build), ("--filter", .pattern),
    ("--extra-arg", .extraArgument), ("--help", .help)]

/-- The options of the command that analyzes a project. -/
def auditOptions : Spellings :=
  listOptions ++ [("--jobs", .jobs), ("-j", .jobs), ("--print-stats", .printStatistics),
    ("--debug", .debug), ("--no-progress", .noProgress)]

/-- An option as it was given. -/
structure GivenOption where
  name : OptionName
  value : String := ""
deriving DecidableEq, Repr

/-- The options and the other arguments of a command, in order. -/
structure Given where
  options : List GivenOption := []
  arguments : List String := []
deriving DecidableEq, Repr

/-- Whether an argument is written like an option. -/
def isOption (argument : String) : Bool :=
  beginsWith "-" argument && argument != "-"

/-- The name of an option and the value attached to it. -/
def splitOption (spellings : Spellings) (argument : String) :
    Except UsageError (String × OptionName × Option String) :=
  let head := before '=' argument
  let long := beginsWith "--" argument
  match if long then spellings.lookup head else none with
  | some name =>
    .ok (head, name,
      if head = argument then none
      else some (String.ofList (argument.toList.drop (head.length + 1))))
  | none =>
    if long then .error (.unknownOption head)
    else
      let short := String.ofList (argument.toList.take 2)
      let rest := String.ofList (argument.toList.drop 2)
      match spellings.lookup short with
      | some name => .ok (short, name, if rest = "" then none else some rest)
      | none => .error (.unknownOption short)

/-- Read arguments.  `interspersed` tells whether options may follow other arguments; if not, the
first other argument ends the options. -/
def readArguments (spellings : Spellings) (interspersed : Bool) (given : Given) :
    List String → Except UsageError Given
  | [] => .ok given
  | "--" :: rest => .ok { given with arguments := given.arguments ++ rest }
  | argument :: rest =>
    if !isOption argument then
      let given := { given with arguments := given.arguments ++ [argument] }
      if interspersed then readArguments spellings interspersed given rest
      else .ok { given with arguments := given.arguments ++ rest }
    else
      match splitOption spellings argument with
      | .error e => .error e
      | .ok (spelling, name, attached) =>
        let add (value : String) : Given := { given with options := given.options ++ [⟨name, value⟩] }
        if name.takesValue then
          match attached with
          | some value => readArguments spellings interspersed (add value) rest
          | none =>
            match rest with
            | value :: later => readArguments spellings interspersed (add value) later
            | [] => .error (.missingValue spelling)
        else if attached.isSome then .error (.unexpectedValue spelling)
        else readArguments spellings interspersed (add "") rest

namespace Given

/-- Whether an option was given. -/
def has (g : Given) (name : OptionName) : Bool :=
  g.options.any fun o => o.name = name

/-- The values given for an option. -/
def values (g : Given) (name : OptionName) : List String :=
  (g.options.filter fun o => o.name = name).map GivenOption.value

/-- The value of an option; the last one counts. -/
def value? (g : Given) (name : OptionName) : Option String :=
  (g.values name).getLast?

end Given

/-! ### Invocations -/

/-- What both commands are told about the project. -/
structure Selection where
  root : String := "."
  build : Option String := none
  pattern : Option String := none
  extraArguments : List String := []
deriving DecidableEq, Repr, Inhabited

/-- What a command line asks for. -/
inductive Invocation where
  | version
  | help
  | audit (selection : Selection) (jobs : Option Nat) (printStatistics debug : Bool)
  | list (selection : Selection)
deriving DecidableEq, Repr

/-- What the arguments of a command say about the project. -/
def selectionOf (g : Given) : Except UsageError Selection :=
  match g.arguments with
  | _ :: extra :: _ => .error (.surplusArgument extra)
  | arguments =>
    .ok { root := arguments.head?.getD "."
          build := g.value? .build
          pattern := g.value? .pattern
          extraArguments := g.values .extraArgument }

/-- The number of workers asked for. -/
def jobsOf (g : Given) : Except UsageError (Option Nat) :=
  match g.value? .jobs with
  | none => .ok none
  | some value =>
    match count? value with
    | some (n + 1) => .ok (some (n + 1))
    | _ => .error (.badJobs value)

/-- The commands. -/
inductive Command where
  /-- Analyze a project. -/
  | audit
  /-- List its translation units. -/
  | list
deriving DecidableEq, Repr

/-- The command of a name. -/
def Command.ofName? : String → Option Command
  | "audit" => some .audit
  | "tus" => some .list
  | _ => none

/-- The invocation of a command. -/
def Command.invocation (command : Command) (arguments : List String) :
    Except UsageError Invocation := do
  match command with
  | .audit =>
    let g ← readArguments auditOptions true {} arguments
    if g.has .help then return .help
    let jobs ← jobsOf g
    let selection ← selectionOf g
    return .audit selection jobs (g.has .printStatistics) (g.has .debug)
  | .list =>
    let g ← readArguments listOptions true {} arguments
    if g.has .help then return .help
    return .list (← selectionOf g)

/-- The invocation that options of the program itself stand for: the first one counts. -/
def optionInvocation? (g : Given) : Option Invocation :=
  g.options.head?.map fun o => if o.name = .version then .version else .help

/-- The invocation that the arguments of the program stand for.  What stands in the place of the
command but is none is read as an option once more, also after two dashes. -/
def invocation (arguments : List String) : Except UsageError Invocation := do
  let g ← readArguments programOptions false {} arguments
  match optionInvocation? g, g.arguments with
  | some i, _ => return i
  | none, [] => .error .missingCommand
  | none, name :: rest =>
    match Command.ofName? name with
    | some command => command.invocation rest
    | none =>
      match optionInvocation? (← readArguments programOptions false {} (name :: rest)) with
      | some i => return i
      | none => .error (.unknownCommand name)

end Unreferenced.CommandLine
