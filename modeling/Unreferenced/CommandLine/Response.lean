/-
Unreferenced/CommandLine/Response.lean

What the program answers to an invocation: the lines and tables it prints, and
its exit code.
-/
import Unreferenced.CommandLine.Arguments
import Unreferenced.Project

namespace Unreferenced.CommandLine

/-- One thing printed to the standard output. -/
inductive Printed where
  | line (text : String)
  | table (table : Table)
deriving DecidableEq, Repr

/-- What a run of the program leaves. -/
structure Response where
  exitCode : Nat := 0
  /-- The texts printed to the standard error output. -/
  errors : List String := []
  output : List Printed := []
deriving DecidableEq, Repr

/-- The lines on the standard error output, without the empty ones. -/
def Response.errorLines (r : Response) : List String :=
  (r.errors.flatMap Text.printedLines).filter (· != "")

/-- What ends a run without a response. -/
inductive Failure where
  | database (error : DatabaseError)
  | violation (violation : Violation)
deriving DecidableEq, Repr

/-- The version of the program. -/
def version : String := "1.0.0"

/-- The word before the message of an error that ends the run. -/
def errorWord : String := "Error: "

/-- The response to an error that ends the run. -/
def failed (message : String) : Response :=
  { exitCode := 1, errors := [errorWord ++ Terminal.shown errorWord.length message] }

/-- Whether a database error is foreseen: a fault that no check covers ends the run without a
response. -/
def isForeseen : DatabaseError → Bool
  | .embeddedNull | .notUtf8 | .nestedTooDeep | .argumentsNotCollection | .commandNotText
  | .pathNotText | .conflictingFlags | .repetitionTooLarge | .numberTooLong => false
  | _ => true

/-- The absolute location of a project's root. -/
def rootLocation (wd : WorkingDirectory) (root : String) : String :=
  ({ Path.parse (Path.absolute wd root) with anchor := .root } : Path).render

variable (host : Host) (fs : FileSystem) (settings : Settings)

/-- The compile commands an invocation selects. -/
def selected (root : String) (s : Selection) : Except DatabaseError Database :=
  let build := s.build.map fun b => (Path.parse b).render
  Database.ofProject host fs settings.excludedDirs root build s.pattern s.extraArguments

/-- Answer with what is made of the selected commands. -/
def withSelected (root : String) (s : Selection) (answer : Database → Except Failure Response) :
    Except Failure Response :=
  match selected host fs settings root s with
  | .ok db => answer db
  | .error e => if isForeseen e then .ok (failed e.message) else .error (.database e)

/-- Analyze the selected commands and report. -/
def auditDatabase (jobs : Option Nat) (printStatistics debug : Bool) (db : Database) :
    Except Failure Response :=
  if db.size = 0 then .ok { errors := ["No translation units to analyze."] }
  else
    let a := Analysis.ofDatabase host fs settings.systemDirs (jobs.getD settings.jobs) db
    match a.violation with
    | some v => .error (.violation v)
    | none =>
      .ok
        { exitCode := if a.errors.isEmpty then 0 else 1
          errors :=
            (if debug || settings.debug then a.notes.map Note.line else []) ++
              a.report.map Terminal.console ++
              a.errors.map fun e => Terminal.console ("error: " ++ e.message)
          output :=
            if printStatistics then
              [.table a.statistics.table,
                .line ("[dim]" ++ toString db.size ++ " translation units in 0.00s[/dim]")]
            else [] }

/-- Analyze a project. -/
def audit (s : Selection) (jobs : Option Nat) (printStatistics debug : Bool) :
    Except Failure Response :=
  let root := rootLocation fs.workingDirectory s.root
  if fs.contains root then
    withSelected host fs settings root s
      (auditDatabase host fs settings jobs printStatistics debug)
  else .ok (failed ("Project path does not exist: " ++ root))

/-- The row for a compile command: its file, below the root if it is, its language and its search
directories. -/
def commandRow (root : String) (c : CompileCommand) : List String :=
  let file :=
    match (Path.parse c.file).relativeTo? (Path.parse root) with
    | some path => path.render
    | none => c.file
  [Terminal.escaped file, c.language.name,
    Terminal.escaped (" ".intercalate (c.quoteDirs ++ c.includeDirs ++ c.systemDirs))]

/-- The table of compile commands. -/
def commandTable (root : String) (db : Database) : Table where
  title := "Translation Units (" ++ Terminal.escaped (db.source.getD "None") ++ ")"
  columns := ["File", "Language", "Include Dirs"]
  rows := db.commands.map (commandRow root)

/-- Answer an invocation. -/
def respond : Invocation → Except Failure Response
  | .version => .ok { output := [.line ("xunused " ++ version)] }
  | .help => .ok {}
  | .audit s jobs printStatistics debug => audit host fs settings s jobs printStatistics debug
  | .list s =>
    let root := rootLocation fs.workingDirectory s.root
    withSelected host fs settings root s fun db => .ok { output := [.table (commandTable root db)] }

end Unreferenced.CommandLine
