/-
Unreferenced/Project.lean

A project: its compile commands, and the analysis of all of them.

Every translation unit is handled by itself, and what it comes to is an
`Outcome`; the analysis posts the entries of all outcomes to one ledger.  A unit
whose main file cannot be read makes no entries, and neither does one that the
host does not get through.  One with syntax errors makes those that can be made,
and an error besides.
-/
import Unreferenced.Compile.Discovery
import Unreferenced.Compile.Load
import Unreferenced.Finding
import Unreferenced.Settings
import Unreferenced.Settlement
import Unreferenced.Statistic
import Unreferenced.Usage.Search

namespace Unreferenced

/-! ### The commands of a project -/

/-- The compile commands of a project: those of its database or, if it has none and no build path is
given, commands for the sources found below its root. -/
def Database.ofProject (host : Host) (fs : FileSystem) (excludedDirs : List String) (root : String)
    (build pattern : Option String) (extraArguments : List String) :
    Except DatabaseError Database := do
  let db ←
    match Database.find? fs root build, build with
    | some path, _ => Database.load host fs path
    | none, some build => .error (.notFound build)
    | none, none => .ok (Database.discover fs root excludedDirs)
  (db.withExtraArguments fs.workingDirectory extraArguments).filtered pattern

/-! ### One translation unit -/

/-- Why a translation unit could not be analyzed completely. -/
inductive UnitFault where
  /-- Its files could not be loaded. -/
  | notLoaded (reason : String)
  | mainUnreadable
  /-- The search for uses nests too deep. -/
  | nestedTooDeep
  /-- Files with the lines of their first syntax errors. -/
  | syntaxErrors (places : List (String × Nat))
deriving DecidableEq, Repr

/-- The wording of a fault. -/
def UnitFault.message : UnitFault → String
  | .notLoaded reason => reason
  | .mainUnreadable => "cannot read main file"
  | .nestedTooDeep => "nesting too deep to analyze"
  | .syntaxErrors places =>
    "syntax errors at " ++ ", ".intercalate (places.map fun p => p.1 ++ ":" ++ toString p.2)

/-- A translation unit that could not be analyzed completely. -/
structure UnitError where
  file : String
  fault : UnitFault
deriving DecidableEq, Repr

/-- An error as it is shown. -/
def UnitError.message (e : UnitError) : String :=
  e.file ++ ": " ++ e.fault.message

/-- What analyzing one translation unit comes to. -/
structure Outcome where
  entries : List Entry := []
  notes : List Note := []
  error : Option UnitError := none
  violation : Option Violation := none

namespace TranslationUnit

variable (u : TranslationUnit)

/-- What is wrong with the files of a unit. -/
def fault? : Option UnitFault :=
  if u.mainIsMissing then some .mainUnreadable
  else
    match u.syntaxErrors with
    | [] => none
    | places => some (.syntaxErrors places)

/-- What a unit comes to.  If the search for uses is given up, only so many events are reported, and
nothing is made of them. -/
def outcome (exhaustion? : Option Nat) : Outcome :=
  if u.mainIsMissing then { notes := u.notes, error := some ⟨u.main, .mainUnreadable⟩ }
  else
    let o :=
      match exhaustion? with
      | some reported => Facts.observe u.view u.files .empty (u.events.take reported)
      | none => u.observation
    match o.violation, exhaustion? with
    | some v, _ => { notes := u.notes ++ o.notes, violation := some v }
    | none, some _ => { notes := u.notes ++ o.notes, error := some ⟨u.main, .nestedTooDeep⟩ }
    | none, none =>
      let s := Settlement.settle u.view o.facts
      { entries := s.entries
        notes := u.notes ++ o.notes ++ s.notes
        error := if s.violation.isSome then none else u.fault?.map fun f => ⟨u.main, f⟩
        violation := s.violation }

end TranslationUnit

namespace CompileCommand

variable (host : Host) (fs : FileSystem) (systemDirs : List String) (c : CompileCommand)

/-- Why the unit of a command cannot be loaded: its main file has a path that is refused, or the host
does not get through it. -/
def loadFault? : Option LoadFault :=
  if fs.refuses c.file then some { reason := ReadError.embeddedNull.message c.file }
  else host.loadFault? c

/-- What a compile command comes to. -/
def outcome : Outcome :=
  match c.loadFault? host fs with
  | some f =>
    { notes := .processing c.file :: f.notes, error := some ⟨c.file, .notLoaded f.reason⟩ }
  | none =>
    let o := (TranslationUnit.load fs c systemDirs).outcome (host.exhaustion? c)
    { o with notes := .processing c.file :: o.notes }

end CompileCommand

/-! ### All translation units -/

/-- What analyzing a project comes to. -/
structure Analysis where
  ledger : Ledger
  errors : List UnitError
  notes : List Note
  /-- The first violation, which ends the analysis. -/
  violation : Option Violation

namespace Analysis

/-- The analysis of outcomes. -/
def ofOutcomes (outcomes : List Outcome) : Analysis where
  ledger := Ledger.empty.postAll (outcomes.flatMap Outcome.entries)
  errors := outcomes.filterMap Outcome.error
  notes := outcomes.flatMap Outcome.notes
  violation := (outcomes.filterMap Outcome.violation).head?

/-- The analysis of the commands of a database with so many workers. -/
def ofDatabase (host : Host) (fs : FileSystem) (systemDirs : List String) (workers : Nat)
    (db : Database) : Analysis :=
  let a := ofOutcomes (db.commands.map (CompileCommand.outcome host fs systemDirs))
  { a with notes := .analyzing db.size (max 1 workers) :: a.notes }

/-- The unused functions. -/
def findings (a : Analysis) : List Finding :=
  a.ledger.findings

/-- The lines that report the unused functions. -/
def report (a : Analysis) : List String :=
  a.findings.flatMap Finding.lines

/-- The lines that the console shows for the report. -/
def shownReport (a : Analysis) : List String :=
  a.report.flatMap fun line => Text.printedLines (Terminal.console line)

/-- The counters of an analysis. -/
def statistics (a : Analysis) : Statistics :=
  (a.ledger.collect
    (Statistics.empty.register "xunused" Finding.counter "The number of unused functions")).2

end Analysis

end Unreferenced
