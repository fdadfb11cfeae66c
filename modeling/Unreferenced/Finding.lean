/-
Unreferenced/Finding.lean

Findings: the symbols with a definition and without a use.  Symbols without a
definition belong to code outside the run and are not findings.

Collecting the findings of a ledger counts them: every finding adds one to the
counter of unused functions.
-/
import Unreferenced.Ledger
import Unreferenced.Statistic

namespace Unreferenced

/-- An unused function with the evidence for it. -/
structure Finding where
  symbol : Symbol
  definition : Snapshot
  declarations : List Location
deriving DecidableEq, Repr

namespace Finding

/-- The name of the counter of unused functions. -/
def counter : String := "NumUnusedFunctions"

/-- The finding of a record, if it is one. -/
def ofRecord? (symbol : Symbol) (r : Record) : Option Finding :=
  match r.definition with
  | some d => if r.uses = 0 then some ⟨symbol, d, r.declarations⟩ else none
  | none => none

/-- A place as it stands at the start of a line. -/
def place (location : Location) : String :=
  location.file ++ ":" ++ toString location.line ++ ": "

/-- The lines reported for a finding: a warning, and a note for every declaration. -/
def lines (f : Finding) : List String :=
  (place f.definition.location ++ "warning: Function '" ++ f.definition.qualifiedName ++
      "' is unused") ::
    f.declarations.map fun d => place d ++ "note: declared here"

end Finding

namespace Ledger

/-- The findings of a ledger, in the order of its records. -/
def findings (ledger : Ledger) : List Finding :=
  ledger.toList.filterMap fun entry => Finding.ofRecord? entry.1 entry.2

/-- Take up the finding of one record, if it is one, and count it. -/
def collectRecord (collected : List Finding × Statistics) (entry : Symbol × Record) :
    List Finding × Statistics :=
  match Finding.ofRecord? entry.1 entry.2 with
  | some f => (collected.1 ++ [f], collected.2.increment Finding.counter 1)
  | none => collected

/-- Collect the findings of a ledger, one record after the other. -/
def collect (ledger : Ledger) (s : Statistics) : List Finding × Statistics :=
  ledger.toList.foldl collectRecord ([], s)

end Ledger

end Unreferenced
