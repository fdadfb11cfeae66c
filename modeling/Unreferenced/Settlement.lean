/-
Unreferenced/Settlement.lean

Settling the facts of a translation unit: what they add to the ledger.

1. Every function that the unit defines and does not use is entered with its
   definition.
2. Weak functions are then taken out of the defined ones: a weak definition is
   not the definition, so its uses still count for the others.
3. Every function that the unit uses and does not define is entered as used.
-/
import Unreferenced.Facts
import Unreferenced.Ledger

namespace Unreferenced

/-- One step of a settlement. -/
inductive SettlementStep where
  | note (note : Note)
  | entry (entry : Entry)
deriving DecidableEq, Repr

/-- The entry a step makes. -/
def SettlementStep.entry? : SettlementStep → Option Entry
  | .entry e => some e
  | .note _ => none

/-- The note a step makes. -/
def SettlementStep.note? : SettlementStep → Option Note
  | .note n => some n
  | .entry _ => none

/-- What settling a translation unit does. -/
structure Settlement (δ : Type) where
  steps : List SettlementStep
  /-- The facts as they are left: weak functions are no longer among the defined ones. -/
  facts : Facts δ
  violation : Option Violation

namespace Settlement

variable {δ : Type} (view : View δ)

/-- The entries in the order they are made. -/
def entries (s : Settlement δ) : List Entry :=
  s.steps.filterMap SettlementStep.entry?

/-- The notes in the order they are made. -/
def notes (s : Settlement δ) : List Note :=
  s.steps.filterMap SettlementStep.note?

/-- Where a function is declared without a body. -/
def declarations (d : δ) : List Location :=
  ((view d).chain.filter fun e => !(view e).body).map fun e => (view e).location

/-- The steps for a definition that its unit does not use. -/
def unusedSteps (definition : δ) : List SettlementStep :=
  (view.symbolNotes definition).map .note ++
    match view.symbol? definition with
    | none => []
    | some symbol =>
      let d := view definition
      [.note (.unusedDefinition d.qualifiedName),
        .entry (.defined symbol ⟨d.qualifiedName, d.location⟩ (declarations view definition))]

/-- The steps for the functions that a unit defines and does not use, up to the first one that has
no definition. -/
def unusedAll : List δ → List SettlementStep × Option Violation
  | [] => ([], none)
  | f :: fs =>
    match view.definition? f with
    | none => ([], some (.noDefinition (view f).qualifiedName))
    | some d =>
      let later := unusedAll fs
      (unusedSteps view d ++ later.1, later.2)

/-- The steps for a function that its unit uses and does not define. -/
def externalSteps (f : δ) : List SettlementStep :=
  (view.symbolNotes f).map .note ++
    match view.symbol? f with
    | none => []
    | some symbol => [.note (.externalUse (view f).qualifiedName symbol), .entry (.used symbol)]

/-- The facts without the weak definitions. -/
def strong (facts : Facts δ) : Facts δ :=
  { facts with defs := facts.defs.filter fun f => !(view f).isWeak }

/-- Settle the facts of a translation unit. -/
def settle [DecidableEq δ] (facts : Facts δ) : Settlement δ :=
  let unused := unusedAll view (facts.defs.diff facts.uses).toList
  match unused.2 with
  | some v => ⟨unused.1, facts, some v⟩
  | none =>
    let left := strong view facts
    let listing :=
      (left.uses.toList.map fun f => SettlementStep.note (.uses (view f).qualifiedName)) ++
        left.defs.toList.map fun f => SettlementStep.note (.defines (view f).qualifiedName)
    let external := (left.uses.diff left.defs).toList.flatMap (externalSteps view)
    ⟨unused.1 ++ listing ++ external, left, none⟩

end Settlement

end Unreferenced
