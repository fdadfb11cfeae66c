/-
Unreferenced/Ledger.lean

The ledger of a run: for every symbol the definition that was last recorded for
it, the number of translation units that use it without defining it, and where
else it is declared.  Records stay in the order in which their symbols were
first touched.

The ledger changes only by posting entries, one at a time.
-/
import Unreferenced.Container.OrderedMap
import Unreferenced.Declaration
import Unreferenced.Symbol
import Unreferenced.Violation

namespace Unreferenced

/-- What a report needs of a definition. -/
structure Snapshot where
  qualifiedName : String
  location : Location
deriving DecidableEq, Repr, Inhabited

/-- What is known of one symbol. -/
structure Record where
  definition : Option Snapshot := none
  uses : Nat := 0
  /-- The declarations that are not definitions. -/
  declarations : List Location := []
deriving DecidableEq, Repr, Inhabited

/-- One change of the ledger. -/
inductive Entry where
  /-- A definition that its own translation unit does not use. -/
  | defined (symbol : Symbol) (snapshot : Snapshot) (declarations : List Location)
  /-- A use in a translation unit that does not define the symbol. -/
  | used (symbol : Symbol)
deriving DecidableEq, Repr

/-- The symbol an entry is about. -/
def Entry.symbol : Entry → Symbol
  | .defined symbol _ _ => symbol
  | .used symbol => symbol

/-- The record of a symbol after an entry about it. -/
def Entry.apply : Entry → Record → Record
  | .defined _ snapshot declarations, r =>
    { r with definition := some snapshot, declarations := declarations }
  | .used _, r => { r with uses := r.uses + 1 }

/-- The records of all symbols. -/
structure Ledger where
  records : OrderedMap Symbol Record

namespace Ledger

/-- The ledger without records. -/
def empty : Ledger := ⟨.empty⟩

instance : Inhabited Ledger := ⟨empty⟩

/-- Post one entry. -/
def post (ledger : Ledger) (e : Entry) : Ledger :=
  ⟨ledger.records.alter e.symbol fun r => e.apply (r.getD {})⟩

/-- Post entries one after the other. -/
def postAll (ledger : Ledger) (entries : List Entry) : Ledger :=
  entries.foldl post ledger

/-- Post one entry, which only the holder of the ledger may do. -/
def postAs (held : Bool) (ledger : Ledger) (e : Entry) : Except Violation Ledger :=
  if held then .ok (ledger.post e) else .error .ledgerNotHeld

/-- The record of a symbol. -/
def get? (ledger : Ledger) (symbol : Symbol) : Option Record :=
  ledger.records.get? symbol

/-- The number of records. -/
def size (ledger : Ledger) : Nat :=
  ledger.records.size

/-- The records in the order of their symbols' first entries. -/
def toList (ledger : Ledger) : List (Symbol × Record) :=
  ledger.records.toList

/-- Posting an entry changes the record of its symbol and no other. -/
theorem get?_post (ledger : Ledger) (e : Entry) (symbol : Symbol) :
    (ledger.post e).get? symbol =
      if symbol = e.symbol then some (e.apply ((ledger.get? symbol).getD {}))
      else ledger.get? symbol := by
  simp only [post, get?, OrderedMap.get?_alter]
  split
  · next h => rw [h]
  · rfl

end Ledger

end Unreferenced
