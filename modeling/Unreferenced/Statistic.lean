/-
Unreferenced/Statistic.lean

Named counters, each owned by a component, and the table that shows them.
-/
import Unreferenced.Container.OrderedMap
import Unreferenced.Terminal

namespace Unreferenced

/-- A named counter. -/
structure Statistic where
  /-- The component that owns the counter. -/
  owner : String
  name : String
  description : String
  value : Int := 0
deriving DecidableEq, Repr, Inhabited

/-- The counters by name, first registered first. -/
structure Statistics where
  counters : OrderedMap String Statistic

namespace Statistics

/-- No counters. -/
def empty : Statistics := ⟨.empty⟩

/-- Register a counter; one that is already registered under the name stays as it is. -/
def register (s : Statistics) (owner name description : String) : Statistics :=
  ⟨s.counters.insertIfNew name ⟨owner, name, description, 0⟩⟩

/-- Add to a counter. -/
def increment (s : Statistics) (name : String) (amount : Int) : Statistics :=
  ⟨s.counters.modify name fun c => { c with value := c.value + amount }⟩

/-- Set a counter back to zero. -/
def reset (s : Statistics) (name : String) : Statistics :=
  ⟨s.counters.modify name fun c => { c with value := 0 }⟩

/-- The counter of a name. -/
def get? (s : Statistics) (name : String) : Option Statistic :=
  s.counters.get? name

/-- Adding to a counter changes its value and no other counter. -/
theorem get?_increment (s : Statistics) (name other : String) (amount : Int) :
    (s.increment name amount).get? other =
      if other = name then (s.get? name).map fun c => { c with value := c.value + amount }
      else s.get? other :=
  s.counters.get?_modify name other _

/-- Counters are listed by owner, then by name. -/
def precedes (a b : Statistic) : Bool :=
  decide (a.owner < b.owner) || (a.owner == b.owner && decide (a.name ≤ b.name))

/-- The table of all counters. -/
def table (s : Statistics) : Table where
  title := "Statistics Collected"
  columns := ["Value", "Type", "Description"]
  rows := (s.counters.values.mergeSort precedes).map fun c =>
    [toString c.value, c.owner, c.description]

end Statistics

end Unreferenced
