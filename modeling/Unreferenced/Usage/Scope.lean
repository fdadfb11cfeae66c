/-
Unreferenced/Usage/Scope.lean

Local scopes: the declared types of the variables that are visible at one point
of a function body.  Only what is needed to find the class of a receiver is kept,
the name of a variable and the spelling of its type.

A search keeps its scopes in one store, where a block refers to the scope around
it.  All that stands in a scope shares it, so what is written to it at one point
is there for the rest of the search.  A `LocalScope` is what is visible from one
place of the store.
-/
import Unreferenced.Class.Registry

namespace Unreferenced

/-- What is visible at one point of a file. -/
structure LocalScope where
  /-- The names of the enclosing namespaces and classes. -/
  enclosing : List String := []
  /-- The class whose members are visible. -/
  owner : Option ClassType := none
  /-- The variables of the innermost block, latest first. -/
  block : List (String × String) := []
  /-- The variables of the blocks around it, innermost first. -/
  outer : List (List (String × String)) := []
deriving DecidableEq, Repr, Inhabited

namespace LocalScope

/-- The scope of a block inside. -/
def inner (s : LocalScope) : LocalScope :=
  { s with block := [], outer := s.block :: s.outer }

/-- Whether this is a block inside another scope. -/
def isInner (s : LocalScope) : Bool :=
  !s.outer.isEmpty

/-- Declare a variable; a later declaration of the name in the block hides it. -/
def declare (s : LocalScope) (name type : String) : LocalScope :=
  { s with block := (name, type) :: s.block }

/-- Declare a variable that may have no name, in which case there is none. -/
def declareNamed (s : LocalScope) (name : Option String) (type : String) : LocalScope :=
  match name with
  | some name => if name = "" then s else s.declare name type
  | none => s

/-- The declared type of a variable, from the innermost block outwards. -/
def typeOf? (s : LocalScope) (name : String) : Option String :=
  (s.block :: s.outer).findSome? fun declared => declared.lookup name

end LocalScope

/-! ### The store -/

/-- A scope as it is kept. -/
structure StoredScope where
  enclosing : List String := []
  owner : Option ClassType := none
  /-- The place of the scope around a block. -/
  parent : Option Nat := none
  /-- The variables declared in the scope itself, latest first. -/
  types : List (String × String) := []
deriving DecidableEq, Repr, Inhabited

/-- The scopes of a search, each at its place.  A scope comes after the one around it. -/
structure Scopes where
  cells : Array StoredScope
  parent_lt : ∀ {i p : Nat} {c : StoredScope}, cells[i]? = some c → c.parent = some p → p < i

namespace Scopes

/-- The scope of a file alone. -/
def initial : Scopes where
  cells := #[{}]
  parent_lt := by
    rintro (- | i) p c hc hp
    · cases hc
      cases hp
    · cases hc

instance : Inhabited Scopes :=
  ⟨initial⟩

variable (s : Scopes)

/-- The number of scopes, and the place of the next one. -/
def size : Nat :=
  s.cells.size

/-- The variables of a scope and of those around it, innermost first. -/
def blocksAt (i : Nat) : List (List (String × String)) :=
  match _hc : s.cells[i]? with
  | none => []
  | some c =>
    c.types ::
      match _hp : c.parent with
      | some p => blocksAt p
      | none => []
termination_by i
decreasing_by exact s.parent_lt _hc _hp

/-- What is visible from a place. -/
def view (i : Nat) : LocalScope :=
  let c := s.cells.getD i {}
  { enclosing := c.enclosing, owner := c.owner, block := c.types,
    outer := (s.blocksAt i).tail }

/-- Set the variables of the scope at a place. -/
def setTypes (i : Nat) (types : List (String × String)) : Scopes where
  cells := s.cells.modify i fun c => { c with types := types }
  parent_lt := by
    intro j p c hc hp
    rw [Array.getElem?_modify] at hc
    split at hc
    · obtain ⟨c', hc', rfl⟩ := Option.map_eq_some_iff.1 hc
      exact s.parent_lt hc' hp
    · exact s.parent_lt hc hp

/-- Write variables to the scope at a place and to those around it, innermost first. -/
def write (s : Scopes) (i : Nat) : List (List (String × String)) → Scopes
  | [] => s
  | types :: outer =>
    match (s.cells.getD i {}).parent with
    | some p => (s.setTypes i types).write p outer
    | none => s.setTypes i types

/-- Write what is visible from a place back to the store. -/
def update (i : Nat) (scope : LocalScope) : Scopes :=
  s.write i (scope.block :: scope.outer)

/-- Add a scope without variables; a block has the scope at `i` around it. -/
def push (i : Nat) (scope : LocalScope) : Scopes where
  cells := s.cells.push
    { enclosing := scope.enclosing
      owner := scope.owner
      parent := if scope.isInner && decide (i < s.cells.size) then some i else none }
  parent_lt := by
    intro j p c hc hp
    rw [Array.getElem?_push] at hc
    split at hc
    · next hj =>
      cases hc
      split at hp
      · next h =>
        cases hp
        rw [Bool.and_eq_true, decide_eq_true_eq] at h
        exact hj ▸ h.2
      · cases hp
    · exact s.parent_lt hc hp

/-- Add a scope with all that is visible in it. -/
def enter (i : Nat) (scope : LocalScope) : Scopes :=
  (s.push i scope).update s.size scope

end Scopes

end Unreferenced
