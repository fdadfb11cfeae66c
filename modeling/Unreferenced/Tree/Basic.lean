/-
Unreferenced/Tree/Basic.lean

Syntax trees.  A `Tree` is what a grammar produces: a kind, a range of bytes, a
few flags, the name of the field it fills in its parent, and children.  A
`Node` is such a tree laid over the bytes of a file, so that every node carries
its own text and line.  Everything else in the library works on nodes.

Trees are plain data.  No grammar is assumed: the functions on nodes are total
on every tree, also on ones no grammar would produce.
-/
import Unreferenced.Text.Utf8

namespace Unreferenced

open Text

/-- A syntax tree over ranges of bytes. -/
structure Tree where
  kind : String
  start : Nat
  stop : Nat
  named : Bool
  missing : Bool
  hasError : Bool
  field : String
  children : List Tree
deriving Inhabited

/-- A syntax tree whose nodes carry their text and the number of line breaks before them. -/
structure Node where
  kind : String
  text : String
  start : Nat
  row : Nat
  named : Bool
  missing : Bool
  hasError : Bool
  /-- The field of its parent that the node fills; empty for none. -/
  field : String
  children : List Node
deriving Inhabited

/-- The bytes of a file, with the places of its line breaks. -/
structure Source where
  bytes : Array UInt8
  breaks : List Nat

namespace Source

/-- The source of a list of bytes. -/
def ofBytes (bytes : List UInt8) : Source where
  bytes := bytes.toArray
  breaks := (bytes.zipIdx.filter fun b => b.1 == 10).map Prod.snd

/-- The text between two offsets, ill-formed bytes left out. -/
def text (source : Source) (start stop : Nat) : String :=
  String.ofList (Utf8.decode (source.bytes.extract start stop).toList)

/-- The number of line breaks before an offset. -/
def row (source : Source) (offset : Nat) : Nat :=
  source.breaks.countP fun b => decide (b < offset)

end Source

mutual

/-- The tree laid over the bytes of a file. -/
def Tree.over (source : Source) : Tree → Node
  | ⟨kind, start, stop, named, missing, hasError, field, children⟩ =>
    ⟨kind, source.text start stop, start, source.row start, named, missing, hasError, field,
      Tree.overAll source children⟩

/-- Several trees laid over the bytes of a file. -/
def Tree.overAll (source : Source) : List Tree → List Node
  | [] => []
  | t :: ts => Tree.over source t :: Tree.overAll source ts

end

namespace Node

/-- The line a node starts in, counted from one. -/
def line (n : Node) : Nat :=
  n.row + 1

/-- The children that stand for something named in the grammar. -/
def namedChildren (n : Node) : List Node :=
  n.children.filter Node.named

/-- The first child filling a field. -/
def child? (n : Node) (field : String) : Option Node :=
  n.children.find? fun c => c.field == field

/-- All children filling a field. -/
def childrenIn (n : Node) (field : String) : List Node :=
  n.children.filter fun c => c.field == field

/-- The first named child with a property. -/
def namedChild? (n : Node) (p : Node → Bool) : Option Node :=
  n.namedChildren.find? p

/-- The text of a node that may be absent. -/
def textOf : Option Node → String
  | none => ""
  | some n => n.text

/-- Whether the node's kind is one of a list. -/
def isOneOf (n : Node) (kinds : List String) : Bool :=
  kinds.contains n.kind

/-- The named children without the first child that fills `field`. -/
def namedChildrenBut (n : Node) (field : String) : List Node :=
  (n.children.eraseP fun c => c.field == field).filter Node.named

/-! ### Children are smaller -/

theorem sizeOf_lt_of_mem_children {n c : Node} (h : c ∈ n.children) : sizeOf c < sizeOf n := by
  have := List.sizeOf_lt_of_mem h
  cases n
  simp_all
  omega

theorem mem_children_of_mem_namedChildren {n c : Node} (h : c ∈ n.namedChildren) :
    c ∈ n.children :=
  (List.mem_filter.1 h).1

theorem mem_children_of_child? {n c : Node} {field : String} (h : n.child? field = some c) :
    c ∈ n.children :=
  List.mem_of_find?_eq_some h

theorem mem_children_of_mem_childrenIn {n c : Node} {field : String} (h : c ∈ n.childrenIn field) :
    c ∈ n.children :=
  (List.mem_filter.1 h).1

theorem mem_children_of_namedChild? {n c : Node} {p : Node → Bool} (h : n.namedChild? p = some c) :
    c ∈ n.children :=
  mem_children_of_mem_namedChildren (List.mem_of_find?_eq_some h)

theorem mem_children_of_mem_namedChildrenBut {n c : Node} {field : String}
    (h : c ∈ n.namedChildrenBut field) : c ∈ n.children :=
  List.mem_of_mem_eraseP (List.mem_filter.1 h).1

theorem sizeOf_lt_of_child? {n c : Node} {field : String} (h : n.child? field = some c) :
    sizeOf c < sizeOf n :=
  sizeOf_lt_of_mem_children (mem_children_of_child? h)

theorem sizeOf_filter_le (p : Node → Bool) (l : List Node) : sizeOf (l.filter p) ≤ sizeOf l := by
  induction l with
  | nil => simp
  | cons c r ih =>
    rw [List.filter_cons]
    split
    · simp only [List.cons.sizeOf_spec]
      omega
    · simp only [List.cons.sizeOf_spec]
      omega

theorem sizeOf_children_lt (n : Node) : sizeOf n.children < sizeOf n := by
  cases n
  simp only [Node.mk.sizeOf_spec]
  omega

theorem sizeOf_filter_lt (n : Node) (p : Node → Bool) : sizeOf (n.children.filter p) < sizeOf n :=
  Nat.lt_of_le_of_lt (sizeOf_filter_le p n.children) n.sizeOf_children_lt

theorem sizeOf_lt_of_namedChild? {n c : Node} {p : Node → Bool} (h : n.namedChild? p = some c) :
    sizeOf c < sizeOf n :=
  sizeOf_lt_of_mem_children (mem_children_of_namedChild? h)

end Node

end Unreferenced
