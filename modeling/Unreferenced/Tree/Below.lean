/-
Unreferenced/Tree/Below.lean

Nodes below a node, each with the proof that it is smaller.  A walk that decides
from a node where to go next names the places as values of `n.Below`, and so
always ends.
-/
import Unreferenced.Tree.Signature

namespace Unreferenced.Node

/-- The nodes smaller than `n`, among them all that stand below it. -/
abbrev Below (n : Node) := { m : Node // sizeOf m < sizeOf n }

/-- What is below a node below `n` is below `n`. -/
def Below.lift {n : Node} (m : n.Below) (k : m.1.Below) : n.Below :=
  ⟨k.1, Nat.lt_trans k.2 m.2⟩

/-- Children of a node as nodes below it. -/
def childrenBelow (n : Node) (children : List Node) (h : ∀ c ∈ children, c ∈ n.children) : List n.Below :=
  children.attach.map fun c => ⟨c.1, sizeOf_lt_of_mem_children (h c.1 c.2)⟩

/-- The named children. -/
def namedBelow (n : Node) : List n.Below :=
  n.childrenBelow n.namedChildren fun _ => mem_children_of_mem_namedChildren

/-- The named children of some kinds. -/
def namedBelowOf (n : Node) (kinds : List String) : List n.Below :=
  n.namedBelow.filter fun c => c.1.isOneOf kinds

/-- The named children without the first child that fills a field. -/
def namedBelowBut (n : Node) (field : String) : List n.Below :=
  n.childrenBelow (n.namedChildrenBut field) fun _ => mem_children_of_mem_namedChildrenBut

/-- The children filling a field. -/
def belowIn (n : Node) (field : String) : List n.Below :=
  n.childrenBelow (n.childrenIn field) fun _ => mem_children_of_mem_childrenIn

/-- The first child filling a field. -/
def belowAt? (n : Node) (field : String) : Option n.Below :=
  match h : n.child? field with
  | some c => some ⟨c, sizeOf_lt_of_child? h⟩
  | none => none

/-- The first child filling a field, of a node below `n`. -/
def Below.at? {n : Node} (m : n.Below) (field : String) : Option n.Below :=
  (m.1.belowAt? field).map m.lift

/-! ### Parameter lists -/

theorem sizeOf_le_of_functionDeclarator? {n f : Node} (h : n.functionDeclarator? = some f) :
    sizeOf f ≤ sizeOf n := by
  fun_induction functionDeclarator? n with
  | case1 => simp_all
  | case2 => simp at h
  | case3 => simp at h
  | case4 n _ _ c hc ih => exact Nat.le_of_lt (Nat.lt_of_le_of_lt (ih h) (sizeOf_lt_of_unwrapped? hc))
  | case5 => simp at h
  | case6 => simp at h

theorem sizeOf_lt_of_parameters? {n p : Node} (h : n.parameters? = some p) :
    sizeOf p < sizeOf n := by
  fun_induction parameters? n with
  | case1 n q hq => cases h; exact sizeOf_lt_of_child? hq
  | case2 n _ c hc ih => exact Nat.lt_trans (ih h) (sizeOf_lt_of_parametersStep? hc)
  | case3 => simp at h

/-- The parameter list of a declarator. -/
def parametersBelow? (n : Node) : Option n.Below :=
  match h : n.parameters? with
  | some p => some ⟨p, sizeOf_lt_of_parameters? h⟩
  | none => none

/-- The parameter list of the function that a declarator declares. -/
def functionParametersBelow? (n : Node) : Option n.Below :=
  match h : n.functionDeclarator? with
  | some f =>
    (f.belowAt? "parameters").map fun p =>
      ⟨p.1, Nat.lt_of_lt_of_le p.2 (sizeOf_le_of_functionDeclarator? h)⟩
  | none => none

/-- The default values in a parameter list. -/
def defaultValues (n : Node) : List n.Below :=
  n.namedBelow.filterMap fun p =>
    if p.1.kind = "optional_parameter_declaration" then p.at? "default_value" else none

/-! ### The end of a qualified name -/

/-- The name at the end of a qualified name. -/
def innermostName? (n : Node) : Option Node :=
  if n.kind = "qualified_identifier" then
    match _h : n.child? "name" with
    | some c => innermostName? c
    | none => none
  else some n
termination_by sizeOf n
decreasing_by exact sizeOf_lt_of_child? _h

theorem sizeOf_le_of_innermostName? {n m : Node} (h : n.innermostName? = some m) :
    sizeOf m ≤ sizeOf n := by
  fun_induction innermostName? n with
  | case1 n _ c hc ih => exact Nat.le_of_lt (Nat.lt_of_le_of_lt (ih h) (sizeOf_lt_of_child? hc))
  | case2 => simp at h
  | case3 => simp_all

/-- The template argument lists at the end of a qualified name. -/
def innermostArguments (n : Node) : List n.Below :=
  match h : n.innermostName? with
  | some m =>
    if m.kind = "template_function" then
      (m.namedBelowOf ["template_argument_list"]).map fun a =>
        ⟨a.1, Nat.lt_of_lt_of_le a.2 (sizeOf_le_of_innermostName? h)⟩
    else []
  | none => []

end Unreferenced.Node
