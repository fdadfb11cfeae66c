/-
Unreferenced/Tree/ValueType.lean

Value types: the class that a value of a declared type leads to.  A smart
pointer leads to what it points to, and template arguments do not matter, so
`const ns::Widget`, `std::unique_ptr<Widget>` and `Widget` all lead to a class
spelled with `Widget`.
-/
import Unreferenced.Spelling.TypeName
import Unreferenced.Text.Cut
import Unreferenced.Tree.Basic

namespace Unreferenced

open Text

/-- The class templates whose values stand for their first argument. -/
def smartPointers : List String :=
  ["unique_ptr", "shared_ptr", "weak_ptr", "auto_ptr", "optional", "reference_wrapper",
    "scoped_ptr", "intrusive_ptr", "QSharedPointer", "QScopedPointer", "QPointer"]

namespace Node

/-- The first type among the template arguments of a node. -/
def firstTypeArgument? (n : Node) : Option Node :=
  (n.child? "arguments").bind fun arguments =>
    arguments.namedChild? fun c => c.kind == "type_descriptor"

theorem sizeOf_lt_of_firstTypeArgument? {n c : Node} (h : n.firstTypeArgument? = some c) :
    sizeOf c < sizeOf n := by
  obtain ⟨a, ha, hc⟩ := Option.bind_eq_some_iff.1 h
  exact Nat.lt_trans (sizeOf_lt_of_namedChild? hc) (sizeOf_lt_of_child? ha)

/-- Whether a template is a smart pointer. -/
def isSmartPointer (n : Node) : Bool :=
  smartPointers.contains (lastScopePiece (textOf (n.child? "name")))

/-- The spelling of the class that a value of a type leads to. -/
def valueType (n : Node) : String :=
  if n.kind = "template_type" then
    match _h : n.firstTypeArgument? with
    | some first =>
      if n.isSmartPointer then
        match _g : first.child? "type" with
        | some c => valueType c
        | none => ""
      else Spelling.typeName (textOf (n.child? "name"))
    | none => Spelling.typeName (textOf (n.child? "name"))
  else
    let plain := before '<' (Spelling.typeName n.text)
    if n.kind = "qualified_identifier" then
      match _h : n.child? "name" with
      | some name =>
        if name.kind = "template_type" then
          let unwrapped := valueType name
          if unwrapped = Spelling.typeName (textOf (name.child? "name")) then
            Spelling.typeName (textOf (n.child? "scope") ++ "::" ++ unwrapped)
          else unwrapped
        else plain
      | none => plain
    else plain
termination_by sizeOf n
decreasing_by
  · exact Nat.lt_trans (sizeOf_lt_of_child? _g) (sizeOf_lt_of_firstTypeArgument? _h)
  · exact sizeOf_lt_of_child? _h

/-- The value type of a type that may be absent. -/
def valueTypeOf : Option Node → String
  | some n => n.valueType
  | none => ""

end Node

end Unreferenced
