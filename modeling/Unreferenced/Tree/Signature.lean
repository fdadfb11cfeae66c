/-
Unreferenced/Tree/Signature.lean

Signatures: the types of a parameter list in their normal spelling, and how many
arguments it takes.

A parameter's type is the text of its type followed by the shape of its
declarator, which is the declarator with the name taken out: `char **argv` has
the shape `**`, and an array is a pointer.  Qualifiers that stand before the
type count only if there is a shape, since they are then those of what is
pointed to.
-/
import Unreferenced.Spelling.TypeName
import Unreferenced.Text.Blank
import Unreferenced.Tree.Declarator

namespace Unreferenced

open Text

/-- The parameter types of a function, with the least and the greatest number of arguments. -/
structure Signature where
  types : List String := []
  minArgs : Nat := 0
  /-- `none` if there is no greatest number. -/
  maxArgs : Option Nat := some 0
deriving DecidableEq, Repr, Inhabited

namespace Signature

/-- Take an ellipsis or a pack: any number of further arguments. -/
def pushVariadic (s : Signature) (type : String) : Signature :=
  { s with types := s.types ++ [type], maxArgs := none }

/-- Take one more parameter. -/
def push (s : Signature) (type : String) (hasDefault : Bool) : Signature where
  types := s.types ++ [type]
  minArgs := if hasDefault then s.minArgs else s.minArgs + 1
  maxArgs := s.maxArgs.map (· + 1)

/-- Whether so many arguments can be given; an unknown number always can. -/
def accepts (s : Signature) : Option Nat → Bool
  | none => true
  | some n => decide (s.minArgs ≤ n) && s.maxArgs.all fun m => decide (n ≤ m)

end Signature

namespace Node

/-- Whether a child of a parameter list is neither a comment nor punctuation. -/
def isParameter (n : Node) : Bool :=
  n.kind != "comment" && (n.named || n.kind == "...")

/-- Whether a parameter is an ellipsis. -/
def isEllipsis (n : Node) : Bool :=
  n.kind == "variadic_parameter" || n.kind == "..." || n.text == "..."

/-- The text of the qualifiers among a node's children. -/
def qualifierTexts (n : Node) : List String :=
  (n.children.filter fun c => c.kind == "type_qualifier").map Node.text

/-- The declarator inside a reference; some grammars give it no field. -/
def referenced? (n : Node) : Option Node :=
  match n.child? "declarator" with
  | some c => some c
  | none => n.namedChild? fun _ => true

theorem sizeOf_lt_of_referenced? {n c : Node} (h : n.referenced? = some c) :
    sizeOf c < sizeOf n := by
  unfold referenced? at h
  split at h
  · next hc => cases h; exact sizeOf_lt_of_child? hc
  · exact sizeOf_lt_of_namedChild? h

/-- Which of the two reference signs a reference declarator has. -/
def referenceSign (n : Node) : String :=
  if beginsWith "&&" (String.ofList (skipBlanks n.text.toList)) then "&&" else "&"

/-- The spelling of a parameter type: qualifiers, which are sorted, type and shape. -/
def parameterSpelling (n : Node) (shape : String) : String :=
  let qualifiers := if shape = "" then [] else n.qualifierTexts.mergeSort (· ≤ ·)
  Spelling.typeName (" ".intercalate (qualifiers ++ [textOf (n.child? "type")]) ++ shape)

mutual

/-- The shape of a declarator: what is left when the name is taken out.  The qualifiers of the
outermost pointer belong to the parameter itself and are left out. -/
def shape (outermost : Bool) (n : Node) : String :=
  if n.isOneOf ["pointer_declarator", "abstract_pointer_declarator"] then
    let qualifiers := if outermost then "" else "".intercalate (n.qualifierTexts.map (" " ++ ·))
    "*" ++ qualifiers ++
      match _h : n.child? "declarator" with
      | some c => shape false c
      | none => ""
  else if n.isOneOf ["reference_declarator", "abstract_reference_declarator"] then
    n.referenceSign ++
      match _h : n.referenced? with
      | some c => shape false c
      | none => ""
  else if n.isOneOf ["array_declarator", "abstract_array_declarator"] then
    "*" ++
      match _h : n.child? "declarator" with
      | some c => shape false c
      | none => ""
  else if n.isOneOf ["function_declarator", "abstract_function_declarator"] then
    "(" ++
      (match _h : n.child? "declarator" with
        | some c => shape false c
        | none => "") ++
      ")(" ++
      ",".intercalate
        (match _h : n.child? "parameters" with
          | some c => (signature c).types
          | none => []) ++
      ")"
  else if n.isOneOf ["parenthesized_declarator", "abstract_parenthesized_declarator"] then
    match _h : n.namedChild? fun _ => true with
    | some c => shape false c
    | none => ""
  else ""
termination_by sizeOf n
decreasing_by
  · exact sizeOf_lt_of_child? _h
  · exact sizeOf_lt_of_referenced? _h
  · exact sizeOf_lt_of_child? _h
  · exact sizeOf_lt_of_child? _h
  · exact sizeOf_lt_of_child? _h
  · exact sizeOf_lt_of_namedChild? _h

/-- The type of a parameter. -/
def parameterType (n : Node) : String :=
  n.parameterSpelling
    (match _h : n.child? "declarator" with
      | some c => shape true c
      | none => "")
termination_by sizeOf n
decreasing_by exact sizeOf_lt_of_child? _h

/-- The signature that a list of parameters adds to one.  A single `void` ends it; `alone` says
whether there is only one named node in the list. -/
def signatureFrom (alone : Bool) (s : Signature) (parameters : List Node) : Signature :=
  match parameters with
  | [] => s
  | p :: rest =>
    if !p.isParameter then signatureFrom alone s rest
    else if p.isEllipsis then signatureFrom alone (s.pushVariadic "...") rest
    else if p.kind = "variadic_parameter_declaration" then
      signatureFrom alone (s.pushVariadic (parameterType p ++ "...")) rest
    else if alone && parameterType p == "void" then s
    else signatureFrom alone (s.push (parameterType p) (p.kind == "optional_parameter_declaration"))
      rest
termination_by sizeOf parameters

/-- The signature of a parameter list. -/
def signature (n : Node) : Signature :=
  signatureFrom (n.namedChildren.length == 1) {} n.children
termination_by sizeOf n
decreasing_by exact n.sizeOf_children_lt

end

end Node

end Unreferenced
