/-
Unreferenced/Tree/Declarator.lean

Declarators: the part of a declaration that holds the declared name, wrapped in
pointers, references, parentheses and parameter lists.

The functions here go down a declarator, one wrapper at a time, to the function
it declares (`functionDeclarator?`), to the conversion it declares
(`conversion?`), to the name it declares (`declaredName?`), or to a parameter
list (`parameters?`).
-/
import Unreferenced.Text.Cut
import Unreferenced.Tree.Basic

namespace Unreferenced

open Text

/-- The kinds of node that define a class when they have a body. -/
def classKinds : List String :=
  ["class_specifier", "struct_specifier", "union_specifier"]

/-- The wrappers that may stand between a declaration and the function it declares. -/
def wrapperKinds : List String :=
  ["pointer_declarator", "reference_declarator", "attributed_declarator",
    "parenthesized_declarator", "init_declarator"]

/-- What may name a function. -/
def functionNameKinds : List String :=
  ["identifier", "field_identifier", "qualified_identifier", "destructor_name", "operator_name",
    "template_function", "template_method", "operator_cast", "qualified_operator_cast_identifier"]

/-- What may carry attributes. -/
def attributeKinds : List String :=
  ["attribute_specifier", "attribute_declaration", "ms_declspec_modifier"]

/-- The qualified names. -/
def qualifiedKinds : List String :=
  ["qualified_identifier", "qualified_operator_cast_identifier"]

/-- The plain names of variables and members. -/
def plainNameKinds : List String :=
  ["identifier", "field_identifier"]

namespace Node

/-! ### The function declared -/

/-- The declarator inside a wrapper. -/
def unwrapped? (n : Node) : Option Node :=
  match n.child? "declarator" with
  | some c => some c
  | none => n.namedChild? fun c => !c.isOneOf attributeKinds && c.kind != "type_qualifier"

theorem sizeOf_lt_of_unwrapped? {n c : Node} (h : n.unwrapped? = some c) : sizeOf c < sizeOf n := by
  unfold unwrapped? at h
  split at h
  · next hc => cases h; exact sizeOf_lt_of_child? hc
  · exact sizeOf_lt_of_namedChild? h

/-- The function declarator inside a declarator, if that declares a function: a variable holding a
pointer to a function does not. -/
def functionDeclarator? (n : Node) : Option Node :=
  if n.kind = "function_declarator" then
    match n.child? "declarator" with
    | some inner => if inner.isOneOf functionNameKinds then some n else none
    | none => none
  else if n.isOneOf wrapperKinds then
    match _h : n.unwrapped? with
    | some c => functionDeclarator? c
    | none => none
  else none
termination_by sizeOf n
decreasing_by exact sizeOf_lt_of_unwrapped? _h

/-- The name at the end of a qualified name, with the spellings of its qualifiers. -/
def qualifiedEnd (n : Node) : List Node × Option Node :=
  if n.isOneOf qualifiedKinds then
    match _h : n.child? "name" with
    | some c =>
      let inner := qualifiedEnd c
      (n :: inner.1, inner.2)
    | none => ([n], none)
  else ([], some n)
termination_by sizeOf n
decreasing_by exact sizeOf_lt_of_child? _h

/-- The conversion that a declarator declares. -/
def conversion? (n : Node) : Option Node :=
  match n.qualifiedEnd.2 with
  | some c => if c.kind = "operator_cast" then some c else none
  | none => none

/-! ### The name declared -/

/-- The next declarator on the way to the declared name. -/
def nextDeclarator? (n : Node) : Option Node :=
  match n.child? "declarator" with
  | some c => some c
  | none => n.namedChild? fun c => c.isOneOf plainNameKinds || endsWith "declarator" c.kind

theorem sizeOf_lt_of_nextDeclarator? {n c : Node} (h : n.nextDeclarator? = some c) :
    sizeOf c < sizeOf n := by
  unfold nextDeclarator? at h
  split at h
  · next hc => cases h; exact sizeOf_lt_of_child? hc
  · exact sizeOf_lt_of_namedChild? h

/-- The name of the variable or member that a declarator declares. -/
def declaredName? (n : Node) : Option String :=
  if n.isOneOf plainNameKinds then some n.text
  else
    match _h : n.nextDeclarator? with
    | some c => declaredName? c
    | none => none
termination_by sizeOf n
decreasing_by exact sizeOf_lt_of_nextDeclarator? _h

/-! ### The parameters declared -/

/-- The next node on the way to a parameter list. -/
def parametersStep? (n : Node) : Option Node :=
  match n.child? "declarator" with
  | some c => some c
  | none =>
    if n.kind = "qualified_identifier" then n.child? "name"
    else if n.kind = "reference_declarator" then n.namedChild? fun _ => true
    else none

theorem sizeOf_lt_of_parametersStep? {n c : Node} (h : n.parametersStep? = some c) :
    sizeOf c < sizeOf n := by
  unfold parametersStep? at h
  split at h
  · next hc => cases h; exact sizeOf_lt_of_child? hc
  · split at h
    · exact sizeOf_lt_of_child? h
    · split at h
      · exact sizeOf_lt_of_namedChild? h
      · cases h

/-- The parameter list of the outermost declarator that has one. -/
def parameters? (n : Node) : Option Node :=
  match n.child? "parameters" with
  | some p => some p
  | none =>
    match _h : n.parametersStep? with
    | some c => parameters? c
    | none => none
termination_by sizeOf n
decreasing_by exact sizeOf_lt_of_parametersStep? _h

end Node

end Unreferenced
