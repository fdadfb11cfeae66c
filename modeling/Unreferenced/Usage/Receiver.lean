/-
Unreferenced/Usage/Receiver.lean

The class of an expression, as far as the written text tells: what a member is
looked up in.
-/
import Unreferenced.TranslationUnit.Lookup
import Unreferenced.Usage.Scope

namespace Unreferenced

open Text

/-- The functions that make an object of the class given as their template argument. -/
def makingFunctions : List String :=
  ["make_unique", "make_shared"]

namespace Node

/-- Whether a template names one of the functions that make an object. -/
def namesMakingFunction (n : Node) : Bool :=
  makingFunctions.contains (lastScopePiece (textOf (n.child? "name")))

/-- The expression inside parentheses, or the one whose address is taken or followed. -/
def operand? (n : Node) : Option Node :=
  match n.child? "argument" with
  | some c => some c
  | none => n.namedChild? fun _ => true

theorem sizeOf_lt_of_operand? {n c : Node} (h : n.operand? = some c) : sizeOf c < sizeOf n := by
  unfold operand? at h
  split at h
  · next hc => cases h; exact sizeOf_lt_of_child? hc
  · exact sizeOf_lt_of_namedChild? h

end Node

namespace TranslationUnit

variable (u : TranslationUnit)

/-- The declared type of a variable, a parameter or a member visible under a name. -/
def variableType? (scope : LocalScope) (name : String) : Option String :=
  match scope.typeOf? name with
  | some type => some type
  | none => scope.owner.bind fun c => u.hierarchy.memberType? c name

/-- The class that the first template argument names. -/
def templateArgumentClass? (scope : LocalScope) (n : Node) : Option ClassType :=
  n.firstTypeArgument?.bind fun first =>
    u.findClass (Node.valueTypeOf (first.child? "type")) scope.enclosing

/-- The class of an expression. -/
def classOfExpression? (scope : LocalScope) (n : Node) : Option ClassType :=
  if n.kind = "this" then scope.owner
  else if n.kind = "identifier" then
    ((u.variableType? scope n.text).orElse fun _ => u.globals.get? n.text).bind fun type =>
      u.findClass type scope.enclosing
  else if n.isOneOf ["parenthesized_expression", "pointer_expression"] then
    match _h : n.operand? with
    | some c => classOfExpression? scope c
    | none => none
  else if n.kind = "field_expression" then
    match _h : n.child? "argument", n.child? "field" with
    | some c, some field =>
      (classOfExpression? scope c).bind fun holder =>
        (u.hierarchy.memberType? holder field.text).bind fun type => u.findClass type holder.path
    | _, _ => none
  else if n.isOneOf ["new_expression", "compound_literal_expression"] then
    u.findClass (Node.valueTypeOf (n.child? "type")) scope.enclosing
  else if n.kind = "call_expression" then
    (n.child? "function").bind fun function =>
      if function.isOneOf ["identifier", "qualified_identifier"] then
        u.findClass function.text scope.enclosing
      else if function.kind = "template_function" && function.namesMakingFunction then
        u.templateArgumentClass? scope function
      else none
  else none
termination_by sizeOf n
decreasing_by
  · exact Node.sizeOf_lt_of_operand? _h
  · exact Node.sizeOf_lt_of_child? _h

end TranslationUnit

end Unreferenced
