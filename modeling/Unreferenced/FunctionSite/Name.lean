/-
Unreferenced/FunctionSite/Name.lean

The name under which a declarator declares a function: qualifiers, plain name,
what the form of the name says about the sort of function, and the template
arguments of an explicit specialization.
-/
import Unreferenced.FunctionSite.Basic
import Unreferenced.Spelling.OperatorName

namespace Unreferenced

open Text

/-- The declared name of a function. -/
structure FunctionName where
  /-- The spellings of the qualifiers, outermost first; empty for a leading double colon. -/
  qualifiers : List String := []
  name : String
  kind : FunctionKind := .function
  templateArgs : Option String := none
deriving DecidableEq, Repr, Inhabited

/-- A name behind qualifiers.  A function named like its last qualifier is a constructor. -/
def FunctionName.qualified (plain : FunctionName) (qualifiers : List String) : FunctionName :=
  { plain with
    qualifiers := qualifiers
    kind :=
      if plain.kind = .function ∧ plain.name = before '<' (qualifiers.getLastD "") then .constructor
      else plain.kind }

namespace Node

/-- The name that an unqualified node gives to a function. -/
def plainFunctionName? (n : Node) : Option FunctionName :=
  if n.isOneOf plainNameKinds then some { name := n.text }
  else if n.kind = "destructor_name" then
    some { name := removeAll ' ' n.text, kind := .destructor }
  else if n.kind = "operator_name" then some { name := Spelling.operatorName n.text }
  else if n.kind = "operator_cast" then
    some { name := "operator " ++ Spelling.typeName (textOf (n.child? "type")), kind := .conversion }
  else if n.isOneOf ["template_function", "template_method"] then
    some { name := textOf (n.child? "name"),
           templateArgs := some (Spelling.typeName (dropEnds (textOf (n.child? "arguments")))) }
  else none

/-- The qualifier that a qualified name starts with. -/
def qualifierText (n : Node) : String :=
  match n.child? "scope" with
  | some scope => Spelling.typeName scope.text
  | none => ""

/-- The name that a node gives to a function. -/
def functionName? (n : Node) : Option FunctionName :=
  match n.qualifiedEnd with
  | (_, none) => none
  | ([], some last) => last.plainFunctionName?
  | (holders, some last) =>
    last.plainFunctionName?.map fun plain => plain.qualified (holders.map qualifierText)

end Node

end Unreferenced
