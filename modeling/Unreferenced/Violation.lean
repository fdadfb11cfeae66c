/-
Unreferenced/Violation.lean

Violations are states the analysis takes for impossible.  Reaching one ends a
run.
-/

namespace Unreferenced

/-- A state that should not arise. -/
inductive Violation where
  /-- A template instantiation is not made from any template. -/
  | noPattern (qualifiedName : String)
  /-- A function counted as defined has no declaration with a body. -/
  | noDefinition (qualifiedName : String)
  /-- The ledger is written to by someone who does not hold it. -/
  | ledgerNotHeld
deriving DecidableEq, Repr

/-- The wording of a violation. -/
def Violation.message : Violation → String
  | .noPattern qualifiedName => "template instantiation '" ++ qualifiedName ++ "' has no pattern"
  | .noDefinition qualifiedName =>
    "'" ++ qualifiedName ++ "' was collected as a definition but has none"
  | .ledgerNotHeld => "global store mutated outside the finalizer lock"

end Unreferenced
