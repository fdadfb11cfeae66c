/-
Unreferenced/FunctionSite/Basic.lean

Function sites: the places in a file where a function is declared or defined,
with everything that is written there.

A site says nothing about other sites.  What holds of a function as a whole, for
instance that it is virtual, comes from all its sites together; `FunctionSite.alone`
is the declaration of a function that has a single site.
-/
import Unreferenced.Symbol
import Unreferenced.Tree.Signature

namespace Unreferenced

/-- The sorts of function. -/
inductive FunctionKind where
  | function
  | method
  | constructor
  | destructor
  | conversion
deriving DecidableEq, Repr, Inhabited

/-- The word for a sort of function. -/
def FunctionKind.word : FunctionKind → String
  | .function => "function"
  | .method => "method"
  | .constructor => "constructor"
  | .destructor => "destructor"
  | .conversion => "conversion"

/-- One declaration or definition of a function. -/
structure FunctionSite where
  name : String
  qualifiedName : String
  location : Location
  kind : FunctionKind
  scope : List ScopeSegment
  signature : Signature
  qualifiers : Nat
  linkage : Linkage
  templateArity : Nat
  templateArgs : Option String
  /-- It is written as a definition. -/
  isDefinition : Bool
  body : Bool
  isDeleted : Bool
  isDefaulted : Bool
  declaredVirtual : Bool
  declaredOverride : Bool
  declaredFinal : Bool
  declaredPure : Bool
  isStaticMember : Bool
  isWeak : Bool
  /-- It has the attribute of functions that run when the program is loaded. -/
  runsAtLoad : Bool
  /-- The path of the class it is a member of. -/
  owner : Option (List String)
  /-- Where its node starts. -/
  start : Nat
deriving DecidableEq, Repr, Inhabited

namespace FunctionSite

/-- The names of the scopes around a site. -/
def scopePath (s : FunctionSite) : List String :=
  scopeNames s.scope

/-- Whether a site alone says that its function can be overridden or overrides another. -/
def saysVirtual (s : FunctionSite) : Bool :=
  s.declaredVirtual || s.declaredOverride || s.declaredFinal

/-- Whether a site alone says that its function overrides another. -/
def saysOverride (s : FunctionSite) : Bool :=
  s.declaredOverride || (s.declaredFinal && !s.declaredVirtual)

/-- The declaration at a site of the function whose declarations are `chain`.  `sites` are all sites
of the function, and `overrides` tells whether it overrides another one. -/
def declaration {δ : Type} (s : FunctionSite) (sites : List FunctionSite) (overrides : Bool)
    (chain : List δ) : Declaration δ where
  name := s.name
  qualifiedName := s.qualifiedName
  location := s.location
  isMethod := s.owner.isSome
  isVirtual := sites.any saysVirtual || overrides
  isPure := sites.any declaredPure
  isDestructor := s.kind = .destructor
  isWeak := sites.any isWeak
  runsAtLoad := sites.any runsAtLoad
  linkage := s.linkage
  scope := s.scope
  signature := s.signature.types
  qualifiers := s.qualifiers
  templateArity := s.templateArity
  templateArgs := s.templateArgs
  declaringFile := s.location.file
  body := s.body
  overrides := overrides
  chain := chain

/-- The declaration of a function with a single site. -/
def alone (s : FunctionSite) : Declaration FunctionSite :=
  s.declaration [s] false [s]

/-- The symbol of a site by itself. -/
def symbol? (s : FunctionSite) : Option Symbol :=
  View.symbol? alone s

end FunctionSite

end Unreferenced
