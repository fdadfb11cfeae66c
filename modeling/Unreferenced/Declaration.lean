/-
Unreferenced/Declaration.lean

What the analysis knows about one declaration of a function, and how
declarations refer to one another.

Declarations are named by values of an arbitrary type `δ`; a `View δ` tells what
each of them is.  The references between declarations (redeclarations of one
function, the pattern of a template instantiation) are again values of `δ`, so
nothing depends on how a front end stores its declarations.
-/

namespace Unreferenced

/-- A place in a file; the first line of a file is line one. -/
structure Location where
  file : String
  line : Int
deriving DecidableEq, Repr, Inhabited

/-- The kinds of scope that can enclose a declaration. -/
inductive ScopeKind where
  /-- A named namespace. -/
  | nspace
  /-- A class, struct or union. -/
  | record
  /-- A namespace without a name. -/
  | anonymous
  /-- Any other scope. -/
  | other (name : String)
deriving DecidableEq, Repr, Inhabited

/-- The word for a kind of scope. -/
def ScopeKind.word : ScopeKind → String
  | .nspace => "namespace"
  | .record => "class"
  | .anonymous => "anonymous_namespace"
  | .other name => name

/-- The kind of scope a word stands for. -/
def ScopeKind.ofWord : String → ScopeKind
  | "namespace" => .nspace
  | "class" => .record
  | "anonymous_namespace" => .anonymous
  | name => .other name

/-- One enclosing scope.  A class template has the number of its template parameters. -/
structure ScopeSegment where
  kind : ScopeKind
  name : String
  templateArity : Nat := 0
deriving DecidableEq, Repr, Inhabited

/-- The names of a scope, outermost first; anonymous namespaces add none. -/
def scopeNames (scope : List ScopeSegment) : List String :=
  (scope.filter fun s => s.kind != .anonymous).map ScopeSegment.name

/-- How far the name of a function is known. -/
inductive Linkage where
  | external
  | internal
  | c
deriving DecidableEq, Repr, Inhabited

/-- The word for a linkage. -/
def Linkage.word : Linkage → String
  | .external => "external"
  | .internal => "internal"
  | .c => "c"

/-- One declaration of a function.  Facts about the function as a whole (virtual, weak, …) are the
same in all its redeclarations. -/
structure Declaration (δ : Type) where
  name : String
  qualifiedName : String
  location : Location
  isImplicit : Bool := false
  isMethod : Bool := false
  isVirtual : Bool := false
  isPure : Bool := false
  isDestructor : Bool := false
  isWeak : Bool := false
  /-- The function runs when its program is loaded, without being called. -/
  runsAtLoad : Bool := false
  linkage : Linkage := .external
  scope : List ScopeSegment := []
  signature : List String := []
  qualifiers : Nat := 0
  templateArity : Nat := 0
  templateArgs : Option String := none
  /-- The file that a name with internal linkage belongs to. -/
  declaringFile : String
  /-- This declaration itself has a body. -/
  body : Bool := true
  /-- The member function of a class template that this declaration was made from. -/
  memberPattern : Option δ := none
  isInstantiation : Bool := false
  /-- The template that an instantiation was made from. -/
  pattern : Option δ := none
  /-- The function overrides some other one. -/
  overrides : Bool := false
  /-- All declarations of the function, in order. -/
  chain : List δ
deriving Inhabited

/-- What every declaration is. -/
abbrev View (δ : Type) := δ → Declaration δ

namespace View

variable {δ : Type} (view : View δ)

/-- The first declaration of a function, which stands for all of them. -/
def canonical (d : δ) : δ :=
  (view d).chain.headD d

/-- The first declaration of a function that has a body. -/
def definition? (d : δ) : Option δ :=
  (view d).chain.find? fun e => (view e).body

/-- Whether some declaration of the function has a body. -/
def hasBody (d : δ) : Bool :=
  (view.definition? d).isSome

end View

/-- Whether the declaration is that of the program's entry point. -/
def Declaration.isMain {δ : Type} (d : Declaration δ) : Bool :=
  d.name == "main" && d.scope.isEmpty && !d.isMethod

end Unreferenced
