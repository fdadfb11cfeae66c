/-
Unreferenced/TranslationUnit/Chain.lean

Redeclaration chains: all declarations of one function in a translation unit, in
the order in which a compiler meets them.  The first is the canonical one.

Declarations with one key belong to one chain.  The key is the symbol of the
declaration by itself; destructors have no symbol and share a key per class.  A
declaration without a key is a chain of its own.
-/
import Unreferenced.FunctionSite.Basic

namespace Unreferenced

/-- A function site with its number among all sites of a translation unit. -/
structure Member where
  index : Nat
  site : FunctionSite
deriving DecidableEq, Repr, Inhabited

/-- What a method overrides. -/
inductive Overridden where
  /-- The method whose canonical declaration has this number. -/
  | method (index : Nat)
  /-- A method that must exist, in a class that is not known. -/
  | unresolved (name : String)
deriving DecidableEq, Repr

/-- All declarations of one function. -/
structure Chain where
  key : Option String
  canonical : Member
  /-- The declarations after the canonical one. -/
  later : List Member := []
  overridden : List Overridden := []
deriving DecidableEq, Repr, Inhabited

namespace Chain

/-- All declarations, the canonical one first. -/
def members (c : Chain) : List Member :=
  c.canonical :: c.later

/-- The numbers of all declarations. -/
def indexes (c : Chain) : List Nat :=
  c.members.map Member.index

/-- What is written at all declarations. -/
def sites (c : Chain) : List FunctionSite :=
  c.members.map Member.site

/-- The name of the function. -/
def name (c : Chain) : String :=
  c.canonical.site.name

/-- The class the function is a member of. -/
def owner (c : Chain) : Option (List String) :=
  c.canonical.site.owner

/-- The first declaration with a body. -/
def definition? (c : Chain) : Option Member :=
  c.members.find? fun m => m.site.body

/-- Whether the function is virtual. -/
def isVirtual (c : Chain) : Bool :=
  c.sites.any FunctionSite.saysVirtual || !c.overridden.isEmpty

/-- The least number of arguments that some declaration asks for. -/
def minArgs (c : Chain) : Nat :=
  c.later.foldl (fun least m => min least m.site.signature.minArgs) c.canonical.site.signature.minArgs

/-- The greatest number of arguments that some declaration allows; `none` if one sets no limit. -/
def maxArgs (c : Chain) : Option Nat :=
  c.later.foldl
    (fun most m => most.bind fun a => m.site.signature.maxArgs.map fun b => max a b)
    c.canonical.site.signature.maxArgs

/-- Whether the function can be called with so many arguments; an unknown number always can. -/
def accepts (c : Chain) : Option Nat → Bool
  | none => true
  | some n => decide (c.minArgs ≤ n) && c.maxArgs.all fun m => decide (n ≤ m)

/-- Add a declaration. -/
def push (c : Chain) (m : Member) : Chain :=
  { c with later := c.later ++ [m] }

/-- The declaration of a member of the chain. -/
def declaration (c : Chain) (m : Member) : Declaration Nat :=
  m.site.declaration c.sites (!c.overridden.isEmpty) c.indexes

end Chain

/-- The key of a declaration. -/
def FunctionSite.key? (s : FunctionSite) : Option String :=
  match s.symbol? with
  | some symbol => some symbol
  | none =>
    match s.kind, s.owner with
    | .destructor, some path => some ("::".intercalate path ++ "::~")
    | _, _ => none

namespace Chain

/-- Put a declaration with a key into its chain, which is made if there is none. -/
def place (key : String) (m : Member) : List Chain → List Chain
  | [] => [{ key := some key, canonical := m }]
  | c :: rest => if c.key = some key then c.push m :: rest else c :: place key m rest

/-- Put a declaration into its chain. -/
def add (chains : List Chain) (m : Member) : List Chain :=
  match m.site.key? with
  | some key => place key m chains
  | none => chains ++ [{ key := none, canonical := m }]

/-- The chains of some declarations, in the order of their first members. -/
def group (members : List Member) : List Chain :=
  members.foldl add []

/-- The chain that a declaration belongs to. -/
def of? (chains : List Chain) (m : Member) : Option Chain :=
  chains.find? fun c => c.indexes.contains m.index

/-- The declarations of some members of the chains. -/
def declarationsOf (chains : List Chain) (members : List Member) : List (Declaration Nat) :=
  members.filterMap fun m => (of? chains m).map fun c => c.declaration m

end Chain

/-- The sites numbered in order. -/
def Member.number (sites : List FunctionSite) : List Member :=
  sites.zipIdx.map fun s => ⟨s.2, s.1⟩

end Unreferenced
