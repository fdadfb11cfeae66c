/-
Unreferenced/TranslationUnit/Override.lean

Which methods override which.  A method overrides the virtual methods of all
ancestors of its class that have its name, parameter types and qualifiers, and
is then virtual itself.  Classes are handled bases first, so that what is
virtual in a base is settled before a derived class asks for it.
-/
import Unreferenced.Class.Hierarchy
import Unreferenced.TranslationUnit.Chain

namespace Unreferenced.Chain

/-- Whether the function can override another at all. -/
def canOverride (c : Chain) : Bool :=
  let s := c.canonical.site
  s.kind != .constructor && s.kind != .destructor && !s.isStaticMember

/-- Whether the function is a method of the class at `path` that can be overridden by `c`. -/
def isOverriddenBy (b c : Chain) (path : List String) : Bool :=
  let s := b.canonical.site
  let t := c.canonical.site
  s.owner == some path && s.name == t.name && s.signature.types == t.signature.types &&
    s.qualifiers == t.qualifiers && b.isVirtual

/-- The known methods that a method of a class with the given ancestors overrides. -/
def knownOverridden (chains : List Chain) (ancestors : List ClassType) (c : Chain) :
    List Overridden :=
  ancestors.flatMap fun base =>
    (chains.filter fun b => b.isOverriddenBy c base.path).map fun b => .method b.canonical.index

/-- What a method of a class with the given ancestors overrides.  One that is declared to override
overrides something, if only a method that cannot be seen. -/
def overriddenIn (chains : List Chain) (ancestors : List ClassType) (c : Chain) :
    List Overridden :=
  match knownOverridden chains ancestors c with
  | [] => if c.sites.any FunctionSite.saysOverride then [.unresolved c.name] else []
  | known => known

/-- The chains with the overrides of one class settled. -/
def settleClass (h : Hierarchy) (chains : List Chain) (k : ClassType) : List Chain :=
  let ancestors := h.ancestors k
  chains.map fun c =>
    if c.owner = some k.path ∧ c.canOverride then
      { c with overridden := overriddenIn chains ancestors c }
    else c

/-- The chains with all overrides settled. -/
def settleOverrides (h : Hierarchy) (chains : List Chain) : List Chain :=
  h.topologicalOrder.foldl (settleClass h) chains

end Unreferenced.Chain
