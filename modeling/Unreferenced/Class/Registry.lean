/-
Unreferenced/Class/Registry.lean

Classes, and the registry of the classes that a translation unit defines.

A class is registered under its path, the names of its enclosing scopes and its
own.  The first definition met under a path is the class; later ones add only
the members they declare.  A class without a name cannot be found by a path: it
is known by its place among the classes without a name.

The path and the segments of a class are read off the scopes it stands in, and a
registry carries the proof that every class stands under its own path.
-/
import Unreferenced.Container.OrderedMap
import Unreferenced.Declaration

namespace Unreferenced

/-- What tells classes apart. -/
inductive ClassKey where
  /-- The class registered under a path. -/
  | named (path : List String)
  /-- A class without a name, by its number. -/
  | nameless (number : Nat)
deriving DecidableEq, Repr, Inhabited

/-- A class, struct or union. -/
structure ClassType where
  key : ClassKey
  name : String
  /-- The enclosing scopes. -/
  scope : List ScopeSegment
  templateArity : Nat
  location : Location
  /-- The spellings of its bases. -/
  bases : List String
deriving DecidableEq, Repr, Inhabited

namespace ClassType

/-- The names of the enclosing scopes and of the class itself. -/
def path (c : ClassType) : List String :=
  scopeNames c.scope ++ [c.name]

/-- The enclosing scopes and the class itself. -/
def segments (c : ClassType) : List ScopeSegment :=
  c.scope ++ [⟨.record, c.name, c.templateArity⟩]

/-- The path of a class as it is shown. -/
def qualifiedName (c : ClassType) : String :=
  "::".intercalate c.path

/-- The path of what a class stands in. -/
def enclosing (c : ClassType) : List String :=
  c.path.dropLast

end ClassType

/-- A scope and the scopes around it, innermost first; the last one is the global scope. -/
def outward (path : List String) : List (List String) :=
  (List.range (path.length + 1)).reverse.map fun depth => path.take depth

/-- The classes of a translation unit and the types of their members. -/
structure Registry where
  classes : OrderedMap (List String) ClassType
  members : OrderedMap ClassKey (OrderedMap String String)
  /-- How many classes without a name there are. -/
  nameless : Nat
  /-- Every class stands under its own path. -/
  path_eq : ∀ {path : List String} {c : ClassType}, classes.get? path = some c → c.path = path

namespace Registry

/-- The registry without classes. -/
def empty : Registry where
  classes := .empty
  members := .empty
  nameless := 0
  path_eq := nofun

instance : Inhabited Registry := ⟨empty⟩

/-- The class at a path. -/
def get? (r : Registry) (path : List String) : Option ClassType :=
  r.classes.get? path

/-- The class that a partial path names when it is looked up from an enclosing scope outwards. -/
def find? (r : Registry) (parts enclosing : List String) : Option ClassType :=
  (outward enclosing).findSome? fun outer => r.get? (outer ++ parts)

/-- The registry with a class put under its path. -/
def register (r : Registry) (c : ClassType) : Registry where
  classes := r.classes.insert c.path c
  members := r.members
  nameless := r.nameless
  path_eq := by
    intro path d h
    rw [OrderedMap.get?_insert] at h
    split at h
    · cases h
      exact Eq.symm ‹_›
    · exact r.path_eq h

/-- The registry with a class taken up, and the class it is known as from now on. -/
def declare (r : Registry) (c : ClassType) : ClassType × Registry :=
  if c.name = "" then
    ({ c with key := .nameless r.nameless }, { r with nameless := r.nameless + 1 })
  else
    match r.get? c.path with
    | some first => (first, r)
    | none => (c, r.register c)

/-- The types of the members of a class, by name. -/
def membersOf (r : Registry) (c : ClassType) : OrderedMap String String :=
  (r.members.get? c.key).getD .empty

/-- Note the type of a member. -/
def setMember (r : Registry) (c : ClassType) (name type : String) : Registry :=
  { r with members := r.members.alter c.key fun old => (old.getD .empty).insert name type }

end Registry

end Unreferenced
