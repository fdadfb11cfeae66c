/-
Unreferenced/Usage/Search.lean

The search for uses through the files of a translation unit, and with it the
events the unit reports: every definition, then every use in the text, then the
uses by macros, whose identifiers reach the text by expansion.

A block is searched in a scope of its own; otherwise what a node declares is
declared in the scope it is met in.  A step works on what is visible from there,
and the search writes back to the store what the step has done to it.
-/
import Unreferenced.Usage.Step

namespace Unreferenced

/-- A search on its way: the uses found and the scopes made so far. -/
structure Search where
  uses : Array (Event Nat) := #[]
  scopes : Scopes := .initial

/-- What a step in the scope at a place comes to, with the place of the scope that the search goes on
in. -/
def Search.take {n : Node} (found : Search) (place : Nat) (s : Step n) : Search × Nat :=
  let scopes := found.scopes.update place s.scope
  match s.inside with
  | some inside => (⟨found.uses ++ s.uses, scopes.enter place inside⟩, scopes.size)
  | none => (⟨found.uses ++ s.uses, scopes⟩, place)

namespace TranslationUnit

variable (u : TranslationUnit)

/-- Search a tree that is met in the scope at a place. -/
def searchFrom (path : String) (n : Node) (place : Nat) (found : Search) : Search :=
  let s := u.step path n (found.scopes.view place)
  let taken := found.take place s
  s.next.foldl (fun found m => searchFrom path m.1 taken.2 found) taken.1
termination_by sizeOf n
decreasing_by exact m.2

/-- The uses in the text of the files, in include order. -/
def textUses : List (Event Nat) :=
  u.graph.order.flatMap fun path =>
    match u.graph.files.get? path with
    | some root => (u.searchFrom path root 0 {}).uses.toList
    | none => []

/-- The identifiers in macros, sorted. -/
def sortedMacroNames : List String :=
  u.macroNames.toList.mergeSort (· ≤ ·)

/-- The uses by macros. -/
def macroUses : List (Event Nat) :=
  u.sortedMacroNames.flatMap fun name => usesOf .name (u.lookupAny name)

/-- The definitions written in the files, in include order. -/
def definitionEvents : List (Event Nat) :=
  (Member.number u.functions).filterMap fun m =>
    if m.site.isDefinition then some (.definition m.index) else none

/-- Everything the unit reports. -/
def events : List (Event Nat) :=
  u.definitionEvents ++ u.textUses ++ u.macroUses

/-- The facts of the unit. -/
def observation : Facts.Observation Nat :=
  Facts.observe u.view u.files .empty u.events

end TranslationUnit

end Unreferenced
