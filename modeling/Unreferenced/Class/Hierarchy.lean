/-
Unreferenced/Class/Hierarchy.lean

The class hierarchy of a translation unit: which class derives from which.

A base is given by its spelling, which is resolved like any other name of a
class: from the enclosing scope outwards and, failing that, to the first class
whose path ends in it.  A spelling can resolve to a wrong class, so the graph may
have cycles; everything here is total on such graphs too.
-/
import Unreferenced.Class.Registry
import Unreferenced.Container.OrderedSet
import Unreferenced.Note
import Unreferenced.Spelling.ScopeName

namespace Unreferenced

/-! ### Searching a finite graph -/

section Search

variable {α : Type} [DecidableEq α]

/-- The nodes of a list that are not in another. -/
def without (nodes gone : List α) : List α :=
  nodes.filter fun n => !gone.contains n

theorem without_nil (nodes : List α) : without nodes [] = nodes := by
  simp [without]

theorem length_without_lt {nodes gone : List α} {n : α} (hn : n ∈ nodes) (hg : n ∈ gone) :
    (without nodes gone).length < nodes.length :=
  List.length_filter_lt_length_iff_exists.2 ⟨n, hn, by simpa using hg⟩

/-- The nodes of a list that are in another. -/
def among (nodes kept : List α) : List α :=
  nodes.filter fun n => kept.contains n

theorem mem_among {nodes kept : List α} {n : α} : n ∈ among nodes kept ↔ n ∈ nodes ∧ n ∈ kept := by
  simp [among]

/-- What can be reached from the nodes of a queue, nearest first.  Only the `remaining` nodes are
taken up, each once. -/
def climb (next : α → List α) (remaining queue : List α) : List α :=
  match queue with
  | [] => []
  | c :: rest =>
    let found := among (next c) remaining
    found ++ climb next (without remaining found) (rest ++ found)
termination_by (remaining.length, queue.length)
decreasing_by
  by_cases h : among (next c) remaining = []
  · rw [h, without_nil]
    exact Prod.Lex.right _ (by simp)
  · obtain ⟨b, hb⟩ := List.exists_mem_of_ne_nil _ h
    exact Prod.Lex.left _ _ (length_without_lt (mem_among.1 hb).2 hb)

/-- Process the nodes of one generation in order.  Gives everything processed so far, and the next
generation: the nodes whose last predecessor was just processed. -/
def release (previous next : α → List α) (done : List α) : List α → List α × List α
  | [] => (done, [])
  | n :: generation =>
    let done := done ++ [n]
    let ready := (next n).filter fun c => (previous c).all fun p => done.contains p
    let later := release previous next done generation
    (later.1, ready ++ later.2)

/-- The nodes in generations: after `done` comes the given generation, then those that follow from
it.  `waiting` are the nodes that may still come. -/
def generations (previous next : α → List α) (waiting done generation : List α) : List α :=
  let processed := release previous next done generation
  if (without waiting generation).length < waiting.length then
    generations previous next (without waiting generation) processed.1 processed.2
  else done
termination_by waiting.length

/-- The nodes in topological order, as far as there is one. -/
def topologicalPart (previous next : α → List α) (nodes : List α) : List α :=
  generations previous next nodes [] (nodes.filter fun n => (previous n).isEmpty)

end Search

/-! ### Resolving a spelling -/

/-- The class that the parts of a name mean when they are seen from an enclosing scope. -/
def Registry.named? (r : Registry) (parts enclosing : List String) : Option ClassType :=
  let parts := parts.filter fun p => p != ""
  if parts.isEmpty then none
  else
    match r.find? parts enclosing with
    | some c => some c
    | none => r.classes.values.find? fun c => parts.isSuffixOf c.path

/-- The class that a spelling names when it is seen from an enclosing scope. -/
def Registry.resolve? (r : Registry) (spelling : String) (enclosing : List String) :
    Option ClassType :=
  r.named? (Spelling.scopeParts spelling) enclosing

/-! ### The hierarchy -/

/-- The classes of a translation unit with the derivations between them. -/
structure Hierarchy where
  registry : Registry
  /-- The paths of a base and of a class derived from it. -/
  edges : OrderedSet (List String × List String)
deriving Inhabited

namespace Hierarchy

/-- The spelled bases of every class, with what they resolve to. -/
def spelledBases (r : Registry) : List (ClassType × String × Option ClassType) :=
  r.classes.values.flatMap fun c => c.bases.map fun base => (c, base, r.resolve? base c.enclosing)

/-- The hierarchy of the classes in a registry.  A class is never its own base. -/
def ofRegistry (r : Registry) : Hierarchy where
  registry := r
  edges := .ofList ((spelledBases r).filterMap fun (c, _, base) =>
    base.bind fun b => if b.path = c.path then none else some (b.path, c.path))

/-- The notes on bases that are not known. -/
def baseNotes (r : Registry) : List Note :=
  (spelledBases r).filterMap fun (c, spelling, base) =>
    if base.isNone then some (.baseNotFound c.qualifiedName spelling) else none

/-- The paths of all classes. -/
def paths (h : Hierarchy) : List (List String) :=
  h.registry.classes.keys

/-- The paths of the direct bases of a class. -/
def basePaths (h : Hierarchy) (path : List String) : List (List String) :=
  (h.edges.toList.filter fun e => e.2 = path).map Prod.fst

/-- The paths of the classes derived directly from a class. -/
def derivedPaths (h : Hierarchy) (path : List String) : List (List String) :=
  (h.edges.toList.filter fun e => e.1 = path).map Prod.snd

/-- The classes at some paths. -/
def classesAt (h : Hierarchy) (paths : List (List String)) : List ClassType :=
  paths.filterMap h.registry.get?

/-- The direct bases of a class. -/
def directBases (h : Hierarchy) (c : ClassType) : List ClassType :=
  h.classesAt (h.basePaths c.path)

/-- The bases of a class and their bases, nearest first. -/
def ancestors (h : Hierarchy) (c : ClassType) : List ClassType :=
  h.classesAt (climb h.basePaths (h.paths.filter fun p => p ≠ c.path) [c.path])

/-- A class and its ancestors, nearest first. -/
def lineage (h : Hierarchy) (c : ClassType) : List ClassType :=
  c :: h.ancestors c

/-- The paths in an order that puts bases first, if there is one. -/
def topologicalPaths? (h : Hierarchy) : Option (List (List String)) :=
  let sorted := topologicalPart h.basePaths h.derivedPaths h.paths
  if sorted.length = h.paths.length then some sorted else none

/-- All classes, bases first; in the order of the registry if there is no such order. -/
def topologicalOrder (h : Hierarchy) : List ClassType :=
  h.classesAt (h.topologicalPaths?.getD h.paths)

/-- The note on a cycle, if there is one. -/
def cycleNotes (h : Hierarchy) : List Note :=
  if h.topologicalPaths?.isNone then [.hierarchyCycle] else []

/-- The type of a member called `name` in a class or the nearest of its ancestors that has one. -/
def memberType? (h : Hierarchy) (c : ClassType) (name : String) : Option String :=
  (h.lineage c).findSome? fun b => (h.registry.membersOf b).get? name

end Hierarchy

end Unreferenced
