/-
Unreferenced/Proofs/FirstError.lean

The search for the first syntax error of a tree as a machine, and what it finds.

The machine keeps a stack of nodes that are still to be looked at.  A step takes
the node on top.  If it is an error, the search is over; if it is marked as having
errors, its children go on the stack, the last one first; otherwise everything
below it is passed over.  On every tree the machine stops with the line that the
recursion over the tree gives (`ErrorSearch.mem_eval_firstErrorLine`).

Reading the stack from the top, each node followed by what is below it, gives the
rest of the tree in pre-order (`ErrorSearch.Invariant`).  What was passed over is
in that order before the rest, and this is where the marks are needed: if every
node with an error below it is marked (`Node.IsMarked`), then no error has been
passed over.  Main statement: on such a tree the line found is that of the first
error in pre-order (`Node.firstErrorLine_of_isMarked`).
-/
import Mathlib.Computability.StateTransition
import Unreferenced.Tree.ErrorSearch

namespace Unreferenced

open StateTransition

namespace Node

/-! ### Trees in pre-order -/

mutual

/-- A node and all nodes below it, each before those below it. -/
def preorder : Node → List Node
  | n@⟨_, _, _, _, _, _, _, _, children⟩ => n :: preorderAll children

/-- The nodes of several trees. -/
def preorderAll : List Node → List Node
  | [] => []
  | n :: rest => preorder n ++ preorderAll rest

end

theorem preorderAll_eq (nodes : List Node) : preorderAll nodes = nodes.flatMap preorder := by
  induction nodes with
  | nil => rfl
  | cons n rest ih => rw [preorderAll, ih, List.flatMap_cons]

/-- The nodes below a node. -/
def descendants (n : Node) : List Node :=
  n.children.flatMap preorder

theorem preorder_eq (n : Node) : n.preorder = n :: n.descendants := by
  cases n
  rw [preorder, preorderAll_eq]
  rfl

/-- What holds of no tree, and of a tree and those beside it if it holds of its children and of
those, holds of all lists of trees. -/
theorem forest_induction {P : List Node → Prop} (nil : P [])
    (cons : ∀ n rest, P n.children → P rest → P (n :: rest)) : ∀ nodes, P nodes
  | [] => nil
  | n :: rest => cons n rest (forest_induction nil cons n.children) (forest_induction nil cons rest)
termination_by nodes => sizeOf nodes
decreasing_by
  · have := n.sizeOf_children_lt
    simp only [List.cons.sizeOf_spec]
    omega
  · simp only [List.cons.sizeOf_spec]
    omega

/-! ### Errors -/

/-- Whether the node is an error by itself: text that fits nowhere, or something that is missing. -/
def isError (n : Node) : Bool :=
  n.kind == "ERROR" || n.missing

/-- Every node of the tree that has an error below it is marked as having errors. -/
def IsMarked (root : Node) : Prop :=
  ∀ n ∈ root.preorder, (∃ d ∈ n.descendants, d.isError = true) → n.hasError = true

instance (root : Node) : Decidable root.IsMarked :=
  inferInstanceAs (Decidable (∀ n ∈ root.preorder, _ → _))

theorem IsMarked.isError_eq_false {root n d : Node} (h : root.IsMarked) (hn : n ∈ root.preorder)
    (hmark : n.hasError = false) (hd : d ∈ n.descendants) : d.isError = false := by
  by_contra herror
  have hmarked := h n hn ⟨d, hd, Bool.not_eq_false _ ▸ herror⟩
  rw [hmark] at hmarked
  cases hmarked

theorem errorLine?_eq (n : Node) :
    n.errorLine? =
      if n.isError then some n.line
      else if n.hasError then errorLineAmong? n.children else none := by
  cases n
  rw [errorLine?]
  rfl

theorem errorLineAmong?_cons (n : Node) (rest : List Node) :
    errorLineAmong? (n :: rest) = n.errorLine?.or (errorLineAmong? rest) := by
  rw [errorLineAmong?]
  cases n.errorLine? with
  | none => rfl
  | some line => rfl

end Node

/-! ### The search step by step -/

/-- A search for the first error under way: the nodes still to be looked at, or the line found. -/
inductive ErrorSearch where
  | pending (stack : List Node)
  | found (line : Nat)

namespace ErrorSearch

open Node

/-- Put nodes on a stack, one after the other. -/
def push (stack nodes : List Node) : List Node :=
  nodes.foldl (fun stack n => n :: stack) stack

theorem push_reverse (stack nodes : List Node) : push stack nodes.reverse = nodes ++ stack := by
  simp [push]

/-- Look at the node on top of the stack.  If there is none, the line is that of the whole tree. -/
def step (root : Node) : ErrorSearch → Option ErrorSearch
  | found _ => none
  | pending [] => some (found root.line)
  | pending (n :: stack) =>
    if n.isError then some (found n.line)
    else if n.hasError then some (pending (push stack n.children.reverse))
    else some (pending stack)

section Step

variable {root n : Node} {stack : List Node}

theorem step_of_isError (h : n.isError = true) :
    step root (pending (n :: stack)) = some (found n.line) :=
  if_pos h

theorem step_of_hasError (h : n.isError = false) (hmark : n.hasError = true) :
    step root (pending (n :: stack)) = some (pending (n.children ++ stack)) := by
  simp [step, h, hmark, push_reverse]

theorem step_of_not_hasError (h : n.isError = false) (hmark : n.hasError = false) :
    step root (pending (n :: stack)) = some (pending stack) := by
  simp [step, h, hmark]

end Step

/-- Where the search is when some nodes on top of the stack, with everything below them, are done:
it is over if there was an error among them, and goes on with the rest of the stack if not. -/
theorem reaches_errorLineAmong? (root : Node) (nodes stack : List Node) :
    Reaches (step root) (pending (nodes ++ stack))
      ((errorLineAmong? nodes).elim (pending stack) found) := by
  induction nodes using forest_induction generalizing stack with
  | nil => exact .refl
  | cons n rest ihchildren ihrest =>
    rw [errorLineAmong?_cons, errorLine?_eq, List.cons_append]
    cases herror : n.isError with
    | true => exact .single (step_of_isError herror)
    | false =>
      cases hmark : n.hasError with
      | false => exact .head (step_of_not_hasError herror hmark) (ihrest stack)
      | true =>
        -- the children are done first, with the other nodes waiting below them
        refine .head (step_of_hasError herror hmark) ((ihchildren (rest ++ stack)).trans ?_)
        cases errorLineAmong? n.children with
        | none => exact ihrest stack
        | some line => exact .refl

/-- The search comes to an end on every tree, and has found the line of the first error then. -/
theorem mem_eval_firstErrorLine (root : Node) :
    found root.firstErrorLine ∈ eval (step root) (pending [root]) := by
  refine mem_eval.2 ⟨?_, rfl⟩
  have hreaches := reaches_errorLineAmong? root [root] []
  rw [errorLineAmong?_cons] at hreaches
  unfold firstErrorLine
  cases hline : root.errorLine? with
  | none =>
    -- nothing is left on the stack, and one more step gives the line of the tree
    rw [hline] at hreaches
    exact hreaches.tail rfl
  | some line =>
    rw [hline] at hreaches
    exact hreaches

/-! ### What the search keeps -/

/-- What has been seen and what is on the stack make up the tree in pre-order, and nothing seen is
an error.  A line that was found is that of the first error in pre-order. -/
def Invariant (root : Node) : ErrorSearch → Prop
  | pending stack => ∃ seen, root.preorder = seen ++ stack.flatMap preorder ∧
      ∀ n ∈ seen, n.isError = false
  | found line => line = ((root.preorder.find? isError).getD root).line

theorem invariant_start (root : Node) : Invariant root (pending [root]) :=
  ⟨[], by simp, List.forall_mem_nil _⟩

/-- Nodes without errors may be passed over, if the stack then holds the rest. -/
theorem Invariant.advance {root : Node} {stack stack' passed : List Node}
    (h : Invariant root (pending stack))
    (hstack : stack.flatMap preorder = passed ++ stack'.flatMap preorder)
    (hpassed : ∀ d ∈ passed, d.isError = false) : Invariant root (pending stack') := by
  obtain ⟨seen, hpreorder, hseen⟩ := h
  refine ⟨seen ++ passed, by rw [hpreorder, hstack, List.append_assoc], fun d hd => ?_⟩
  rcases List.mem_append.1 hd with hd | hd
  · exact hseen d hd
  · exact hpassed d hd

/-- The first error on the stack, in pre-order, is the first error of the tree. -/
theorem Invariant.find?_eq {root : Node} {stack : List Node} (h : Invariant root (pending stack)) :
    root.preorder.find? isError = (stack.flatMap preorder).find? isError := by
  obtain ⟨seen, hpreorder, hseen⟩ := h
  have hnone : seen.find? isError = none := by simpa using hseen
  rw [hpreorder, List.find?_append, hnone, Option.none_or]

theorem Invariant.mem_preorder {root n : Node} {stack : List Node}
    (h : Invariant root (pending (n :: stack))) : n ∈ root.preorder := by
  obtain ⟨seen, hpreorder, -⟩ := h
  rw [hpreorder, List.flatMap_cons, preorder_eq n]
  simp

/-- A step keeps the invariant, if the marks of the tree are right. -/
theorem Invariant.step {root : Node} {s s' : ErrorSearch} (hmarked : root.IsMarked)
    (h : Invariant root s) (hstep : s' ∈ step root s) : Invariant root s' := by
  cases s with
  | found line => cases hstep
  | pending stack =>
    cases stack with
    | nil =>
      cases hstep
      show root.line = _
      rw [h.find?_eq]
      rfl
    | cons n stack =>
      have hflat : (n :: stack).flatMap preorder = n :: n.descendants ++ stack.flatMap preorder := by
        rw [List.flatMap_cons, preorder_eq n]
      cases herror : n.isError with
      | true =>
        rw [step_of_isError herror] at hstep
        cases hstep
        show n.line = _
        rw [h.find?_eq, hflat, List.cons_append, List.find?_cons_of_pos herror]
        rfl
      | false =>
        cases hmark : n.hasError with
        | true =>
          -- the children come next in pre-order
          rw [step_of_hasError herror hmark] at hstep
          cases hstep
          have hnext : (n :: stack).flatMap preorder =
              [n] ++ (n.children ++ stack).flatMap preorder := by
            rw [hflat, List.flatMap_append]
            rfl
          exact h.advance hnext (by simpa using herror)
        | false =>
          -- everything below the node is passed over, which the marks allow
          rw [step_of_not_hasError herror hmark] at hstep
          cases hstep
          refine h.advance hflat (List.forall_mem_cons.2 ⟨herror, fun d hd => ?_⟩)
          exact hmarked.isError_eq_false h.mem_preorder hmark hd

theorem Invariant.of_reaches {root : Node} {s s' : ErrorSearch} (hmarked : root.IsMarked)
    (h : Invariant root s) (hreaches : Reaches (ErrorSearch.step root) s s') : Invariant root s' := by
  induction hreaches with
  | refl => exact h
  | tail _ hstep ih => exact ih.step hmarked hstep

end ErrorSearch

/-- **The first error of a tree.**  If every node with an error below it is marked as having errors,
then the search that passes over what is below nodes without the mark finds what a search of the
whole tree finds: the line of the first node in pre-order that is an error, and the line of the tree
if there is none.  The search comes to an end with this line. -/
theorem Node.firstErrorLine_of_isMarked {root : Node} (hmarked : root.IsMarked) :
    .found root.firstErrorLine ∈ eval (ErrorSearch.step root) (.pending [root]) ∧
      root.firstErrorLine = ((root.preorder.find? Node.isError).getD root).line := by
  have hend := ErrorSearch.mem_eval_firstErrorLine root
  exact ⟨hend, (ErrorSearch.invariant_start root).of_reaches hmarked (mem_eval.1 hend).1⟩

namespace Node

/-- A declaration in order, a function whose body lacks a semicolon in its fifth line, and text that
fits nowhere. -/
def brokenTree : Node :=
  { (default : Node) with
    kind := "translation_unit"
    hasError := true
    children := [
      { (default : Node) with
        kind := "declaration"
        children := [{ (default : Node) with kind := "identifier" }] },
      { (default : Node) with
        kind := "function_definition"
        row := 2
        hasError := true
        children := [
          { (default : Node) with
            kind := "compound_statement"
            row := 2
            hasError := true
            children := [{ (default : Node) with kind := ";", row := 4, missing := true }] }] },
      { (default : Node) with kind := "ERROR", row := 6 }] }

/-- The missing semicolon comes before the text that fits nowhere, though it stands deeper. -/
theorem firstErrorLine_of_isMarked_brokenTree :
    brokenTree.IsMarked ∧
      .found 5 ∈ eval (ErrorSearch.step brokenTree) (.pending [brokenTree]) ∧
      brokenTree.firstErrorLine = 5 := by
  have hmarked : brokenTree.IsMarked := by decide
  obtain ⟨hend, hline⟩ := firstErrorLine_of_isMarked hmarked
  have hfive : brokenTree.firstErrorLine = 5 := hline.trans rfl
  exact ⟨hmarked, hfive ▸ hend, hfive⟩

end Node

end Unreferenced
