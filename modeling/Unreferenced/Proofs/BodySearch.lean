/-
Unreferenced/Proofs/BodySearch.lean

Which bodies of functions are searched for uses.

Declarations are read and uses are searched in two walks of their own, and this
file compares them.  `visitsOf` lists the nodes that the search meets, each with
the trail on which it is met, and all uses are uses of visited nodes
(`uses_searchTree_eq`).  Along the trails of the declarations the search goes
the same way, one step at a time, except where a node hides what stands in it
(`mem_nextNodes_iff`).

So the search gets to the body of a function exactly if nothing on its trail is
hidden (`exists_visit_iff`).  In a tree of the grammar two kinds of node hide
functions with bodies: friend declarations and type definitions.
-/
import Mathlib.Data.List.Chain
import Unreferenced.Proofs.BodyTrail
import Unreferenced.Proofs.QualifiedScope
import Unreferenced.Proofs.ScopeStore

namespace Unreferenced

/-! ### Where the two walks part -/

namespace Node

/-- The node hides another one from the search for uses.  Nothing is searched in friend declarations
and type definitions; of a conditional branch everything is but the condition, and of a linkage
specification what is named. -/
def Hides (n m : Node) : Prop :=
  n.isOneOf ["friend_declaration", "type_definition"] = true ∨
    n.isOneOf ["preproc_if", "preproc_elif"] = true ∧ ¬m ∈ n.namedChildrenBut "condition" ∨
    n.isOneOf ["preproc_ifdef", "preproc_elifdef"] = true ∧ ¬m ∈ n.namedChildrenBut "name" ∨
    n.kind = "linkage_specification" ∧ m.named = false

theorem map_val_childrenBelow (n : Node) (children : List Node)
    (h : ∀ c ∈ children, c ∈ n.children) :
    (n.childrenBelow children h).map Subtype.val = children := by
  rw [childrenBelow, List.map_map]
  exact List.attach_map_subtype_val children

theorem map_val_namedBelow (n : Node) : n.namedBelow.map Subtype.val = n.namedChildren :=
  n.map_val_childrenBelow _ _

theorem map_val_namedBelowBut (n : Node) (field : String) :
    (n.namedBelowBut field).map Subtype.val = n.namedChildrenBut field :=
  n.map_val_childrenBelow _ _

theorem map_val_filter_namedBelow (n : Node) (p : Node → Bool) :
    (n.namedBelow.filter fun c => p c.1).map Subtype.val = n.namedChildren.filter p := by
  rw [← map_val_namedBelow, List.filter_map]
  rfl

theorem map_val_belowAt? (n : Node) (field : String) :
    (n.belowAt? field).map Subtype.val = n.child? field := by
  unfold belowAt?
  split
  · next c h => exact h.symm
  · next h => exact h.symm

theorem map_val_toList_belowAt? (n : Node) (field : String) :
    (n.belowAt? field).toList.map Subtype.val = (n.child? field).toList := by
  rw [← Option.toList_map, map_val_belowAt?]

end Node

namespace TranslationUnit

variable (u : TranslationUnit) (path : String) {n m : Node} (scope : LocalScope)

/-- The nodes where the search goes on. -/
def nextNodes (n : Node) : List Node :=
  (u.step path n scope).next.map Subtype.val

theorem nextNodes_of_plain (h : n.kind ∈ ["ERROR", "translation_unit", "declaration_list",
    "preproc_else", "field_declaration_list", "linkage_specification"]) :
    u.nextNodes path scope n = n.namedChildren := by
  have hstep : (u.step path n scope).next = n.namedBelow := by
    simp only [List.mem_cons, List.not_mem_nil, or_false] at h
    rcases h with h | h | h | h | h | h
    all_goals simp [step, Node.isOneOf, h, skippedKinds, classKinds, blockKinds]
  rw [nextNodes, hstep, Node.map_val_namedBelow]

theorem nextNodes_of_condition (h : n.kind ∈ ["preproc_if", "preproc_elif"]) :
    u.nextNodes path scope n = n.namedChildrenBut "condition" := by
  have hstep : (u.step path n scope).next = n.namedBelowBut "condition" := by
    simp only [List.mem_cons, List.not_mem_nil, or_false] at h
    rcases h with h | h
    all_goals simp [step, Node.isOneOf, h, skippedKinds, classKinds]
  rw [nextNodes, hstep, Node.map_val_namedBelowBut]

theorem nextNodes_of_macroCondition (h : n.kind ∈ ["preproc_ifdef", "preproc_elifdef"]) :
    u.nextNodes path scope n = n.namedChildrenBut "name" := by
  have hstep : (u.step path n scope).next = n.namedBelowBut "name" := by
    simp only [List.mem_cons, List.not_mem_nil, or_false] at h
    rcases h with h | h
    all_goals simp [step, Node.isOneOf, h, skippedKinds, classKinds]
  rw [nextNodes, hstep, Node.map_val_namedBelowBut]

theorem nextNodes_of_body (h : n.kind ∈ "namespace_definition" :: classKinds) :
    u.nextNodes path scope n = (n.child? "body").toList := by
  have hstep : (u.step path n scope).next = (n.belowAt? "body").toList := by
    simp only [classKinds, List.mem_cons, List.not_mem_nil, or_false] at h
    rcases h with h | h | h | h
    all_goals simp [step, Node.isOneOf, h, skippedKinds, classKinds, stepNamespace, stepClass]
  rw [nextNodes, hstep, Node.map_val_toList_belowAt?]

theorem nextNodes_of_template (h : n.kind = "template_declaration") :
    u.nextNodes path scope n =
      n.namedChildren.filter fun c => c.kind != "template_parameter_list" := by
  have hstep : (u.step path n scope).next =
      n.namedBelow.filter fun c => c.1.kind != "template_parameter_list" := by
    simp [step, Node.isOneOf, h, skippedKinds, classKinds]
  rw [nextNodes, hstep, n.map_val_filter_namedBelow fun c => c.kind != "template_parameter_list"]

theorem nextNodes_of_skipped (h : n.kind ∈ skippedKinds) : u.nextNodes path scope n = [] := by
  rw [nextNodes, step, if_pos (Node.isOneOf_iff.2 h)]
  rfl

/-- A declarator takes nothing away from where the search goes on. -/
theorem next_subset_stepDeclarator (typeName : String) (declaredClass : Option ClassType)
    (s : Step n) (d : n.Below) :
    s.next ⊆ (u.stepDeclarator typeName declaredClass s d).next := by
  unfold stepDeclarator
  split
  · split
    · exact List.subset_append_left _ _
    · exact List.Subset.refl _
  · exact List.subset_append_left _ _

/-- The class that a declaration specifies is searched. -/
theorem mem_nextNodes_of_declaration (h : n.kind ∈ ["declaration", "field_declaration"])
    (htype : n.child? "type" = some m) (hclass : m.kind ∈ classKinds) :
    m ∈ u.nextNodes path scope n := by
  have hstep : u.step path n scope = u.stepDeclaration n scope := by
    simp only [List.mem_cons, List.not_mem_nil, or_false] at h
    rcases h with h | h
    all_goals simp [step, Node.isOneOf, h, skippedKinds, classKinds]
  have hfold : ∀ (ds : List n.Below) (s : Step n) typeName declaredClass,
      s.next ⊆ (ds.foldl (u.stepDeclarator typeName declaredClass) s).next := by
    intro ds s typeName declaredClass
    induction ds generalizing s with
    | nil => exact List.Subset.refl _
    | cons d ds ih =>
      exact List.Subset.trans (u.next_subset_stepDeclarator typeName declaredClass s d) (ih _)
  -- the class comes first, before anything that the declarators add
  obtain ⟨t, ht, rfl⟩ := Option.map_eq_some_iff.1 ((n.map_val_belowAt? "type").trans htype)
  have hstart : t ∈ ((n.belowAt? "type").filter fun t =>
      t.1.isOneOf ("decltype" :: classKinds)).toList := by
    have hkind : t.1.isOneOf ("decltype" :: classKinds) = true :=
      Node.isOneOf_iff.2 (List.mem_cons_of_mem _ hclass)
    rw [Option.mem_toList, ht, Option.filter_some, if_pos hkind]
  refine List.mem_map_of_mem ?_
  rw [hstep]
  exact List.mem_append_left _ (hfold _ _ _ _ hstart)

/-- From a node in which declarations are read, the search goes on to the nodes that are not
hidden. -/
theorem mem_nextNodes_iff (h : n.Enters m) : m ∈ u.nextNodes path scope n ↔ ¬n.Hides m := by
  cases h with
  | plain hkind hnamed =>
    have hnext := u.nextNodes_of_plain path scope
      (show n.kind ∈ _ from List.mem_append_left ["linkage_specification"] hkind)
    simp only [List.mem_cons, List.not_mem_nil, or_false] at hkind
    rw [hnext]
    rcases hkind with hkind | hkind | hkind | hkind | hkind
    all_goals simp [Node.Hides, Node.isOneOf, hkind, hnamed]
  | condition hkind hnamed =>
    rw [u.nextNodes_of_condition path scope hkind]
    simp only [List.mem_cons, List.not_mem_nil, or_false] at hkind
    rcases hkind with hkind | hkind
    all_goals simp [Node.Hides, Node.isOneOf, hkind]
  | macroCondition hkind hnamed =>
    rw [u.nextNodes_of_macroCondition path scope hkind]
    simp only [List.mem_cons, List.not_mem_nil, or_false] at hkind
    rcases hkind with hkind | hkind
    all_goals simp [Node.Hides, Node.isOneOf, hkind]
  | linkage hkind hbody =>
    have hchild := Node.mem_children_of_child? hbody
    rw [u.nextNodes_of_plain path scope (by simp [hkind])]
    simp [Node.Hides, Node.isOneOf, hkind, Node.namedChildren, hchild]
  | body hkind hbody =>
    rw [u.nextNodes_of_body path scope hkind, hbody]
    simp only [classKinds, List.mem_cons, List.not_mem_nil, or_false] at hkind
    rcases hkind with hkind | hkind | hkind | hkind
    all_goals simp [Node.Hides, Node.isOneOf, hkind]
  | template hkind hnamed hparameters =>
    rw [u.nextNodes_of_template path scope hkind]
    simp [Node.Hides, Node.isOneOf, hkind, hnamed, hparameters]
  | classType hkind htype hclass =>
    have hnext := u.mem_nextNodes_of_declaration path scope hkind htype hclass
    simp only [List.mem_cons, List.not_mem_nil, or_false] at hkind
    rcases hkind with hkind | hkind
    all_goals simp [Node.Hides, Node.isOneOf, hkind, hnext]
  | friendFunction hkind hnamed =>
    rw [u.nextNodes_of_skipped path scope (by simp [hkind, skippedKinds])]
    simp [Node.Hides, Node.isOneOf, hkind]
  | typedefClass hkind htype =>
    rw [u.nextNodes_of_skipped path scope (by simp [hkind, skippedKinds])]
    simp [Node.Hides, Node.isOneOf, hkind]

end TranslationUnit

/-! ### Visits -/

/-- A node that the search for uses meets, at the end of a trail, and the scope it is met in. -/
structure Visit where
  trail : List Node
  scope : LocalScope

/-- The visit seen from a node further up. -/
def Visit.under (n : Node) (v : Visit) : Visit :=
  { v with trail := n :: v.trail }

namespace TranslationUnit

variable (u : TranslationUnit) (path : String)

/-- The nodes of a list with the scopes they are searched in, one after the other. -/
def inTurn {n : Node} : LocalScope → List n.Below → List (n.Below × LocalScope)
  | _, [] => []
  | scope, m :: rest => (m, scope) :: inTurn (u.searchTree path m.1 scope).scope rest

/-- The nodes that are searched next, with their scopes. -/
def searchedNext (n : Node) (scope : LocalScope) : List (n.Below × LocalScope) :=
  let s := u.step path n scope
  u.inTurn path (s.inside.getD s.scope) s.next

/-- The visits when a tree is searched, in order. -/
def visitsOf (n : Node) (scope : LocalScope) : List Visit :=
  ⟨[n], scope⟩ :: (u.searchedNext path n scope).flatMap fun m =>
    (visitsOf m.1.1 m.2).map (Visit.under n)
termination_by sizeOf n
decreasing_by exact m.1.2

/-- The uses that a visited node makes by itself. -/
def usesAt (v : Visit) : List (Event Nat) :=
  v.trail.getLast?.elim [] fun n => (u.step path n v.scope).uses

theorem map_fst_inTurn {n : Node} (scope : LocalScope) (nodes : List n.Below) :
    (u.inTurn path scope nodes).map Prod.fst = nodes := by
  induction nodes generalizing scope with
  | nil => rfl
  | cons m nodes ih => rw [inTurn, List.map_cons, ih]

/-- The uses in a tree are those of its root and then those of the trees searched next. -/
theorem uses_searchTree (n : Node) (scope : LocalScope) :
    (u.searchTree path n scope).uses = (u.step path n scope).uses ++
      (u.searchedNext path n scope).flatMap fun m => (u.searchTree path m.1.1 m.2).uses := by
  -- the fold carries the scope on, which is what `inTurn` writes down for each node
  have hfold : ∀ (nodes : List n.Below) (found : Searched),
      (nodes.foldl (fun found m => found.append (u.searchTree path m.1 found.scope)) found).uses =
      found.uses ++ (u.inTurn path found.scope nodes).flatMap fun m =>
        (u.searchTree path m.1.1 m.2).uses := by
    intro nodes
    induction nodes with
    | nil => exact fun found => (List.append_nil _).symm
    | cons m nodes ih =>
      intro found
      rw [List.foldl_cons, ih, inTurn, List.flatMap_cons, Searched.append, List.append_assoc]
  rw [searchTree]
  exact hfold _ _

variable {path}

theorem trail_of_mem_visitsOf {n : Node} {scope : LocalScope} {v : Visit}
    (h : v ∈ u.visitsOf path n scope) : v.trail.head? = some n := by
  rw [visitsOf] at h
  rcases List.mem_cons.1 h with rfl | h
  · rfl
  · obtain ⟨m, -, hv⟩ := List.mem_flatMap.1 h
    obtain ⟨w, -, rfl⟩ := List.mem_map.1 hv
    rfl

theorem mem_visitsOf {n : Node} {scope : LocalScope} {v : Visit} :
    v ∈ u.visitsOf path n scope ↔ v = ⟨[n], scope⟩ ∨
      ∃ m ∈ u.searchedNext path n scope, ∃ w ∈ u.visitsOf path m.1.1 m.2, v = w.under n := by
  rw [visitsOf, List.mem_cons, List.mem_flatMap]
  simp only [List.mem_map, eq_comm]

/-- A visited node is the same one seen from above. -/
theorem getLast?_under {n m : Node} {scope : LocalScope} {v : Visit}
    (h : v ∈ u.visitsOf path n scope) : (v.under m).trail.getLast? = v.trail.getLast? := by
  obtain ⟨rest, hrest⟩ := List.head?_eq_some_iff.1 (u.trail_of_mem_visitsOf h)
  rw [Visit.under, hrest, List.getLast?_cons_cons]

/-- All uses in a tree are uses of visited nodes. -/
theorem uses_searchTree_eq (n : Node) (scope : LocalScope) :
    (u.searchTree path n scope).uses = (u.visitsOf path n scope).flatMap (u.usesAt path) := by
  induction hsize : sizeOf n using Nat.strongRecOn generalizing n scope with
  | _ size ih =>
  subst hsize
  rw [uses_searchTree, visitsOf, List.flatMap_cons, List.flatMap_assoc]
  refine congrArg (_ ++ ·) (List.flatMap_congr fun m _ => ?_)
  rw [ih (sizeOf m.1.1) m.1.2 m.1.1 m.2 rfl, List.flatMap_map]
  refine List.flatMap_congr fun v hv => ?_
  rw [usesAt, usesAt, u.getLast?_under hv]
  rfl

/-- What holds of the root of every searched tree, and of a visit seen from above if it holds of the
visit itself, holds of all visits. -/
theorem visit_induction {P : Node → LocalScope → Visit → Prop}
    (root : ∀ n scope, P n scope ⟨[n], scope⟩)
    (under : ∀ n scope, ∀ m ∈ u.searchedNext path n scope, ∀ v ∈ u.visitsOf path m.1.1 m.2,
      P m.1.1 m.2 v → P n scope (v.under n))
    (n : Node) (scope : LocalScope) : ∀ v ∈ u.visitsOf path n scope, P n scope v := by
  induction hsize : sizeOf n using Nat.strongRecOn generalizing n scope with
  | _ size ih =>
  subst hsize
  intro v hv
  rcases u.mem_visitsOf.1 hv with rfl | ⟨m, hm, w, hw, rfl⟩
  · exact root n scope
  · exact under n scope m hm w hw (ih (sizeOf m.1.1) m.1.2 m.1.1 m.2 rfl w hw)

theorem mem_nextNodes {n m : Node} {scope : LocalScope} :
    m ∈ u.nextNodes path scope n ↔ ∃ k ∈ u.searchedNext path n scope, k.1.1 = m := by
  have hnext : (u.searchedNext path n scope).map Prod.fst = (u.step path n scope).next :=
    u.map_fst_inTurn path _ _
  rw [nextNodes, ← hnext, List.map_map, List.mem_map]
  rfl

/-- The search gets to a node over all nodes on its trail. -/
theorem exists_visit_of_prefix {n : Node} {scope : LocalScope} {v : Visit}
    (hv : v ∈ u.visitsOf path n scope) {trail : List Node} (hne : trail ≠ [])
    (htrail : trail <+: v.trail) : ∃ w ∈ u.visitsOf path n scope, w.trail = trail := by
  revert trail
  refine u.visit_induction (P := fun n scope v => ∀ {trail : List Node}, trail ≠ [] →
    trail <+: v.trail → ∃ w ∈ u.visitsOf path n scope, w.trail = trail) ?_ ?_ n scope v hv
  · intro n scope trail hne htrail
    refine ⟨⟨[n], scope⟩, u.mem_visitsOf.2 (.inl rfl), ?_⟩
    rcases List.prefix_cons_iff.1 htrail with rfl | ⟨rest, rfl, hrest⟩
    · exact absurd rfl hne
    · rw [List.prefix_nil.1 hrest]
  · intro n scope m hm v hv ih trail hne htrail
    rcases List.prefix_cons_iff.1 htrail with rfl | ⟨rest, rfl, hrest⟩
    · exact absurd rfl hne
    by_cases hend : rest = []
    · exact ⟨⟨[n], scope⟩, u.mem_visitsOf.2 (.inl rfl), by rw [hend]⟩
    · obtain ⟨w, hw, rfl⟩ := ih hend hrest
      exact ⟨w.under n, u.mem_visitsOf.2 (.inr ⟨m, hm, w, hw, rfl⟩), rfl⟩

/-- Where the search goes on from a visited node is visited. -/
theorem exists_visit_next {n m c : Node} {scope : LocalScope} {v : Visit}
    (hv : v ∈ u.visitsOf path n scope) (hm : v.trail.getLast? = some m)
    (hc : c ∈ u.nextNodes path v.scope m) :
    ∃ w ∈ u.visitsOf path n scope, w.trail = v.trail ++ [c] := by
  revert m
  refine u.visit_induction (P := fun n scope v => ∀ {m}, v.trail.getLast? = some m →
    c ∈ u.nextNodes path v.scope m → ∃ w ∈ u.visitsOf path n scope, w.trail = v.trail ++ [c])
    ?_ ?_ n scope v hv
  · intro n scope m hm hc
    cases hm
    obtain ⟨k, hk, rfl⟩ := u.mem_nextNodes.1 hc
    refine ⟨Visit.under n ⟨[k.1.1], k.2⟩, u.mem_visitsOf.2 (.inr ⟨k, hk, _, ?_, rfl⟩), rfl⟩
    exact u.mem_visitsOf.2 (.inl rfl)
  · intro n scope k hk v hv ih m hm hc
    rw [u.getLast?_under hv] at hm
    obtain ⟨w, hw, htrail⟩ := ih hm hc
    refine ⟨w.under n, u.mem_visitsOf.2 (.inr ⟨k, hk, w, hw, rfl⟩), ?_⟩
    show n :: w.trail = n :: v.trail ++ [c]
    rw [htrail, List.cons_append]

/-- What the search finds from a visited node on, it finds in the whole tree. -/
theorem uses_infix_of_mem_visitsOf {n m : Node} {scope : LocalScope} {v : Visit}
    (hv : v ∈ u.visitsOf path n scope) (hm : v.trail.getLast? = some m) :
    (u.searchTree path m v.scope).uses <:+: (u.searchTree path n scope).uses := by
  revert m
  refine u.visit_induction (P := fun n scope v => ∀ {m}, v.trail.getLast? = some m →
    (u.searchTree path m v.scope).uses <:+: (u.searchTree path n scope).uses) ?_ ?_ n scope v hv
  · intro n scope m hm
    cases hm
    exact List.infix_refl _
  · intro n scope k hk v hv ih m hm
    rw [u.getLast?_under hv] at hm
    refine (ih hm).trans ?_
    obtain ⟨earlier, later, hsplit⟩ := List.append_of_mem hk
    rw [u.uses_searchTree path n scope, hsplit, List.flatMap_append, List.flatMap_cons,
      ← List.append_assoc, ← List.append_assoc]
    exact List.infix_append _ _ _

/-! ### Trails of declarations -/

theorem head?_of_mem_bodyTrails {n : Node} {trail : List Node} (h : trail ∈ n.bodyTrails) :
    trail.head? = some n := by
  rcases hdefines : n.definesBody
  · rw [Node.bodyTrails_of_not_definesBody hdefines] at h
    obtain ⟨m, -, hm⟩ := List.mem_flatMap.1 h
    obtain ⟨rest, -, rfl⟩ := List.mem_map.1 hm
    rfl
  · rw [Node.bodyTrails_of_definesBody hdefines, List.mem_singleton] at h
    rw [h]
    rfl

/-- The search gets from a node to the end of a trail if it goes on to the next node and gets from
there to the end. -/
theorem exists_visit_cons {n m : Node} {scope : LocalScope} {rest : List Node}
    (hrest : rest.head? = some m) :
    (∃ v ∈ u.visitsOf path n scope, v.trail = n :: rest) ↔
      ∃ k ∈ u.searchedNext path n scope, k.1.1 = m ∧
        ∃ v ∈ u.visitsOf path m k.2, v.trail = rest := by
  constructor
  · rintro ⟨v, hv, htrail⟩
    rcases u.mem_visitsOf.1 hv with rfl | ⟨k, hk, w, hw, rfl⟩
    · rw [← (List.cons.inj htrail).2] at hrest
      cases hrest
    · -- the visit goes over the node that the rest of the trail starts with
      have hw' : w.trail = rest := (List.cons.inj htrail).2
      have hkm : k.1.1 = m := by
        have hhead := u.trail_of_mem_visitsOf hw
        rw [hw', hrest] at hhead
        exact (Option.some.inj hhead).symm
      exact ⟨k, hk, hkm, w, hkm ▸ hw, hw'⟩
  · rintro ⟨k, hk, rfl, w, hw, rfl⟩
    exact ⟨w.under n, u.mem_visitsOf.2 (.inr ⟨k, hk, w, hw, rfl⟩), rfl⟩

/-- The search gets to the end of a trail of declarations exactly if no node on it is hidden by the
one before. -/
theorem exists_visit_iff {n : Node} {trail : List Node} (h : trail ∈ n.bodyTrails)
    (scope : LocalScope) :
    (∃ v ∈ u.visitsOf path n scope, v.trail = trail) ↔
      trail.IsChain fun n m => ¬n.Hides m := by
  induction trail generalizing n scope with
  | nil => cases head?_of_mem_bodyTrails h
  | cons a rest ih =>
    obtain rfl : a = n := Option.some.inj (head?_of_mem_bodyTrails h)
    rcases hdefines : a.definesBody
    · rw [Node.bodyTrails_of_not_definesBody hdefines] at h
      obtain ⟨m, hm, htrail⟩ := List.mem_flatMap.1 h
      obtain ⟨_, hrest, hcons⟩ := List.mem_map.1 htrail
      obtain rfl := (List.cons.inj hcons).2
      have hhead := head?_of_mem_bodyTrails hrest
      have hnext := u.mem_nextNodes_iff path scope (Node.enters_of_mem_declarationNext hm)
      rw [u.exists_visit_cons hhead, List.isChain_cons, hhead]
      simp only [Option.mem_some, forall_eq']
      rw [← hnext, mem_nextNodes]
      -- the rest is searched in the scope that the search has got to, so for all scopes at once
      constructor
      · rintro ⟨k, hk, hkm, hvisit⟩
        exact ⟨⟨k, hk, hkm⟩, (ih hrest k.2).1 hvisit⟩
      · rintro ⟨⟨k, hk, hkm⟩, hopen⟩
        exact ⟨k, hk, hkm, (ih hrest k.2).2 hopen⟩
    · rw [Node.bodyTrails_of_definesBody hdefines, List.mem_singleton] at h
      rw [h]
      exact ⟨fun _ => .singleton _, fun _ => ⟨⟨[a], scope⟩, u.mem_visitsOf.2 (.inl rfl), rfl⟩⟩

/-! ### The bodies of functions -/

theorem definesBody_of_mem_bodyTrails {n : Node} {trail : List Node} (h : trail ∈ n.bodyTrails) :
    ∃ m ∈ trail.getLast?, m.definesBody = true := by
  induction trail generalizing n with
  | nil => cases head?_of_mem_bodyTrails h
  | cons a rest ih =>
    rcases hdefines : n.definesBody
    · rw [Node.bodyTrails_of_not_definesBody hdefines] at h
      obtain ⟨m, -, htrail⟩ := List.mem_flatMap.1 h
      obtain ⟨_, hrest, hcons⟩ := List.mem_map.1 htrail
      obtain rfl := (List.cons.inj hcons).2
      obtain ⟨k, hk, hbody⟩ := ih hrest
      refine ⟨k, ?_, hbody⟩
      rw [Option.mem_def] at hk
      rw [Option.mem_def, List.getLast?_cons, hk]
      rfl
    · rw [Node.bodyTrails_of_definesBody hdefines, List.mem_singleton] at h
      rw [h]
      exact ⟨n, rfl, hdefines⟩

theorem step_of_function {n : Node} (h : n.kind = "function_definition") (scope : LocalScope) :
    u.step path n scope = u.stepFunction path n scope := by
  simp [step, Node.isOneOf, h, skippedKinds, classKinds]

/-- From a function definition the search goes on to its body. -/
theorem mem_nextNodes_of_function {n c : Node} (h : n.kind = "function_definition")
    (scope : LocalScope) (hnamed : c ∈ n.namedChildren)
    (hkind : c.isOneOf ["field_initializer_list", "compound_statement", "try_statement"] = true) :
    c ∈ u.nextNodes path scope n := by
  have hbodies : c ∈ (n.namedBelowOf
      ["field_initializer_list", "compound_statement", "try_statement"]).map Subtype.val := by
    rw [Node.namedBelowOf, n.map_val_filter_namedBelow fun c => c.isOneOf _]
    exact List.mem_filter.2 ⟨hnamed, hkind⟩
  rw [nextNodes, u.step_of_function h]
  unfold stepFunction
  split
  · rw [List.map_append]
    exact List.mem_append_right _ hbodies
  · exact hbodies

variable (path)

/-- The visits when a file is searched. -/
def visitsIn : List Visit :=
  (u.graph.files.get? path).elim [] fun root => u.visitsOf path root {}

/-- The uses in the text are those of the visited nodes of all files. -/
theorem textUses_eq : u.textUses =
    u.graph.order.flatMap fun path => (u.visitsIn path).flatMap (u.usesAt path) := by
  unfold textUses visitsIn
  refine List.flatMap_congr fun path _ => ?_
  rcases u.graph.files.get? path with - | root
  · rfl
  · exact (u.uses_searchFrom path root).trans (u.uses_searchTree_eq root {})

end TranslationUnit

/-- No node on the trail of a place is hidden by the one before. -/
def TreePlace.IsOpen (p : TreePlace) : Prop :=
  p.trail.IsChain fun n m => ¬n.Hides m

/-- A place is open if only kinds of node stand on its trail that hide nothing. -/
theorem TreePlace.isOpen_of_kinds {p : TreePlace}
    (h : ∀ n ∈ p.trail, n.kind ∉ ["friend_declaration", "type_definition", "preproc_if",
      "preproc_elif", "preproc_ifdef", "preproc_elifdef", "linkage_specification"]) : p.IsOpen := by
  have hchain : ∀ trail : List Node, (∀ n ∈ trail, ∀ m, ¬n.Hides m) →
      trail.IsChain fun n m => ¬n.Hides m := by
    intro trail hkinds
    induction trail with
    | nil => exact .nil
    | cons n rest ih =>
      obtain ⟨hn, hrest⟩ := List.forall_mem_cons.1 hkinds
      exact List.isChain_cons.2 ⟨fun m _ => hn m, ih hrest⟩
  refine hchain p.trail fun n hn m hhides => h n hn ?_
  simp only [Node.Hides, Node.isOneOf_iff, List.mem_cons, List.not_mem_nil, or_false] at hhides ⊢
  tauto

/-- A place inside a friend declaration or a type definition is not open. -/
theorem TreePlace.not_isOpen_of_mem {p : TreePlace} {n : Node} (hn : n ∈ p.trail.dropLast)
    (hkind : n.isOneOf ["friend_declaration", "type_definition"] = true) : ¬p.IsOpen := by
  intro hopen
  unfold IsOpen at hopen
  generalize p.trail = trail at hn hopen
  induction trail with
  | nil => cases hn
  | cons a rest ih =>
    obtain ⟨hhead, hrest⟩ := List.isChain_cons.1 hopen
    rcases rest with - | ⟨b, rest⟩
    · cases hn
    rcases List.mem_cons.1 hn with rfl | hn
    · exact hhead b rfl (.inl hkind)
    · exact ih hn hrest

theorem IncludeGraph.exists_root {graph : IncludeGraph} {p : TreePlace} (h : p ∈ graph.bodies) :
    p.path ∈ graph.order ∧
      ∃ root, graph.files.get? p.path = some root ∧ p.trail ∈ root.bodyTrails := by
  obtain ⟨path, hpath, hp⟩ := List.mem_flatMap.1 h
  unfold bodiesIn at hp
  rcases hroot : graph.files.get? path with - | root
  · rw [hroot] at hp
    cases hp
  · rw [hroot] at hp
    obtain ⟨trail, htrail, rfl⟩ := List.mem_map.1 hp
    exact ⟨hpath, root, hroot, htrail⟩

namespace TranslationUnit

variable {u : TranslationUnit} {p : TreePlace}

/-- The function definition at an open place is visited as one, and its body is searched. -/
theorem exists_visit_of_isOpen (hp : p ∈ u.graph.bodies) (hopen : p.IsOpen) :
    ∃ v ∈ u.visitsIn p.path, v.trail = p.trail ∧ ∃ n ∈ p.trail.getLast?,
      u.step p.path n v.scope = u.stepFunction p.path n v.scope ∧
      ∀ c ∈ n.namedChildren,
        c.isOneOf ["field_initializer_list", "compound_statement", "try_statement"] = true →
          ∃ w ∈ u.visitsIn p.path, w.trail = p.trail ++ [c] ∧
            (u.searchTree p.path c w.scope).uses <:+: u.textUses := by
  obtain ⟨hpath, root, hroot, htrail⟩ := IncludeGraph.exists_root hp
  have hvisits : u.visitsIn p.path = u.visitsOf p.path root {} := by
    rw [visitsIn, hroot]
    rfl
  have hfile : (u.searchTree p.path root {}).uses <:+: u.textUses := by
    obtain ⟨earlier, later, hsplit⟩ := List.append_of_mem hpath
    unfold textUses
    rw [hsplit, List.flatMap_append, List.flatMap_cons, hroot, ← List.append_assoc,
      ← u.uses_searchFrom p.path root]
    exact List.infix_append _ _ _
  -- the definition is visited, and then the body below it
  obtain ⟨v, hv, hvp⟩ := (u.exists_visit_iff htrail {}).2 hopen
  obtain ⟨n, hn, hbody⟩ := definesBody_of_mem_bodyTrails htrail
  have hfunction : n.kind = "function_definition" := by
    simp only [Node.definesBody, Bool.and_eq_true, beq_iff_eq] at hbody
    exact hbody.1.1
  rw [hvisits]
  refine ⟨v, hv, hvp, n, hn, u.step_of_function hfunction v.scope, fun c hnamed hkind => ?_⟩
  have hnext : c ∈ u.nextNodes p.path v.scope n :=
    u.mem_nextNodes_of_function hfunction v.scope hnamed hkind
  obtain ⟨w, hw, hwv⟩ := u.exists_visit_next hv (hvp ▸ hn) hnext
  refine ⟨w, hw, by rw [hwv, hvp], ?_⟩
  have hlast : w.trail.getLast? = some c := by
    rw [hwv, List.getLast?_concat]
  exact (u.uses_infix_of_mem_visitsOf hw hlast).trans hfile

/-- Nothing is visited at or below a place that is not open. -/
theorem not_prefix_of_not_isOpen (hp : p ∈ u.graph.bodies) (hhidden : ¬p.IsOpen) :
    ∀ v ∈ u.visitsIn p.path, ¬p.trail <+: v.trail := by
  obtain ⟨-, root, hroot, htrail⟩ := IncludeGraph.exists_root hp
  intro v hv hprefix
  rw [visitsIn, hroot] at hv
  have hne : p.trail ≠ [] := by
    intro hnil
    rw [hnil] at htrail
    cases head?_of_mem_bodyTrails htrail
  -- a visit further down would have gone over the place itself
  exact hhidden ((u.exists_visit_iff htrail {}).1 (u.exists_visit_of_prefix hv hne hprefix))

/-- The tree of a sample file.

    void g() {}
    void h() {}
    void k() { g(); }
    struct S { friend void f() { h(); } }; -/
def friendTree : Node :=
  let node := Context.sampleNode
  let function (text name : String) (statements : List Node) : Node :=
    node "function_definition" "" text
      [node "primitive_type" "type" "void" [],
        Context.sampleDeclarator (name ++ "()") (node "identifier" "declarator" name []),
        node "compound_statement" "body" "" statements]
  let call (name : String) : Node :=
    node "expression_statement" "" (name ++ "();")
      [node "call_expression" "" (name ++ "()")
        [node "identifier" "function" name [], node "argument_list" "arguments" "()" []]]
  node "translation_unit" "" ""
    [function "void g() {}" "g" [],
      function "void h() {}" "h" [],
      function "void k() { g(); }" "k" [call "g"],
      node "struct_specifier" "" "struct S { friend void f() { h(); } }"
        [node "type_identifier" "name" "S" [],
          node "field_declaration_list" "body" "{ friend void f() { h(); } }"
            [node "friend_declaration" "" "friend void f() { h(); }"
              [function "void f() { h(); }" "f" [call "h"]]]]]

/-- The include graph of the sample file. -/
def friendGraph : IncludeGraph where
  files := OrderedMap.empty.insert "/p/a.cpp" friendTree
  order := ["/p/a.cpp"]

/-- The unit of the sample file. -/
def friendUnit : TranslationUnit :=
  ofGraph "/p/a.cpp" .cpp ⟨[], [], []⟩ friendGraph

/-- **Which bodies are searched.**  The functions of a unit that have a body were read off the places
of its bodies, and the uses in the text are those of the visited nodes.  If no node on the way to a
body is hidden, the function definition there is visited as one, and all that the search finds in
its body is among the uses.  Otherwise nothing at this place or below it is visited, so no call in
the body is a use. -/
theorem search_bodies (main : String) (language : Language) (search : SearchPath)
    (graph : IncludeGraph) :
    let u := ofGraph main language search graph
    List.Forall₂ FunctionSite.IsReadAt (u.functions.filter FunctionSite.body) graph.bodies ∧
      (u.textUses = graph.order.flatMap fun path => (u.visitsIn path).flatMap (u.usesAt path)) ∧
      ∀ p ∈ graph.bodies,
        (p.IsOpen → ∃ v ∈ u.visitsIn p.path, v.trail = p.trail ∧ ∃ n ∈ p.trail.getLast?,
          u.step p.path n v.scope = u.stepFunction p.path n v.scope ∧
          ∀ c ∈ n.namedChildren,
            c.isOneOf ["field_initializer_list", "compound_statement", "try_statement"] = true →
              ∃ w ∈ u.visitsIn p.path, w.trail = p.trail ++ [c] ∧
                (u.searchTree p.path c w.scope).uses <:+: u.textUses) ∧
        (¬p.IsOpen → ∀ v ∈ u.visitsIn p.path, ¬p.trail <+: v.trail) := by
  intro u
  refine ⟨readAt_bodies main language search graph, u.textUses_eq, fun p hp => ⟨?_, ?_⟩⟩
  · exact exists_visit_of_isOpen hp
  · exact not_prefix_of_not_isOpen hp

/-- In the sample file all four functions have bodies.  That of the friend is not searched: the call
of `g` is a use, and the call of `h` is none. -/
theorem search_bodies_sample :
    friendUnit.functions.map (fun s => (s.name, s.body)) =
        [("g", true), ("h", true), ("k", true), ("f", true)] ∧
      friendUnit.textUses = [.use .name (some 0)] ∧
      (∃ p ∈ friendGraph.bodies, p.IsOpen ∧ ∃ v ∈ friendUnit.visitsIn p.path, v.trail = p.trail) ∧
      ∃ p ∈ friendGraph.bodies, ¬p.IsOpen ∧
        ∀ v ∈ friendUnit.visitsIn p.path, ¬p.trail <+: v.trail := by
  have hopen : ∃ p ∈ friendGraph.bodies, ∀ n ∈ p.trail, n.kind ∉ ["friend_declaration",
      "type_definition", "preproc_if", "preproc_elif", "preproc_ifdef", "preproc_elifdef",
      "linkage_specification"] := by
    decide +kernel
  have hhidden : ∃ p ∈ friendGraph.bodies, ∃ n ∈ p.trail.dropLast,
      n.isOneOf ["friend_declaration", "type_definition"] = true := by
    decide +kernel
  obtain ⟨-, -, hplaces⟩ := search_bodies "/p/a.cpp" .cpp ⟨[], [], []⟩ friendGraph
  refine ⟨by decide +kernel, by decide +kernel, ?_, ?_⟩
  · obtain ⟨p, hp, hkinds⟩ := hopen
    have hp' := TreePlace.isOpen_of_kinds hkinds
    obtain ⟨v, hv, htrail, -⟩ := (hplaces p hp).1 hp'
    exact ⟨p, hp, hp', v, hv, htrail⟩
  · obtain ⟨p, hp, n, hn, hkind⟩ := hhidden
    have hp' := TreePlace.not_isOpen_of_mem hn hkind
    exact ⟨p, hp, hp', (hplaces p hp).2 hp'⟩

end TranslationUnit

end Unreferenced
