/-
Unreferenced/Proofs/TopologicalOrder.lean

Bases come first in the topological order of a hierarchy.

The order is made in generations: a node belongs to the next generation when the
last node before it is processed.  So at any time a generation holds exactly the
nodes that are not done while everything before them is (`Stage`), and the nodes
that are done stand in order (`InOrder`).  When no generation is left, a node
that is not done has a node before it that is not done either
(`topologicalPart_spec`).  Without cycles there is no such node, since going back
from it would never end, and the order holds all nodes
(`mem_topologicalPart`).
-/
import Mathlib.Data.Fintype.EquivFin
import Mathlib.Order.WellFounded
import Unreferenced.Proofs.Ancestry

namespace Unreferenced

section Order

variable {α : Type}

/-- Every node of a list comes after all nodes previous to it, of which some may be done before the
list begins. -/
def InOrder (previous : α → List α) : List α → List α → Prop
  | _, [] => True
  | done, x :: rest => (∀ y ∈ previous x, y ∈ done) ∧ InOrder previous (done ++ [x]) rest

variable {previous next : α → List α} {nodes done generation : List α}

theorem InOrder.append {rest : List α} (h : InOrder previous done generation)
    (hrest : InOrder previous (done ++ generation) rest) :
    InOrder previous done (generation ++ rest) := by
  induction generation generalizing done with
  | nil =>
    rw [List.append_nil] at hrest
    exact hrest
  | cons x generation ih =>
    refine ⟨h.1, ih h.2 ?_⟩
    rw [List.append_assoc]
    exact hrest

/-- A list is in order if everything before its nodes is done when it begins. -/
theorem inOrder_of_forall (h : ∀ x ∈ generation, ∀ y ∈ previous x, y ∈ done) :
    InOrder previous done generation := by
  induction generation generalizing done with
  | nil => trivial
  | cons x generation ih =>
    obtain ⟨hx, hrest⟩ := List.forall_mem_cons.1 h
    exact ⟨hx, ih fun z hz y hy => List.mem_append_left [x] (hrest z hz y hy)⟩

/-- What comes before a node of a list in order is in the list, or was done before. -/
theorem InOrder.mem_of_previous (h : InOrder previous done generation) {x y : α}
    (hx : x ∈ generation) (hy : y ∈ previous x) : y ∈ done ++ generation := by
  induction generation generalizing done with
  | nil => cases hx
  | cons z generation ih =>
    rcases List.mem_cons.1 hx with rfl | hx
    · exact List.mem_append_left _ (h.1 y hy)
    · rw [List.append_cons]
      exact ih h.2 hx

/-! ### Generations -/

/-- A finite graph, with the nodes before and after each node. -/
structure IsGraph (previous next : α → List α) (nodes : List α) : Prop where
  nodup : nodes.Nodup
  nodup_next : ∀ x, (next x).Nodup
  mem_next : ∀ {x y}, y ∈ next x ↔ x ∈ previous y
  mem_nodes : ∀ {x y}, x ∈ previous y → x ∈ nodes ∧ y ∈ nodes

/-- Where the sorting stands: the nodes that are done are in order, and the generation holds the
nodes for which it is the turn. -/
structure Stage (previous : α → List α) (nodes waiting done generation : List α) : Prop where
  nodup : (done ++ generation).Nodup
  subset : ∀ x ∈ done, x ∈ nodes
  inOrder : InOrder previous [] done
  mem_waiting : ∀ x, x ∈ waiting ↔ x ∈ nodes ∧ x ∉ done
  mem_generation : ∀ x, x ∈ generation ↔ x ∈ nodes ∧ x ∉ done ∧ ∀ y ∈ previous x, y ∈ done

theorem stage_start (hgraph : IsGraph previous next nodes) :
    Stage previous nodes nodes [] (nodes.filter fun n => (previous n).isEmpty) where
  nodup := hgraph.nodup.filter _
  subset := List.forall_mem_nil _
  inOrder := trivial
  mem_waiting := by simp
  mem_generation := by simp [List.eq_nil_iff_forall_not_mem]

variable [DecidableEq α]

theorem fst_release (previous next : α → List α) (done generation : List α) :
    (release previous next done generation).1 = done ++ generation := by
  induction generation generalizing done with
  | nil => rw [release, List.append_nil]
  | cons x generation ih =>
    rw [release]
    dsimp only
    rw [ih, List.append_assoc]
    rfl

/-- What a generation releases: the nodes that were not free before it, and are free after it. -/
theorem mem_release (hgraph : IsGraph previous next nodes) (hnodup : (done ++ generation).Nodup)
    {c : α} :
    c ∈ (release previous next done generation).2 ↔
      (∀ y ∈ previous c, y ∈ done ++ generation) ∧ ∃ y ∈ previous c, y ∉ done := by
  induction generation generalizing done with
  | nil =>
    rw [release, List.append_nil]
    refine ⟨nofun, ?_⟩
    rintro ⟨hall, y, hy, hnot⟩
    exact absurd (hall y hy) hnot
  | cons x generation ih =>
    have hready : c ∈ (next x).filter (fun c => (previous c).all fun p => (done ++ [x]).contains p) ↔
        x ∈ previous c ∧ ∀ y ∈ previous c, y ∈ done ++ [x] := by
      simp [hgraph.mem_next]
    have hx : x ∉ done := fun hmem =>
      (List.nodup_append.1 hnodup).2.2 x hmem x List.mem_cons_self rfl
    rw [List.append_cons] at hnodup ⊢
    rw [release]
    dsimp only
    rw [List.mem_append, hready, ih hnodup]
    constructor
    · rintro (⟨hxc, hall⟩ | ⟨hall, y, hy, hnot⟩)
      · exact ⟨fun y hy => List.mem_append_left _ (hall y hy), x, hxc, hx⟩
      · exact ⟨hall, y, hy, fun hmem => hnot (List.mem_append_left _ hmem)⟩
    · rintro ⟨hall, y, hy, hnot⟩
      -- if nothing is missing after `x`, then `x` was what was missing
      by_cases hfree : ∀ y ∈ previous c, y ∈ done ++ [x]
      · rcases List.mem_append.1 (hfree y hy) with hmem | hmem
        · exact absurd hmem hnot
        · rw [List.mem_singleton.1 hmem] at hy
          exact .inl ⟨hy, hfree⟩
      · push Not at hfree
        exact .inr ⟨hall, hfree⟩

theorem nodup_release (hgraph : IsGraph previous next nodes) (hnodup : (done ++ generation).Nodup) :
    (release previous next done generation).2.Nodup := by
  induction generation generalizing done with
  | nil => exact .nil
  | cons x generation ih =>
    rw [List.append_cons] at hnodup
    rw [release]
    dsimp only
    refine List.nodup_append.2 ⟨(hgraph.nodup_next x).filter _, ih hnodup, ?_⟩
    -- what is released later still misses something after `x`
    rintro c hc d hd rfl
    obtain ⟨-, y, hy, hnot⟩ := (mem_release hgraph hnodup).1 hd
    have hall := (List.mem_filter.1 hc).2
    simp only [List.all_eq_true, List.contains_iff_mem] at hall
    exact hnot (hall y hy)

/-- One generation is processed. -/
theorem Stage.step {waiting : List α} (hgraph : IsGraph previous next nodes)
    (h : Stage previous nodes waiting done generation) :
    Stage previous nodes (without waiting generation) (done ++ generation)
      (release previous next done generation).2 := by
  have hsubset : ∀ x ∈ done ++ generation, x ∈ nodes := by
    intro x hx
    rcases List.mem_append.1 hx with hx | hx
    · exact h.subset x hx
    · exact ((h.mem_generation x).1 hx).1
  -- nothing is released that is done or belongs to the generation
  have hfresh : ∀ x ∈ (release previous next done generation).2, x ∉ done ++ generation := by
    intro x hx hmem
    obtain ⟨-, y, hy, hnot⟩ := (mem_release hgraph h.nodup).1 hx
    rcases List.mem_append.1 hmem with hmem | hmem
    · exact hnot (h.inOrder.mem_of_previous hmem hy)
    · exact hnot (((h.mem_generation x).1 hmem).2.2 y hy)
  refine ⟨?_, hsubset, ?_, ?_, ?_⟩
  · refine List.nodup_append.2 ⟨h.nodup, nodup_release hgraph h.nodup, ?_⟩
    rintro x hx y hy rfl
    exact hfresh x hy hx
  · refine h.inOrder.append (inOrder_of_forall fun x hx => ?_)
    exact ((h.mem_generation x).1 hx).2.2
  · intro x
    rw [mem_without, h.mem_waiting, List.mem_append, not_or, and_assoc]
  · intro x
    constructor
    · intro hx
      obtain ⟨hall, y, hy, -⟩ := (mem_release hgraph h.nodup).1 hx
      exact ⟨(hgraph.mem_nodes hy).2, hfresh x hx, hall⟩
    · rintro ⟨hx, hnot, hall⟩
      refine (mem_release hgraph h.nodup).2 ⟨hall, ?_⟩
      -- otherwise it would have been the turn of `x` already
      by_contra hnone
      push Not at hnone
      have hgen : x ∈ generation :=
        (h.mem_generation x).2 ⟨hx, fun hmem => hnot (List.mem_append_left _ hmem), hnone⟩
      exact hnot (List.mem_append_right done hgen)

/-- What the sorting comes to: nodes in order, each once, and none left whose turn it would be. -/
theorem generations_spec (hgraph : IsGraph previous next nodes) {waiting : List α}
    (h : Stage previous nodes waiting done generation) :
    Stage previous nodes
      (without nodes (generations previous next waiting done generation))
      (generations previous next waiting done generation) [] := by
  fun_induction generations previous next waiting done generation with
  | case1 waiting done generation processed _ ih =>
    have hfst : processed.1 = done ++ generation := fst_release previous next done generation
    rw [hfst] at ih ⊢
    exact ih (h.step hgraph)
  | case2 waiting done generation hnone =>
    -- a generation with a node in it would shorten the list of those that wait
    have hempty : generation = [] := by
      by_contra hne
      obtain ⟨x, hx⟩ := List.exists_mem_of_ne_nil _ hne
      obtain ⟨hnode, hnot, -⟩ := (h.mem_generation x).1 hx
      exact hnone (length_without_lt ((h.mem_waiting x).2 ⟨hnode, hnot⟩) hx)
    subst hempty
    exact ⟨h.nodup, h.subset, h.inOrder, fun x => mem_without, h.mem_generation⟩

theorem topologicalPart_spec (hgraph : IsGraph previous next nodes) :
    Stage previous nodes (without nodes (topologicalPart previous next nodes))
      (topologicalPart previous next nodes) [] :=
  generations_spec hgraph (stage_start hgraph)

/-- Without cycles, the sorting holds all nodes. -/
theorem mem_topologicalPart (hgraph : IsGraph previous next nodes)
    (hacyclic : ∀ x, ¬Relation.TransGen (fun x y => x ∈ previous y) x x) {x : α} :
    x ∈ topologicalPart previous next nodes ↔ x ∈ nodes := by
  have hstage := topologicalPart_spec hgraph
  refine ⟨hstage.subset x, fun hx => ?_⟩
  -- going back along the graph ends, since the nodes are finitely many
  have hwf : WellFounded fun a b : { x // x ∈ nodes } =>
      Relation.TransGen (fun x y => x ∈ previous y) a.1 b.1 := by
    have htrans : IsTrans { x // x ∈ nodes } fun a b =>
        Relation.TransGen (fun x y => x ∈ previous y) a.1 b.1 := ⟨fun _ _ _ hab hbc => hab.trans hbc⟩
    have hirrefl : Std.Irrefl fun a b : { x // x ∈ nodes } =>
        Relation.TransGen (fun x y => x ∈ previous y) a.1 b.1 := ⟨fun a => hacyclic a.1⟩
    exact Finite.wellFounded_of_trans_of_irrefl _
  suffices hall : ∀ a : { x // x ∈ nodes }, a.1 ∈ topologicalPart previous next nodes from
    hall ⟨x, hx⟩
  intro a
  induction a using hwf.induction with
  | _ a ih =>
    by_contra hnot
    refine absurd ((hstage.mem_generation a.1).2 ⟨a.2, hnot, fun y hy => ?_⟩) List.not_mem_nil
    exact ih ⟨y, (hgraph.mem_nodes hy).1⟩ (.single hy)

end Order

/-! ### The order of the classes -/

namespace Hierarchy

variable {h : Hierarchy}

theorem isGraph (hclosed : h.IsClosed) : IsGraph h.basePaths h.derivedPaths h.paths where
  nodup := h.registry.classes.nodup
  nodup_next := h.nodup_derivedPaths
  mem_next := mem_derivedPaths.trans mem_basePaths.symm
  mem_nodes := fun hx => hclosed _ _ (mem_basePaths.1 hx)

/-- Without cycles all classes are handled, each once and after its bases. -/
theorem topologicalOrder_spec (hclosed : h.IsClosed) (hacyclic : h.Acyclic) :
    InOrder h.basePaths [] (h.topologicalOrder.map ClassType.path) ∧
      (h.topologicalOrder.map ClassType.path).Nodup ∧
      ∀ c, c ∈ h.topologicalOrder ↔ h.registry.get? c.path = some c := by
  have hgraph := isGraph hclosed
  have hstage := topologicalPart_spec hgraph
  have hmem : ∀ p, p ∈ topologicalPart h.basePaths h.derivedPaths h.paths ↔ p ∈ h.paths := by
    intro p
    refine mem_topologicalPart hgraph fun x => ?_
    simp only [mem_basePaths]
    exact hacyclic x
  have hnodup : (topologicalPart h.basePaths h.derivedPaths h.paths).Nodup := by
    simpa using hstage.nodup
  -- the sorting is not cut short, so it is what is used
  have hsorted : h.topologicalPaths? = some (topologicalPart h.basePaths h.derivedPaths h.paths) := by
    unfold topologicalPaths?
    exact if_pos ((List.perm_ext_iff_of_nodup hnodup hgraph.nodup).2 hmem).length_eq
  have horder : h.topologicalOrder =
      h.classesAt (topologicalPart h.basePaths h.derivedPaths h.paths) := by
    rw [topologicalOrder, hsorted]
    rfl
  have hmap : h.topologicalOrder.map ClassType.path =
      topologicalPart h.basePaths h.derivedPaths h.paths := by
    rw [horder]
    exact map_path_classesAt fun p hp => (hmem p).1 hp
  rw [hmap]
  refine ⟨hstage.inOrder, hnodup, fun c => ?_⟩
  rw [horder, mem_classesAt, hmem, mem_paths]
  exact ⟨fun hc => hc.2, fun hc => ⟨⟨c, hc⟩, hc⟩⟩

end Hierarchy

end Unreferenced
