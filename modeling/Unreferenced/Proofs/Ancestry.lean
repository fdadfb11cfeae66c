/-
Unreferenced/Proofs/Ancestry.lean

What the search for the ancestors of a class finds, and in which order.

The search takes nodes from the front of a queue and puts at its end those next
to them that were not found before.  At any time the queue holds the rest of one
level, the nodes at some distance from the source, and after it the beginning of
the next one.  That is `Frontier`, and a step of the search keeps it
(`Frontier.step`).  Since a step finds only nodes of the next level, and nothing
nearer is left to be found, the nodes are found nearest first
(`pairwise_climb`); and since a level is found in full before the next one is
begun, all nodes are found that can be reached (`mem_climb`).

For a hierarchy this says that the ancestors of a class are its bases, their
bases and so on (`Hierarchy.mem_ancestors`), each once and nearest first, whether
the hierarchy has cycles or not.
-/
import Mathlib.Data.List.Nodup
import Mathlib.Logic.Relation
import Unreferenced.Class.Hierarchy

namespace Unreferenced

/-! ### Distances -/

section Search

variable {α : Type}

/-- A node is reached from another in so many steps. -/
inductive Steps (next : α → List α) (source : α) : Nat → α → Prop
  | refl : Steps next source 0 source
  | tail {n : Nat} {x y : α} : Steps next source n x → y ∈ next x → Steps next source (n + 1) y

theorem Steps.exists_succ {next : α → List α} {source y : α} {n : Nat}
    (h : Steps next source (n + 1) y) : ∃ x, Steps next source n x ∧ y ∈ next x := by
  cases h with
  | tail hx hy => exact ⟨_, hx, hy⟩

theorem Steps.pos_of_ne {next : α → List α} {source y : α} {n : Nat} (h : Steps next source n y)
    (hne : y ≠ source) : 0 < n := by
  cases h with
  | refl => exact absurd rfl hne
  | tail _ _ => exact Nat.succ_pos _

/-- Something is reached in one step or more exactly if it is reached along the steps. -/
theorem exists_steps_succ_iff {next : α → List α} {source y : α} :
    (∃ n, Steps next source (n + 1) y) ↔ Relation.TransGen (fun x y => y ∈ next x) source y := by
  constructor
  · rintro ⟨n, h⟩
    induction n generalizing y with
    | zero =>
      obtain ⟨x, hx, hy⟩ := h.exists_succ
      cases hx
      exact .single hy
    | succ n ih =>
      obtain ⟨x, hx, hy⟩ := h.exists_succ
      exact (ih hx).tail hy
  · intro h
    induction h with
    | single hy => exact ⟨0, Steps.refl.tail hy⟩
    | tail _ hy ih =>
      obtain ⟨n, hn⟩ := ih
      exact ⟨n + 1, hn.tail hy⟩

/-- One node is at most as far from the source as another. -/
def IsNearer (next : α → List α) (source : α) (x y : α) : Prop :=
  ∀ n, Steps next source n y → ∃ m ≤ n, Steps next source m x

/-! ### The levels of a search -/

/-- A search has found everything within a distance of the source, and `far` of the next level.  What
is left of that level is next to a node in `near`. -/
structure Levels (next : α → List α) (source : α) (remaining near far : List α) (d : Nat) : Prop where
  steps_near : ∀ x ∈ near, Steps next source d x
  steps_far : ∀ x ∈ far, Steps next source (d + 1) x
  beyond : ∀ x ∈ remaining, ∀ n, Steps next source n x → d < n
  adjacent : ∀ x ∈ remaining, Steps next source (d + 1) x → ∃ a ∈ near, x ∈ next a
  complete : ∀ x n, Steps next source n x → (∀ m, Steps next source m x → d < m) →
    x ∈ remaining ∨ x ∈ far

/-- The queue of a search holds the rest of one level and the beginning of the next. -/
def Frontier (next : α → List α) (source : α) (remaining queue : List α) : Prop :=
  ∃ near far d, queue = near ++ far ∧ Levels next source remaining near far d

variable {next : α → List α} {source : α} {remaining near far queue : List α} {d : Nat}

/-- When a level is used up, the next one has been found in full. -/
theorem Levels.shift (h : Levels next source remaining [] far d) :
    Levels next source remaining far [] (d + 1) := by
  have hbeyond : ∀ x ∈ remaining, ∀ n, Steps next source n x → d + 1 < n := by
    intro x hx n hn
    refine Nat.lt_of_le_of_ne (h.beyond x hx n hn) ?_
    rintro rfl
    obtain ⟨a, ha, -⟩ := h.adjacent x hx hn
    cases ha
  refine ⟨h.steps_far, List.forall_mem_nil _, hbeyond, ?_, ?_⟩
  · intro x hx hsteps
    obtain ⟨y, hy, hyx⟩ := hsteps.exists_succ
    -- the node before it is no nearer than this level, and the level is known
    have hfar : ∀ m, Steps next source m y → d < m := fun m hm =>
      Nat.lt_of_succ_lt_succ (hbeyond x hx (m + 1) (hm.tail hyx))
    rcases h.complete y _ hy hfar with hrem | hmem
    · exact absurd (hbeyond y hrem _ hy) (Nat.lt_irrefl _)
    · exact ⟨y, hmem, hyx⟩
  · intro x n hn hall
    rcases h.complete x n hn fun m hm => Nat.lt_of_succ_lt (hall m hm) with hrem | hmem
    · exact .inl hrem
    · exact absurd (hall _ (h.steps_far x hmem)) (Nat.lt_irrefl _)

/-- With an empty queue nothing can be reached any more. -/
theorem Frontier.not_steps (h : Frontier next source remaining []) {x : α} (hx : x ∈ remaining)
    (n : Nat) : ¬Steps next source n x := by
  obtain ⟨near, far, d, hqueue, h⟩ := h
  obtain ⟨rfl, rfl⟩ := List.append_eq_nil_iff.1 hqueue.symm
  have hlevels : ∀ k, Levels next source remaining [] [] (d + k) := by
    intro k
    induction k with
    | zero => exact h
    | succ k ih => exact ih.shift
  intro hn
  have := (hlevels n).beyond x hx n hn
  omega

variable [DecidableEq α]

theorem mem_without {nodes gone : List α} {x : α} :
    x ∈ without nodes gone ↔ x ∈ nodes ∧ x ∉ gone := by
  simp [without]

/-- Taking a node from a level finds the part of the next one that is next to it. -/
theorem Levels.take {c : α} (h : Levels next source remaining (c :: near) far d) :
    Levels next source (without remaining (among (next c) remaining)) near
      (far ++ among (next c) remaining) d := by
  refine ⟨?_, ?_, ?_, ?_, ?_⟩
  · exact fun x hx => h.steps_near x (List.mem_cons_of_mem c hx)
  · intro x hx
    rcases List.mem_append.1 hx with hx | hx
    · exact h.steps_far x hx
    · exact (h.steps_near c List.mem_cons_self).tail (mem_among.1 hx).1
  · exact fun x hx => h.beyond x (mem_without.1 hx).1
  · intro x hx hsteps
    obtain ⟨hrem, hnot⟩ := mem_without.1 hx
    obtain ⟨a, ha, hxa⟩ := h.adjacent x hrem hsteps
    rcases List.mem_cons.1 ha with rfl | ha
    · exact absurd (mem_among.2 ⟨hxa, hrem⟩) hnot
    · exact ⟨a, ha, hxa⟩
  · intro x n hn hall
    rcases h.complete x n hn hall with hrem | hmem
    · by_cases hfound : x ∈ among (next c) remaining
      · exact .inr (List.mem_append_right far hfound)
      · exact .inl (mem_without.2 ⟨hrem, hfound⟩)
    · exact .inr (List.mem_append_left _ hmem)

/-- One step of the search: what it finds is at one distance from the source, and nothing nearer was
left. -/
theorem Frontier.step {c : α} {rest : List α} (h : Frontier next source remaining (c :: rest)) :
    Frontier next source (without remaining (among (next c) remaining))
        (rest ++ among (next c) remaining) ∧
      ∃ d, (∀ x ∈ among (next c) remaining, Steps next source d x) ∧
        ∀ x ∈ remaining, ∀ n, Steps next source n x → d ≤ n := by
  -- the first node of the queue may be the first of a new level
  obtain ⟨near, far, d, rfl, hlevels⟩ : ∃ near far d, rest = near ++ far ∧
      Levels next source remaining (c :: near) far d := by
    obtain ⟨near, far, d, hqueue, hlevels⟩ := h
    rcases near with - | ⟨b, near⟩
    · rw [List.nil_append] at hqueue
      subst hqueue
      exact ⟨rest, [], d + 1, (List.append_nil rest).symm, hlevels.shift⟩
    · obtain ⟨rfl, rfl⟩ := List.cons.inj hqueue
      exact ⟨near, far, d, rfl, hlevels⟩
  refine ⟨⟨near, _, d, List.append_assoc near far _, hlevels.take⟩, d + 1, ?_, hlevels.beyond⟩
  exact fun x hx => (hlevels.steps_near c List.mem_cons_self).tail (mem_among.1 hx).1

/-- The search starts with its source in the queue and everything else still to be found. -/
theorem frontier_start {nodes : List α} (hnext : ∀ x, ∀ y ∈ next x, y ∈ nodes) (source : α) :
    Frontier next source (nodes.filter fun x => x ≠ source) [source] := by
  have hmem : ∀ x, x ∈ nodes.filter (fun x => x ≠ source) ↔ x ∈ nodes ∧ x ≠ source := by simp
  refine ⟨[source], [], 0, rfl, ?_, List.forall_mem_nil _, ?_, ?_, ?_⟩
  · intro x hx
    rw [List.mem_singleton.1 hx]
    exact .refl
  · exact fun x hx n hn => hn.pos_of_ne ((hmem x).1 hx).2
  · intro x _ hsteps
    obtain ⟨y, hy, hyx⟩ := hsteps.exists_succ
    cases hy
    exact ⟨source, List.mem_singleton_self source, hyx⟩
  · intro x n hn hall
    refine .inl ((hmem x).2 ⟨?_, ?_⟩)
    · obtain ⟨n, rfl⟩ : ∃ k, n = k + 1 := ⟨n - 1, by have := hall n hn; omega⟩
      obtain ⟨y, -, hyx⟩ := hn.exists_succ
      exact hnext y x hyx
    · rintro rfl
      exact Nat.lt_irrefl 0 (hall 0 .refl)

/-! ### What is found -/

theorem climb_subset (next : α → List α) (remaining queue : List α) :
    ∀ x ∈ climb next remaining queue, x ∈ remaining := by
  fun_induction climb next remaining queue with
  | case1 remaining => exact List.forall_mem_nil _
  | case2 remaining c rest found ih =>
    intro x hx
    rcases List.mem_append.1 hx with hx | hx
    · exact (mem_among.1 hx).2
    · exact (mem_without.1 (ih x hx)).1

/-- The search finds exactly the nodes that can be reached. -/
theorem mem_climb (h : Frontier next source remaining queue) {x : α} :
    x ∈ climb next remaining queue ↔ x ∈ remaining ∧ ∃ n, Steps next source n x := by
  fun_induction climb next remaining queue with
  | case1 remaining =>
    refine ⟨nofun, ?_⟩
    rintro ⟨hx, n, hn⟩
    exact absurd hn (h.not_steps hx n)
  | case2 remaining c rest found ih =>
    obtain ⟨hrest, d, hfound, -⟩ := h.step
    rw [List.mem_append, ih hrest, mem_without]
    constructor
    · rintro (hx | ⟨⟨hx, -⟩, hn⟩)
      · exact ⟨(mem_among.1 hx).2, d, hfound x hx⟩
      · exact ⟨hx, hn⟩
    · rintro ⟨hx, hn⟩
      by_cases hmem : x ∈ found
      · exact .inl hmem
      · exact .inr ⟨⟨hx, hmem⟩, hn⟩

/-- The search finds the nodes nearest first. -/
theorem pairwise_climb (h : Frontier next source remaining queue) :
    (climb next remaining queue).Pairwise (IsNearer next source) := by
  fun_induction climb next remaining queue with
  | case1 remaining => exact .nil
  | case2 remaining c rest found ih =>
    obtain ⟨hrest, d, hfound, hleft⟩ := h.step
    -- what is found in this step is at most as far as anything that was left
    have hnearer : ∀ x ∈ found, ∀ y ∈ remaining, IsNearer next source x y := fun x hx y hy n hn =>
      ⟨d, hleft y hy n hn, hfound x hx⟩
    refine List.pairwise_append.2 ⟨?_, ih hrest, ?_⟩
    · exact List.Pairwise.imp_of_mem (R := fun _ _ => True)
        (fun hx hy _ => hnearer _ hx _ (mem_among.1 hy).2)
        (List.pairwise_of_forall fun _ _ => trivial)
    · intro x hx y hy
      exact hnearer x hx y (mem_without.1 (climb_subset next _ _ y hy)).1

/-- The search finds no node twice. -/
theorem nodup_climb (hnext : ∀ x, (next x).Nodup) (remaining queue : List α) :
    (climb next remaining queue).Nodup := by
  fun_induction climb next remaining queue with
  | case1 remaining => exact .nil
  | case2 remaining c rest found ih =>
    refine List.nodup_append.2 ⟨(hnext c).filter _, ih, ?_⟩
    rintro x hx y hy rfl
    exact (mem_without.1 (climb_subset next _ _ x hy)).2 hx

end Search

/-! ### The hierarchy of the classes in a registry -/

namespace Hierarchy

variable {h : Hierarchy}

/-- A class is a direct base of another. -/
def IsBase (h : Hierarchy) (base derived : List String) : Prop :=
  (base, derived) ∈ h.edges

instance (base derived : List String) : Decidable (h.IsBase base derived) :=
  inferInstanceAs (Decidable ((base, derived) ∈ h.edges))

/-- No class is a base of itself, however indirect. -/
def Acyclic (h : Hierarchy) : Prop :=
  ∀ path, ¬Relation.TransGen h.IsBase path path

theorem mem_basePaths {base derived : List String} :
    base ∈ h.basePaths derived ↔ h.IsBase base derived := by
  simp [basePaths, IsBase, OrderedSet.mem_iff]

theorem mem_derivedPaths {base derived : List String} :
    derived ∈ h.derivedPaths base ↔ h.IsBase base derived := by
  simp [derivedPaths, IsBase, OrderedSet.mem_iff]

theorem nodup_basePaths (h : Hierarchy) (path : List String) : (h.basePaths path).Nodup := by
  refine List.Nodup.map_on ?_ (h.edges.nodup.filter _)
  rintro ⟨a, b⟩ he ⟨a', b'⟩ he' (rfl : a = a')
  have hb : b = path := of_decide_eq_true (List.mem_filter.1 he).2
  have hb' : b' = path := of_decide_eq_true (List.mem_filter.1 he').2
  rw [hb, hb']

theorem nodup_derivedPaths (h : Hierarchy) (path : List String) : (h.derivedPaths path).Nodup := by
  refine List.Nodup.map_on ?_ (h.edges.nodup.filter _)
  rintro ⟨a, b⟩ he ⟨a', b'⟩ he' (rfl : b = b')
  have ha : a = path := of_decide_eq_true (List.mem_filter.1 he).2
  have ha' : a' = path := of_decide_eq_true (List.mem_filter.1 he').2
  rw [ha, ha']

/-- A class is reached from another over so many bases, each one a base of the one before. -/
def Climbs (h : Hierarchy) (derived : List String) (n : Nat) (base : List String) : Prop :=
  Steps h.basePaths derived n base

/-- Bases and their bases are what is reached over one or more bases. -/
theorem exists_climbs_succ_iff {base derived : List String} :
    (∃ n, h.Climbs derived (n + 1) base) ↔ Relation.TransGen h.IsBase base derived := by
  have hswap : (fun x y => y ∈ h.basePaths x) = Function.swap h.IsBase := by
    funext x y
    exact propext mem_basePaths
  unfold Climbs
  rw [exists_steps_succ_iff, hswap, Relation.transGen_swap]

/-- Bases and the classes derived from them are known classes. -/
def IsClosed (h : Hierarchy) : Prop :=
  ∀ base derived, h.IsBase base derived → base ∈ h.paths ∧ derived ∈ h.paths

theorem mem_paths {path : List String} :
    path ∈ h.paths ↔ ∃ c, h.registry.get? path = some c := by
  constructor
  · intro hp
    obtain ⟨⟨p, c⟩, hmem, rfl⟩ := List.mem_map.1 hp
    exact ⟨c, OrderedMap.mem_toList.1 hmem⟩
  · rintro ⟨c, hc⟩
    exact List.mem_map.2 ⟨(path, c), OrderedMap.mem_toList.2 hc, rfl⟩

/-- The classes at known paths have just these paths. -/
theorem map_path_classesAt {paths : List (List String)} (hpaths : ∀ p ∈ paths, p ∈ h.paths) :
    (h.classesAt paths).map ClassType.path = paths := by
  induction paths with
  | nil => rfl
  | cons p paths ih =>
    obtain ⟨hp, hrest⟩ := List.forall_mem_cons.1 hpaths
    obtain ⟨c, hc⟩ := mem_paths.1 hp
    rw [classesAt, List.filterMap_cons_some hc, List.map_cons, h.registry.path_eq hc]
    exact congrArg (p :: ·) (ih hrest)

theorem mem_classesAt {paths : List (List String)} {c : ClassType} :
    c ∈ h.classesAt paths ↔ c.path ∈ paths ∧ h.registry.get? c.path = some c := by
  rw [classesAt, List.mem_filterMap]
  constructor
  · rintro ⟨p, hp, hc⟩
    rw [h.registry.path_eq hc]
    exact ⟨hp, hc⟩
  · rintro ⟨hp, hc⟩
    exact ⟨c.path, hp, hc⟩

/-! ### Ancestors -/

theorem map_path_ancestors (c : ClassType) :
    (h.ancestors c).map ClassType.path =
      climb h.basePaths (h.paths.filter fun p => p ≠ c.path) [c.path] := by
  refine map_path_classesAt fun p hp => ?_
  exact (List.mem_filter.1 (climb_subset _ _ _ p hp)).1

/-- No ancestor is listed twice. -/
theorem nodup_path_ancestors (c : ClassType) : ((h.ancestors c).map ClassType.path).Nodup := by
  rw [map_path_ancestors]
  exact nodup_climb h.nodup_basePaths _ _

section Closed

variable (hclosed : h.IsClosed) (c : ClassType)
include hclosed

theorem frontier_ancestors :
    Frontier h.basePaths c.path (h.paths.filter fun p => p ≠ c.path) [c.path] :=
  frontier_start (fun _ _ hy => (hclosed _ _ (mem_basePaths.1 hy)).1) c.path

/-- The ancestors of a class are the other classes among its bases, their bases and so on. -/
theorem mem_ancestors {b : ClassType} :
    b ∈ h.ancestors c ↔ h.registry.get? b.path = some b ∧ b.path ≠ c.path ∧
      Relation.TransGen h.IsBase b.path c.path := by
  rw [ancestors, mem_classesAt, mem_climb (frontier_ancestors hclosed c), List.mem_filter,
    ← exists_climbs_succ_iff]
  constructor
  · rintro ⟨⟨⟨-, hne⟩, n, hn⟩, hb⟩
    have hne := of_decide_eq_true hne
    refine ⟨hb, hne, n - 1, ?_⟩
    rw [Nat.sub_add_cancel (hn.pos_of_ne hne)]
    exact hn
  · rintro ⟨hb, hne, n, hn⟩
    exact ⟨⟨⟨mem_paths.2 ⟨b, hb⟩, decide_eq_true hne⟩, n + 1, hn⟩, hb⟩

/-- The ancestors are listed nearest first. -/
theorem pairwise_ancestors :
    (h.ancestors c).Pairwise fun a b => IsNearer h.basePaths c.path a.path b.path := by
  rw [← List.pairwise_map (f := ClassType.path), map_path_ancestors]
  exact pairwise_climb (frontier_ancestors hclosed c)

end Closed

end Hierarchy

/-! ### The hierarchy of a registry -/

namespace Registry

theorem get?_of_mem_values (r : Registry) {c : ClassType} (h : c ∈ r.classes.values) :
    r.get? c.path = some c := by
  obtain ⟨⟨path, d⟩, hmem, rfl⟩ := List.mem_map.1 h
  have hget : r.get? path = some d := OrderedMap.mem_toList.1 hmem
  rw [r.path_eq hget]
  exact hget

/-- A spelling is resolved to a class of the registry. -/
theorem get?_of_resolve? {r : Registry} {spelling : String} {enclosing : List String}
    {c : ClassType} (h : r.resolve? spelling enclosing = some c) : r.get? c.path = some c := by
  unfold resolve? named? at h
  dsimp only at h
  split at h
  · cases h
  split at h
  · next hfind =>
    obtain ⟨outer, -, hget⟩ := List.exists_of_findSome?_eq_some hfind
    cases h
    rw [r.path_eq hget]
    exact hget
  · exact r.get?_of_mem_values (List.mem_of_find?_eq_some h)

end Registry

namespace Hierarchy

theorem mem_spelledBases {r : Registry} {c : ClassType} {spelling : String}
    {base : Option ClassType} :
    (c, spelling, base) ∈ spelledBases r ↔
      c ∈ r.classes.values ∧ spelling ∈ c.bases ∧ r.resolve? spelling c.enclosing = base := by
  rw [spelledBases, List.mem_flatMap]
  constructor
  · rintro ⟨d, hd, hmem⟩
    obtain ⟨text, htext, heq⟩ := List.mem_map.1 hmem
    obtain ⟨rfl, rfl, rfl⟩ : d = c ∧ text = spelling ∧ r.resolve? text d.enclosing = base := by
      simpa using heq
    exact ⟨hd, htext, rfl⟩
  · rintro ⟨hc, hspelling, rfl⟩
    exact ⟨c, hc, List.mem_map_of_mem hspelling⟩

/-- A base of a class is what one of its spelled bases resolves to. -/
theorem exists_of_isBase {r : Registry} {base derived : List String}
    (h : (ofRegistry r).IsBase base derived) : ∃ c b spelling,
      c ∈ r.classes.values ∧ c.path = derived ∧ r.resolve? spelling c.enclosing = some b ∧
        b.path = base ∧ base ≠ derived := by
  obtain ⟨⟨c, spelling, resolved⟩, hmem, hedge⟩ := List.mem_filterMap.1 (OrderedSet.mem_ofList.1 h)
  obtain ⟨b, rfl, hb⟩ := Option.bind_eq_some_iff.1 hedge
  split at hb
  · cases hb
  · next hne =>
    cases hb
    obtain ⟨hc, -, hresolve⟩ := mem_spelledBases.1 hmem
    exact ⟨c, b, spelling, hc, rfl, hresolve, rfl, hne⟩

theorem isClosed_ofRegistry (r : Registry) : (ofRegistry r).IsClosed := by
  intro base derived hbase
  obtain ⟨c, b, spelling, hc, rfl, hb, rfl, -⟩ := exists_of_isBase hbase
  refine ⟨mem_paths.2 ⟨b, Registry.get?_of_resolve? hb⟩, mem_paths.2 ⟨c, ?_⟩⟩
  exact r.get?_of_mem_values hc

end Hierarchy

end Unreferenced
