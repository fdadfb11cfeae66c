/-
Unreferenced/Proofs/Grouping.lean

Grouping puts declarations into chains by their keys.

One declaration changes the chains in one of two ways (`add_cases`): it goes to
the end of the chain with its key or, if there is none or the declaration has no
key, becomes a chain of its own at the end.  Everything else follows from that.
No declaration is lost or repeated (`members_group_perm`), and the chains are
`Grouped`: each one, and also the list of the first declarations, keeps the order
of the declarations, all declarations of a chain have its key, no two chains have
one key, and a chain without a key has one declaration.

Settling overrides changes nothing of this.
-/
import Mathlib.Data.List.Pairwise
import Unreferenced.TranslationUnit.Override

namespace Unreferenced.Chain

/-! ### One declaration -/

theorem members_push (c : Chain) (m : Member) : (c.push m).members = c.members ++ [m] :=
  rfl

/-- A chain of one declaration. -/
def single (m : Member) : Chain :=
  { key := m.site.key?, canonical := m }

theorem place_cases (key : String) (m : Member) (chains : List Chain) :
    (∃ before c after, chains = before ++ c :: after ∧ c.key = some key ∧
        place key m chains = before ++ c.push m :: after) ∨
      (∀ c ∈ chains, c.key ≠ some key) ∧
        place key m chains = chains ++ [{ key := some key, canonical := m }] := by
  induction chains with
  | nil => exact .inr ⟨List.forall_mem_nil _, rfl⟩
  | cons c chains ih =>
    rw [place]
    by_cases hc : c.key = some key
    · rw [if_pos hc]
      exact .inl ⟨[], c, chains, rfl, hc, rfl⟩
    · rw [if_neg hc]
      rcases ih with ⟨before, b, after, rfl, hb, hplace⟩ | ⟨hnone, hplace⟩
      · rw [hplace]
        exact .inl ⟨c :: before, b, after, rfl, hb, rfl⟩
      · rw [hplace]
        exact .inr ⟨List.forall_mem_cons.2 ⟨hc, hnone⟩, rfl⟩

/-- What adding a declaration can do. -/
theorem add_cases (chains : List Chain) (m : Member) :
    (∃ before c after, chains = before ++ c :: after ∧ c.key = m.site.key? ∧ c.key ≠ none ∧
        add chains m = before ++ c.push m :: after) ∨
      (∀ c ∈ chains, c.key = m.site.key? → c.key = none) ∧ add chains m = chains ++ [single m] := by
  unfold add single
  rcases m.site.key? with - | key
  · exact .inr ⟨fun c _ h => h, rfl⟩
  · rcases place_cases key m chains with ⟨before, c, after, hchains, hc, hplace⟩ | ⟨hnone, hplace⟩
    · exact .inl ⟨before, c, after, hchains, hc, by rw [hc]; exact Option.some_ne_none key, hplace⟩
    · exact .inr ⟨fun c hc h => absurd h (hnone c hc), hplace⟩

/-! ### No declaration is lost -/

theorem members_add_perm (chains : List Chain) (m : Member) :
    ((add chains m).flatMap members).Perm (m :: chains.flatMap members) := by
  rcases add_cases chains m with ⟨before, c, after, rfl, -, -, hadd⟩ | ⟨-, hadd⟩
  · simp only [hadd, List.flatMap_append, List.flatMap_cons, members_push, List.append_assoc,
      List.singleton_append]
    rw [← List.append_assoc, ← List.append_assoc]
    exact List.perm_middle
  · rw [hadd, List.flatMap_append]
    exact List.perm_append_singleton m _

theorem members_foldl_add_perm (ms : List Member) (chains : List Chain) :
    ((ms.foldl add chains).flatMap members).Perm (chains.flatMap members ++ ms) := by
  induction ms generalizing chains with
  | nil =>
    rw [List.append_nil]
    exact List.Perm.refl _
  | cons m ms ih =>
    refine (ih (add chains m)).trans ?_
    refine ((members_add_perm chains m).append_right ms).trans ?_
    exact List.perm_middle.symm

/-- Grouping loses no member and repeats none. -/
theorem members_group_perm (ms : List Member) : ((group ms).flatMap members).Perm ms :=
  members_foldl_add_perm ms []

/-! ### Keys and order -/

/-- The chains are those of some declarations: everything stands in the order of the declarations,
and the chains are told apart by their keys. -/
structure Grouped (chains : List Chain) (ms : List Member) : Prop where
  members_sublist : ∀ c ∈ chains, c.members.Sublist ms
  canonical_sublist : (chains.map canonical).Sublist ms
  key_eq : ∀ c ∈ chains, ∀ m ∈ c.members, m.site.key? = c.key
  later_eq_nil : ∀ c ∈ chains, c.key = none → c.later = []
  keys_pairwise : (chains.map key).Pairwise fun a b => a = b → a = none

namespace Grouped

variable {chains : List Chain} {ms : List Member}

/-- A chain takes one more declaration with its key. -/
theorem push {before after : List Chain} {c : Chain} (h : Grouped (before ++ c :: after) ms)
    {m : Member} (hkey : c.key = m.site.key?) (hne : c.key ≠ none) :
    Grouped (before ++ c.push m :: after) (ms ++ [m]) := by
  have hc : c ∈ before ++ c :: after := List.mem_append_right _ List.mem_cons_self
  -- a chain is the one that has grown, or it was there before
  have hmem : ∀ b ∈ before ++ c.push m :: after, b = c.push m ∨ b ∈ before ++ c :: after := by
    simp only [List.mem_append, List.mem_cons]
    rintro b (hb | rfl | hb)
    · exact .inr (.inl hb)
    · exact .inl rfl
    · exact .inr (.inr (.inr hb))
  have hmap : ∀ {α : Type} (f : Chain → α), f (c.push m) = f c →
      (before ++ c.push m :: after).map f = (before ++ c :: after).map f := by
    intro α f hf
    rw [List.map_append, List.map_append, List.map_cons, List.map_cons, hf]
  constructor
  · intro b hb
    rcases hmem b hb with rfl | hb
    · exact (h.members_sublist c hc).append_right [m]
    · exact (h.members_sublist b hb).trans (List.sublist_append_left ms [m])
  · rw [hmap canonical rfl]
    exact h.canonical_sublist.trans (List.sublist_append_left ms [m])
  · intro b hb n hn
    rcases hmem b hb with rfl | hb
    · rw [members_push] at hn
      rcases List.mem_append.1 hn with hn | hn
      · exact h.key_eq c hc n hn
      · rw [List.mem_singleton.1 hn, ← hkey]
        rfl
    · exact h.key_eq b hb n hn
  · intro b hb hnone
    rcases hmem b hb with rfl | hb
    · exact absurd hnone hne
    · exact h.later_eq_nil b hb hnone
  · rw [hmap key rfl]
    exact h.keys_pairwise

/-- A declaration with a new key, or without one, is a chain of its own. -/
theorem concat_single (h : Grouped chains ms) {m : Member}
    (hnew : ∀ c ∈ chains, c.key = m.site.key? → c.key = none) :
    Grouped (chains ++ [single m]) (ms ++ [m]) where
  members_sublist := by
    intro c hc
    rcases List.mem_append.1 hc with hc | hc
    · exact (h.members_sublist c hc).trans (List.sublist_append_left ms [m])
    · rw [List.mem_singleton.1 hc]
      exact List.sublist_append_right ms [m]
  canonical_sublist := by
    rw [List.map_append]
    exact h.canonical_sublist.append_right [m]
  key_eq := by
    intro c hc n hn
    rcases List.mem_append.1 hc with hc | hc
    · exact h.key_eq c hc n hn
    · cases List.mem_singleton.1 hc
      rw [List.mem_singleton.1 hn]
      rfl
  later_eq_nil := by
    intro c hc hnone
    rcases List.mem_append.1 hc with hc | hc
    · exact h.later_eq_nil c hc hnone
    · rw [List.mem_singleton.1 hc]
      rfl
  keys_pairwise := by
    rw [List.map_append, List.pairwise_append]
    refine ⟨h.keys_pairwise, List.pairwise_singleton _ _, ?_⟩
    intro a ha b hb
    obtain ⟨c, hc, rfl⟩ := List.mem_map.1 ha
    rw [List.mem_singleton.1 hb]
    exact hnew c hc

theorem add (h : Grouped chains ms) (m : Member) : Grouped (add chains m) (ms ++ [m]) := by
  rcases add_cases chains m with ⟨before, c, after, rfl, hkey, hne, hadd⟩ | ⟨hnew, hadd⟩
  · rw [hadd]
    exact h.push hkey hne
  · rw [hadd]
    exact h.concat_single hnew

theorem foldl_add (h : Grouped chains ms) (ns : List Member) :
    Grouped (ns.foldl Chain.add chains) (ms ++ ns) := by
  induction ns generalizing chains ms with
  | nil =>
    rw [List.append_nil]
    exact h
  | cons n ns ih =>
    rw [List.foldl_cons, List.append_cons]
    exact ih (h.add n)

end Grouped

/-- The chains of some declarations are grouped. -/
theorem grouped_group (ms : List Member) : Grouped (group ms) ms := by
  have hnil : Grouped [] [] :=
    ⟨List.forall_mem_nil _, List.Sublist.refl _, List.forall_mem_nil _, List.forall_mem_nil _,
      List.Pairwise.nil⟩
  exact hnil.foldl_add ms

/-! ### Settling overrides -/

/-- The function changes at most what a chain overrides. -/
def KeepsDeclarations (f : Chain → Chain) : Prop :=
  ∀ c, ∃ overridden, f c = { c with overridden := overridden }

/-- What holds whatever the chains override still holds when that is settled. -/
theorem settleOverrides_induction {P : List Chain → Prop}
    (hmap : ∀ chains f, KeepsDeclarations f → P chains → P (chains.map f)) (h : Hierarchy)
    {chains : List Chain} (hP : P chains) : P (settleOverrides h chains) := by
  unfold settleOverrides
  induction h.topologicalOrder generalizing chains with
  | nil => exact hP
  | cons k classes ih =>
    refine ih (hmap chains _ ?_ hP)
    intro c
    dsimp only
    split
    · exact ⟨_, rfl⟩
    · exact ⟨c.overridden, rfl⟩

namespace KeepsDeclarations

variable {f : Chain → Chain} (hf : KeepsDeclarations f) (c : Chain)
include hf

theorem key_eq : (f c).key = c.key := by
  obtain ⟨overridden, hc⟩ := hf c
  rw [hc]

theorem canonical_eq : (f c).canonical = c.canonical := by
  obtain ⟨overridden, hc⟩ := hf c
  rw [hc]

theorem later_eq : (f c).later = c.later := by
  obtain ⟨overridden, hc⟩ := hf c
  rw [hc]

theorem members_eq : (f c).members = c.members := by
  rw [members, hf.canonical_eq, hf.later_eq]
  rfl

end KeepsDeclarations

theorem flatMap_members_settleOverrides (h : Hierarchy) (chains : List Chain) :
    (settleOverrides h chains).flatMap members = chains.flatMap members := by
  apply settleOverrides_induction (P := fun settled => settled.flatMap members = chains.flatMap members)
  · intro settled f hf heq
    rw [List.flatMap_map]
    simpa only [hf.members_eq] using heq
  · rfl

namespace Grouped

variable {chains : List Chain} {ms : List Member}

theorem settleOverrides (h : Grouped chains ms) (hierarchy : Hierarchy) :
    Grouped (settleOverrides hierarchy chains) ms := by
  apply settleOverrides_induction (P := fun settled => Grouped settled ms) ?_ hierarchy h
  intro settled f hf h
  constructor
  · simpa only [List.forall_mem_map, hf.members_eq] using h.members_sublist
  · simpa only [List.map_map, Function.comp_def, hf.canonical_eq] using h.canonical_sublist
  · simpa only [List.forall_mem_map, hf.members_eq, hf.key_eq] using h.key_eq
  · simpa only [List.forall_mem_map, hf.later_eq, hf.key_eq] using h.later_eq_nil
  · simpa only [List.map_map, Function.comp_def, hf.key_eq] using h.keys_pairwise

/-! ### Which declarations share a chain -/

/-- Two chains never have one key. -/
theorem eq_of_key (h : Grouped chains ms) {c d : Chain} (hc : c ∈ chains) (hd : d ∈ chains)
    (hkey : c.key = d.key) (hne : c.key ≠ none) : c = d := by
  by_contra hcd
  have hpairwise := List.pairwise_map.1 h.keys_pairwise
  have hsymm : Std.Symm fun c d : Chain => c.key = d.key → c.key = none :=
    ⟨fun a b hab hba => hba.trans (hab hba.symm)⟩
  exact hne (hpairwise.forall hc hd hcd hkey)

/-- Two declarations share a chain exactly if they have one key. -/
theorem share_iff (h : Grouped chains ms) (hperm : (chains.flatMap members).Perm ms) {m n : Member}
    (hm : m ∈ ms) (hn : n ∈ ms) (hmn : m ≠ n) :
    (∃ c ∈ chains, m ∈ c.members ∧ n ∈ c.members) ↔
      m.site.key? = n.site.key? ∧ m.site.key? ≠ none := by
  constructor
  · rintro ⟨c, hc, hmc, hnc⟩
    rw [h.key_eq c hc m hmc, h.key_eq c hc n hnc]
    refine ⟨rfl, fun hnone => hmn ?_⟩
    -- a chain without a key has no second declaration
    rw [members, h.later_eq_nil c hc hnone] at hmc hnc
    rw [List.mem_singleton.1 hmc, List.mem_singleton.1 hnc]
  · rintro ⟨hkey, hne⟩
    obtain ⟨c, hc, hmc⟩ := List.mem_flatMap.1 (hperm.mem_iff.2 hm)
    obtain ⟨d, hd, hnd⟩ := List.mem_flatMap.1 (hperm.mem_iff.2 hn)
    rw [h.key_eq c hc m hmc] at hkey hne
    rw [h.key_eq d hd n hnd] at hkey
    cases h.eq_of_key hc hd hkey hne
    exact ⟨c, hc, hmc, hnd⟩

end Grouped

end Unreferenced.Chain
