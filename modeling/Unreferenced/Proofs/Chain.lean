/-
Unreferenced/Proofs/Chain.lean

Chains partition the function sites of a translation unit.

Every site is put into one chain, and settling the overrides moves none.  The
numbers of the sites are distinct, so looking a member up gives the very chain it
was put into (`of?_eq_some`), and the declarations of a unit stand at the numbers
of their sites.

What follows for the view of a unit is `coherent_view`: the declarations of a
chain all have that chain, no declaration is an instantiation, and none is made
from a member of a class template.
-/
import Mathlib.Data.List.Basic
import Unreferenced.Proofs.Grouping
import Unreferenced.TranslationUnit.Basic

namespace Unreferenced

namespace Chain

/-! ### Finding the chain of a member -/

/-- With distinct numbers, a member is found in the chain it belongs to. -/
theorem of?_eq_some {chains : List Chain} {c : Chain} {m : Member}
    (hnodup : ((chains.flatMap members).map Member.index).Nodup) (hc : c ∈ chains)
    (hm : m ∈ c.members) : of? chains m = some c := by
  induction chains with
  | nil => cases hc
  | cons b rest ih =>
    rw [List.flatMap_cons, List.map_append, List.nodup_append] at hnodup
    obtain ⟨-, hrest, hdisjoint⟩ := hnodup
    have hindex : m.index ∈ c.indexes := List.mem_map_of_mem hm
    rw [of?, List.find?_cons]
    rcases List.mem_cons.1 hc with rfl | hc
    · rw [List.contains_iff_mem.2 hindex]
    · -- the chains before it have other numbers
      have hother : ¬m.index ∈ b.indexes := by
        intro hb
        exact hdisjoint _ hb _ (List.mem_map_of_mem (List.mem_flatMap_of_mem hc hm)) rfl
      rw [Bool.eq_false_iff.2 fun hb => hother (List.contains_iff_mem.1 hb)]
      exact ih hrest hc

end Chain

/-! ### Numbered sites -/

namespace Member

theorem length_number (sites : List FunctionSite) : (number sites).length = sites.length := by
  rw [number, List.length_map, List.length_zipIdx]

theorem map_index_number (sites : List FunctionSite) :
    (number sites).map index = List.range sites.length := by
  rw [number, List.map_map, List.range_eq_range']
  exact List.zipIdx_map_snd 0 sites

theorem nodup_index_number (sites : List FunctionSite) : ((number sites).map index).Nodup := by
  rw [map_index_number]
  exact List.nodup_range

/-- A numbered site stands at its number. -/
theorem getElem?_number_index {sites : List FunctionSite} {m : Member} (hm : m ∈ number sites) :
    (number sites)[m.index]? = some m := by
  obtain ⟨⟨s, i⟩, hs, rfl⟩ := List.mem_map.1 hm
  have hi : sites[i]? = some s := List.mem_zipIdx_iff_getElem?.1 hs
  show (number sites)[i]? = some ⟨i, s⟩
  rw [number, List.getElem?_map, List.getElem?_zipIdx, hi]
  simp

theorem site_mem_of_mem_number {sites : List FunctionSite} {m : Member} (hm : m ∈ number sites) :
    m.site ∈ sites := by
  obtain ⟨⟨s, i⟩, hs, rfl⟩ := List.mem_map.1 hm
  exact List.fst_mem_of_mem_zipIdx hs

end Member

/-! ### The declarations of a unit -/

/-- The declarations of one function all have the same chain, and every declaration is written in
the text: none is an instantiation or made from a member of a class template. -/
structure View.Coherent {δ : Type} (view : View δ) : Prop where
  chain_eq : ∀ d, ∀ e ∈ (view d).chain, (view e).chain = (view d).chain
  isInstantiation : ∀ d, (view d).isInstantiation = false
  memberPattern : ∀ d, (view d).memberPattern = none

namespace TranslationUnit

/-- The chains of a unit partition its sites, and its declarations are those of the chains. -/
structure Chained (u : TranslationUnit) : Prop where
  grouped : Chain.Grouped u.chains (Member.number u.functions)
  members_perm : (u.chains.flatMap Chain.members).Perm (Member.number u.functions)
  declarations_eq :
    u.declarations = (Chain.declarationsOf u.chains (Member.number u.functions)).toArray

theorem chained_ofGraph (main : String) (language : Language) (search : SearchPath)
    (graph : IncludeGraph) : (ofGraph main language search graph).Chained where
  grouped := (Chain.grouped_group _).settleOverrides _
  members_perm := by
    show ((Chain.settleOverrides _ (Chain.group _)).flatMap Chain.members).Perm _
    rw [Chain.flatMap_members_settleOverrides]
    exact Chain.members_group_perm _
  declarations_eq := rfl

/-- The units of compile commands have chains that partition their sites. -/
theorem chained_load (fs : FileSystem) (command : CompileCommand) (systemDirs : List String) :
    (load fs command systemDirs).Chained :=
  chained_ofGraph _ _ _ _

namespace Chained

variable {u : TranslationUnit} (hu : u.Chained)
include hu

theorem nodup_indexes : ((u.chains.flatMap Chain.members).map Member.index).Nodup :=
  (hu.members_perm.map Member.index).nodup_iff.2 (Member.nodup_index_number u.functions)

/-- Every site belongs to a chain. -/
theorem exists_chain {m : Member} (hm : m ∈ Member.number u.functions) :
    ∃ c ∈ u.chains, m ∈ c.members :=
  List.mem_flatMap.1 (hu.members_perm.mem_iff.2 hm)

theorem mem_number {c : Chain} {m : Member} (hc : c ∈ u.chains) (hm : m ∈ c.members) :
    m ∈ Member.number u.functions :=
  hu.members_perm.mem_iff.1 (List.mem_flatMap_of_mem hc hm)

/-- The declaration with the number of a member is that of the member in its chain. -/
theorem view_eq {c : Chain} {m : Member} (hc : c ∈ u.chains) (hm : m ∈ c.members) :
    u.view m.index = c.declaration m := by
  have hnumber := hu.mem_number hc hm
  -- every site has a chain, so no declaration is left out and the numbers are kept
  have hall : Chain.declarationsOf u.chains (Member.number u.functions) =
      (Member.number u.functions).map fun n =>
        ((Chain.of? u.chains n).map fun b => b.declaration n).getD default := by
    rw [Chain.declarationsOf, ← List.filterMap_eq_map]
    apply List.filterMap_congr
    intro n hn
    obtain ⟨b, hb, hnb⟩ := hu.exists_chain hn
    rw [Function.comp_apply, Chain.of?_eq_some hu.nodup_indexes hb hnb]
    rfl
  have hget := Member.getElem?_number_index hnumber
  unfold view
  rw [Array.getD_eq_getD_getElem?, hu.declarations_eq, List.getElem?_toArray, hall,
    List.getElem?_map, hget]
  show ((Chain.of? u.chains m).map fun b => b.declaration m).getD default = c.declaration m
  rw [Chain.of?_eq_some hu.nodup_indexes hc hm]
  rfl

/-- A number is that of a member, or stands for no declaration at all. -/
theorem view_cases (i : Nat) :
    (∃ c ∈ u.chains, ∃ m ∈ c.members, m.index = i ∧ u.view i = c.declaration m) ∨
      u.view i = default := by
  rcases Nat.lt_or_ge i u.functions.length with hi | hi
  · left
    have hmem : i ∈ (Member.number u.functions).map Member.index := by
      rw [Member.map_index_number]
      exact List.mem_range.2 hi
    obtain ⟨m, hm, rfl⟩ := List.mem_map.1 hmem
    obtain ⟨c, hc, hmc⟩ := hu.exists_chain hm
    exact ⟨c, hc, m, hmc, rfl, hu.view_eq hc hmc⟩
  · -- there are no more declarations than sites
    right
    have hlength : u.declarations.size ≤ i := by
      rw [hu.declarations_eq, List.size_toArray]
      refine Nat.le_trans (List.length_filterMap_le _ _) ?_
      rwa [Member.length_number]
    unfold view
    rw [Array.getD_eq_getD_getElem?, Array.getElem?_eq_none hlength]
    rfl

/-- The view of a unit whose chains partition its sites. -/
theorem coherent_view : u.view.Coherent where
  chain_eq := by
    intro i j hj
    rcases hu.view_cases i with ⟨c, hc, m, hm, -, hi⟩ | hi
    · -- what the chain of a member lists are again members of that chain
      rw [hi] at hj
      obtain ⟨n, hn, rfl⟩ := List.mem_map.1 (show j ∈ c.members.map Member.index from hj)
      rw [hi, hu.view_eq hc hn]
      rfl
    · rw [hi] at hj
      cases hj
  isInstantiation := by
    intro i
    rcases hu.view_cases i with ⟨c, -, m, -, -, hi⟩ | hi
    · rw [hi]
      rfl
    · rw [hi]
      rfl
  memberPattern := by
    intro i
    rcases hu.view_cases i with ⟨c, -, m, -, -, hi⟩ | hi
    · rw [hi]
      rfl
    · rw [hi]
      rfl

end Chained

end TranslationUnit

end Unreferenced
