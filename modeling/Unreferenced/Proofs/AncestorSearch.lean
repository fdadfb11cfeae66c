/-
Unreferenced/Proofs/AncestorSearch.lean

The search for the ancestors of a class as a machine, and what it has found when
it stops.

The machine keeps the classes found so far and a queue of those whose bases were
not looked at yet.  A step takes a class from the front of the queue and takes up
its bases one after the other, leaving out the class where the search started and
everything found before.  Nothing is found twice, so the queue runs empty on every
hierarchy, with cycles or without, and what was found then are the ancestors
(`Search.mem_eval_ancestors`).

The ancestors are described by what is written in the classes themselves: one
class derives from another if it spells a base that resolves to it
(`Registry.Derives`), and a descent is a list of classes each of which derives
from the one before (`Registry.IsDescent`).  Main statement: the search ends, and
lists every other class from which there is a descent, once, in the order of the
shortest descents (`ancestors_exact`).
-/
import Mathlib.Computability.StateTransition
import Mathlib.Order.Lattice.Nat
import Unreferenced.Proofs.Ancestry

namespace Unreferenced

open StateTransition

/-! ### Derivations -/

namespace Registry

variable {r : Registry} {a b c : ClassType}

/-- A class of the registry spells a base that resolves to another class. -/
structure Derives (r : Registry) (base derived : ClassType) : Prop where
  known : r.get? derived.path = some derived
  spelled : ∃ spelling ∈ derived.bases, r.resolve? spelling derived.enclosing = some base
  ne : base.path ≠ derived.path

theorem Derives.get?_base (h : r.Derives a b) : r.get? a.path = some a := by
  obtain ⟨spelling, -, hresolve⟩ := h.spelled
  exact get?_of_resolve? hresolve

/-- Different classes of a registry have different paths. -/
theorem path_ne_iff (ha : r.get? a.path = some a) (hb : r.get? b.path = some b) :
    a.path ≠ b.path ↔ a ≠ b := by
  refine not_congr ⟨fun hpath => ?_, fun h => h ▸ rfl⟩
  rw [hpath, hb] at ha
  exact (Option.some.inj ha).symm

/-- The edges of the hierarchy are the derivations. -/
theorem isBase_ofRegistry_iff {base derived : List String} :
    (Hierarchy.ofRegistry r).IsBase base derived ↔
      ∃ a b, r.Derives a b ∧ a.path = base ∧ b.path = derived := by
  constructor
  · intro h
    obtain ⟨⟨b, spelling, resolved⟩, hmem, hedge⟩ :=
      List.mem_filterMap.1 (OrderedSet.mem_ofList.1 h)
    obtain ⟨hb, hspelling, hresolve⟩ := Hierarchy.mem_spelledBases.1 hmem
    obtain ⟨a, rfl, ha⟩ := Option.bind_eq_some_iff.1 hedge
    split at ha
    · cases ha
    · next hne =>
      cases ha
      exact ⟨a, b, ⟨r.get?_of_mem_values hb, ⟨spelling, hspelling, hresolve⟩, hne⟩, rfl, rfl⟩
  · rintro ⟨a, b, hderives, rfl, rfl⟩
    obtain ⟨spelling, hspelling, hresolve⟩ := hderives.spelled
    have hvalue : b ∈ r.classes.values :=
      List.mem_map.2 ⟨(b.path, b), OrderedMap.mem_toList.2 hderives.known, rfl⟩
    have hmem := Hierarchy.mem_spelledBases.2 ⟨hvalue, hspelling, hresolve⟩
    refine OrderedSet.mem_ofList.2 (List.mem_filterMap.2 ⟨_, hmem, ?_⟩)
    exact if_neg hderives.ne

/-! ### Descents -/

/-- The classes after `base` on a way down to `derived`, each derived from the one before it. -/
def IsDescent (r : Registry) (base derived : ClassType) (way : List ClassType) : Prop :=
  List.IsChain r.Derives (base :: way) ∧ (base :: way).getLast? = some derived

/-- The length of the shortest descent from one class to another. -/
noncomputable def descentLength (r : Registry) (base derived : ClassType) : Nat :=
  sInf {n | ∃ way, r.IsDescent base derived way ∧ way.length = n}

theorem isDescent_cons {way : List ClassType} :
    r.IsDescent a c (b :: way) ↔ r.Derives a b ∧ r.IsDescent b c way := by
  unfold IsDescent
  rw [List.isChain_cons_cons, List.getLast?_cons_cons, and_assoc]

/-- Climbing from a class over its bases is going down a descent, backwards. -/
theorem climbs_iff_isDescent (ha : r.get? a.path = some a) (hc : r.get? c.path = some c) {n : Nat} :
    (Hierarchy.ofRegistry r).Climbs c.path n a.path ↔
      ∃ way, r.IsDescent a c way ∧ way.length = n := by
  induction n generalizing a with
  | zero =>
    constructor
    · intro h
      have heq : a = c := by
        by_contra hne
        exact absurd (h.pos_of_ne ((path_ne_iff ha hc).2 hne)) (Nat.lt_irrefl 0)
      exact ⟨[], ⟨.singleton a, by rw [heq]; rfl⟩, rfl⟩
    · rintro ⟨way, ⟨-, hlast⟩, hlength⟩
      rw [List.length_eq_zero_iff.1 hlength] at hlast
      cases hlast
      exact .refl
  | succ n ih =>
    constructor
    · intro h
      obtain ⟨path, hpath, hbase⟩ := h.exists_succ
      obtain ⟨a', b, hderives, ha', rfl⟩ := isBase_ofRegistry_iff.1 (Hierarchy.mem_basePaths.1 hbase)
      obtain rfl : a' = a := by
        by_contra hne
        exact (path_ne_iff hderives.get?_base ha).2 hne ha'
      obtain ⟨way, hway, rfl⟩ := (ih hderives.known).1 hpath
      exact ⟨b :: way, isDescent_cons.2 ⟨hderives, hway⟩, rfl⟩
    · rintro ⟨way, hway, hlength⟩
      obtain ⟨b, way, rfl⟩ := List.exists_cons_of_length_eq_add_one hlength
      obtain ⟨hderives, hway⟩ := isDescent_cons.1 hway
      have hclimbs := (ih hderives.known).2 ⟨way, hway, Nat.succ.inj hlength⟩
      exact hclimbs.tail
        (Hierarchy.mem_basePaths.2 (isBase_ofRegistry_iff.2 ⟨a, b, hderives, rfl, rfl⟩))

end Registry

/-! ### The search step by step -/

namespace Hierarchy

/-- A search under way: what was found, in this order, and what is still to be looked at. -/
structure Search where
  found : List (List String)
  queue : List (List String)

namespace Search

/-- Take up a base, unless it is where the search started or was found before. -/
def takeUp (source : List String) (s : Search) (base : List String) : Search :=
  if base = source ∨ base ∈ s.found then s else ⟨s.found ++ [base], s.queue ++ [base]⟩

/-- Take up the bases of the class at the front of the queue. -/
def step (h : Hierarchy) (source : List String) (s : Search) : Option Search :=
  match s.queue with
  | [] => none
  | current :: queue => some ((h.basePaths current).foldl (takeUp source) ⟨s.found, queue⟩)

/-- Bases that differ from each other are taken up as far as they are new. -/
theorem foldl_takeUp {bases : List (List String)} (hbases : bases.Nodup) (source : List String)
    (found queue : List (List String)) :
    bases.foldl (takeUp source) ⟨found, queue⟩ =
      ⟨found ++ bases.filter fun b => b ≠ source ∧ b ∉ found,
        queue ++ bases.filter fun b => b ≠ source ∧ b ∉ found⟩ := by
  induction bases generalizing found queue with
  | nil => simp
  | cons base bases ih =>
    obtain ⟨hnot, hrest⟩ := List.nodup_cons.1 hbases
    rw [List.foldl_cons, takeUp]
    split
    · next hold =>
      have hdrop : ¬(base ≠ source ∧ base ∉ found) := by tauto
      rw [ih hrest, List.filter_cons_of_neg (by simpa using hdrop)]
    · next hnew =>
      -- the base just found does not come again
      have hsame : (bases.filter fun b => b ≠ source ∧ b ∉ found ++ [base]) =
          bases.filter fun b => b ≠ source ∧ b ∉ found := by
        apply List.filter_congr
        intro b hb
        have hne : b ≠ base := fun heq => hnot (heq ▸ hb)
        simp [hne]
      have hkeep : base ≠ source ∧ base ∉ found := by tauto
      rw [ih hrest, hsame, List.filter_cons_of_pos (by simpa using hkeep)]
      simp

variable {h : Hierarchy}

/-- From any point on the search ends with what can still be climbed to, added at the end. -/
theorem reaches_climb (hclosed : h.IsClosed) (source : List String)
    (found remaining queue : List (List String))
    (hremaining : ∀ path ∈ h.paths, path ∈ remaining ↔ path ≠ source ∧ path ∉ found) :
    Reaches (step h source) ⟨found, queue⟩ ⟨found ++ climb h.basePaths remaining queue, []⟩ := by
  fun_induction climb h.basePaths remaining queue generalizing found with
  | case1 remaining => rw [List.append_nil]; exact .refl
  | case2 remaining c rest fresh ih =>
    -- what is new in a step is what the climb takes from the remaining paths
    have hfresh : ((h.basePaths c).filter fun b => b ≠ source ∧ b ∉ found) = fresh := by
      apply List.filter_congr
      intro b hb
      have hpath := (hclosed _ _ (mem_basePaths.1 hb)).1
      simp [hremaining b hpath]
    have hstep : step h source ⟨found, c :: rest⟩ = some ⟨found ++ fresh, rest ++ fresh⟩ := by
      show some _ = _
      rw [foldl_takeUp (h.nodup_basePaths c), hfresh]
    rw [← List.append_assoc]
    refine .head hstep (ih _ fun path hpath => ?_)
    rw [mem_without, hremaining path hpath, List.mem_append]
    tauto

/-- The search comes to an end, and has found the ancestors then. -/
theorem mem_eval_ancestors (hclosed : h.IsClosed) (c : ClassType) :
    ⟨(h.ancestors c).map ClassType.path, []⟩ ∈ eval (step h c.path) ⟨[], [c.path]⟩ := by
  refine mem_eval.2 ⟨?_, rfl⟩
  rw [map_path_ancestors]
  refine reaches_climb hclosed c.path [] _ _ fun path hpath => ?_
  simp [hpath]

end Search

/-! ### What is found -/

section Known

variable {r : Registry} {c : ClassType} (hc : r.get? c.path = some c)
include hc

theorem mem_ancestors_iff_isDescent {a : ClassType} :
    a ∈ (ofRegistry r).ancestors c ↔ a ≠ c ∧ ∃ way, r.IsDescent a c way := by
  rw [mem_ancestors (isClosed_ofRegistry r), ← exists_climbs_succ_iff]
  constructor
  · rintro ⟨ha, hne, n, hn⟩
    obtain ⟨way, hway, -⟩ := (Registry.climbs_iff_isDescent ha hc).1 hn
    exact ⟨(Registry.path_ne_iff ha hc).1 hne, way, hway⟩
  · rintro ⟨hne, way, hway⟩
    -- a descent to another class starts with a class that something derives from
    obtain ⟨b, way, rfl⟩ : ∃ b rest, way = b :: rest := by
      refine List.exists_cons_of_ne_nil ?_
      rintro rfl
      exact hne (Option.some.inj hway.2)
    have ha : r.get? a.path = some a := (Registry.isDescent_cons.1 hway).1.get?_base
    refine ⟨ha, (Registry.path_ne_iff ha hc).2 hne, way.length, ?_⟩
    exact (Registry.climbs_iff_isDescent ha hc).2 ⟨b :: way, hway, rfl⟩

theorem pairwise_descentLength_ancestors :
    ((ofRegistry r).ancestors c).Pairwise fun a b =>
      r.descentLength a c ≤ r.descentLength b c := by
  refine (pairwise_ancestors (isClosed_ofRegistry r) c).imp_of_mem ?_
  intro a b ha hb hnearer
  have hknown : ∀ x ∈ (ofRegistry r).ancestors c, r.get? x.path = some x := fun x hx =>
    ((mem_ancestors (isClosed_ofRegistry r) c).1 hx).1
  obtain ⟨-, way, hway⟩ := (mem_ancestors_iff_isDescent hc).1 hb
  -- the shortest descent from the second class has one from the first at its side
  have hshortest := Nat.sInf_mem (s := {n | ∃ way, r.IsDescent b c way ∧ way.length = n})
    ⟨way.length, way, hway, rfl⟩
  obtain ⟨m, hm, hsteps⟩ :=
    hnearer _ ((Registry.climbs_iff_isDescent (hknown b hb) hc).2 hshortest)
  calc r.descentLength a c ≤ m :=
        Nat.sInf_le ((Registry.climbs_iff_isDescent (hknown a ha) hc).1 hsteps)
    _ ≤ r.descentLength b c := hm

end Known

/-- For every class of a registry, whether or not the classes derive from each other in a cycle, the
search for its ancestors comes to an end.  The ancestors it has found are the other classes from
which there is a descent to the class, each of them once, and they are listed in the order of their
shortest descents. -/
theorem ancestors_exact {r : Registry} {c : ClassType} (hc : r.get? c.path = some c) :
    let h := ofRegistry r
    ⟨(h.ancestors c).map ClassType.path, []⟩ ∈ eval (Search.step h c.path) ⟨[], [c.path]⟩ ∧
      (h.ancestors c).Nodup ∧
      c ∉ h.ancestors c ∧
      (∀ a, a ∈ h.ancestors c ↔ a ≠ c ∧ ∃ way, r.IsDescent a c way) ∧
      (h.ancestors c).Pairwise fun a b => r.descentLength a c ≤ r.descentLength b c := by
  intro h
  refine ⟨Search.mem_eval_ancestors (isClosed_ofRegistry r) c, ?_, ?_,
    fun a => mem_ancestors_iff_isDescent hc, pairwise_descentLength_ancestors hc⟩
  · exact (nodup_path_ancestors c).of_map
  · intro hmem
    exact ((mem_ancestors_iff_isDescent hc).1 hmem).1 rfl

/-! ### A cycle -/

/-- A class of the global scope. -/
def globalClass (name : String) (bases : List String) : ClassType where
  key := .named [name]
  name := name
  scope := []
  templateArity := 0
  location := ⟨"/p/a.cpp", 1⟩
  bases := bases

/-- Two classes between a top and a bottom, and a top that names the bottom as its base. -/
def cyclicRegistry : Registry :=
  [globalClass "Top" ["Bottom"], globalClass "Left" ["Top"], globalClass "Right" ["Top"],
    globalClass "Bottom" ["Left", "Right"]].foldl Registry.register .empty

/-- The bottom of the cycle is a descendant of itself, but no ancestor.  The top, to which two ways
lead, is listed once. -/
theorem ancestors_exact_cyclic :
    let top := globalClass "Top" ["Bottom"]
    let left := globalClass "Left" ["Top"]
    let bottom := globalClass "Bottom" ["Left", "Right"]
    cyclicRegistry.get? bottom.path = some bottom ∧
      cyclicRegistry.IsDescent bottom bottom [top, left, bottom] ∧
      ((ofRegistry cyclicRegistry).ancestors bottom).Nodup ∧
      top ∈ (ofRegistry cyclicRegistry).ancestors bottom ∧
      left ∈ (ofRegistry cyclicRegistry).ancestors bottom ∧
      bottom ∉ (ofRegistry cyclicRegistry).ancestors bottom := by
  intro top left bottom
  have hknown : ∀ c ∈ [top, left, bottom], cyclicRegistry.get? c.path = some c := by decide +kernel
  have hbottom : cyclicRegistry.Derives left bottom :=
    ⟨hknown bottom (by simp), ⟨"Left", by decide, by decide +kernel⟩, by decide⟩
  have hleft : cyclicRegistry.Derives top left :=
    ⟨hknown left (by simp), ⟨"Top", by decide, by decide +kernel⟩, by decide⟩
  have htop : cyclicRegistry.Derives bottom top :=
    ⟨hknown top (by simp), ⟨"Bottom", by decide, by decide +kernel⟩, by decide⟩
  have hway : cyclicRegistry.IsDescent left bottom [bottom] := ⟨.cons_cons hbottom (.singleton _), rfl⟩
  have hways : cyclicRegistry.IsDescent top bottom [left, bottom] :=
    Registry.isDescent_cons.2 ⟨hleft, hway⟩
  obtain ⟨-, hnodup, hself, hmem, -⟩ := ancestors_exact (hknown bottom (by simp))
  refine ⟨hknown bottom (by simp), Registry.isDescent_cons.2 ⟨htop, hways⟩, hnodup, ?_, ?_, hself⟩
  · exact (hmem top).2 ⟨by decide, _, hways⟩
  · exact (hmem left).2 ⟨by decide, _, hway⟩

end Hierarchy

end Unreferenced
