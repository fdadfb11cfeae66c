/-
Unreferenced/Proofs/Observation.lean

What observing the events of a translation unit comes to.

An event can violate something only through an instantiation without a pattern.
In a coherent view there are no instantiations, so an observation goes to the
end (`observeAll_spec`): its facts are those of the sightings that the events
make one by one.

A function that is seen to be defined has a declaration with a body, and the
body is found from its canonical declaration too (`hasBody_of_mem_defs`), so
settling the facts of such an observation violates nothing.
-/
import Unreferenced.Proofs.Chain
import Unreferenced.Proofs.Settlement

namespace Unreferenced

namespace View.Coherent

variable {δ : Type} {view : View δ} (h : view.Coherent)
include h

/-! ### Asking through another declaration -/

theorem chain_canonical (d : δ) : (view (view.canonical d)).chain = (view d).chain := by
  unfold canonical
  rcases e : (view d).chain with - | ⟨first, later⟩
  · exact e
  · show (view first).chain = first :: later
    rw [← e]
    apply h.chain_eq d
    rw [e]
    exact List.mem_cons_self

theorem canonical_canonical (d : δ) : view.canonical (view.canonical d) = view.canonical d := by
  have hchain := h.chain_canonical d
  rcases e : (view d).chain with - | ⟨first, later⟩
  · have hd : view.canonical d = d := by
      rw [canonical, e]
      rfl
    rw [hd, hd]
  · rw [canonical, hchain, e, canonical, e]
    rfl

/-- The definition of a function is found from its canonical declaration. -/
theorem definition?_canonical (d : δ) : view.definition? (view.canonical d) = view.definition? d := by
  rw [definition?, definition?, h.chain_canonical]

/-- All declarations of a function have its canonical declaration. -/
theorem canonical_eq_of_mem {d e : δ} (he : e ∈ (view d).chain) :
    view.canonical e = view.canonical d := by
  unfold canonical
  rw [h.chain_eq d e he]
  rcases hc : (view d).chain with - | ⟨first, later⟩
  · rw [hc] at he
    cases he
  · rfl

/-- The symbol of a function is that of its definition. -/
theorem symbol?_of_definition? {f d : δ} (hd : view.definition? f = some d) :
    view.symbol? d = view.symbol? f := by
  have hmem : d ∈ (view f).chain := List.mem_of_find?_eq_some hd
  have hnamesake : view.namesake? d = view.namesake? f := by
    unfold namesake?
    rw [h.isInstantiation, h.isInstantiation, h.canonical_eq_of_mem hmem]
    rfl
  unfold symbol?
  rw [hnamesake]

/-- A function with a body has the symbol of its definition. -/
theorem bind_symbol?_definition? {f : δ} (hbody : view.hasBody f = true) :
    (view.definition? f).bind view.symbol? = view.symbol? f := by
  obtain ⟨d, hd⟩ := Option.isSome_iff_exists.1 hbody
  rw [hd]
  exact h.symbol?_of_definition? hd

end View.Coherent

namespace Facts

variable {δ : Type} (view : View δ) (files : UnitFiles)

/-! ### What one event counts for -/

/-- What an event counts for where nothing is an instantiation. -/
def sighted? : Event δ → Option (Sighting δ)
  | .definition d =>
    if !view.hasBody d || (view d).isImplicit then none
    else if counts view files d then some ⟨.defines, d⟩ else none
  | .use _ none => none
  | .use _ (some d) => if files.isSystem (view d).location.file then none else some ⟨.uses, d⟩

variable {view}

theorem pattern_eq_ok (h : view.Coherent) (d : δ) : pattern view d = .ok d := by
  unfold pattern
  rw [h.isInstantiation]
  rfl

theorem definedBy_eq_ok (h : view.Coherent) (d : δ) :
    definedBy view files d = .ok (if !view.hasBody d || (view d).isImplicit then none
      else if counts view files d then some d else none) := by
  unfold definedBy
  rw [h.memberPattern, Option.getD_none, pattern_eq_ok h]
  split
  · rfl
  · rfl

theorem usedBy_eq_ok (h : view.Coherent) (d : δ) :
    usedBy view files d =
      .ok (if files.isSystem (view d).location.file then none else some d) := by
  unfold usedBy
  split
  · rfl
  · rw [pattern_eq_ok h]
    rfl

theorem sighting_eq_ok (h : view.Coherent) (e : Event δ) :
    sighting view files e = .ok (sighted? view files e) := by
  rcases e with d | ⟨k, - | d⟩
  · simp only [sighting, sighted?]
    rw [definedBy_eq_ok files h]
    show Except.ok (Option.map _ _) = _
    split
    · rfl
    · split
      · rfl
      · rfl
  · rfl
  · simp only [sighting, sighted?]
    rw [usedBy_eq_ok files h]
    show Except.ok (Option.map _ _) = _
    split
    · rfl
    · rfl

theorem hasBody_of_sighted? {e : Event δ} {d : δ} (hs : sighted? view files e = some ⟨.defines, d⟩) :
    view.hasBody d = true := by
  rcases e with c | ⟨k, - | c⟩
  · simp only [sighted?] at hs
    split at hs
    · cases hs
    · rename_i hbody
      split at hs
      · cases hs
        rw [Bool.or_eq_true, not_or] at hbody
        simpa using hbody.1
      · cases hs
  · cases hs
  · simp only [sighted?] at hs
    split at hs
    · cases hs
    · cases hs

/-! ### What many events count for -/

variable [DecidableEq δ]

/-- An observation in a coherent view violates nothing and records every sighting. -/
theorem observeAll_spec (h : view.Coherent) (facts : Facts δ) (events : List (Event δ)) :
    (observeAll view files facts events).violation = none ∧
      (observeAll view files facts events).facts =
        (events.filterMap (sighted? view files)).foldl (record view) facts := by
  induction events generalizing facts with
  | nil => exact ⟨rfl, rfl⟩
  | cons e events ih =>
    rw [observeAll, sighting_eq_ok files h, List.filterMap_cons]
    rcases sighted? view files e with - | s
    · exact ih facts
    · exact ih (record view facts s)

/-- The functions defined after some sightings are those defined before and those seen to be
defined. -/
theorem mem_defs_foldl_record {facts : Facts δ} {sightings : List (Sighting δ)} {f : δ} :
    f ∈ (sightings.foldl (record view) facts).defs ↔
      f ∈ facts.defs ∨ ∃ s ∈ sightings, s.role = .defines ∧ view.canonical s.decl = f := by
  induction sightings generalizing facts with
  | nil => simp
  | cons s sightings ih =>
    rw [List.foldl_cons, ih, List.exists_mem_cons_iff, ← or_assoc]
    refine or_congr_left ?_
    rcases s with ⟨- | -, d⟩
    · simp [record, eq_comm]
    · -- a use changes nothing
      simp [record]

/-- The functions used after some sightings are those used before and those seen to be used. -/
theorem mem_uses_foldl_record {facts : Facts δ} {sightings : List (Sighting δ)} {f : δ} :
    f ∈ (sightings.foldl (record view) facts).uses ↔
      f ∈ facts.uses ∨ ∃ s ∈ sightings, s.role = .uses ∧ view.canonical s.decl = f := by
  induction sightings generalizing facts with
  | nil => simp
  | cons s sightings ih =>
    rw [List.foldl_cons, ih, List.exists_mem_cons_iff, ← or_assoc]
    refine or_congr_left ?_
    rcases s with ⟨- | -, d⟩
    · -- a definition changes nothing
      simp [record]
    · simp [record, eq_comm]

/-- Every function seen to be defined has a body, whichever declaration was seen. -/
theorem hasBody_of_mem_defs (h : view.Coherent) {events : List (Event δ)} {f : δ}
    (hf : f ∈ (observe view files .empty events).facts.defs) : view.hasBody f = true := by
  -- the definition was seen through some declaration `d`, and `f` is canonical for it
  unfold observe at hf
  rw [(observeAll_spec files h _ _).2] at hf
  rcases mem_defs_foldl_record.1 hf with hempty | ⟨⟨role, d⟩, hd, rfl, rfl⟩
  · exact absurd hempty (OrderedSet.not_mem_empty _)
  · obtain ⟨e, -, he⟩ := List.mem_filterMap.1 hd
    have hbody := hasBody_of_sighted? files he
    unfold View.hasBody at hbody ⊢
    rwa [h.definition?_canonical]

/-- The facts of an observation can be settled. -/
theorem complete_observe (h : view.Coherent) (events : List (Event δ)) :
    (⟨view, (observe view files .empty events).facts⟩ : UnitFacts δ).Complete :=
  fun _ hf _ => hasBody_of_mem_defs files h hf

end Facts

end Unreferenced
