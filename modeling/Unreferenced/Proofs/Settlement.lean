/-
Unreferenced/Proofs/Settlement.lean

What settling the facts of translation units one after the other comes to.

The settlement of a unit goes through its functions three times: it enters the
definitions it does not use, takes the weak ones out, and counts the uses that
are left without a definition.  `UnitFacts.entries` lists what it enters without
following these steps, and `settle_spec` says that this is what `settle` does
and that it violates nothing, provided every function that counts as defined and
unused has a definition.

So a run over many units posts one history, the entries of all of them, and the
theory of histories gives the ledger and the findings in terms of the facts
alone: `useCount` adds up over the units how many functions each of them uses
without defining them, and `definitionsOf` lists the unused definitions of a
symbol over all units.
-/
import Unreferenced.Proofs.History
import Unreferenced.Settlement

namespace Unreferenced

/-- The facts of a translation unit, with what its declarations are. -/
structure UnitFacts (δ : Type) where
  view : View δ
  facts : Facts δ

namespace UnitFacts

variable {δ : Type} [DecidableEq δ]

section OneUnit

variable (t : UnitFacts δ)

/-! ### The facts of one unit -/

/-- The functions that the unit defines and does not use. -/
def unused : List δ :=
  (t.facts.defs.diff t.facts.uses).toList

/-- The functions that the unit uses and does not define; a weak definition does not count. -/
def external : List δ :=
  (t.facts.uses.diff (t.facts.defs.filter fun f => !(t.view f).isWeak)).toList

theorem mem_external {f : δ} :
    f ∈ t.external ↔ f ∈ t.facts.uses ∧ ¬(f ∈ t.facts.defs ∧ (t.view f).isWeak = false) := by
  unfold external
  rw [← OrderedSet.mem_iff, OrderedSet.mem_diff, OrderedSet.mem_filter, Bool.not_eq_true']

/-- The symbol of a function's definition. -/
def definedSymbol? (f : δ) : Option Symbol :=
  (t.view.definition? f).bind t.view.symbol?

/-- A function's definition and its other declarations, as far as a report needs them. -/
def evidence? (f : δ) : Option (Snapshot × List Location) :=
  (t.view.definition? f).map fun d =>
    (⟨(t.view d).qualifiedName, (t.view d).location⟩, Settlement.declarations t.view d)

/-- Every function that the unit defines and does not use has a definition. -/
def Complete : Prop :=
  ∀ f ∈ t.facts.defs, ¬f ∈ t.facts.uses → (t.view.definition? f).isSome

instance : Decidable t.Complete :=
  inferInstanceAs (Decidable
    (∀ f ∈ t.facts.defs.toList, ¬f ∈ t.facts.uses → (t.view.definition? f).isSome))

/-- The symbols that settling the unit touches, in order. -/
def touched : List Symbol :=
  t.unused.filterMap t.definedSymbol? ++ t.external.filterMap t.view.symbol?

/-- What is entered for a function that the unit defines and does not use. -/
def unusedPosting? (f : δ) : Option Entry :=
  (t.view.definition? f).bind fun d =>
    (t.view.symbol? d).map fun symbol =>
      .defined symbol ⟨(t.view d).qualifiedName, (t.view d).location⟩
        (Settlement.declarations t.view d)

/-- What is entered for a function that the unit uses and does not define. -/
def externalPosting? (f : δ) : Option Entry :=
  (t.view.symbol? f).map .used

/-- What settling the unit enters. -/
def entries : List Entry :=
  t.unused.filterMap t.unusedPosting? ++ t.external.filterMap t.externalPosting?

/-! ### The settlement of one unit -/

omit [DecidableEq δ] in
/-- Notes are no entries. -/
theorem filterMap_entry?_note {α : Type} (l : List α) (note : α → Note) :
    (l.map fun a => SettlementStep.note (note a)).filterMap SettlementStep.entry? = [] := by
  rw [List.filterMap_map, List.filterMap_eq_nil_iff]
  intro a _
  rfl

omit [DecidableEq δ] in
/-- The steps for an unused definition make at most one entry. -/
theorem entries_unusedSteps (d : δ) :
    (Settlement.unusedSteps t.view d).filterMap SettlementStep.entry? =
      ((t.view.symbol? d).map fun symbol =>
        Entry.defined symbol ⟨(t.view d).qualifiedName, (t.view d).location⟩
          (Settlement.declarations t.view d)).toList := by
  have hnotes := filterMap_entry?_note (t.view.symbolNotes d) id
  unfold Settlement.unusedSteps
  rw [List.filterMap_append]
  refine (congrArg (· ++ _) hnotes).trans ?_
  rcases t.view.symbol? d with - | symbol
  · rfl
  · rfl

omit [DecidableEq δ] in
/-- The steps for an external use make at most one entry. -/
theorem entries_externalSteps (f : δ) :
    (Settlement.externalSteps t.view f).filterMap SettlementStep.entry? =
      (t.externalPosting? f).toList := by
  have hnotes := filterMap_entry?_note (t.view.symbolNotes f) id
  unfold Settlement.externalSteps externalPosting?
  rw [List.filterMap_append]
  refine (congrArg (· ++ _) hnotes).trans ?_
  rcases t.view.symbol? f with - | symbol
  · rfl
  · rfl

omit [DecidableEq δ] in
/-- Functions that all have definitions are gone through to the end. -/
theorem unusedAll_spec {functions : List δ}
    (h : ∀ f ∈ functions, (t.view.definition? f).isSome) :
    (Settlement.unusedAll t.view functions).2 = none ∧
      (Settlement.unusedAll t.view functions).1.filterMap SettlementStep.entry? =
        functions.filterMap t.unusedPosting? := by
  induction functions with
  | nil => exact ⟨rfl, rfl⟩
  | cons f functions ih =>
    obtain ⟨hnone, hentries⟩ := ih fun g hg => h g (List.mem_cons_of_mem f hg)
    obtain ⟨d, hd⟩ := Option.isSome_iff_exists.1 (h f List.mem_cons_self)
    have hentry : t.unusedPosting? f = (t.view.symbol? d).map fun symbol =>
        Entry.defined symbol ⟨(t.view d).qualifiedName, (t.view d).location⟩
          (Settlement.declarations t.view d) := by
      rw [unusedPosting?, hd]
      rfl
    rw [Settlement.unusedAll, hd, List.filterMap_cons, hentry]
    refine ⟨hnone, ?_⟩
    rw [List.filterMap_append, entries_unusedSteps, hentries]
    rcases t.view.symbol? d with - | symbol
    · rfl
    · rfl

variable {t}

/-- Settling a unit whose unused functions have definitions violates nothing and enters what the
facts say. -/
theorem settle_spec (h : t.Complete) :
    (Settlement.settle t.view t.facts).violation = none ∧
      (Settlement.settle t.view t.facts).entries = t.entries := by
  have hall : ∀ f ∈ t.unused, (t.view.definition? f).isSome := by
    intro f hf
    obtain ⟨hd, hu⟩ := OrderedSet.mem_diff.1 hf
    exact h f hd hu
  obtain ⟨hnone, hentries⟩ := unusedAll_spec t hall
  have hsettle : Settlement.settle t.view t.facts =
      ⟨(Settlement.unusedAll t.view t.unused).1 ++
          (t.facts.uses.toList.map (fun f => .note (.uses (t.view f).qualifiedName)) ++
            (Settlement.strong t.view t.facts).defs.toList.map
              fun f => .note (.defines (t.view f).qualifiedName)) ++
          t.external.flatMap (Settlement.externalSteps t.view),
        Settlement.strong t.view t.facts, none⟩ := by
    simp only [Settlement.settle]
    rw [show (t.facts.defs.diff t.facts.uses).toList = t.unused from rfl, hnone]
    rfl
  rw [hsettle]
  refine ⟨rfl, ?_⟩
  show List.filterMap SettlementStep.entry? _ = t.entries
  have hexternal : (t.external.flatMap (Settlement.externalSteps t.view)).filterMap
      SettlementStep.entry? = t.external.filterMap t.externalPosting? := by
    rw [List.filterMap_flatMap, List.filterMap_eq_flatMap_toList]
    apply List.flatMap_congr
    intro f _
    exact entries_externalSteps t f
  -- the listing of uses and definitions between the two rounds makes notes only
  rw [List.filterMap_append, List.filterMap_append, List.filterMap_append, hentries,
    filterMap_entry?_note, filterMap_entry?_note, hexternal, List.append_nil, List.append_nil]
  rfl

variable (t)

/-! ### The history of one unit in terms of its facts -/

theorem map_symbol_entries : t.entries.map Entry.symbol = t.touched := by
  have hunused : ∀ f, (t.unusedPosting? f).map Entry.symbol = t.definedSymbol? f := by
    intro f
    unfold unusedPosting? definedSymbol?
    rcases t.view.definition? f with - | d
    · rfl
    · show Option.map Entry.symbol (Option.map _ (t.view.symbol? d)) = t.view.symbol? d
      rw [Option.map_map]
      exact Option.map_id'
  have hexternal : ∀ f, (t.externalPosting? f).map Entry.symbol = t.view.symbol? f := by
    intro f
    unfold externalPosting?
    rw [Option.map_map]
    exact Option.map_id'
  rw [entries, touched, List.map_append, List.map_filterMap, List.map_filterMap]
  simp only [hunused, hexternal]

theorem usesOfSymbol_entries (symbol : Symbol) :
    usesOfSymbol symbol t.entries =
      (t.external.filter fun f => decide (t.view.symbol? f = some symbol)).length := by
  have hunused : (t.unused.filterMap t.unusedPosting?).count (.used symbol) = 0 := by
    rw [List.count_eq_zero]
    intro hmem
    obtain ⟨f, -, hf⟩ := List.mem_filterMap.1 hmem
    obtain ⟨d, -, hd⟩ := Option.bind_eq_some_iff.1 hf
    obtain ⟨s, -, hs⟩ := Option.map_eq_some_iff.1 hd
    cases hs
  rw [usesOfSymbol, entries, List.count_append, hunused, Nat.zero_add, ← List.countP_eq_length_filter]
  induction t.external with
  | nil => rfl
  | cons f functions ih =>
    rw [List.filterMap_cons, List.countP_cons, ← ih]
    unfold externalPosting?
    rcases t.view.symbol? f with - | s
    · rfl
    · by_cases hs : s = symbol
      · subst hs
        simp
      · simp [hs]

omit [DecidableEq δ] in
/-- What is entered for an unused function is evidence for the symbol of its definition. -/
theorem evidence?_unusedPosting? (symbol : Symbol) (f : δ) :
    (t.unusedPosting? f).bind (Entry.evidence? symbol) =
      if t.definedSymbol? f = some symbol then t.evidence? f else none := by
  unfold unusedPosting? definedSymbol? evidence?
  rcases t.view.definition? f with - | d
  · rfl
  · show (Option.map _ (t.view.symbol? d)).bind _ = if t.view.symbol? d = some symbol then _ else none
    rcases t.view.symbol? d with - | s
    · rfl
    · show (if s = symbol then some _ else none) = if some s = some symbol then some _ else none
      simp only [Option.some.injEq]

theorem evidenceOf_entries (symbol : Symbol) :
    evidenceOf symbol t.entries =
      (t.unused.filter fun f => decide (t.definedSymbol? f = some symbol)).filterMap t.evidence? := by
  have hexternal : (t.external.filterMap t.externalPosting?).filterMap (Entry.evidence? symbol) = [] := by
    rw [List.filterMap_filterMap, List.filterMap_eq_nil_iff]
    intro f _
    unfold externalPosting?
    rcases t.view.symbol? f with - | s
    · rfl
    · rfl
  rw [evidenceOf, entries, List.filterMap_append, hexternal, List.append_nil,
    List.filterMap_filterMap, List.filterMap_filter]
  simp only [evidence?_unusedPosting?, decide_eq_true_eq]

end OneUnit

/-! ### Settling many units -/

/-- Settle the facts of a unit into a ledger, unless they violate something. -/
def settleInto (ledger : Ledger) (t : UnitFacts δ) : Except Violation Ledger :=
  let s := Settlement.settle t.view t.facts
  match s.violation with
  | some v => .error v
  | none => .ok (ledger.postAll s.entries)

/-- Settle the facts of several units one after the other, starting without records. -/
def settleAll (units : List (UnitFacts δ)) : Except Violation Ledger :=
  units.foldlM settleInto .empty

/-- What all units together enter, in order. -/
def history (units : List (UnitFacts δ)) : List Entry :=
  units.flatMap entries

theorem settleInto_eq_ok {t : UnitFacts δ} (h : t.Complete) (ledger : Ledger) :
    settleInto ledger t = .ok (ledger.postAll t.entries) := by
  obtain ⟨hnone, hentries⟩ := settle_spec h
  simp only [settleInto]
  rw [hnone, hentries]

/-- Units whose unused functions have definitions can be settled, and post their history. -/
theorem settleAll_eq_ok {units : List (UnitFacts δ)} (h : ∀ t ∈ units, t.Complete) :
    settleAll units = .ok (Ledger.empty.postAll (history units)) := by
  unfold settleAll history
  generalize Ledger.empty = ledger
  induction units generalizing ledger with
  | nil => rfl
  | cons t units ih =>
    rw [List.foldlM_cons, settleInto_eq_ok (h t List.mem_cons_self)]
    show units.foldlM settleInto (ledger.postAll t.entries) = _
    rw [ih (fun s hs => h s (List.mem_cons_of_mem t hs)), List.flatMap_cons, Ledger.postAll_append]

/-- How many functions of a symbol the units use without defining them, all units together. -/
def useCount (units : List (UnitFacts δ)) (symbol : Symbol) : Nat :=
  (units.flatMap fun t => t.external.filter fun f => decide (t.view.symbol? f = some symbol)).length

/-- The definitions of a symbol that their own units do not use, over all units. -/
def definitionsOf (units : List (UnitFacts δ)) (symbol : Symbol) : List (Snapshot × List Location) :=
  units.flatMap fun t =>
    (t.unused.filter fun f => decide (t.definedSymbol? f = some symbol)).filterMap t.evidence?

theorem touchedBy_history (units : List (UnitFacts δ)) :
    touchedBy (history units) = (units.flatMap touched).eraseDups := by
  rw [touchedBy, history, List.map_flatMap]
  simp only [map_symbol_entries]

theorem usesOfSymbol_history (units : List (UnitFacts δ)) (symbol : Symbol) :
    usesOfSymbol symbol (history units) = useCount units symbol := by
  unfold history useCount
  induction units with
  | nil => rfl
  | cons t units ih =>
    rw [List.flatMap_cons, List.flatMap_cons, List.length_append, ← ih, ← t.usesOfSymbol_entries]
    exact List.count_append

theorem evidenceOf_history (units : List (UnitFacts δ)) (symbol : Symbol) :
    evidenceOf symbol (history units) = definitionsOf units symbol := by
  rw [evidenceOf, history, definitionsOf, List.filterMap_flatMap]
  apply List.flatMap_congr
  intro t _
  exact t.evidenceOf_entries symbol

theorem useCount_eq_zero_iff {units : List (UnitFacts δ)} {symbol : Symbol} :
    useCount units symbol = 0 ↔
      ∀ t ∈ units, ∀ f ∈ t.facts.uses, t.view.symbol? f = some symbol →
        f ∈ t.facts.defs ∧ (t.view f).isWeak = false := by
  rw [useCount, List.length_eq_zero_iff, List.flatMap_eq_nil_iff]
  refine forall₂_congr fun t _ => ?_
  rw [List.filter_eq_nil_iff]
  constructor
  · intro h f hf hs
    -- a use of the symbol that were external would be counted
    by_contra hlocal
    exact h f (t.mem_external.2 ⟨hf, hlocal⟩) (decide_eq_true hs)
  · intro h f hf hs
    obtain ⟨hf, hexternal⟩ := t.mem_external.1 hf
    exact hexternal (h f hf (of_decide_eq_true hs))

theorem definitionsOf_ne_nil_iff {units : List (UnitFacts δ)} {symbol : Symbol} :
    definitionsOf units symbol ≠ [] ↔
      ∃ t ∈ units, ∃ f ∈ t.facts.defs, ¬f ∈ t.facts.uses ∧ t.definedSymbol? f = some symbol := by
  constructor
  · intro h
    obtain ⟨e, he⟩ := List.exists_mem_of_ne_nil _ h
    obtain ⟨t, ht, he⟩ := List.mem_flatMap.1 he
    obtain ⟨f, hf, -⟩ := List.mem_filterMap.1 he
    obtain ⟨hunused, hs⟩ := List.mem_filter.1 hf
    obtain ⟨hd, hu⟩ := OrderedSet.mem_diff.1 hunused
    exact ⟨t, ht, f, hd, hu, of_decide_eq_true hs⟩
  · rintro ⟨t, ht, f, hd, hu, hs⟩
    -- what has the symbol of its definition has a definition
    obtain ⟨d, hdef, -⟩ := Option.bind_eq_some_iff.1 hs
    have hevidence : (t.evidence? f).isSome := by
      rw [evidence?, hdef]
      rfl
    obtain ⟨e, he⟩ := Option.isSome_iff_exists.1 hevidence
    refine List.ne_nil_of_mem (List.mem_flatMap_of_mem ht (List.mem_filterMap.2 ⟨f, ?_, he⟩))
    exact List.mem_filter.2 ⟨OrderedSet.mem_diff.2 ⟨hd, hu⟩, decide_eq_true hs⟩

/-! ### The ledger and the findings of a run -/

/-- Two functions of a sample unit: `hook` is weak, `tick` is not. -/
def sampleView : View Nat
  | 0 => { name := "hook", qualifiedName := "hook", location := ⟨"/p/a.c", 1⟩, isWeak := true,
           declaringFile := "/p/a.c", chain := [0] }
  | n => { name := "tick", qualifiedName := "tick", location := ⟨"/p/a.c", 2⟩,
           declaringFile := "/p/a.c", chain := [n] }

/-- Two units that define both functions; the first one uses `hook`. -/
def sampleUnits : List (UnitFacts Nat) :=
  [⟨sampleView, ⟨.ofList [0, 1], .ofList [0]⟩⟩, ⟨sampleView, ⟨.ofList [0, 1], .empty⟩⟩]

/-- **The ledger of a run is determined by the facts.**  Settling units one after the other succeeds.
The symbols stand in the order in which they were first touched.  A symbol's counter is the number
of its external uses over all units, and its definition is the last unused one.  The findings are
the symbols with an unused definition and without an external use, each once and in the order of
the ledger, and collecting them adds their number to the counter of unused functions. -/
theorem settleAll_collect (units : List (UnitFacts δ)) (h : ∀ t ∈ units, t.Complete)
    (s : Statistics) :
    ∃ ledger, settleAll units = .ok ledger ∧
      ledger.records.keys = (units.flatMap touched).eraseDups ∧
      (∀ symbol, ledger.get? symbol =
        if symbol ∈ units.flatMap touched then
          some
            { definition := (definitionsOf units symbol).getLast?.map Prod.fst
              uses := useCount units symbol
              declarations := ((definitionsOf units symbol).getLast?.map Prod.snd).getD [] }
        else none) ∧
      (ledger.collect s).1.map Finding.symbol =
        ledger.records.keys.filter (fun symbol =>
          decide (definitionsOf units symbol ≠ [] ∧ useCount units symbol = 0)) ∧
      ((ledger.collect s).1.map Finding.symbol).Nodup ∧
      (∀ f ∈ (ledger.collect s).1,
        (definitionsOf units f.symbol).getLast? = some (f.definition, f.declarations)) ∧
      ∀ name, (ledger.collect s).2.get? name =
        if name = Finding.counter then
          (s.get? name).map fun c => { c with value := c.value + (ledger.collect s).1.length }
        else s.get? name := by
  refine ⟨_, settleAll_eq_ok h, ?_, fun symbol => ?_, ?_, ?_, fun f hf => ?_, fun name => ?_⟩
  · rw [Ledger.keys_postAll, touchedBy_history]
  · have hmem : symbol ∈ (history units).map Entry.symbol ↔ symbol ∈ units.flatMap touched := by
      rw [← List.mem_eraseDups, ← List.mem_eraseDups (l := units.flatMap touched),
        ← touchedBy_history]
      rfl
    rw [Ledger.get?_postAll, Record.ofHistory, evidenceOf_history, usesOfSymbol_history]
    simp only [hmem]
    rfl
  · rw [Ledger.collect_fst, Ledger.symbols_findings_postAll, Ledger.keys_postAll]
    simp only [evidenceOf_history, usesOfSymbol_history]
  · rw [Ledger.collect_fst]
    exact Ledger.nodup_symbols_findings_postAll (history units)
  · rw [Ledger.collect_fst, Ledger.findings_postAll] at hf
    obtain ⟨symbol, -, hfound⟩ := List.mem_filterMap.1 hf
    rw [Ledger.symbol_of_findingOf? hfound, ← evidenceOf_history]
    exact Ledger.evidence_of_findingOf? hfound
  · rw [Ledger.get?_collect, Ledger.collect_fst]

/-- The use of the weak `hook` counts although its own unit defines it, so only `tick` is found. -/
theorem settleAll_collect_sample :
    (∀ t ∈ sampleUnits, t.Complete) ∧
      ∃ ledger, settleAll sampleUnits = .ok ledger ∧
        ledger.records.keys = ["c:@F@tick#", "c:@F@hook#"] ∧
        (ledger.collect .empty).1.map Finding.symbol = ["c:@F@tick#"] := by
  have hc : ∀ t ∈ sampleUnits, t.Complete := by decide +kernel
  obtain ⟨ledger, hok, hkeys, -, hfound, -⟩ := settleAll_collect sampleUnits hc .empty
  have hk : ledger.records.keys = ["c:@F@tick#", "c:@F@hook#"] := by
    rw [hkeys]
    decide +kernel
  refine ⟨hc, ledger, hok, hk, ?_⟩
  rw [hfound, hk]
  decide +kernel

end UnitFacts

end Unreferenced
