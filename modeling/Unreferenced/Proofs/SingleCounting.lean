/-
Unreferenced/Proofs/SingleCounting.lean

A translation unit speaks of every symbol at most once.

The facts of a unit are sets of declarations, and the ledger is kept by symbols.
Only canonical declarations are in the facts (`areCanonical_observe`), and two of
them never have one symbol, since functions with one symbol are one function.  So
no symbol is entered twice by a unit, neither as defined and used nor as used
through two declarations (`nodup_touched`).

Hence a unit adds one to the counter of a symbol if it uses the symbol and has no
strong definition of it, and nothing otherwise, and the counter after a run is
the number of such units.
-/
import Unreferenced.Proofs.Analysis
import Unreferenced.Proofs.Redeclaration

namespace Unreferenced

/-! ### The facts are about canonical declarations -/

namespace Facts

variable {δ : Type} {view : View δ}

/-- All declarations in the facts stand for their functions. -/
structure AreCanonical (view : View δ) (facts : Facts δ) : Prop where
  defs : ∀ f ∈ facts.defs, view.canonical f = f
  uses : ∀ f ∈ facts.uses, view.canonical f = f

variable [DecidableEq δ] {facts : Facts δ}

theorem AreCanonical.record (h : facts.AreCanonical view) (hview : view.Coherent) (s : Sighting δ) :
    (record view facts s).AreCanonical view := by
  have hinsert : ∀ {set : OrderedSet δ}, (∀ f ∈ set, view.canonical f = f) →
      ∀ f ∈ set.insert (view.canonical s.decl), view.canonical f = f := by
    intro set hset f hf
    rcases OrderedSet.mem_insert.1 hf with hf | rfl
    · exact hset f hf
    · exact hview.canonical_canonical s.decl
  rcases s with ⟨- | -, d⟩
  · exact ⟨hinsert h.defs, h.uses⟩
  · exact ⟨h.defs, hinsert h.uses⟩

theorem AreCanonical.foldl_record (h : facts.AreCanonical view) (hview : view.Coherent)
    (sightings : List (Sighting δ)) :
    (sightings.foldl (Facts.record view) facts).AreCanonical view := by
  induction sightings generalizing facts with
  | nil => exact h
  | cons s sightings ih => exact ih (h.record hview s)

theorem areCanonical_observe (files : UnitFiles) (hview : view.Coherent) (events : List (Event δ)) :
    (observe view files .empty events).facts.AreCanonical view := by
  unfold observe
  rw [(observeAll_spec files hview _ _).2]
  have hnone : ∀ f ∈ (OrderedSet.empty : OrderedSet δ), view.canonical f = f :=
    fun f hf => absurd hf (OrderedSet.not_mem_empty f)
  have hempty : (empty : Facts δ).AreCanonical view := ⟨hnone, hnone⟩
  exact hempty.foldl_record hview _

end Facts

/-! ### One unit -/

theorem UnitFacts.used_mem_entries {δ : Type} [DecidableEq δ] (t : UnitFacts δ) (symbol : Symbol) :
    .used symbol ∈ t.entries ↔ ∃ f ∈ t.external, t.view.symbol? f = some symbol := by
  have hpos : .used symbol ∈ t.entries ↔ 0 < usesOfSymbol symbol t.entries :=
    List.count_pos_iff.symm
  rw [hpos, t.usesOfSymbol_entries, List.length_pos_iff_exists_mem]
  simp only [List.mem_filter, decide_eq_true_eq]

namespace TranslationUnit

variable {u : TranslationUnit}

/-- The unit uses a function with the symbol. -/
def UsesSymbol (u : TranslationUnit) (symbol : Symbol) : Prop :=
  ∃ f ∈ u.observation.facts.uses, u.view.symbol? f = some symbol

/-- The unit has a definition of the symbol that is not weak. -/
def DefinesStrongly (u : TranslationUnit) (symbol : Symbol) : Prop :=
  ∃ f ∈ u.observation.facts.defs, u.view.symbol? f = some symbol ∧ (u.view f).isWeak = false

instance (u : TranslationUnit) (symbol : Symbol) : Decidable (u.UsesSymbol symbol) :=
  inferInstanceAs (Decidable (∃ f ∈ u.observation.facts.uses.toList, _))

instance (u : TranslationUnit) (symbol : Symbol) : Decidable (u.DefinesStrongly symbol) :=
  inferInstanceAs (Decidable (∃ f ∈ u.observation.facts.defs.toList, _))

namespace Chained

variable (hu : u.Chained)
include hu

theorem areCanonical : u.observation.facts.AreCanonical u.view :=
  Facts.areCanonical_observe u.files hu.coherent_view u.events

/-- Canonical declarations with one symbol are one declaration. -/
theorem eq_of_symbol? {f g : Nat} {symbol : Symbol} (hf : u.view.canonical f = f)
    (hg : u.view.canonical g = g) (hsf : u.view.symbol? f = some symbol)
    (hsg : u.view.symbol? g = some symbol) : f = g :=
  calc f = u.view.canonical f := hf.symm
    _ = u.view.canonical g := hu.canonical_eq_of_symbol? hsf hsg
    _ = g := hg

/-- No symbol is touched twice when facts about canonical declarations of functions with bodies are
settled. -/
theorem nodup_touched_of {facts : Facts Nat} (hcanonical : facts.AreCanonical u.view)
    (hbody : ∀ f ∈ facts.defs, u.view.hasBody f = true) :
    (⟨u.view, facts⟩ : UnitFacts Nat).touched.Nodup := by
  let t : UnitFacts Nat := ⟨u.view, facts⟩
  -- a definition is entered under its own symbol, which is the symbol of its function
  have hsymbols : t.touched = (t.unused ++ t.external).filterMap u.view.symbol? := by
    rw [List.filterMap_append]
    refine congrArg (· ++ _) (List.filterMap_congr fun f hf => ?_)
    exact hu.coherent_view.bind_symbol?_definition? (hbody f (OrderedSet.mem_diff.1 hf).1)
  have hmem : ∀ f ∈ t.unused ++ t.external, u.view.canonical f = f := by
    intro f hf
    rcases List.mem_append.1 hf with hf | hf
    · exact hcanonical.defs f (OrderedSet.mem_diff.1 hf).1
    · exact hcanonical.uses f (OrderedSet.mem_diff.1 hf).1
  -- a weak function may be defined and used, but what is unused is not used
  have hnodup : (t.unused ++ t.external).Nodup := by
    refine List.nodup_append.2 ⟨OrderedSet.nodup _, OrderedSet.nodup _, ?_⟩
    rintro f hf _ hg rfl
    exact (OrderedSet.mem_diff.1 hf).2 (OrderedSet.mem_diff.1 hg).1
  show t.touched.Nodup
  rw [hsymbols, List.Nodup, List.pairwise_filterMap]
  refine hnodup.imp_of_mem ?_
  rintro f g hf hg hne symbol hsf _ hsg rfl
  exact hne (hu.eq_of_symbol? (hmem f hf) (hmem g hg) hsf hsg)

/-- No symbol is touched twice when a unit is settled. -/
theorem nodup_touched : u.unitFacts.touched.Nodup :=
  hu.nodup_touched_of hu.areCanonical fun _ hf =>
    Facts.hasBody_of_mem_defs u.files hu.coherent_view hf

/-- A function with the symbol is external exactly if the unit uses the symbol and does not strongly
define it. -/
theorem exists_external_iff (symbol : Symbol) :
    (∃ f ∈ u.unitFacts.external, u.view.symbol? f = some symbol) ↔
      u.UsesSymbol symbol ∧ ¬u.DefinesStrongly symbol := by
  have hcanonical := hu.areCanonical
  constructor
  · rintro ⟨f, hf, hs⟩
    obtain ⟨huses, hdefs⟩ := u.unitFacts.mem_external.1 hf
    refine ⟨⟨f, huses, hs⟩, ?_⟩
    rintro ⟨g, hg, hsg, hstrong⟩
    -- the strong definition of the symbol would be one of the very function that is external
    have hfg : f = g := hu.eq_of_symbol? (hcanonical.uses f huses) (hcanonical.defs g hg) hs hsg
    rw [hfg] at hdefs
    exact hdefs ⟨hg, hstrong⟩
  · rintro ⟨⟨f, hf, hs⟩, hdefines⟩
    refine ⟨f, u.unitFacts.mem_external.2 ⟨hf, ?_⟩, hs⟩
    rintro ⟨hdefs, hstrong⟩
    exact hdefines ⟨f, hdefs, hs, hstrong⟩

/-- A unit counts one use of a symbol if it uses the symbol and does not strongly define it, and
none otherwise. -/
theorem usesOfSymbol_entries (symbol : Symbol) :
    usesOfSymbol symbol u.unitFacts.entries =
      if u.UsesSymbol symbol ∧ ¬u.DefinesStrongly symbol then 1 else 0 := by
  have hnodup : u.unitFacts.entries.Nodup := by
    apply List.Nodup.of_map Entry.symbol
    rw [UnitFacts.map_symbol_entries]
    exact hu.nodup_touched
  rw [usesOfSymbol, hnodup.count]
  simp only [UnitFacts.used_mem_entries, ← hu.exists_external_iff symbol]
  rfl

end Chained

/-- Many units count a use of a symbol for each of them that uses it and does not strongly define
it. -/
theorem usesOfSymbol_history {units : List TranslationUnit} (h : ∀ u ∈ units, u.Chained)
    (symbol : Symbol) :
    usesOfSymbol symbol (UnitFacts.history (units.map unitFacts)) =
      (units.filter fun u => decide (u.UsesSymbol symbol ∧ ¬u.DefinesStrongly symbol)).length := by
  rw [← List.countP_eq_length_filter]
  induction units with
  | nil => rfl
  | cons u units ih =>
    obtain ⟨hu, hunits⟩ := List.forall_mem_cons.1 h
    have hone := hu.usesOfSymbol_entries symbol
    have hrest := ih hunits
    rw [List.countP_cons, ← hrest]
    calc usesOfSymbol symbol (UnitFacts.history ((u :: units).map unitFacts))
        = usesOfSymbol symbol u.unitFacts.entries +
            usesOfSymbol symbol (UnitFacts.history (units.map unitFacts)) := List.count_append
      _ = _ := by
          rw [hone, Nat.add_comm]
          simp only [decide_eq_true_eq]

end TranslationUnit

/-! ### A run over many units -/

/-- The counter of a symbol, which is zero while the symbol has no record. -/
def Ledger.counter (ledger : Ledger) (symbol : Symbol) : Nat :=
  (ledger.get? symbol).elim 0 Record.uses

/-- After a history the counter of a symbol is the number of its uses. -/
theorem Ledger.counter_postAll (history : List Entry) (symbol : Symbol) :
    (empty.postAll history).counter symbol = usesOfSymbol symbol history := by
  rw [counter, get?_postAll]
  by_cases hmem : symbol ∈ history.map Entry.symbol
  · rw [if_pos hmem]
    rfl
  · rw [if_neg hmem]
    exact (congrArg Record.uses (Record.ofHistory_of_notMem hmem)).symm

/-- **Every unit is counted once.**  Settling a translation unit violates nothing and enters no symbol
twice, neither as a definition and a use nor as two of one kind; it enters a use exactly for the
symbols that the unit uses and does not strongly define.  Hence after every run the counter of a
symbol is the number of finished units that use it without strongly defining it. -/
theorem Analysis.counter_ofDatabase (host : Host) (fs : FileSystem) (systemDirs : List String)
    (workers : Nat) (db : Database) :
    (∀ main language search graph,
      let u := TranslationUnit.ofGraph main language search graph
      let settlement := Settlement.settle u.view u.observation.facts
      settlement.violation = none ∧
        (settlement.entries.map Entry.symbol).Nodup ∧
        ∀ symbol, .used symbol ∈ settlement.entries ↔
          u.UsesSymbol symbol ∧ ¬u.DefinesStrongly symbol) ∧
      ∀ symbol, (ofDatabase host fs systemDirs workers db).ledger.counter symbol =
        ((db.units host fs systemDirs).filter fun u =>
          decide (u.UsesSymbol symbol ∧ ¬u.DefinesStrongly symbol)).length := by
  constructor
  · intro main language search graph u
    have hu : u.Chained := TranslationUnit.chained_ofGraph main language search graph
    obtain ⟨hnone, hentries⟩ := UnitFacts.settle_spec hu.complete
    show (Settlement.settle u.unitFacts.view u.unitFacts.facts).violation = none ∧
      ((Settlement.settle u.unitFacts.view u.unitFacts.facts).entries.map Entry.symbol).Nodup ∧ _
    rw [hentries, UnitFacts.map_symbol_entries]
    refine ⟨hnone, hu.nodup_touched, fun symbol => ?_⟩
    show _ ∈ (Settlement.settle u.unitFacts.view u.unitFacts.facts).entries ↔ _
    rw [hentries, UnitFacts.used_mem_entries]
    exact hu.exists_external_iff symbol
  · intro symbol
    rw [ledger_ofDatabase, Ledger.counter_postAll]
    exact TranslationUnit.usesOfSymbol_history (fun u hu => Database.chained_of_mem_units hu) symbol

end Unreferenced
