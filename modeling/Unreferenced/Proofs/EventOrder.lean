/-
Unreferenced/Proofs/EventOrder.lean

The order of events does not matter, and neither does their repetition.

What an event counts for depends on the event alone, so more events make more
facts (`observe_mono`), and the same events in another order make facts about the
same functions.

From there on only the order of the entries can differ.  Settling enters no symbol
twice, and entries about different symbols commute (`Entry.update_comm`), so the
records come out the same whatever the order.  A ledger keeps its old records where
they are; only the new ones may come in another order behind them.
-/
import Mathlib.Logic.Function.Basic
import Unreferenced.Proofs.SingleCounting

namespace Unreferenced

/-! ### The facts of events -/

namespace Facts

variable {δ : Type}

/-- Two facts are about the same functions. -/
structure Agree (a b : Facts δ) : Prop where
  defs : ∀ f, f ∈ a.defs ↔ f ∈ b.defs
  uses : ∀ f, f ∈ a.uses ↔ f ∈ b.uses

variable [DecidableEq δ] {view : View δ} (files : UnitFiles)

/-- More events make more facts. -/
theorem observe_mono (h : view.Coherent) {events events' : List (Event δ)} (hsub : events ⊆ events') :
    (∀ f ∈ (observe view files .empty events).facts.defs,
      f ∈ (observe view files .empty events').facts.defs) ∧
    ∀ f ∈ (observe view files .empty events).facts.uses,
      f ∈ (observe view files .empty events').facts.uses := by
  -- an event that comes about in the first observation comes about in the second
  have hsightings : ∀ s ∈ (events.flatMap (reported view files)).filterMap (sighted? view files),
      s ∈ (events'.flatMap (reported view files)).filterMap (sighted? view files) := by
    intro s hs
    obtain ⟨r, hr, hsighted⟩ := List.mem_filterMap.1 hs
    obtain ⟨e, he, hre⟩ := List.mem_flatMap.1 hr
    exact List.mem_filterMap.2 ⟨r, List.mem_flatMap.2 ⟨e, hsub he, hre⟩, hsighted⟩
  simp only [observe, (observeAll_spec files h _ _).2]
  constructor
  · intro f hf
    rw [mem_defs_foldl_record] at hf ⊢
    exact hf.imp_right fun ⟨s, hs, hseen⟩ => ⟨s, hsightings s hs, hseen⟩
  · intro f hf
    rw [mem_uses_foldl_record] at hf ⊢
    exact hf.imp_right fun ⟨s, hs, hseen⟩ => ⟨s, hsightings s hs, hseen⟩

/-- The same events make the same facts. -/
theorem agree_observe (h : view.Coherent) {events events' : List (Event δ)}
    (hsame : ∀ e, e ∈ events ↔ e ∈ events') :
    (observe view files .empty events).facts.Agree (observe view files .empty events').facts := by
  obtain ⟨hdefs, huses⟩ := observe_mono files h fun e he => (hsame e).1 he
  obtain ⟨hdefs', huses'⟩ := observe_mono files h fun e he => (hsame e).2 he
  exact ⟨fun f => ⟨hdefs f, hdefs' f⟩, fun f => ⟨huses f, huses' f⟩⟩

end Facts

/-! ### The settlement of facts -/

/-- A settlement that violates nothing leaves the facts without the weak definitions. -/
theorem Settlement.facts_settle {δ : Type} [DecidableEq δ] {view : View δ} {facts : Facts δ}
    (h : (settle view facts).violation = none) : (settle view facts).facts = strong view facts := by
  simp only [settle] at h ⊢
  split at h
  · cases h
  · rfl

theorem Facts.Agree.strong {δ : Type} {a b : Facts δ} (h : a.Agree b) (view : View δ) :
    (Settlement.strong view a).Agree (Settlement.strong view b) where
  defs f := by simp [Settlement.strong, h.defs f]
  uses f := h.uses f

namespace UnitFacts

variable {δ : Type} [DecidableEq δ] {view : View δ} {facts facts' : Facts δ}

/-- Facts about the same functions make the same entries. -/
theorem entries_subset_of_agree (h : facts.Agree facts') :
    (⟨view, facts⟩ : UnitFacts δ).entries ⊆ (⟨view, facts'⟩ : UnitFacts δ).entries := by
  have hunused : ∀ f ∈ (⟨view, facts⟩ : UnitFacts δ).unused,
      f ∈ (⟨view, facts'⟩ : UnitFacts δ).unused := by
    intro f hf
    obtain ⟨hdefs, huses⟩ := OrderedSet.mem_diff.1 hf
    exact OrderedSet.mem_diff.2 ⟨(h.defs f).1 hdefs, fun hu => huses ((h.uses f).2 hu)⟩
  have hexternal : ∀ f ∈ (⟨view, facts⟩ : UnitFacts δ).external,
      f ∈ (⟨view, facts'⟩ : UnitFacts δ).external := by
    intro f hf
    rw [mem_external] at hf ⊢
    exact ⟨(h.uses f).1 hf.1, fun hd => hf.2 ⟨(h.defs f).2 hd.1, hd.2⟩⟩
  intro e he
  rcases List.mem_append.1 he with he | he
  · obtain ⟨f, hf, hposting⟩ := List.mem_filterMap.1 he
    exact List.mem_append_left _ (List.mem_filterMap.2 ⟨f, hunused f hf, hposting⟩)
  · obtain ⟨f, hf, hposting⟩ := List.mem_filterMap.1 he
    exact List.mem_append_right _ (List.mem_filterMap.2 ⟨f, hexternal f hf, hposting⟩)

end UnitFacts

/-! ### Entries in another order -/

namespace Entry

/-- What an entry does to the records of all symbols. -/
def update (records : Symbol → Option Record) (e : Entry) : Symbol → Option Record :=
  Function.update records e.symbol (some (e.apply ((records e.symbol).getD {})))

/-- Entries about different symbols commute. -/
theorem update_comm {a b : Entry} (h : a.symbol ≠ b.symbol) (records : Symbol → Option Record) :
    update (update records a) b = update (update records b) a := by
  unfold update
  rw [Function.update_of_ne h, Function.update_of_ne h.symm, Function.update_comm h]

end Entry

namespace Ledger

variable {ledger ledger' : Ledger} {entries entries' : List Entry}

theorem get?_post_eq_update (ledger : Ledger) (e : Entry) :
    (ledger.post e).get? = Entry.update ledger.get? e := by
  funext symbol
  rw [get?_post, Entry.update, Function.update_apply]
  split
  · next h => rw [h]
  · rfl

theorem get?_postAll_eq_foldl (ledger : Ledger) (entries : List Entry) :
    (ledger.postAll entries).get? = entries.foldl Entry.update ledger.get? := by
  induction entries generalizing ledger with
  | nil => rfl
  | cons e entries ih =>
    rw [List.foldl_cons, ← get?_post_eq_update]
    exact ih (ledger.post e)

/-- Entries about different symbols, posted in another order, leave the same records. -/
theorem get?_postAll_of_perm (hnodup : (entries.map Entry.symbol).Nodup)
    (hperm : entries.Perm entries') (hsame : ledger.get? = ledger'.get?) :
    (ledger.postAll entries).get? = (ledger'.postAll entries').get? := by
  rw [get?_postAll_eq_foldl, get?_postAll_eq_foldl, hsame]
  apply hperm.foldl_eq'
  intro a ha b hb records
  by_cases hab : a = b
  · rw [hab]
  · have hsymbols : a.symbol ≠ b.symbol := fun h => hab (List.inj_on_of_nodup_map hnodup ha hb h)
    exact Entry.update_comm hsymbols records

/-- The symbols of entries that have no record yet. -/
def fresh (ledger : Ledger) (entries : List Entry) : List Symbol :=
  (entries.map Entry.symbol).filter fun symbol => (ledger.get? symbol).isNone

theorem mem_keys_iff {symbol : Symbol} :
    symbol ∈ ledger.records.keys ↔ (ledger.get? symbol).isSome := by
  rw [OrderedMap.keys, List.mem_map, Option.isSome_iff_exists]
  constructor
  · rintro ⟨⟨k, r⟩, hmem, rfl⟩
    exact ⟨r, OrderedMap.mem_toList.1 hmem⟩
  · rintro ⟨r, hr⟩
    exact ⟨(symbol, r), OrderedMap.mem_toList.2 hr, rfl⟩

/-- The old records stay in their places, and the new ones come behind them. -/
theorem keys_postAll_of_nodup (ledger : Ledger) (hnodup : (entries.map Entry.symbol).Nodup) :
    (ledger.postAll entries).records.keys = ledger.records.keys ++ ledger.fresh entries := by
  have hfresh : (entries.map Entry.symbol).removeAll ledger.records.keys = ledger.fresh entries := by
    apply List.filter_congr
    intro symbol _
    rw [Bool.eq_iff_iff]
    simp [mem_keys_iff]
  have hold : ledger.records.keys.eraseDups = ledger.records.keys :=
    eraseDups_of_nodup ledger.records.nodup
  have hnew : (ledger.fresh entries).eraseDups = ledger.fresh entries :=
    eraseDups_of_nodup (hnodup.filter _)
  rw [keys_postAll_append, List.eraseDups_append, hold, hfresh, hnew]

theorem fresh_perm (hperm : entries.Perm entries') (hsame : ledger.get? = ledger'.get?) :
    (ledger.fresh entries).Perm (ledger'.fresh entries') := by
  unfold fresh
  rw [hsame]
  exact (hperm.map Entry.symbol).filter _

end Ledger

/-! ### The events of a unit -/

namespace TranslationUnit

/-- The facts of a unit after some events, with what its declarations are. -/
def factsOf (u : TranslationUnit) (events : List (Event Nat)) : UnitFacts Nat :=
  ⟨u.view, (Facts.observe u.view u.files .empty events).facts⟩

variable {u : TranslationUnit} (hu : u.Chained)
include hu

/-- Settling what is observed of a unit enters no symbol twice. -/
theorem Chained.nodup_symbols_factsOf (events : List (Event Nat)) :
    ((u.factsOf events).entries.map Entry.symbol).Nodup := by
  rw [UnitFacts.map_symbol_entries]
  apply hu.nodup_touched_of (Facts.areCanonical_observe u.files hu.coherent_view events)
  intro f hf
  exact Facts.hasBody_of_mem_defs u.files hu.coherent_view hf

/-- What is observed of a unit is settled without a violation. -/
theorem Chained.settle_factsOf (events : List (Event Nat)) :
    (Settlement.settle u.view (u.factsOf events).facts).violation = none ∧
      (Settlement.settle u.view (u.factsOf events).facts).entries = (u.factsOf events).entries :=
  UnitFacts.settle_spec (Facts.complete_observe u.files hu.coherent_view events)

/-- The same events make the same entries. -/
theorem Chained.entries_perm_factsOf {events events' : List (Event Nat)}
    (hsame : ∀ e, e ∈ events ↔ e ∈ events') :
    (u.factsOf events).entries.Perm (u.factsOf events').entries := by
  have hagree := Facts.agree_observe u.files hu.coherent_view hsame
  have hagree' := Facts.agree_observe u.files hu.coherent_view fun e => (hsame e).symm
  rw [List.perm_ext_iff_of_nodup (List.Nodup.of_map _ (hu.nodup_symbols_factsOf events))
    (List.Nodup.of_map _ (hu.nodup_symbols_factsOf events'))]
  intro e
  constructor
  · intro he
    exact UnitFacts.entries_subset_of_agree hagree he
  · intro he
    exact UnitFacts.entries_subset_of_agree hagree' he

omit hu

/-- The tree of a sample file.

    void f() {}
    void g() {}
    void h(); -/
def plainTree : Node :=
  let node := Context.sampleNode
  let named (name : String) : List Node :=
    [node "primitive_type" "type" "void" [],
      Context.sampleDeclarator (name ++ "()") (node "identifier" "declarator" name [])]
  let body := node "compound_statement" "body" "" []
  node "translation_unit" "" ""
    [node "function_definition" "" "" (named "f" ++ [body]),
      node "function_definition" "" "" (named "g" ++ [body]),
      node "declaration" "" "" (named "h")]

/-- The include graph of the sample file. -/
def plainGraph : IncludeGraph where
  files := OrderedMap.empty.insert "/p/a.cpp" plainTree
  order := ["/p/a.cpp"]

/-- The unit of the sample file. -/
def plainUnit : TranslationUnit :=
  ofGraph "/p/a.cpp" .cpp ⟨[], [], []⟩ plainGraph

/-- Both definitions of the sample file, and a use of what it only declares. -/
def plainEvents : List (Event Nat) :=
  [.definition 0, .definition 1, .use .name (some 2)]

/-- The same events in another order, some of them twice. -/
def mixedEvents : List (Event Nat) :=
  [.definition 1, .use .name (some 2), .definition 0, .use .name (some 2), .definition 1]

/-- **Neither the order of events nor their repetition matters.**  Let two lists hold the same events
about the declarations of a unit.  Then neither observing nor settling them violates anything, both
observations are of the same definitions and the same uses, and so are the facts that settling
leaves.  Settled into ledgers with the same records, they leave the same records again.  The records
that were there keep their places, and the new ones come behind them, for the same symbols. -/
theorem settle_observe_congr (main : String) (language : Language) (search : SearchPath)
    (graph : IncludeGraph) (events events' : List (Event Nat))
    (hsame : ∀ e, e ∈ events ↔ e ∈ events') :
    let u := ofGraph main language search graph
    let o := Facts.observe u.view u.files .empty events
    let o' := Facts.observe u.view u.files .empty events'
    let s := Settlement.settle u.view o.facts
    let s' := Settlement.settle u.view o'.facts
    o.violation = none ∧ o'.violation = none ∧ o.facts.Agree o'.facts ∧
      s.violation = none ∧ s'.violation = none ∧ s.facts.Agree s'.facts ∧
      ∀ ledger ledger' : Ledger, (∀ symbol, ledger.get? symbol = ledger'.get? symbol) →
        (∀ symbol, (ledger.postAll s.entries).get? symbol =
          (ledger'.postAll s'.entries).get? symbol) ∧
        ∃ new new', new.Perm new' ∧
          (ledger.postAll s.entries).records.keys = ledger.records.keys ++ new ∧
          (ledger'.postAll s'.entries).records.keys = ledger'.records.keys ++ new' := by
  intro u o o' s s'
  have hu : u.Chained := chained_ofGraph main language search graph
  have hview := hu.coherent_view
  have hagree : o.facts.Agree o'.facts := Facts.agree_observe u.files hview hsame
  obtain ⟨hnone, hentries⟩ : s.violation = none ∧ s.entries = (u.factsOf events).entries :=
    hu.settle_factsOf events
  obtain ⟨hnone', hentries'⟩ : s'.violation = none ∧ s'.entries = (u.factsOf events').entries :=
    hu.settle_factsOf events'
  have hleft : s.facts.Agree s'.facts := by
    rw [Settlement.facts_settle hnone, Settlement.facts_settle hnone']
    exact hagree.strong u.view
  refine ⟨(Facts.observeAll_spec u.files hview _ _).1, (Facts.observeAll_spec u.files hview _ _).1,
    hagree, hnone, hnone', hleft, ?_⟩
  intro ledger ledger' hledger
  have hperm := hu.entries_perm_factsOf hsame
  have hnodup := hu.nodup_symbols_factsOf events
  rw [hentries, hentries']
  constructor
  · intro symbol
    rw [Ledger.get?_postAll_of_perm hnodup hperm (funext hledger)]
  · exact ⟨_, _, Ledger.fresh_perm hperm (funext hledger), ledger.keys_postAll_of_nodup hnodup,
      ledger'.keys_postAll_of_nodup (hu.nodup_symbols_factsOf events')⟩

/-- The sample file enters `f`, `g` and `h`, in the order of the events; the records are the same. -/
theorem settle_observe_congr_sample :
    let s := Settlement.settle plainUnit.view (plainUnit.factsOf plainEvents).facts
    let s' := Settlement.settle plainUnit.view (plainUnit.factsOf mixedEvents).facts
    (∀ e, e ∈ plainEvents ↔ e ∈ mixedEvents) ∧
      (Ledger.empty.postAll s.entries).records.keys = ["c:@F@f#", "c:@F@g#", "c:@F@h#"] ∧
      (Ledger.empty.postAll s'.entries).records.keys = ["c:@F@g#", "c:@F@f#", "c:@F@h#"] ∧
      ∀ symbol, (Ledger.empty.postAll s.entries).get? symbol =
        (Ledger.empty.postAll s'.entries).get? symbol := by
  have hsame : ∀ e, e ∈ plainEvents ↔ e ∈ mixedEvents := by
    intro e
    simp only [plainEvents, mixedEvents, List.mem_cons, List.not_mem_nil, or_false]
    grind
  obtain ⟨-, -, -, -, -, -, hledger⟩ := settle_observe_congr "/p/a.cpp" .cpp ⟨[], [], []⟩ plainGraph
    plainEvents mixedEvents hsame
  exact ⟨hsame, by decide +kernel, by decide +kernel, (hledger .empty .empty fun _ => rfl).1⟩

end TranslationUnit

end Unreferenced
