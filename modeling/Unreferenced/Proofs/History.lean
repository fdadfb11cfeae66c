/-
Unreferenced/Proofs/History.lean

Histories: what a list of entries, posted one after the other, leaves in a
ledger.

A ledger is changed in place: an entry may make a record, refresh the
definition of one, or count a use.  `Record.ofHistory` says what the record of
a symbol is without following these changes.  Its counter is the number of
`used` entries for the symbol, and its definition is that of the last `defined`
entry for it.  The run lemmas `get?_postAll` and `keys_postAll` say that posting
a history to the empty ledger leads exactly there.

From them comes what is found (`findings_postAll`), what counting does
(`collect_fst`, `get?_collect`), and what of all this does not depend on the
order of the history.
-/
import Mathlib.Data.List.Basic
import Mathlib.Data.List.Induction
import Unreferenced.Finding

namespace Unreferenced

/-! ### The record of a history -/

/-- What an entry gives as the definition of a symbol. -/
def Entry.evidence? (symbol : Symbol) : Entry → Option (Snapshot × List Location)
  | .defined s snapshot declarations => if s = symbol then some (snapshot, declarations) else none
  | .used _ => none

/-- What a history gives as definitions of a symbol, first entry first. -/
def evidenceOf (symbol : Symbol) (history : List Entry) : List (Snapshot × List Location) :=
  history.filterMap (Entry.evidence? symbol)

/-- How often a history uses a symbol. -/
def usesOfSymbol (symbol : Symbol) (history : List Entry) : Nat :=
  history.count (.used symbol)

/-- The symbols of a history in the order of their first entries. -/
def touchedBy (history : List Entry) : List Symbol :=
  (history.map Entry.symbol).eraseDups

/-- A record with the given evidence, of which the last counts, and the given number of uses. -/
def Record.ofEvidence (evidence : List (Snapshot × List Location)) (uses : Nat) : Record where
  definition := evidence.getLast?.map Prod.fst
  uses := uses
  declarations := (evidence.getLast?.map Prod.snd).getD []

/-- The record that a history leaves for a symbol. -/
def Record.ofHistory (symbol : Symbol) (history : List Entry) : Record :=
  .ofEvidence (evidenceOf symbol history) (usesOfSymbol symbol history)

/-- An entry changes the record of its own symbol as it is applied to it. -/
theorem Record.ofHistory_concat (symbol : Symbol) (history : List Entry) (e : Entry) :
    Record.ofHistory symbol (history ++ [e]) =
      if symbol = e.symbol then e.apply (Record.ofHistory symbol history)
      else Record.ofHistory symbol history := by
  rcases e with ⟨s, snapshot, declarations⟩ | s
  · -- a definition: the evidence grows at its end, the counter stays
    by_cases h : s = symbol
    · subst h
      simp [Record.ofHistory, Record.ofEvidence, evidenceOf, usesOfSymbol, Entry.evidence?,
        Entry.symbol, Entry.apply]
    · have h' : ¬symbol = s := fun e => h e.symm
      simp [Record.ofHistory, Record.ofEvidence, evidenceOf, usesOfSymbol, Entry.evidence?,
        Entry.symbol, h, h']
  · -- a use: the evidence stays, the counter grows by one
    by_cases h : s = symbol
    · subst h
      simp [Record.ofHistory, Record.ofEvidence, evidenceOf, usesOfSymbol, Entry.evidence?,
        Entry.symbol, Entry.apply]
    · have h' : ¬symbol = s := fun e => h e.symm
      simp [Record.ofHistory, Record.ofEvidence, evidenceOf, usesOfSymbol, Entry.evidence?,
        Entry.symbol, h, h']

/-- A symbol that a history does not touch has the blank record. -/
theorem Record.ofHistory_of_notMem {symbol : Symbol} {history : List Entry}
    (h : symbol ∉ history.map Entry.symbol) : Record.ofHistory symbol history = {} := by
  induction history using List.reverseRecOn with
  | nil => rfl
  | append_singleton history e ih =>
    rw [List.map_append, List.mem_append, not_or] at h
    rw [Record.ofHistory_concat, if_neg fun he => h.2 (by simp [he]), ih h.1]

/-- Going through the entries is going through the keys and looking each of them up. -/
theorem OrderedMap.filterMap_toList {α β γ : Type} [DecidableEq α] (m : OrderedMap α β)
    (f : α → β → Option γ) :
    (m.toList.filterMap fun p => f p.1 p.2) =
      m.keys.filterMap fun k => (m.get? k).bind (f k) := by
  obtain ⟨l, nodup⟩ := m
  show (l.filterMap fun p => f p.1 p.2) =
    (l.map Prod.fst).filterMap fun k => (l.lookup k).bind (f k)
  rw [List.filterMap_map]
  refine List.filterMap_congr fun p hp => ?_
  show f p.1 p.2 = (l.lookup p.1).bind (f p.1)
  rw [OrderedMap.lookup_of_mem nodup hp]
  rfl

/-- A new member goes to the end of the first occurrences, a known one changes nothing. -/
theorem eraseDups_concat {α : Type} [DecidableEq α] (l : List α) (a : α) :
    (l ++ [a]).eraseDups = if a ∈ l then l.eraseDups else l.eraseDups ++ [a] := by
  rw [List.eraseDups_append]
  by_cases h : a ∈ l
  · have hnone : [a].removeAll l = [] := by simp [List.removeAll, h]
    rw [if_pos h, hnone, List.eraseDups_nil, List.append_nil]
  · have hone : [a].removeAll l = [a] := by simp [List.removeAll, h]
    rw [if_neg h, hone]
    rfl

/-- A list in which nothing occurs twice consists of first occurrences. -/
theorem eraseDups_of_nodup {α : Type} [DecidableEq α] {l : List α} (h : l.Nodup) :
    l.eraseDups = l := by
  induction l with
  | nil => rfl
  | cons a l ih =>
    obtain ⟨ha, hl⟩ := List.nodup_cons.1 h
    have hother : (l.filter fun b => !b == a) = l := by
      rw [List.filter_eq_self]
      intro b hb
      simp only [Bool.not_eq_true', beq_eq_false_iff_ne]
      rintro rfl
      exact ha hb
    rw [List.eraseDups_cons, hother, ih hl]

namespace Ledger

/-! ### Posting a history -/

theorem postAll_concat (ledger : Ledger) (history : List Entry) (e : Entry) :
    ledger.postAll (history ++ [e]) = (ledger.postAll history).post e := by
  rw [postAll, List.foldl_append]
  rfl

theorem postAll_append (ledger : Ledger) (history later : List Entry) :
    ledger.postAll (history ++ later) = (ledger.postAll history).postAll later :=
  List.foldl_append

/-- After a history every symbol it touches has its record, and no other symbol has one. -/
theorem get?_postAll (history : List Entry) (symbol : Symbol) :
    (empty.postAll history).get? symbol =
      if symbol ∈ history.map Entry.symbol then some (Record.ofHistory symbol history) else none := by
  induction history using List.reverseRecOn with
  | nil => rfl
  | append_singleton history e ih =>
    rw [postAll_concat, get?_post, Record.ofHistory_concat, ih]
    by_cases hs : symbol = e.symbol
    · have hin : symbol ∈ (history ++ [e]).map Entry.symbol := by simp [hs]
      rw [if_pos hs, if_pos hs, if_pos hin]
      by_cases hm : symbol ∈ history.map Entry.symbol
      · rw [if_pos hm]
        rfl
      · -- the first entry for the symbol is applied to the blank record
        rw [if_neg hm, Record.ofHistory_of_notMem hm]
        rfl
    · rw [if_neg hs, if_neg hs]
      have hiff : symbol ∈ (history ++ [e]).map Entry.symbol ↔ symbol ∈ history.map Entry.symbol := by
        simp [hs]
      simp only [hiff]

/-- A history leaves the symbols of a ledger in their places and puts new ones behind them, in the
order of their first entries. -/
theorem keys_postAll_append (ledger : Ledger) (history : List Entry) :
    (ledger.postAll history).records.keys =
      (ledger.records.keys ++ history.map Entry.symbol).eraseDups := by
  induction history using List.reverseRecOn with
  | nil =>
    rw [List.map_nil, List.append_nil]
    exact (eraseDups_of_nodup ledger.records.nodup).symm
  | append_singleton history e ih =>
    rw [postAll_concat]
    show ((ledger.postAll history).records.alter e.symbol _).keys = _
    rw [OrderedMap.keys_alter, ih, List.map_append, ← List.append_assoc]
    show _ = (ledger.records.keys ++ history.map Entry.symbol ++ [e.symbol]).eraseDups
    rw [eraseDups_concat]
    simp only [List.mem_eraseDups]

/-- After a history the symbols stand in the order of their first entries. -/
theorem keys_postAll (history : List Entry) :
    (empty.postAll history).records.keys = touchedBy history :=
  keys_postAll_append empty history

/-! ### Findings -/

/-- The findings, read off the keys of a ledger. -/
theorem findings_eq_filterMap_keys (ledger : Ledger) :
    ledger.findings = ledger.records.keys.filterMap fun symbol =>
      (ledger.get? symbol).bind (Finding.ofRecord? symbol) :=
  OrderedMap.filterMap_toList ledger.records Finding.ofRecord?

/-- The finding of a symbol after a history, if it is one. -/
def findingOf? (history : List Entry) (symbol : Symbol) : Option Finding :=
  Finding.ofRecord? symbol (Record.ofHistory symbol history)

theorem findings_postAll (history : List Entry) :
    (empty.postAll history).findings = (touchedBy history).filterMap (findingOf? history) := by
  rw [findings_eq_filterMap_keys, keys_postAll]
  apply List.filterMap_congr
  intro symbol hs
  rw [get?_postAll, if_pos (List.mem_eraseDups.1 hs)]
  rfl

/-- A symbol is found if it has a definition and no use; its last definition is the evidence. -/
theorem findingOf?_eq (history : List Entry) (symbol : Symbol) :
    findingOf? history symbol =
      if usesOfSymbol symbol history = 0 then
        (evidenceOf symbol history).getLast?.map fun e => ⟨symbol, e.1, e.2⟩
      else none := by
  unfold findingOf? Finding.ofRecord? Record.ofHistory Record.ofEvidence
  rcases (evidenceOf symbol history).getLast? with - | ⟨snapshot, declarations⟩
  · simp
  · rfl

theorem isSome_findingOf? (history : List Entry) (symbol : Symbol) :
    (findingOf? history symbol).isSome ↔
      evidenceOf symbol history ≠ [] ∧ usesOfSymbol symbol history = 0 := by
  rw [findingOf?_eq]
  by_cases h : usesOfSymbol symbol history = 0
  · rw [if_pos h, Option.isSome_map, List.getLast?_isSome]
    exact ⟨fun he => ⟨he, h⟩, fun he => he.1⟩
  · rw [if_neg h]
    exact ⟨fun hn => (Bool.false_ne_true hn).elim, fun he => absurd he.2 h⟩

theorem symbol_of_findingOf? {history : List Entry} {symbol : Symbol} {f : Finding}
    (h : findingOf? history symbol = some f) : f.symbol = symbol := by
  rw [findingOf?_eq] at h
  split at h
  · obtain ⟨e, -, rfl⟩ := Option.map_eq_some_iff.1 h
    rfl
  · cases h

/-- A finding shows the last definition of its symbol. -/
theorem evidence_of_findingOf? {history : List Entry} {symbol : Symbol} {f : Finding}
    (h : findingOf? history symbol = some f) :
    (evidenceOf symbol history).getLast? = some (f.definition, f.declarations) := by
  rw [findingOf?_eq] at h
  split at h
  · obtain ⟨e, he, rfl⟩ := Option.map_eq_some_iff.1 h
    exact he
  · cases h

/-- The symbols found after a history: those with a definition and without a use, in the order in
which they were first touched. -/
theorem symbols_findings_postAll (history : List Entry) :
    (empty.postAll history).findings.map Finding.symbol =
      (touchedBy history).filter fun symbol =>
        decide (evidenceOf symbol history ≠ [] ∧ usesOfSymbol symbol history = 0) := by
  rw [findings_postAll]
  induction touchedBy history with
  | nil => rfl
  | cons symbol symbols ih =>
    rw [List.filterMap_cons, List.filter_cons]
    rcases e : findingOf? history symbol with - | f
    · have hno : ¬(evidenceOf symbol history ≠ [] ∧ usesOfSymbol symbol history = 0) := by
        rw [← isSome_findingOf?, e]
        exact Bool.false_ne_true
      rw [decide_eq_false hno]
      exact ih
    · have hyes : evidenceOf symbol history ≠ [] ∧ usesOfSymbol symbol history = 0 := by
        rw [← isSome_findingOf?, e]
        rfl
      rw [decide_eq_true hyes]
      show f.symbol :: _ = symbol :: _
      rw [symbol_of_findingOf? e, ih]

theorem nodup_touchedBy (history : List Entry) : (touchedBy history).Nodup := by
  rw [← keys_postAll]
  exact (empty.postAll history).records.nodup

/-- No symbol is found twice. -/
theorem nodup_symbols_findings_postAll (history : List Entry) :
    ((empty.postAll history).findings.map Finding.symbol).Nodup := by
  rw [symbols_findings_postAll]
  exact (nodup_touchedBy history).filter _

theorem mem_symbols_findings_postAll {history : List Entry} {symbol : Symbol} :
    symbol ∈ (empty.postAll history).findings.map Finding.symbol ↔
      evidenceOf symbol history ≠ [] ∧ usesOfSymbol symbol history = 0 := by
  rw [symbols_findings_postAll, List.mem_filter, decide_eq_true_iff]
  refine ⟨fun h => h.2, fun h => ⟨?_, h⟩⟩
  -- what has evidence is touched
  by_contra hm
  have hr := Record.ofHistory_of_notMem fun h => hm (List.mem_eraseDups.2 h)
  have hd : (evidenceOf symbol history).getLast?.map Prod.fst = none :=
    congrArg Record.definition hr
  rw [Option.map_eq_none_iff, List.getLast?_eq_none_iff] at hd
  exact h.1 hd

/-! ### Counting findings -/

/-- What collecting some records adds to what was collected before. -/
theorem foldl_collectRecord (records : List (Symbol × Record)) (found : List Finding)
    (s : Statistics) :
    (records.foldl collectRecord (found, s)).1 =
        found ++ records.filterMap (fun r => Finding.ofRecord? r.1 r.2) ∧
      ∀ name, (records.foldl collectRecord (found, s)).2.get? name =
        if name = Finding.counter then
          (s.get? name).map fun c =>
            { c with value := c.value + (records.filterMap fun r => Finding.ofRecord? r.1 r.2).length }
        else s.get? name := by
  induction records generalizing found s with
  | nil => simp
  | cons r records ih =>
    rw [List.foldl_cons, List.filterMap_cons]
    rcases e : Finding.ofRecord? r.1 r.2 with - | f
    · have hr : collectRecord (found, s) r = (found, s) := by simp [collectRecord, e]
      rw [hr]
      exact ih found s
    · have hr : collectRecord (found, s) r =
          (found ++ [f], s.increment Finding.counter 1) := by simp [collectRecord, e]
      rw [hr]
      obtain ⟨hfound, hcount⟩ := ih (found ++ [f]) (s.increment Finding.counter 1)
      refine ⟨by rw [hfound]; simp, fun name => ?_⟩
      rw [hcount name, Statistics.get?_increment]
      by_cases hn : name = Finding.counter
      · subst hn
        rw [if_pos rfl, if_pos rfl, if_pos rfl, Option.map_map]
        apply congrFun
        apply congrArg
        funext c
        simp only [Function.comp_apply, List.length_cons, Statistic.mk.injEq, true_and]
        omega
      · rw [if_neg hn, if_neg hn, if_neg hn]

/-- Collecting gives the findings of the ledger. -/
theorem collect_fst (ledger : Ledger) (s : Statistics) : (ledger.collect s).1 = ledger.findings := by
  rw [collect, (foldl_collectRecord ledger.toList [] s).1]
  rfl

/-- Collecting adds the number of findings to the counter of unused functions and leaves the other
counters alone. -/
theorem get?_collect (ledger : Ledger) (s : Statistics) (name : String) :
    (ledger.collect s).2.get? name =
      if name = Finding.counter then
        (s.get? name).map fun c => { c with value := c.value + ledger.findings.length }
      else s.get? name :=
  (foldl_collectRecord ledger.toList [] s).2 name

end Ledger

/-! ### What the order of a history does not change -/

section Order

variable {history history' : List Entry}

theorem usesOfSymbol_perm (h : history'.Perm history) (symbol : Symbol) :
    usesOfSymbol symbol history' = usesOfSymbol symbol history :=
  h.count_eq _

theorem evidenceOf_ne_nil_perm (h : history'.Perm history) (symbol : Symbol) :
    evidenceOf symbol history' ≠ [] ↔ evidenceOf symbol history ≠ [] := by
  have hperm : (evidenceOf symbol history').Perm (evidenceOf symbol history) := h.filterMap _
  rw [ne_eq, ne_eq, ← List.length_eq_zero_iff, ← List.length_eq_zero_iff, hperm.length_eq]

/-- Entries in another order give the same counter and the same answer to whether there is a
definition. -/
theorem Record.ofHistory_perm (h : history'.Perm history) (symbol : Symbol) :
    (Record.ofHistory symbol history').uses = (Record.ofHistory symbol history).uses ∧
      (Record.ofHistory symbol history').definition.isSome =
        (Record.ofHistory symbol history).definition.isSome := by
  refine ⟨usesOfSymbol_perm h symbol, ?_⟩
  show ((evidenceOf symbol history').getLast?.map Prod.fst).isSome =
    ((evidenceOf symbol history).getLast?.map Prod.fst).isSome
  rw [Option.isSome_map, Option.isSome_map, Bool.eq_iff_iff, List.getLast?_isSome,
    List.getLast?_isSome]
  exact evidenceOf_ne_nil_perm h symbol

/-- Entries in another order leave the same symbols, with the same counters, and the same of them
with a definition. -/
theorem get?_postAll_perm (h : history'.Perm history) (symbol : Symbol) :
    ((Ledger.empty.postAll history').get? symbol).map (fun r => (r.uses, r.definition.isSome)) =
      ((Ledger.empty.postAll history).get? symbol).map fun r => (r.uses, r.definition.isSome) := by
  have hmem : symbol ∈ history'.map Entry.symbol ↔ symbol ∈ history.map Entry.symbol :=
    (h.map Entry.symbol).mem_iff
  obtain ⟨huses, hdefinition⟩ := Record.ofHistory_perm h symbol
  rw [Ledger.get?_postAll, Ledger.get?_postAll]
  by_cases hs : symbol ∈ history.map Entry.symbol
  · rw [if_pos hs, if_pos (hmem.2 hs), Option.map_some, Option.map_some, huses, hdefinition]
  · rw [if_neg hs, if_neg fun hs' => hs (hmem.1 hs')]

/-- Entries in another order find the same symbols. -/
theorem symbols_findings_perm (h : history'.Perm history) :
    ((Ledger.empty.postAll history').findings.map Finding.symbol).Perm
      ((Ledger.empty.postAll history).findings.map Finding.symbol) := by
  rw [List.perm_ext_iff_of_nodup (Ledger.nodup_symbols_findings_postAll history')
    (Ledger.nodup_symbols_findings_postAll history)]
  intro symbol
  rw [Ledger.mem_symbols_findings_postAll, Ledger.mem_symbols_findings_postAll,
    usesOfSymbol_perm h, evidenceOf_ne_nil_perm h]

end Order

end Unreferenced
