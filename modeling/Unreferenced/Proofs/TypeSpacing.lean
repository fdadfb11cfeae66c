/-
Unreferenced/Proofs/TypeSpacing.lean

The canonical spelling of a type does not depend on how the type is spaced.

Elaborating keywords go first.  What goes is decided word by word: a keyword goes
if a blank follows it, with all blanks up to the next character, and every other
word stays (`dropElaborators_word_append`, `dropElaborators_keyword`).  So proofs
about it go by induction on a text cut into words and other characters
(`word_induction`).  It makes no difference whether runs of blanks are collapsed
before or after (`collapse_dropElaborators`), which is why only the place of a
run matters, and not what it is made of.

A tight character stands between two texts that have nothing to do with each
other: the canonical spelling of the whole is that of the two parts
(`canonicalType_tight`).  So blanks next to a tight character are blanks at the
end of a part, and these are trimmed away, except that a blank behind a keyword
takes the keyword with it.
-/
import Unreferenced.Proofs.BlankRun
import Unreferenced.Proofs.PointerParameter
import Unreferenced.Proofs.ScopeSpelling

namespace Unreferenced.Spelling

open Text

/-! ### Keywords -/

/-- The text starts with a keyword and a blank, and something follows the blanks. -/
theorem afterElaborator?_eq_some_iff {s rest : List Char} :
    afterElaborator? s = some rest ↔
      ∃ word ∈ elaborators, ∃ c r, s = word ++ c :: r ∧ isBlank c = true ∧ skipBlanks r = rest := by
  have hforward : ∀ {rest}, afterElaborator? s = some rest →
      ∃ word ∈ elaborators, ∃ c r, s = word ++ c :: r ∧ isBlank c = true ∧ skipBlanks r = rest := by
    intro rest h
    obtain ⟨word, hword, hrest⟩ := List.exists_of_findSome?_eq_some h
    split at hrest
    · next c r hafter =>
      split at hrest
      · next hc => exact ⟨word, hword, c, r, after?_eq_some_iff.1 hafter, hc, Option.some.inj hrest⟩
      · cases hrest
    · cases hrest
  refine ⟨hforward, ?_⟩
  rintro ⟨word, hword, c, r, hs, hc, rfl⟩
  rcases hfound : afterElaborator? s with - | found
  · have hnone := List.findSome?_eq_none_iff.1 hfound word hword
    rw [after?_eq_some_iff.2 hs] at hnone
    simp [hc] at hnone
  · -- the word that was found ends where this one ends
    obtain ⟨word', hword', c', r', hs', hc', rfl⟩ := hforward hfound
    have hcut := cut_unique (p := fun c => !isWord c) (a := word) (b := word') (x := c :: r)
      (y := c' :: r') (fun d hd => by rw [isWord_of_mem_elaborators hword hd]; rfl)
      (fun d hd => by rw [isWord_of_mem_elaborators hword' hd]; rfl)
      (by simp [isWord_of_isBlank hc]) (by simp [isWord_of_isBlank hc']) (hs ▸ hs')
    rw [(List.cons.inj hcut.2).2]

/-- A text that starts with a word starts with a keyword and a blank only if the word is the keyword
and the blank follows it. -/
theorem afterElaborator?_word {word rest : List Char} (hword : word.all isWord = true)
    (hrest : rest.head?.all (fun c => !isWord c) = true)
    (hkeep : ¬(word ∈ elaborators ∧ rest.head?.any isBlank = true)) :
    afterElaborator? (word ++ rest) = none := by
  rw [Option.eq_none_iff_forall_ne_some]
  intro found hfound
  obtain ⟨word', hword', c, r, hs, hc, -⟩ := afterElaborator?_eq_some_iff.1 hfound
  have hcut := cut_unique (p := fun c => !isWord c) (a := word) (b := word') (x := rest)
    (y := c :: r) (fun d hd => by rw [List.all_eq_true.1 hword d hd]; rfl)
    (fun d hd => by rw [isWord_of_mem_elaborators hword' hd]; rfl) hrest
    (by simp [isWord_of_isBlank hc]) hs
  obtain ⟨rfl, rfl⟩ := hcut
  exact hkeep ⟨hword', by simpa using hc⟩

/-! ### Dropping keywords word by word -/

/-- Where no word goes on, it does not matter whether one stands before. -/
theorem dropElaborators_true {s : List Char} (h : s.head?.all (fun c => !isWord c) = true) :
    dropElaborators true s = dropElaborators false s := by
  rcases s with - | ⟨c, s⟩
  · simp [dropElaborators]
  · have hc : isWord c = false := by simpa using h
    rw [dropElaborators_cons hc, dropElaborators_cons hc]

/-- A word stays, unless it is a keyword with a blank behind it. -/
theorem dropElaborators_word_append {word t : List Char} (hword : word.all isWord = true)
    (ht : t.head?.all (fun c => !isWord c) = true)
    (hkeep : ¬(word ∈ elaborators ∧ t.head?.any isBlank = true)) :
    dropElaborators false (word ++ t) = word ++ dropElaborators false t := by
  have hnone := afterElaborator?_word hword ht hkeep
  rcases word with - | ⟨c, word⟩
  · rfl
  rw [List.all_cons, Bool.and_eq_true] at hword
  rw [List.cons_append] at hnone ⊢
  rw [dropElaborators, if_neg Bool.false_ne_true]
  split
  · next hsome =>
    rw [hnone] at hsome
    cases hsome
  · rw [hword.1, dropElaborators_word hword.2, dropElaborators_true ht]
    rfl

/-- A word with nothing behind it stays, whatever it is. -/
theorem dropElaborators_of_word {word : List Char} (hword : word.all isWord = true) :
    dropElaborators false word = word := by
  have happend := dropElaborators_word_append (t := []) hword rfl (by simp)
  simpa [dropElaborators] using happend

/-- A keyword with a blank behind it goes, and all blanks up to the next character with it. -/
theorem dropElaborators_keyword {word t : List Char} (hword : word ∈ elaborators)
    (ht : t.head?.any isBlank = true) :
    dropElaborators false (word ++ t) = dropElaborators false (skipBlanks t) := by
  obtain ⟨c, r, rfl⟩ : ∃ c r, t = c :: r := by
    refine List.exists_cons_of_ne_nil ?_
    rintro rfl
    cases ht
  have hc : isBlank c = true := by simpa using ht
  have hfound := afterElaborator?_eq_some_iff.2 ⟨word, hword, c, r, rfl, hc, rfl⟩
  obtain ⟨d, word, rfl⟩ := List.exists_cons_of_ne_nil (ne_nil_of_mem_elaborators hword)
  rw [List.cons_append] at hfound ⊢
  rw [dropElaborators, if_neg Bool.false_ne_true, skipBlanks_cons_blank hc]
  split
  · next hsome =>
    rw [hfound] at hsome
    rw [Option.some.inj hsome]
  · next hnone =>
    rw [hfound] at hnone
    cases hnone

/-- Induction on a text cut into words and other characters.  What follows a word may also be taken
without the blanks it starts with. -/
theorem word_induction {P : List Char → Prop} (nil : P [])
    (other : ∀ c s, isWord c = false → P s → P (c :: s))
    (word : ∀ w s, w ≠ [] → w.all isWord = true → s.head?.all (fun c => !isWord c) = true →
      P s → P (skipBlanks s) → P (w ++ s))
    (s : List Char) : P s := by
  induction hlength : s.length using Nat.strongRecOn generalizing s with
  | _ length ih =>
  subst hlength
  rcases s with - | ⟨c, s⟩
  · exact nil
  by_cases hc : isWord c = true
  · have hdrop := (List.dropWhile_sublist isWord (l := s)).length_le
    have hlt : (s.dropWhile isWord).length < (c :: s).length := Nat.lt_succ_of_le hdrop
    have hword := word (c :: s.takeWhile isWord) (s.dropWhile isWord) (List.cons_ne_nil _ _)
      (by
        rw [List.all_cons, hc]
        exact List.all_eq_true.2 fun d hd => List.mem_takeWhile_imp hd)
      (by
        have := List.head?_dropWhile_not isWord s
        rcases h : (s.dropWhile isWord).head? with - | d
        · rfl
        · simpa [h] using this)
      (ih _ hlt _ rfl) (ih _ (Nat.lt_of_le_of_lt (length_skipBlanks_le _) hlt) _ rfl)
    rwa [List.cons_append, List.takeWhile_append_dropWhile] at hword
  · exact other c s (by simpa using hc) (ih _ (Nat.lt_succ_self _) _ rfl)

theorem dropElaborators_sublist (s : List Char) : (dropElaborators false s).Sublist s := by
  induction s using word_induction with
  | nil => simp [dropElaborators]
  | other c s hc ih =>
    rw [dropElaborators_cons hc]
    exact ih.cons_cons c
  | word w s hne hword hs ih ihskip =>
    by_cases hgoes : w ∈ elaborators ∧ s.head?.any isBlank = true
    · rw [dropElaborators_keyword hgoes.1 hgoes.2]
      exact (ihskip.trans (List.dropWhile_sublist _)).trans (List.sublist_append_right w s)
    · rw [dropElaborators_word_append hword hs hgoes]
      exact ih.append_left w

/-- Nothing comes to stand before a text that starts with no word. -/
theorem head?_dropElaborators {s : List Char} (h : s.head?.all (fun c => !isWord c) = true) :
    (dropElaborators false s).head? = s.head? := by
  rcases s with - | ⟨c, s⟩
  · simp [dropElaborators]
  · rw [dropElaborators_cons (by simpa using h)]
    rfl

/-- Dropping keywords brings no blank to the start. -/
theorem head?_dropElaborators_of_not_blank {s : List Char}
    (h : s.head?.all (fun c => !isBlank c) = true) :
    (dropElaborators false s).head?.all (fun c => !isBlank c) = true := by
  induction s using word_induction with
  | nil => simp [dropElaborators]
  | other c s hc _ => rwa [dropElaborators_cons hc]
  | word w s hne hword hs _ ihskip =>
    by_cases hgoes : w ∈ elaborators ∧ s.head?.any isBlank = true
    · rw [dropElaborators_keyword hgoes.1 hgoes.2]
      exact ihskip (head?_skipBlanks s)
    · obtain ⟨c, w, rfl⟩ := List.exists_cons_of_ne_nil hne
      rw [dropElaborators_word_append hword hs hgoes]
      exact h

/-- Blanks in front of a text stay when its keywords go. -/
theorem dropElaborators_run {blanks : List Char} (hblanks : blanks.all isBlank = true)
    (s : List Char) :
    dropElaborators false (blanks ++ s) = blanks ++ dropElaborators false s := by
  induction blanks with
  | nil => rfl
  | cons c blanks ih =>
    rw [List.all_cons, Bool.and_eq_true] at hblanks
    rw [List.cons_append, dropElaborators_cons (isWord_of_isBlank hblanks.1), ih hblanks.2]
    rfl

theorem dropElaborators_skipBlanks (s : List Char) :
    dropElaborators false (skipBlanks s) = skipBlanks (dropElaborators false s) := by
  obtain ⟨blanks, hblanks, hs⟩ := exists_run_skipBlanks s
  have hhead := head?_dropElaborators_of_not_blank (head?_skipBlanks s)
  calc dropElaborators false (skipBlanks s)
      = skipBlanks (dropElaborators false (skipBlanks s)) := (skipBlanks_eq_self hhead).symm
    _ = skipBlanks (blanks ++ dropElaborators false (skipBlanks s)) := (skipBlanks_run hblanks _).symm
    _ = skipBlanks (dropElaborators false s) := by rw [← dropElaborators_run hblanks, ← hs]

/-! ### Keywords and runs of blanks -/

theorem head?_collapse_any_isBlank (s : List Char) :
    (collapse s).head?.any isBlank = s.head?.any isBlank := by
  rw [head?_collapse]
  rcases s.head? with - | c
  · rfl
  · by_cases hc : isBlank c = true
    · simp [hc]
    · simp [hc]

theorem head?_collapse_all_isWord {s : List Char} (h : s.head?.all (fun c => !isWord c) = true) :
    (collapse s).head?.all (fun c => !isWord c) = true := by
  rw [head?_collapse]
  rcases hs : s.head? with - | c
  · rfl
  · rw [hs] at h
    by_cases hc : isBlank c = true
    · simp [hc, isWord_of_isBlank isBlank_space]
    · simpa [hc] using h

/-- Runs of blanks are collapsed before keywords go, or after. -/
theorem collapse_dropElaborators (s : List Char) :
    collapse (dropElaborators false s) = dropElaborators false (collapse s) := by
  induction s using word_induction with
  | nil => simp [dropElaborators, collapse]
  | other c s hc ih =>
    rw [dropElaborators_cons hc]
    by_cases hblank : isBlank c = true
    · rw [collapse_cons_blank hblank, collapse_cons_blank hblank,
        dropElaborators_cons (isWord_of_isBlank isBlank_space), collapse_skipBlanks,
        collapse_skipBlanks, dropElaborators_skipBlanks, ih]
    · rw [Bool.not_eq_true] at hblank
      rw [collapse_cons hblank, collapse_cons hblank, dropElaborators_cons hc, ih]
  | word w s hne hword hs ih ihskip =>
    rw [collapse_append hword]
    by_cases hgoes : w ∈ elaborators ∧ s.head?.any isBlank = true
    · rw [dropElaborators_keyword hgoes.1 hgoes.2, ihskip, dropElaborators_keyword hgoes.1,
        collapse_skipBlanks]
      rw [head?_collapse_any_isBlank]
      exact hgoes.2
    · have hkeep : ¬(w ∈ elaborators ∧ (collapse s).head?.any isBlank = true) := by
        rwa [head?_collapse_any_isBlank]
      rw [dropElaborators_word_append hword hs hgoes, collapse_append hword, ih,
        dropElaborators_word_append hword (head?_collapse_all_isWord hs) hkeep]

/-- Only what a text is collapsed to matters for the canonical spelling. -/
theorem canonicalType_congr {s t : List Char} (h : collapse s = collapse t) :
    canonicalType s = canonicalType t := by
  unfold canonicalType
  rw [collapse_dropElaborators, collapse_dropElaborators, h]

/-! ### Texts without keywords -/

theorem dropElaborators_dropElaborators (s : List Char) :
    dropElaborators false (dropElaborators false s) = dropElaborators false s := by
  induction s using word_induction with
  | nil => simp [dropElaborators]
  | other c s hc ih => rw [dropElaborators_cons hc, dropElaborators_cons hc, ih]
  | word w s hne hword hs ih ihskip =>
    by_cases hgoes : w ∈ elaborators ∧ s.head?.any isBlank = true
    · rw [dropElaborators_keyword hgoes.1 hgoes.2, ihskip]
    · have hhead := head?_dropElaborators hs
      rw [dropElaborators_word_append hword hs hgoes,
        dropElaborators_word_append hword (hhead ▸ hs) (hhead ▸ hgoes), ih]

/-- A text from which no keyword goes has none at its start either. -/
theorem dropElaborators_of_append {s t : List Char}
    (h : dropElaborators false (s ++ t) = s ++ t) : dropElaborators false s = s := by
  induction s using word_induction with
  | nil => simp [dropElaborators]
  | other c s hc ih =>
    rw [List.cons_append, dropElaborators_cons hc] at h
    rw [dropElaborators_cons hc, ih (List.cons.inj h).2]
  | word w s hne hword hs ih _ =>
    rcases s with - | ⟨c, s⟩
    · rw [List.append_nil]
      exact dropElaborators_of_word hword
    · rw [List.append_assoc] at h
      by_cases hgoes : w ∈ elaborators ∧ (c :: s).head?.any isBlank = true
      · -- without the keyword the text would be shorter
        rw [dropElaborators_keyword hgoes.1 (t := c :: s ++ t) hgoes.2] at h
        have hle := (dropElaborators_sublist (skipBlanks (c :: s ++ t))).length_le
        have hskip := length_skipBlanks_le (c :: s ++ t)
        have hpos := List.length_pos_iff.2 hne
        rw [h, List.length_append] at hle
        omega
      · rw [dropElaborators_word_append hword (t := c :: s ++ t) hs hgoes] at h
        rw [dropElaborators_word_append hword hs hgoes, ih (List.append_cancel_left h)]

theorem dropElaborators_trim {s : List Char} (h : dropElaborators false s = s) :
    dropElaborators false (trim s) = trim s := by
  have hskip : dropElaborators false (skipBlanks s) = skipBlanks s := by
    rw [dropElaborators_skipBlanks, h]
  obtain ⟨blanks, -, hs⟩ := exists_run_dropTrailingBlanks (skipBlanks s)
  rw [hs] at hskip
  exact dropElaborators_of_append hskip

/-! ### Blanks behind a text -/

/-- The text ends in one of the keywords. -/
def EndsInElaborator (s : List Char) : Prop :=
  ∃ start, ∃ word ∈ elaborators, s = start ++ word ∧
    start.getLast?.all (fun c => !isWord c) = true

instance (s : List Char) : Decidable (EndsInElaborator s) :=
  decidable_of_iff
    (∃ word ∈ elaborators, word <:+ s ∧
      (s.take (s.length - word.length)).getLast?.all (fun c => !isWord c) = true) <| by
    constructor
    · rintro ⟨word, hword, ⟨start, rfl⟩, hstart⟩
      rw [List.length_append, Nat.add_sub_cancel, List.take_left] at hstart
      exact ⟨start, word, hword, rfl, hstart⟩
    · rintro ⟨start, word, hword, rfl, hstart⟩
      refine ⟨word, hword, List.suffix_append start word, ?_⟩
      rwa [List.length_append, Nat.add_sub_cancel, List.take_left]

theorem EndsInElaborator.cons {c : Char} (hc : isWord c = false) {s : List Char}
    (h : EndsInElaborator s) : EndsInElaborator (c :: s) := by
  obtain ⟨start, word, hword, rfl, hstart⟩ := h
  refine ⟨c :: start, word, hword, rfl, ?_⟩
  rcases start with - | ⟨d, start⟩
  · simp [hc]
  · rwa [List.getLast?_cons_cons]

/-- A keyword at the end of a text is its last word, whatever stands before. -/
theorem EndsInElaborator.append {w s : List Char} (hs : s.head?.all (fun c => !isWord c) = true)
    (h : EndsInElaborator s) : EndsInElaborator (w ++ s) := by
  obtain ⟨start, word, hword, rfl, hstart⟩ := h
  refine ⟨w ++ start, word, hword, (List.append_assoc w start word).symm, ?_⟩
  rcases List.eq_nil_or_concat start with rfl | ⟨start, c, rfl⟩
  · -- the text would start with a word
    obtain ⟨c, word, rfl⟩ := List.exists_cons_of_ne_nil (ne_nil_of_mem_elaborators hword)
    have hc := isWord_of_mem_elaborators hword List.mem_cons_self
    simp [hc] at hs
  · simpa using hstart

/-- Blanks behind a text that does not end in a keyword take nothing with them. -/
theorem exists_dropElaborators_append {blanks : List Char} (hblanks : blanks.all isBlank = true)
    {s : List Char} (h : ¬EndsInElaborator s) :
    ∃ rest, rest.all isBlank = true ∧
      dropElaborators false (s ++ blanks) = dropElaborators false s ++ rest := by
  have hall : dropElaborators false blanks = blanks := by
    simpa [dropElaborators] using dropElaborators_run hblanks []
  induction s using word_induction with
  | nil => exact ⟨blanks, hblanks, by simpa [dropElaborators] using hall⟩
  | other c s hc ih =>
    obtain ⟨rest, hrest, heq⟩ := ih fun hs => h (hs.cons hc)
    refine ⟨rest, hrest, ?_⟩
    rw [List.cons_append, dropElaborators_cons hc, dropElaborators_cons hc, heq]
    rfl
  | word w s hne hword hs ih _ =>
    rcases s with - | ⟨c, s⟩
    · -- the word at the end is no keyword
      have hkeyword : w ∉ elaborators := fun hmem => h ⟨[], w, hmem, by simp, rfl⟩
      have hhead : blanks.head?.all (fun c => !isWord c) = true := by
        rcases blanks with - | ⟨b, blanks⟩
        · rfl
        · rw [List.all_cons, Bool.and_eq_true] at hblanks
          simp [isWord_of_isBlank hblanks.1]
      refine ⟨blanks, hblanks, ?_⟩
      rw [List.append_nil, dropElaborators_word_append hword hhead fun hgoes => hkeyword hgoes.1,
        dropElaborators_of_word hword, hall]
    · obtain ⟨rest, hrest, heq⟩ := ih fun hend => h (hend.append hs)
      rw [List.append_assoc]
      by_cases hgoes : w ∈ elaborators ∧ (c :: s).head?.any isBlank = true
      · obtain ⟨rest', hrest', hskip⟩ :=
          exists_skipBlanks_append hrest (dropElaborators false (c :: s))
        refine ⟨rest', hrest', ?_⟩
        rw [dropElaborators_keyword hgoes.1 (t := c :: s ++ blanks) hgoes.2,
          dropElaborators_keyword hgoes.1 hgoes.2, dropElaborators_skipBlanks,
          dropElaborators_skipBlanks, heq, hskip]
      · refine ⟨rest, hrest, ?_⟩
        rw [dropElaborators_word_append hword (t := c :: s ++ blanks) hs hgoes,
          dropElaborators_word_append hword hs hgoes, heq, List.append_assoc]

theorem canonicalType_eq (s : List Char) :
    canonicalType s = tighten (collapse (trim (dropElaborators false s))) := by
  rw [canonicalType, collapse_trim]

/-- Blanks in front of a text do not count. -/
theorem canonicalType_run_append {blanks : List Char} (hblanks : blanks.all isBlank = true)
    (s : List Char) : canonicalType (blanks ++ s) = canonicalType s := by
  rw [canonicalType_eq, dropElaborators_run hblanks, trim_run_append hblanks, canonicalType_eq]

/-- Nor do blanks behind it, if it does not end in a keyword. -/
theorem canonicalType_append_run {blanks : List Char} (hblanks : blanks.all isBlank = true)
    {s : List Char} (h : ¬EndsInElaborator s) : canonicalType (s ++ blanks) = canonicalType s := by
  obtain ⟨rest, hrest, heq⟩ := exists_dropElaborators_append hblanks h
  rw [canonicalType_eq, heq, trim_append_run hrest, canonicalType_eq]

/-! ### Parts between tight characters -/

/-- Blanks behind a tight character go as blanks at the start of a text do. -/
theorem dropBlanksAfterTight_true_eq (s : List Char) :
    dropBlanksAfterTight true s = dropBlanksAfterTight false (skipBlanks s) := by
  induction s with
  | nil => rfl
  | cons c s ih =>
    by_cases hc : isBlank c = true
    · rw [dropBlanksAfterTight, skipBlanks_cons_blank hc, hc, Bool.and_self, if_pos rfl, ih]
    · rw [Bool.not_eq_true] at hc
      rw [skipBlanks_cons hc, dropBlanksAfterTight, dropBlanksAfterTight, hc, Bool.and_false,
        Bool.and_false]

/-- Characters other than blanks always stay. -/
theorem dropBlanksAfterTight_concat {c : Char} (hc : isBlank c = false) (afterTight : Bool)
    (s : List Char) :
    dropBlanksAfterTight afterTight (s ++ [c]) = dropBlanksAfterTight afterTight s ++ [c] := by
  induction s generalizing afterTight with
  | nil => simp [dropBlanksAfterTight, hc]
  | cons d s ih =>
    rw [List.cons_append, dropBlanksAfterTight, dropBlanksAfterTight]
    split
    · exact ih true
    · rw [ih]
      rfl

/-- Of the blanks at the end some stay, or none. -/
theorem exists_dropBlanksAfterTight_append {blanks : List Char}
    (hblanks : blanks.all isBlank = true) (afterTight : Bool) (s : List Char) :
    ∃ rest, rest.all isBlank = true ∧ dropBlanksAfterTight afterTight (s ++ blanks) =
      dropBlanksAfterTight afterTight s ++ rest := by
  induction s generalizing afterTight with
  | nil =>
    cases afterTight with
    | false =>
      have hall := dropBlanksAfterTight_blanks hblanks []
      rw [List.append_nil] at hall
      exact ⟨blanks, hblanks, by rw [List.nil_append, hall]; simp [dropBlanksAfterTight]⟩
    | true =>
      have hall := dropBlanksAfterTight_true hblanks []
      rw [List.append_nil] at hall
      exact ⟨[], rfl, by rw [List.nil_append, hall]; simp⟩
  | cons d s ih =>
    rw [List.cons_append, dropBlanksAfterTight, dropBlanksAfterTight]
    split
    · exact ih true
    · obtain ⟨rest, hrest, heq⟩ := ih (isTight d)
      exact ⟨rest, hrest, by rw [heq]; rfl⟩

theorem dropTrailingBlanks_dropBlanksAfterTight (afterTight : Bool) (s : List Char) :
    dropTrailingBlanks (dropBlanksAfterTight afterTight s) =
      dropBlanksAfterTight afterTight (dropTrailingBlanks s) := by
  obtain ⟨blanks, hblanks, hs⟩ := exists_run_dropTrailingBlanks s
  obtain ⟨rest, hrest, heq⟩ :=
    exists_dropBlanksAfterTight_append hblanks afterTight (dropTrailingBlanks s)
  rw [← hs] at heq
  rw [heq, dropTrailingBlanks_run hrest]
  -- what is left ends in a character that stays
  rcases List.eq_nil_or_concat (dropTrailingBlanks s) with hnil | ⟨front, c, hconcat⟩
  · rw [hnil]
    rfl
  · have hc : isBlank c = false := by
      by_contra hblank
      have hagain := dropTrailingBlanks_dropTrailingBlanks s
      rw [hconcat, List.concat_eq_append,
        dropTrailingBlanks_run (by simpa using hblank)] at hagain
      have hle := congrArg List.length hagain
      obtain ⟨more, -, hfront⟩ := exists_run_dropTrailingBlanks front
      have := congrArg List.length hfront
      simp at hle this
      omega
    rw [hconcat, List.concat_eq_append, dropBlanksAfterTight_concat hc, dropTrailingBlanks_split hc]
    rfl

/-- Blanks in front of a tight character go as blanks at the end of a text do. -/
theorem tightenBetween_true_right (before : Bool) (s : List Char) :
    tightenBetween before true s = tightenBetween before false (dropTrailingBlanks s) := by
  have hreverse : skipBlanks (dropBlanksAfterTight before s).reverse =
      (dropTrailingBlanks (dropBlanksAfterTight before s)).reverse := by
    rw [dropTrailingBlanks_eq_rdropWhile, List.rdropWhile, List.reverse_reverse]
    rfl
  unfold tightenBetween
  rw [dropBlanksAfterTight_true_eq, hreverse, dropTrailingBlanks_dropBlanksAfterTight]

theorem tightenBetween_true_left (after : Bool) (s : List Char) :
    tightenBetween true after s = tightenBetween false after (skipBlanks s) := by
  unfold tightenBetween
  rw [dropBlanksAfterTight_true_eq]

theorem beforeTight_eq (s : List Char) : beforeTight s = canonicalType s := by
  rw [beforeTight, tightenBetween_true_right]
  rfl

theorem afterTight_eq (s : List Char) : afterTight s = canonicalType s := by
  rw [afterTight, tightenBetween_true_left, skipBlanks_dropTrailingBlanks]
  rfl

/-- The canonical spelling is made part by part between tight characters. -/
theorem canonicalType_tight {c : Char} (hc : isTight c = true) (front rest : List Char) :
    canonicalType (front ++ c :: rest) = canonicalType front ++ c :: canonicalType rest := by
  rw [canonicalType_split hc, beforeTight_eq, afterTight_eq]

/-- Spacing and dropping keywords add no tight character. -/
theorem isTight_of_mem_trim {s : List Char} (h : ∀ c ∈ s, isTight c = false) :
    ∀ c ∈ trim (collapse (dropElaborators false s)), isTight c = false := by
  intro c hc
  by_cases hblank : isBlank c = true
  · exact isTight_of_isBlank hblank
  · -- collapsing changes nothing but blanks
    have hmem := (trim_sublist _).subset hc
    rw [mem_iff_of_solid (solid_collapse (dropElaborators false s)) (by simpa using hblank)] at hmem
    exact h c ((dropElaborators_sublist s).subset hmem)

/-- Without tight characters only elaborating keywords and superfluous blanks go. -/
theorem canonicalType_of_loose {s : List Char} (h : ∀ c ∈ s, isTight c = false) :
    canonicalType s = trim (collapse (dropElaborators false s)) := by
  have hloose := isTight_of_mem_trim h
  have hreverse : ∀ c ∈ (trim (collapse (dropElaborators false s))).reverse, isTight c = false :=
    fun c hc => hloose c (List.mem_reverse.1 hc)
  rw [canonicalType, tighten, dropBlanksAfterTight_of_loose hloose,
    dropBlanksAfterTight_of_loose hreverse, List.reverse_reverse]

/-- The canonical spelling of a text without tight characters is its own canonical spelling. -/
theorem canonicalType_canonicalType_of_loose {s : List Char} (h : ∀ c ∈ s, isTight c = false) :
    canonicalType (canonicalType s) = canonicalType s := by
  have hkeywords : dropElaborators false (collapse (dropElaborators false s)) =
      collapse (dropElaborators false s) := by
    rw [← collapse_dropElaborators, dropElaborators_dropElaborators]
  rw [canonicalType_of_loose h, canonicalType_of_loose (isTight_of_mem_trim h),
    dropElaborators_trim hkeywords, collapse_trim, collapse_collapse, trim_trim]

theorem canonicalType_canonicalType (s : List Char) :
    canonicalType (canonicalType s) = canonicalType s := by
  -- on the length, as a tight character has a shorter text on either side
  induction hlength : s.length using Nat.strongRecOn generalizing s with
  | _ length ih =>
  subst hlength
  by_cases hloose : ∀ c ∈ s, isTight c = false
  · exact canonicalType_canonicalType_of_loose hloose
  · obtain ⟨c, hmem, hc⟩ : ∃ c ∈ s, isTight c = true := by simpa using hloose
    obtain ⟨front, rest, rfl⟩ := List.append_of_mem hmem
    have hlt : front.length < (front ++ c :: rest).length ∧
        rest.length < (front ++ c :: rest).length := by
      rw [List.length_append, List.length_cons]
      omega
    have hfront := ih front.length hlt.1 front rfl
    have hrest := ih rest.length hlt.2 rest rfl
    rw [canonicalType_tight hc, canonicalType_tight hc, hfront, hrest]

/-! ### Spacing of strings -/

/-- A tight character in a string. -/
theorem typeName_push {c : Char} (hc : isTight c = true) (front rest : String) :
    typeName (front.push c ++ rest) = (typeName front).push c ++ typeName rest := by
  apply String.toList_inj.1
  simp only [typeName, String.toList_append, String.toList_push, String.toList_ofList,
    List.append_assoc, List.singleton_append]
  exact canonicalType_tight hc front.toList rest.toList

/-- **The canonical spelling of a type does not depend on its spacing.**  It is its own canonical
spelling.  A run of blanks may be replaced by any other.  Blanks may be put behind a tight
character, and before one too, unless they come to stand right behind an elaborating keyword. -/
theorem typeName_spacing :
    (∀ s, typeName (typeName s) = typeName s) ∧
      (∀ front blanks blanks' rest : String, blanks ≠ "" → blanks' ≠ "" →
        blanks.toList.all isBlank = true → blanks'.toList.all isBlank = true →
        typeName (front ++ blanks' ++ rest) = typeName (front ++ blanks ++ rest)) ∧
      ∀ (front blanks rest : String) (c : Char), isTight c = true →
        blanks.toList.all isBlank = true →
        typeName (front.push c ++ (blanks ++ rest)) = typeName (front.push c ++ rest) ∧
          (¬EndsInElaborator front.toList →
            typeName ((front ++ blanks).push c ++ rest) = typeName (front.push c ++ rest)) := by
  refine ⟨?_, ?_, ?_⟩
  · intro s
    rw [typeName, typeName, String.toList_ofList, canonicalType_canonicalType]
  · intro front blanks blanks' rest hne hne' hblanks hblanks'
    refine congrArg String.ofList (canonicalType_congr ?_)
    simp only [String.toList_append, List.append_assoc]
    exact collapse_run_congr (by simpa using hne') (by simpa using hne) hblanks' hblanks _ _
  · intro front blanks rest c hc hblanks
    refine ⟨?_, fun hend => ?_⟩
    · have hskip : typeName (blanks ++ rest) = typeName rest := by
        rw [typeName, String.toList_append, canonicalType_run_append hblanks]
        rfl
      rw [typeName_push hc, typeName_push hc, hskip]
    · have hskip : typeName (front ++ blanks) = typeName front := by
        rw [typeName, String.toList_append, canonicalType_append_run hblanks hend]
        rfl
      rw [typeName_push hc, typeName_push hc, hskip]

/-- A name that ends like a keyword is none, so blanks may stand behind it. -/
theorem typeName_spacing_suffix :
    ¬EndsInElaborator "mystruct".toList ∧
      typeName (("mystruct" ++ "\t ").push '*' ++ "p") = typeName ("mystruct".push '*' ++ "p") ∧
      typeName ("unsigned" ++ "\n\t" ++ "long") = typeName ("unsigned" ++ " " ++ "long") := by
  have hend : ¬EndsInElaborator "mystruct".toList := by decide +kernel
  obtain ⟨-, hrun, htight⟩ := typeName_spacing
  refine ⟨hend, (htight "mystruct" "\t " "p" '*' (by decide) (by decide)).2 hend, ?_⟩
  exact hrun "unsigned" " " "\n\t" "long" (by decide) (by decide) (by decide) (by decide)

-- behind a keyword a blank does make a difference
example : typeName "struct*" = "struct*" ∧ typeName "struct *" = "*" := by decide +kernel

end Unreferenced.Spelling
