/-
Unreferenced/Proofs/BlankRun.lean

Runs of blanks in a text.

A run counts as one blank when runs are collapsed (`collapse_cons_blank`), so it
does not matter which blanks it is made of (`collapse_run_congr`).  Collapsing and
the two halves of trimming can be exchanged (`collapse_skipBlanks`,
`collapse_dropTrailingBlanks`), and each of them done twice is done once.
-/
import Mathlib.Data.List.DropRight
import Unreferenced.Text.Blank

namespace Unreferenced.Text

/-! ### Trimming -/

theorem skipBlanks_cons_blank {c : Char} (hc : isBlank c = true) (s : List Char) :
    skipBlanks (c :: s) = skipBlanks s :=
  List.dropWhile_cons_of_pos hc

theorem skipBlanks_cons {c : Char} (hc : isBlank c = false) (s : List Char) :
    skipBlanks (c :: s) = c :: s :=
  List.dropWhile_cons_of_neg (by simp [hc])

theorem skipBlanks_run {blanks : List Char} (hblanks : blanks.all isBlank = true) (s : List Char) :
    skipBlanks (blanks ++ s) = skipBlanks s :=
  List.dropWhile_append_of_pos (List.all_eq_true.1 hblanks)

theorem skipBlanks_skipBlanks (s : List Char) : skipBlanks (skipBlanks s) = skipBlanks s :=
  List.dropWhile_idempotent isBlank s

/-- A text is what is skipped at its start and the rest. -/
theorem exists_run_skipBlanks (s : List Char) :
    ∃ blanks, blanks.all isBlank = true ∧ s = blanks ++ skipBlanks s := by
  refine ⟨s.takeWhile isBlank, ?_, List.takeWhile_append_dropWhile.symm⟩
  exact List.all_eq_true.2 fun c hc => List.mem_takeWhile_imp hc

/-- Where a text does not start with a blank, nothing is skipped. -/
theorem skipBlanks_eq_self {s : List Char} (h : s.head?.all (fun c => !isBlank c) = true) :
    skipBlanks s = s := by
  rcases s with - | ⟨c, s⟩
  · rfl
  · exact skipBlanks_cons (by simpa using h) s

theorem head?_skipBlanks (s : List Char) :
    (skipBlanks s).head?.all (fun c => !isBlank c) = true := by
  rcases h : skipBlanks s with - | ⟨c, t⟩
  · rfl
  · simpa using isBlank_of_skipBlanks_eq_cons h

/-- Blanks at the end are not touched by skipping, unless there is nothing else. -/
theorem exists_skipBlanks_append {blanks : List Char} (hblanks : blanks.all isBlank = true)
    (s : List Char) :
    ∃ rest, rest.all isBlank = true ∧ skipBlanks (s ++ blanks) = skipBlanks s ++ rest := by
  unfold skipBlanks
  rw [List.dropWhile_append]
  split
  · next hempty =>
    refine ⟨[], rfl, ?_⟩
    rw [List.isEmpty_iff.1 hempty]
    exact List.dropWhile_eq_nil_iff.2 (List.all_eq_true.1 hblanks)
  · exact ⟨blanks, hblanks, rfl⟩

theorem dropTrailingBlanks_eq_rdropWhile (s : List Char) :
    dropTrailingBlanks s = s.rdropWhile isBlank := by
  induction s with
  | nil => rfl
  | cons c s ih =>
    have hcons : (c :: s).rdropWhile isBlank =
        if s.rdropWhile isBlank = [] then [c].rdropWhile isBlank
        else c :: s.rdropWhile isBlank := by
      unfold List.rdropWhile
      rw [List.reverse_cons, List.dropWhile_append]
      simp only [List.isEmpty_iff, List.reverse_eq_nil_iff]
      split
      · rfl
      · rw [List.reverse_append]
        rfl
    rw [hcons, dropTrailingBlanks, ih]
    rcases s.rdropWhile isBlank with - | ⟨d, t⟩
    · rw [List.rdropWhile_singleton]
      rfl
    · rfl

theorem dropTrailingBlanks_run {blanks : List Char} (hblanks : blanks.all isBlank = true)
    (s : List Char) : dropTrailingBlanks (s ++ blanks) = dropTrailingBlanks s := by
  have hreverse : blanks.reverse.all isBlank = true := by rwa [List.all_reverse]
  rw [dropTrailingBlanks_eq_rdropWhile, dropTrailingBlanks_eq_rdropWhile, List.rdropWhile,
    List.reverse_append]
  exact congrArg List.reverse (skipBlanks_run hreverse s.reverse)

theorem dropTrailingBlanks_dropTrailingBlanks (s : List Char) :
    dropTrailingBlanks (dropTrailingBlanks s) = dropTrailingBlanks s := by
  simp only [dropTrailingBlanks_eq_rdropWhile]
  exact List.rdropWhile_idempotent isBlank s

/-- A text is what is left of it without its trailing blanks, and these. -/
theorem exists_run_dropTrailingBlanks (s : List Char) :
    ∃ blanks, blanks.all isBlank = true ∧ s = dropTrailingBlanks s ++ blanks := by
  obtain ⟨blanks, hblanks, hs⟩ := exists_run_skipBlanks s.reverse
  refine ⟨blanks.reverse, by rwa [List.all_reverse], ?_⟩
  rw [dropTrailingBlanks_eq_rdropWhile, List.rdropWhile, ← List.reverse_append]
  exact List.reverse_eq_iff.1 hs

/-- The two ends of a text are trimmed in any order. -/
theorem skipBlanks_dropTrailingBlanks (s : List Char) :
    skipBlanks (dropTrailingBlanks s) = dropTrailingBlanks (skipBlanks s) := by
  induction s with
  | nil => rfl
  | cons c s ih =>
    rw [dropTrailingBlanks]
    by_cases hc : isBlank c = true
    · rw [skipBlanks_cons_blank hc, ← ih]
      split
      · next hnil => rw [if_pos hc, hnil]
      · exact skipBlanks_cons_blank hc _
    · rw [Bool.not_eq_true] at hc
      rw [skipBlanks_cons hc, dropTrailingBlanks, hc]
      split
      · exact skipBlanks_cons hc _
      · exact skipBlanks_cons hc _

theorem trim_run_append {blanks : List Char} (hblanks : blanks.all isBlank = true) (s : List Char) :
    trim (blanks ++ s) = trim s := by
  rw [trim, skipBlanks_run hblanks]
  rfl

theorem trim_append_run {blanks : List Char} (hblanks : blanks.all isBlank = true) (s : List Char) :
    trim (s ++ blanks) = trim s := by
  rw [trim, ← skipBlanks_dropTrailingBlanks, dropTrailingBlanks_run hblanks,
    skipBlanks_dropTrailingBlanks]
  rfl

theorem trim_trim (s : List Char) : trim (trim s) = trim s := by
  unfold trim
  rw [skipBlanks_dropTrailingBlanks, skipBlanks_skipBlanks, dropTrailingBlanks_dropTrailingBlanks]

/-! ### Collapsing -/

theorem collapse_cons {c : Char} (hc : isBlank c = false) (s : List Char) :
    collapse (c :: s) = c :: collapse s := by
  rw [collapse, if_neg (by simp [hc])]

/-- A run of blanks is one space. -/
theorem collapse_cons_blank {c : Char} (hc : isBlank c = true) (s : List Char) :
    collapse (c :: s) = ' ' :: collapse (skipBlanks s) := by
  induction s generalizing c with
  | nil => rw [collapse, if_pos hc]; rfl
  | cons d s ih =>
    rw [collapse, if_pos hc]
    by_cases hd : isBlank d = true
    · rw [ih hd, skipBlanks_cons_blank hd]
      rfl
    · rw [Bool.not_eq_true] at hd
      have hspace : d ≠ ' ' := by
        rintro rfl
        exact absurd hd (by decide)
      rw [skipBlanks_cons hd, collapse_cons hd]
      split
      · next heq => exact absurd (List.cons.inj heq).1 hspace
      · rfl

theorem collapse_run {blanks : List Char} (hne : blanks ≠ []) (hblanks : blanks.all isBlank = true)
    (s : List Char) : collapse (blanks ++ s) = ' ' :: collapse (skipBlanks s) := by
  obtain ⟨c, blanks, rfl⟩ := List.exists_cons_of_ne_nil hne
  rw [List.all_cons, Bool.and_eq_true] at hblanks
  rw [List.cons_append, collapse_cons_blank hblanks.1, skipBlanks_run hblanks.2]

theorem head?_collapse (s : List Char) :
    (collapse s).head? = s.head?.map fun c => if isBlank c then ' ' else c := by
  rcases s with - | ⟨c, s⟩
  · rfl
  · by_cases hc : isBlank c = true
    · simp [collapse_cons_blank hc, hc]
    · simp [collapse_cons (by simpa using hc), hc]

theorem collapse_skipBlanks (s : List Char) : collapse (skipBlanks s) = skipBlanks (collapse s) := by
  rcases s with - | ⟨c, s⟩
  · rfl
  by_cases hc : isBlank c = true
  · -- behind the run the text starts with another character
    have hhead : (collapse (skipBlanks s)).head?.all (fun c => !isBlank c) = true := by
      rw [head?_collapse]
      rcases hskip : skipBlanks s with - | ⟨d, t⟩
      · rfl
      · simp [isBlank_of_skipBlanks_eq_cons hskip]
    rw [skipBlanks_cons_blank hc, collapse_cons_blank hc, skipBlanks_cons_blank isBlank_space,
      skipBlanks_eq_self hhead]
  · rw [Bool.not_eq_true] at hc
    rw [skipBlanks_cons hc, collapse_cons hc, skipBlanks_cons hc]

theorem collapse_dropTrailingBlanks (s : List Char) :
    collapse (dropTrailingBlanks s) = dropTrailingBlanks (collapse s) := by
  induction s with
  | nil => rfl
  | cons c s ih =>
    by_cases hc : isBlank c = true
    · have hrest : dropTrailingBlanks (collapse (skipBlanks s)) =
          collapse (skipBlanks (dropTrailingBlanks s)) := by
        rw [collapse_skipBlanks, collapse_skipBlanks, ← skipBlanks_dropTrailingBlanks, ih]
      rw [collapse_cons_blank hc, dropTrailingBlanks, dropTrailingBlanks, hrest]
      rcases h : dropTrailingBlanks s with - | ⟨d, t⟩
      · simp [hc, skipBlanks, collapse]
      · -- the text goes on with something other than blanks
        have hsome : skipBlanks (d :: t) ≠ [] := by
          intro hnil
          have hblank : (d :: t).all isBlank = true :=
            List.all_eq_true.2 (List.dropWhile_eq_nil_iff.1 hnil)
          have hagain := dropTrailingBlanks_run hblank []
          rw [List.nil_append, ← h, dropTrailingBlanks_dropTrailingBlanks, h] at hagain
          cases hagain
        obtain ⟨e, u, heu⟩ := List.exists_cons_of_ne_nil hsome
        have he := isBlank_of_skipBlanks_eq_cons heu
        simp only [collapse_cons_blank hc, heu, collapse_cons he]
    · rw [Bool.not_eq_true] at hc
      rw [collapse_cons hc, dropTrailingBlanks, dropTrailingBlanks, hc, ← ih]
      rcases dropTrailingBlanks s with - | ⟨d, t⟩
      · simp [collapse, hc]
      · rw [collapse_cons hc]
        have hne : collapse (d :: t) ≠ [] := by
          intro hnil
          have hhead := head?_collapse (d :: t)
          rw [hnil] at hhead
          cases hhead
        obtain ⟨e, u, heu⟩ := List.exists_cons_of_ne_nil hne
        simp [heu]

theorem collapse_trim (s : List Char) : collapse (trim s) = trim (collapse s) := by
  rw [trim, collapse_dropTrailingBlanks, collapse_skipBlanks]
  rfl

theorem collapse_collapse (s : List Char) : collapse (collapse s) = collapse s := by
  induction s with
  | nil => rfl
  | cons c s ih =>
    by_cases hc : isBlank c = true
    · rw [collapse_cons_blank hc, collapse_cons_blank isBlank_space, ← collapse_skipBlanks,
        skipBlanks_skipBlanks, collapse_skipBlanks, collapse_skipBlanks, ih]
    · rw [Bool.not_eq_true] at hc
      rw [collapse_cons hc, collapse_cons hc, ih]

/-- Only what a text is collapsed to matters for what it is collapsed to with something before it. -/
theorem collapse_append_congr (front : List Char) {s t : List Char} (h : collapse s = collapse t) :
    collapse (front ++ s) = collapse (front ++ t) := by
  induction front with
  | nil => exact h
  | cons c front ih => rw [List.cons_append, List.cons_append, collapse, collapse, ih]

/-- Any run of blanks may stand for another one. -/
theorem collapse_run_congr {blanks blanks' : List Char} (hne : blanks ≠ []) (hne' : blanks' ≠ [])
    (hblanks : blanks.all isBlank = true) (hblanks' : blanks'.all isBlank = true)
    (front rest : List Char) :
    collapse (front ++ (blanks ++ rest)) = collapse (front ++ (blanks' ++ rest)) := by
  apply collapse_append_congr
  rw [collapse_run hne hblanks, collapse_run hne' hblanks']

end Unreferenced.Text
