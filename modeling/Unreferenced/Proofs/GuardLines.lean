/-
Unreferenced/Proofs/GuardLines.lean

Resolving guards line by line.

`resolve` goes through the bytes of a file once and replaces every guard that it
meets.  Seen as lines, it does the same to the lines of the file
(`lines_resolve`): a guard is three whole lines, and what is put in their place has
no line end more or less.

A line that is the middle or the end of a guard cannot be the start of another, so
guards do not overlap and it does not matter in which order they are looked for: a
line is blanked exactly if it belongs to three lines that are a guard, wherever they
stand (`getElem?_resolveLines`).  What is blanked is no line of any guard, so no
guard is left, and none comes about.
-/
import Unreferenced.Proofs.GuardPattern
import Unreferenced.Tree.Basic

namespace Unreferenced.Guard

variable {s t : List UInt8} {language : Language}

/-! ### Lines -/

/-- The lines of a text, without their ends. -/
def lines (s : List UInt8) : List (List UInt8) :=
  s.splitOn 10

theorem not_mem_line (s : List UInt8) : 10 ∉ line s := by
  intro h
  have := List.mem_takeWhile_imp h
  simp [isLineFeed] at this

theorem line_append_afterLine (s : List UInt8) : line s ++ afterLine s = s :=
  List.takeWhile_append_dropWhile

theorem afterLine_cons {b : UInt8} (h : afterLine s = b :: t) : b = 10 := by
  have hb := List.head?_dropWhile_not (fun b => !isLineFeed b) s
  rw [show s.dropWhile (fun b => !isLineFeed b) = b :: t from h] at hb
  simpa [isLineFeed] using hb

theorem lines_of_not_mem (h : 10 ∉ s) : lines s = [s] :=
  List.splitOn_eq_singleton h

theorem lines_append_cons (h : 10 ∉ s) (t : List UInt8) : lines (s ++ 10 :: t) = s :: lines t :=
  List.splitOn_append_cons_self_of_not_mem h t

theorem lines_of_afterLine (h : afterLine s = 10 :: t) : lines s = line s :: lines t := by
  rw [← lines_append_cons (not_mem_line s), ← h, line_append_afterLine]

/-- A text is its first line, and then perhaps a line end and more lines. -/
theorem lines_cases (s : List UInt8) :
    (afterLine s = [] ∧ lines s = [line s]) ∨
      ∃ t, afterLine s = 10 :: t ∧ lines s = line s :: lines t := by
  rcases h : afterLine s with - | ⟨b, t⟩
  · have hs : line s = s := by
      have := line_append_afterLine s
      rwa [h, List.append_nil] at this
    refine .inl ⟨rfl, ?_⟩
    rw [lines_of_not_mem (hs ▸ not_mem_line s), hs]
  · obtain rfl := afterLine_cons h
    exact .inr ⟨t, rfl, lines_of_afterLine h⟩

theorem length_lt_of_afterLine {b : UInt8} (h : afterLine s = b :: t) : t.length < s.length := by
  have := length_afterLine_le s
  rw [h, List.length_cons] at this
  omega

/-- No line holds a line end. -/
theorem not_mem_of_mem_lines {l : List UInt8} (h : l ∈ lines s) : 10 ∉ l := by
  induction hn : s.length using Nat.strongRecOn generalizing s with
  | _ n ih =>
  subst hn
  rcases lines_cases s with ⟨-, hlines⟩ | ⟨t, ht, hlines⟩
  · rw [hlines, List.mem_singleton] at h
    exact h ▸ not_mem_line s
  · rw [hlines, List.mem_cons] at h
    rcases h with rfl | h
    · exact not_mem_line s
    · exact ih t.length (length_lt_of_afterLine ht) h rfl

/-! ### Resolving the guards of lines -/

/-- What becomes of the middle line of a guard. -/
def middle (language : Language) (l : List UInt8) : List UInt8 :=
  match language with
  | .cpp => l
  | .c => blank l

/-- Whether the first three lines are a guard. -/
def startsGuard : List (List UInt8) → Bool
  | a :: b :: c :: _ => isOpening a && isBrace b && isClosing c
  | _ => false

/-- Resolve the guards of a list of lines, from the first line on. -/
def resolveLines (language : Language) : List (List UInt8) → List (List UInt8)
  | a :: b :: c :: rest =>
    if startsGuard (a :: b :: c :: rest) then
      blank a :: middle language b :: blank c :: resolveLines language rest
    else a :: resolveLines language (b :: c :: rest)
  | rest => rest

theorem not_mem_blank (h : 10 ∉ s) : 10 ∉ blank s := by
  intro hten
  obtain ⟨b, hb, hten⟩ := List.mem_map.1 hten
  split at hten
  · exact h (hten ▸ hb)
  · cases hten

theorem not_mem_middle (h : 10 ∉ s) : 10 ∉ middle language s := by
  cases language
  · exact not_mem_blank h
  · exact h

/-- Lines that do not start with a guard keep the first of them. -/
theorem resolveLines_cons {a : List UInt8} {rest : List (List UInt8)}
    (h : startsGuard (a :: rest) = false) :
    resolveLines language (a :: rest) = a :: resolveLines language rest := by
  match rest with
  | [] => rfl
  | [b] => rfl
  | b :: c :: rest =>
    rw [resolveLines, h]
    rfl

/-! ### Resolving bytes and resolving lines -/

/-- What follows a line: its end and the lines behind it, whose guards are resolved. -/
def behind (language : Language) : List UInt8 → List UInt8
  | [] => []
  | b :: t => b :: resolveFrom language true t

theorem resolveFrom_false (s : List UInt8) :
    resolveFrom language false s = line s ++ behind language (afterLine s) := by
  induction s with
  | nil =>
    rw [resolveFrom]
    rfl
  | cons b s ih =>
    rw [resolveFrom]
    simp only [Bool.false_eq_true, if_false]
    rcases hb : isLineFeed b
    · simp [line, afterLine, hb, ih]
    · simp [line, afterLine, hb, behind]

theorem resolveFrom_of_none (h : block? s = none) :
    resolveFrom language true s = line s ++ behind language (afterLine s) := by
  rw [← resolveFrom_false]
  rcases s with - | ⟨b, s⟩
  · rw [resolveFrom, resolveFrom]
  · rw [resolveFrom, resolveFrom]
    simp only [if_true, Bool.false_eq_true, if_false]
    split
    · next g hg =>
      rw [h] at hg
      cases hg
    · rfl

/-- A guard at the start of a text is its first three lines. -/
theorem block?_eq_some {g : Block} (h : block? s = some g) :
    ∃ s₂ s₃, afterLine s = 10 :: s₂ ∧ afterLine s₂ = 10 :: s₃ ∧ startsGuard (lines s) = true ∧
      g = ⟨line s, line s₂, line s₃, afterLine s₃⟩ := by
  unfold block? at h
  split at h
  · cases h
  next b s₂ h₁ =>
  split at h
  · cases h
  next c s₃ h₂ =>
  obtain rfl := afterLine_cons h₁
  obtain rfl := afterLine_cons h₂
  split at h
  · next hguard =>
    cases h
    refine ⟨s₂, s₃, h₁, h₂, ?_, rfl⟩
    rw [lines_of_afterLine h₁, lines_of_afterLine h₂]
    rcases lines_cases s₃ with ⟨-, h₃⟩ | ⟨t, -, h₃⟩
    · rw [h₃]
      exact hguard
    · rw [h₃]
      exact hguard
  · cases h

theorem startsGuard_of_none (h : block? s = none) : startsGuard (lines s) = false := by
  rcases lines_cases s with ⟨-, hs⟩ | ⟨s₂, h₁, hs⟩
  · rw [hs]
    rfl
  rcases lines_cases s₂ with ⟨-, hs₂⟩ | ⟨s₃, h₂, hs₂⟩
  · rw [hs, hs₂]
    rfl
  have htests : (isOpening (line s) && isBrace (line s₂) && isClosing (line s₃)) = false := by
    simp only [block?, h₁, h₂] at h
    split at h
    · cases h
    · next hguard => exact Bool.eq_false_iff.2 hguard
  rcases lines_cases s₃ with ⟨-, hs₃⟩ | ⟨t, -, hs₃⟩
  · rw [hs, hs₂, hs₃]
    exact htests
  · rw [hs, hs₂, hs₃]
    exact htests

theorem resolveFrom_of_some {g : Block} (h : block? s = some g) :
    resolveFrom language true s = g.resolved language ++ behind language g.rest := by
  obtain ⟨s₂, s₃, -, -, -, rfl⟩ := block?_eq_some h
  have hrest : resolveFrom language false (afterLine s₃) = behind language (afterLine s₃) := by
    rw [resolveFrom_false]
    rcases hr : afterLine s₃ with - | ⟨b, t⟩
    · rfl
    · obtain rfl := afterLine_cons hr
      rfl
  rcases s with - | ⟨b, s⟩
  · cases h
  · rw [resolveFrom]
    simp only [if_true]
    split
    · next g hg =>
      rw [h] at hg
      cases hg
      rw [hrest]
    · next hg =>
      rw [h] at hg
      cases hg

/-- Resolving the guards of a text resolves those of its lines. -/
theorem lines_resolve (language : Language) (s : List UInt8) :
    lines (resolve language s) = resolveLines language (lines s) := by
  unfold resolve
  induction hn : s.length using Nat.strongRecOn generalizing s with
  | _ n ih =>
  subst hn
  -- what follows a line is one that is resolved later
  have hbehind : ∀ {l t : List UInt8}, 10 ∉ l → t.length ≤ s.length →
      ∃ more, lines t = line t :: more ∧
        lines (l ++ behind language (afterLine t)) = l :: resolveLines language more := by
    intro l t hl hlength
    rcases lines_cases t with ⟨ht, hlines⟩ | ⟨r, ht, hlines⟩
    · refine ⟨[], hlines, ?_⟩
      rw [ht]
      show lines (l ++ []) = _
      rw [List.append_nil, lines_of_not_mem hl]
      rfl
    · refine ⟨lines r, hlines, ?_⟩
      rw [ht]
      show lines (l ++ 10 :: resolveFrom language true r) = _
      have hless := length_lt_of_afterLine ht
      rw [lines_append_cons hl, ih r.length (by omega) r rfl]
  rcases hs : block? s with - | g
  · obtain ⟨more, hlines, hresolved⟩ := hbehind (not_mem_line s) (Nat.le_refl s.length)
    have hguard := startsGuard_of_none hs
    rw [hlines] at hguard
    rw [resolveFrom_of_none hs, hresolved, hlines, resolveLines_cons hguard]
  · obtain ⟨s₂, s₃, h₁, h₂, hguard, rfl⟩ := block?_eq_some hs
    have hless := length_lt_of_afterLine h₁
    have hless' := length_lt_of_afterLine h₂
    obtain ⟨more, hlines, hresolved⟩ :=
      hbehind (l := blank (line s₃)) (t := s₃) (not_mem_blank (not_mem_line s₃)) (by omega)
    have hall : lines s = line s :: line s₂ :: line s₃ :: more := by
      rw [lines_of_afterLine h₁, lines_of_afterLine h₂, hlines]
    rw [resolveFrom_of_some hs]
    show lines ((blank (line s) ++ 10 :: (middle language (line s₂) ++ 10 :: blank (line s₃))) ++
      behind language (afterLine s₃)) = _
    rw [hall] at hguard ⊢
    simp only [List.append_assoc, List.cons_append]
    rw [lines_append_cons (not_mem_blank (not_mem_line s)),
      lines_append_cons (not_mem_middle (not_mem_line s₂)), hresolved, resolveLines, if_pos hguard]

/-! ### How the lines of a guard start -/

theorem head?_of_afterDirective? {w : String} {l : List UInt8} (h : (afterDirective? w l).isSome) :
    (skipSpaces l).head? = some 35 := by
  obtain ⟨r, hr⟩ := Option.isSome_iff_exists.1 h
  obtain ⟨a, ha, -⟩ := Option.bind_eq_some_iff.1 hr
  rw [afterWord?_eq_some.1 ha]
  rfl

theorem afterDirective?_of_isOpening {l : List UInt8} (h : isOpening l = true) :
    (afterDirective? "if" l).isSome := by
  rcases hl : afterDirective? "if" l with - | r
  · simp [isOpening, afterTest?, hl] at h
  · rfl

theorem head?_of_isBrace {l : List UInt8} (h : isBrace l = true) :
    (skipSpaces l).head? = some 101 ∨ (skipSpaces l).head? = some 125 := by
  rcases hl : afterExtern? (skipSpaces l) with - | r
  · simp only [isBrace, hl, beq_iff_eq] at h
    exact .inr h
  · exact .inl (head?_of_afterExtern? hl)

/-- The middle line of a guard opens no guard. -/
theorem not_isOpening_of_isBrace {l : List UInt8} (h : isBrace l = true) : isOpening l = false := by
  rw [Bool.eq_false_iff]
  intro hopening
  have hhash := head?_of_afterDirective? (afterDirective?_of_isOpening hopening)
  rcases head?_of_isBrace h with hhead | hhead
  · rw [hhash] at hhead
    cases hhead
  · rw [hhash] at hhead
    cases hhead

/-- The last line of a guard opens no guard. -/
theorem not_isOpening_of_isClosing {l : List UInt8} (h : isClosing l = true) :
    isOpening l = false := by
  rw [Bool.eq_false_iff]
  intro hopening
  obtain ⟨r, hr⟩ := Option.isSome_iff_exists.1 (afterDirective?_of_isOpening hopening)
  obtain ⟨t, ht⟩ := Option.isSome_iff_exists.1 h
  obtain ⟨a, ha, hif⟩ := Option.bind_eq_some_iff.1 hr
  obtain ⟨b, hb, hendif⟩ := Option.bind_eq_some_iff.1 ht
  -- behind the same `#` the two words differ in their first letter
  cases Option.some.inj (ha.symm.trans hb)
  have hwords := (afterWord?_eq_some.1 hif).symm.trans (afterWord?_eq_some.1 hendif)
  cases hwords

theorem head?_skipSpaces_blank (l : List UInt8) :
    ∀ b ∈ (skipSpaces (blank l)).head?, b = 10 ∨ b = 13 := by
  intro b hb
  have hspace := head?_skipSpaces (blank l) b hb
  have hmem : b ∈ blank l := (skipSpaces_suffix _).subset (List.mem_of_mem_head? hb)
  obtain ⟨c, -, hc⟩ := List.mem_map.1 hmem
  split at hc
  · next hend => simpa [hc] using hend
  · rw [← hc] at hspace
    cases hspace

/-- A blanked line is no line of a guard. -/
theorem not_guard_line_blank (l : List UInt8) :
    isOpening (blank l) = false ∧ isBrace (blank l) = false ∧ isClosing (blank l) = false := by
  have hend := head?_skipSpaces_blank l
  refine ⟨?_, ?_, ?_⟩
  · rw [Bool.eq_false_iff]
    intro h
    rcases hend 35 (head?_of_afterDirective? (afterDirective?_of_isOpening h)) with h | h
    · cases h
    · cases h
  · rw [Bool.eq_false_iff]
    intro h
    rcases head?_of_isBrace h with h | h
    · rcases hend 101 h with h | h
      · cases h
      · cases h
    · rcases hend 125 h with h | h
      · cases h
      · cases h
  · rw [Bool.eq_false_iff]
    intro h
    rcases hend 35 (head?_of_afterDirective? h) with h | h
    · cases h
    · cases h

/-! ### Which lines are blanked -/

/-- Three lines are a guard, the first of them being the line with the number `i`. -/
def GuardAt (ls : List (List UInt8)) (i : Nat) : Prop :=
  ∃ a ∈ ls[i]?, ∃ b ∈ ls[i + 1]?, ∃ c ∈ ls[i + 2]?,
    a ∈ opening.matches' ∧ b ∈ brace.matches' ∧ c ∈ closing.matches'

/-- The line with the number `i` is lost: it is the first or the last line of a guard or, in C, the
one between them. -/
def Blanked (language : Language) (ls : List (List UInt8)) (i : Nat) : Prop :=
  ∃ j, GuardAt ls j ∧ (i = j ∨ i = j + 2 ∨ language = .c ∧ i = j + 1)

variable {ls : List (List UInt8)} {a : List UInt8}

theorem guardAt_zero_iff (h : ∀ l ∈ ls, 10 ∉ l) : GuardAt ls 0 ↔ startsGuard ls = true := by
  match ls with
  | [] => simp [GuardAt, startsGuard]
  | [a] => simp [GuardAt, startsGuard]
  | [a, b] => simp [GuardAt, startsGuard]
  | a :: b :: c :: rest =>
    have ha := isOpening_iff (h a (by simp))
    have hb := isBrace_iff (h b (by simp))
    have hc := isClosing_iff (h c (by simp))
    simp [GuardAt, startsGuard, ha, hb, hc, and_assoc]

/-- What the lines behind the first one lose they lose with it too, and a guard at the start adds
its own lines. -/
theorem blanked_cons {i : Nat} :
    Blanked language (a :: ls) i ↔
      (GuardAt (a :: ls) 0 ∧ (i = 0 ∨ i = 2 ∨ language = .c ∧ i = 1)) ∨
        ∃ k, i = k + 1 ∧ Blanked language ls k := by
  constructor
  · rintro ⟨- | j, hguard, hi⟩
    · exact .inl ⟨hguard, by simpa using hi⟩
    · right
      rcases hi with rfl | rfl | ⟨hc, rfl⟩
      · exact ⟨j, rfl, j, hguard, .inl rfl⟩
      · exact ⟨j + 2, rfl, j, hguard, .inr (.inl rfl)⟩
      · exact ⟨j + 1, rfl, j, hguard, .inr (.inr ⟨hc, rfl⟩)⟩
  · rintro (⟨hguard, hi⟩ | ⟨k, rfl, j, hguard, hi⟩)
    · exact ⟨0, hguard, by simpa using hi⟩
    · refine ⟨j + 1, hguard, hi.imp ?_ (Or.imp ?_ (And.imp_right ?_))⟩
      · omega
      · omega
      · omega

/-- Guards do not overlap. -/
theorem GuardAt.not_overlapping (h : ∀ l ∈ ls, 10 ∉ l) {i : Nat} (hguard : GuardAt ls i) :
    ¬GuardAt ls (i + 1) ∧ ¬GuardAt ls (i + 2) := by
  obtain ⟨-, -, b, hb, c, hc, -, hbrace, hclosing⟩ := hguard
  constructor
  · rintro ⟨x, hx, -, -, -, -, hopening, -⟩
    cases Option.some.inj (hb.symm.trans hx)
    have hline := h b (List.mem_of_getElem? hb)
    have hother := not_isOpening_of_isBrace ((isBrace_iff hline).2 hbrace)
    rw [(isOpening_iff hline).2 hopening] at hother
    cases hother
  · rintro ⟨x, hx, -, -, -, -, hopening, -⟩
    cases Option.some.inj (hc.symm.trans hx)
    have hline := h c (List.mem_of_getElem? hc)
    have hother := not_isOpening_of_isClosing ((isClosing_iff hline).2 hclosing)
    rw [(isOpening_iff hline).2 hopening] at hother
    cases hother

/-- Lines that do not start with a guard lose what those behind the first one lose. -/
theorem blanked_cons_of_not (h : ¬GuardAt (a :: ls) 0) {i : Nat} :
    Blanked language (a :: ls) i ↔ ∃ k, i = k + 1 ∧ Blanked language ls k := by
  rw [blanked_cons]
  exact or_iff_right fun hguard => h hguard.1

/-- A line is blanked if it belongs to a guard, and it stays if it does not, wherever the guards
are. -/
theorem getElem?_resolveLines (language : Language) (h : ∀ l ∈ ls, 10 ∉ l) (i : Nat) :
    (Blanked language ls i → (resolveLines language ls)[i]? = ls[i]?.map blank) ∧
      (¬Blanked language ls i → (resolveLines language ls)[i]? = ls[i]?) := by
  fun_induction resolveLines language ls generalizing i with
  | case1 a b c rest hguard ih =>
    have hrest : ∀ l ∈ rest, 10 ∉ l := fun l hl => h l (by simp [hl])
    have hfirst : GuardAt (a :: b :: c :: rest) 0 := (guardAt_zero_iff h).2 hguard
    obtain ⟨hsecond, hthird⟩ : ¬GuardAt (b :: c :: rest) 0 ∧ ¬GuardAt (c :: rest) 0 :=
      hfirst.not_overlapping h
    have hiff : ∀ i, Blanked language (a :: b :: c :: rest) i ↔
        (i = 0 ∨ i = 2 ∨ language = .c ∧ i = 1) ∨ ∃ k, i = k + 3 ∧ Blanked language rest k := by
      intro i
      rw [blanked_cons]
      simp only [blanked_cons_of_not hsecond, blanked_cons_of_not hthird, hfirst, true_and]
      refine or_congr_right ⟨?_, ?_⟩
      · rintro ⟨_, rfl, _, rfl, k, rfl, hk⟩
        exact ⟨k, rfl, hk⟩
      · rintro ⟨k, rfl, hk⟩
        exact ⟨k + 2, rfl, k + 1, rfl, k, rfl, hk⟩
    rw [hiff]
    match i with
    | 0 => simp
    | 1 => cases language <;> simp [middle]
    | 2 => simp
    | i + 3 => simpa using ih hrest i
  | case2 a b c rest hguard ih =>
    have hrest : ∀ l ∈ b :: c :: rest, 10 ∉ l := fun l hl => h l (List.mem_cons_of_mem a hl)
    have hfirst : ¬GuardAt (a :: b :: c :: rest) 0 := fun hg => hguard ((guardAt_zero_iff h).1 hg)
    rw [blanked_cons_of_not hfirst]
    match i with
    | 0 => simp
    | i + 1 => simpa using ih hrest i
  | case3 rest hshort =>
    -- fewer than three lines are no guard
    have hnone : ¬Blanked language rest i := by
      rintro ⟨j, ⟨a, ha, b, hb, c, hc, -⟩, -⟩
      match rest with
      | [] => cases ha
      | [x] => simp at hb
      | [x, y] => simp at hc
      | x :: y :: z :: more => exact hshort x y z more rfl
    exact ⟨fun hb => absurd hb hnone, fun _ => rfl⟩

/-! ### Places -/

/-- What may become of a byte: it stays, or it becomes a space and was no end of a line. -/
def Masks (b c : UInt8) : Prop :=
  c = b ∨ c = 32 ∧ b ≠ 10 ∧ b ≠ 13

theorem masks_refl (l : List UInt8) : List.Forall₂ Masks l l :=
  List.forall₂_same.2 fun _ _ => .inl rfl

theorem masks_blank (l : List UInt8) : List.Forall₂ Masks l (blank l) := by
  rw [blank, List.forall₂_map_right_iff, List.forall₂_same]
  intro b _
  by_cases hb : b = 10 ∨ b = 13
  · left
    simp [hb]
  · have hends := not_or.1 hb
    right
    simp [hends]

theorem masks_resolveLines (language : Language) (ls : List (List UInt8)) :
    List.Forall₂ (List.Forall₂ Masks) ls (resolveLines language ls) := by
  fun_induction resolveLines language ls with
  | case1 a b c rest hguard ih =>
    have hmiddle : List.Forall₂ Masks b (middle language b) := by
      cases language
      · exact masks_blank b
      · exact masks_refl b
    exact .cons (masks_blank a) (.cons hmiddle (.cons (masks_blank c) ih))
  | case2 a b c rest hguard ih => exact .cons (masks_refl a) ih
  | case3 rest hshort => exact List.forall₂_same.2 fun l _ => masks_refl l

theorem masks_intercalate {ls ls' : List (List UInt8)} (h : List.Forall₂ (List.Forall₂ Masks) ls ls') :
    List.Forall₂ Masks ([10].intercalate ls) ([10].intercalate ls') := by
  induction h with
  | nil => exact .nil
  | @cons a a' ls ls' ha hls ih =>
    rcases hls with - | ⟨hb, hrest⟩
    · simpa using ha
    · rw [List.intercalate_cons_cons, List.intercalate_cons_cons]
      exact List.rel_append (List.rel_append ha (masks_refl [10])) ih

/-- Resolving guards changes bytes into spaces and does nothing else. -/
theorem masks_resolve (language : Language) (s : List UInt8) :
    List.Forall₂ Masks s (resolve language s) := by
  have h := masks_intercalate (masks_resolveLines language (lines s))
  rwa [← lines_resolve, lines, lines, List.intercalate_splitOn, List.intercalate_splitOn] at h

theorem Masks.eq_iff {b c e : UInt8} (h : Masks b c) (he : e = 10 ∨ e = 13) : c = e ↔ b = e := by
  rcases h with rfl | ⟨rfl, hten, hreturn⟩
  · exact Iff.rfl
  · rcases he with rfl | rfl
    · simp [hten]
    · simp [hreturn]

theorem getElem?_of_masks (h : List.Forall₂ Masks s t) {e : UInt8} (he : e = 10 ∨ e = 13) (p : Nat) :
    t[p]? = some e ↔ s[p]? = some e := by
  induction h generalizing p with
  | nil => rfl
  | @cons b c s t hbc hst ih =>
    match p with
    | 0 => simpa using hbc.eq_iff he
    | p + 1 => simpa using ih p

theorem row_of_masks (h : List.Forall₂ Masks s t) (offset : Nat) :
    (Source.ofBytes t).row offset = (Source.ofBytes s).row offset := by
  have hbreaks : ∀ k, ((t.zipIdx k).filter fun b => b.1 == 10).map Prod.snd =
      ((s.zipIdx k).filter fun b => b.1 == 10).map Prod.snd := by
    induction h with
    | nil =>
      intro k
      rfl
    | @cons b c s t hbc hst ih =>
      intro k
      have hten : (c == 10) = (b == 10) := by
        rw [Bool.eq_iff_iff, beq_iff_eq, beq_iff_eq]
        exact hbc.eq_iff (.inl rfl)
      simp only [List.zipIdx_cons, List.filter_cons, hten]
      split
      · simp only [List.map_cons, ih]
      · exact ih (k + 1)
  show List.countP _ (Source.ofBytes t).breaks = List.countP _ (Source.ofBytes s).breaks
  exact congrArg _ (hbreaks 0)

/-- **Resolving guards blanks their lines and nothing else.**  A line is blanked if it is the first or
the last of three consecutive lines that match the patterns of a guard or, in C, the one between
them; every other line stays as it is.  No two guards overlap.  The text keeps its length, the
places of its carriage returns and line feeds, and the row of every offset. -/
theorem getElem?_lines_resolve (language : Language) (s : List UInt8) :
    (∀ i, (Blanked language (lines s) i →
        (lines (resolve language s))[i]? = (lines s)[i]?.map blank) ∧
      (¬Blanked language (lines s) i → (lines (resolve language s))[i]? = (lines s)[i]?)) ∧
      (∀ i, GuardAt (lines s) i → ¬GuardAt (lines s) (i + 1) ∧ ¬GuardAt (lines s) (i + 2)) ∧
      (resolve language s).length = s.length ∧
      (∀ (p : Nat) (b : UInt8), b = 10 ∨ b = 13 →
        ((resolve language s)[p]? = some b ↔ s[p]? = some b)) ∧
      ∀ offset, (Source.ofBytes (resolve language s)).row offset = (Source.ofBytes s).row offset := by
  have hlines : ∀ l ∈ lines s, 10 ∉ l := fun l hl => not_mem_of_mem_lines hl
  have hmasks := masks_resolve language s
  refine ⟨?_, ?_, hmasks.length_eq.symm, ?_, row_of_masks hmasks⟩
  · intro i
    rw [lines_resolve]
    exact getElem?_resolveLines language hlines i
  · intro i hguard
    exact hguard.not_overlapping hlines
  · intro p b hb
    exact getElem?_of_masks hmasks hb p

/-- A header with a guard whose lines end in carriage returns. -/
def guardedHeader : List UInt8 :=
  bytesOf "#ifdef __cplusplus\r\nextern \"C\" \x7b\r\n#endif\r\nint f();"

theorem getElem?_lines_resolve_sample :
    GuardAt (lines guardedHeader) 0 ∧
      (lines (resolve .c guardedHeader))[1]? = some (bytesOf "            \r") ∧
      (lines (resolve .cpp guardedHeader))[1]? = some (bytesOf "extern \"C\" \x7b\r") := by
  have hguard : GuardAt (lines guardedHeader) 0 :=
    (guardAt_zero_iff fun l hl => not_mem_of_mem_lines hl).2 (by decide +kernel)
  obtain ⟨hc, hguards, -⟩ := getElem?_lines_resolve .c guardedHeader
  obtain ⟨hcpp, -⟩ := getElem?_lines_resolve .cpp guardedHeader
  refine ⟨hguard, ?_, ?_⟩
  · rw [(hc 1).1 ⟨0, hguard, .inr (.inr ⟨rfl, rfl⟩)⟩]
    rfl
  · rw [(hcpp 1).2 ?_]
    · rfl
    · -- the line would be the first of a guard that overlaps the one before
      rintro ⟨j, hother, rfl | hj | ⟨hj, -⟩⟩
      · exact (hguards 0 hguard).1 hother
      · omega
      · cases hj

/-- A line of a guard that is there afterwards was there before, and belonged to no guard. -/
theorem line_of_resolve {l : List UInt8} {i : Nat} (h : (lines (resolve language s))[i]? = some l)
    (hl : isOpening l = true ∨ isBrace l = true ∨ isClosing l = true) :
    ¬Blanked language (lines s) i ∧ (lines s)[i]? = some l := by
  rw [lines_resolve] at h
  obtain ⟨hblank, hkeep⟩ :=
    getElem?_resolveLines language (fun l hl => not_mem_of_mem_lines (s := s) hl) i
  have hno : ¬Blanked language (lines s) i := by
    intro hb
    rw [hblank hb] at h
    obtain ⟨x, -, rfl⟩ := Option.map_eq_some_iff.1 h
    obtain ⟨hopening, hbrace, hclosing⟩ := not_guard_line_blank x
    simp [hopening, hbrace, hclosing] at hl
  exact ⟨hno, (hkeep hno).symm.trans h⟩

/-- No guard is left. -/
theorem not_guardAt_resolve (language : Language) (s : List UInt8) (i : Nat) :
    ¬GuardAt (lines (resolve language s)) i := by
  rintro ⟨a, ha, b, hb, c, hc, hopening, hbrace, hclosing⟩
  have hline : ∀ {k : Nat} {l : List UInt8}, (lines (resolve language s))[k]? = some l → 10 ∉ l :=
    fun h => not_mem_of_mem_lines (List.mem_of_getElem? h)
  obtain ⟨hno, ha'⟩ := line_of_resolve ha (.inl ((isOpening_iff (hline ha)).2 hopening))
  obtain ⟨-, hb'⟩ := line_of_resolve hb (.inr (.inl ((isBrace_iff (hline hb)).2 hbrace)))
  obtain ⟨-, hc'⟩ := line_of_resolve hc (.inr (.inr ((isClosing_iff (hline hc)).2 hclosing)))
  -- the three lines were a guard before, so the first of them would have been blanked
  exact hno ⟨i, ⟨a, ha', b, hb', c, hc', hopening, hbrace, hclosing⟩, .inl rfl⟩

/-- **Guards are resolved once and for all.**  No guard is left, and none comes about, so resolving
the guards again, for the same language or the other one, changes nothing. -/
theorem resolve_resolve (language language' : Language) (s : List UInt8) :
    resolve language' (resolve language s) = resolve language s ∧
      ∀ i, ¬GuardAt (lines (resolve language s)) i := by
  have hnone := not_guardAt_resolve language s
  refine ⟨?_, hnone⟩
  have hlines : lines (resolve language' (resolve language s)) = lines (resolve language s) := by
    apply List.ext_getElem?
    intro i
    rw [lines_resolve language']
    refine (getElem?_resolveLines language' (fun l hl => not_mem_of_mem_lines hl) i).2 ?_
    rintro ⟨j, hguard, -⟩
    exact hnone j hguard
  have hjoin := congrArg ([10].intercalate ·) hlines
  simpa [lines] using hjoin

end Unreferenced.Guard
