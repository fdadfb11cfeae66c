/-
Unreferenced/Proofs/GuardPattern.lean

The lines of a guard as regular expressions.

The tests for the three lines of a guard scan a line once from the left and never
go back.  Here the same lines are described by regular expressions, whose words are
found by trying out all ways to cut a line up.  The two agree (`isOpening_iff`,
`isBrace_iff`, `isClosing_iff`) because there is never a choice: what follows
spaces starts with something else, and so does what follows a parenthesis that may
be absent.
-/
import Mathlib.Computability.RegularExpressions
import Mathlib.Data.List.TakeWhile
import Unreferenced.Include.Guard

namespace Unreferenced.Guard

open RegularExpression

/-! ### Patterns -/

/-- The pieces one after the other. -/
def seq (pieces : List (RegularExpression UInt8)) : RegularExpression UInt8 :=
  pieces.foldr (· * ·) 1

/-- The bytes of a word. -/
def word (w : String) : RegularExpression UInt8 :=
  seq ((bytesOf w).map char)

/-- Something that may be absent. -/
def opt (r : RegularExpression UInt8) : RegularExpression UInt8 :=
  1 + r

/-- One of the bytes with a property. -/
def oneOf (p : UInt8 → Bool) : RegularExpression UInt8 :=
  (((List.range 256).map UInt8.ofNat).filter p).foldr (fun b r => char b + r) 0

/-- Spaces and tabs. -/
def spaces : RegularExpression UInt8 :=
  star (char 32 + char 9)

/-- One or more spaces and tabs. -/
def someSpaces : RegularExpression UInt8 :=
  (char 32 + char 9) * spaces

/-- Whatever stands in a line. -/
def anything : RegularExpression UInt8 :=
  star (oneOf fun b => b != 10)

/-- What follows the `if` of a test for a C++ compiler. -/
def test : RegularExpression UInt8 :=
  seq [word "def", someSpaces, word "__cplusplus"] +
    seq [someSpaces, word "defined", spaces, opt (char 40), spaces, word "__cplusplus", spaces,
      opt (char 41)]

/-- The line that opens a guard. -/
def opening : RegularExpression UInt8 :=
  seq [spaces, word "#", spaces, word "if", test, spaces, opt (seq [word "//", anything]),
    opt (char 13)]

/-- The line of a guard that opens or closes a linkage block. -/
def brace : RegularExpression UInt8 :=
  seq [spaces, seq [word "extern", someSpaces, word "\"C\"", spaces, char 123] + char 125, anything]

/-- The line that closes a guard. -/
def closing : RegularExpression UInt8 :=
  seq [spaces, word "#", spaces, word "endif", anything]

/-! ### What the patterns match -/

variable {P Q R : RegularExpression UInt8} {s t : List UInt8}

theorem mem_mul : s ∈ (P * Q).matches' ↔ ∃ a ∈ P.matches', ∃ b ∈ Q.matches', a ++ b = s := by
  rw [matches'_mul, Language.mem_mul]

theorem mem_add : s ∈ (P + Q).matches' ↔ s ∈ P.matches' ∨ s ∈ Q.matches' := by
  rw [matches'_add, Language.mem_add]

theorem mem_one : s ∈ (1 : RegularExpression UInt8).matches' ↔ s = [] := by
  rw [matches'_epsilon, Language.mem_one]

theorem mem_char {b : UInt8} : s ∈ (char b).matches' ↔ s = [b] := by
  rw [matches'_char]
  rfl

theorem mem_opt : s ∈ (opt P).matches' ↔ s = [] ∨ s ∈ P.matches' := by
  rw [opt, mem_add, mem_one]

theorem seq_cons (pieces : List (RegularExpression UInt8)) : seq (P :: pieces) = P * seq pieces := rfl

/-- Three patterns in a row match the same whichever two are taken together. -/
theorem mem_mul_assoc : s ∈ (P * Q * R).matches' ↔ s ∈ (P * (Q * R)).matches' := by
  simp only [matches'_mul, mul_assoc]

theorem mem_mul_one : s ∈ (P * 1).matches' ↔ s ∈ P.matches' := by
  rw [matches'_mul, matches'_epsilon, mul_one]

theorem mem_add_mul : s ∈ ((P + Q) * R).matches' ↔ s ∈ (P * R).matches' ∨ s ∈ (Q * R).matches' := by
  rw [matches'_mul, matches'_add, add_mul, Language.mem_add, matches'_mul, matches'_mul]

theorem mem_word {w : String} : s ∈ (word w).matches' ↔ s = bytesOf w := by
  unfold word
  induction bytesOf w generalizing s with
  | nil => exact mem_one
  | cons b bytes ih =>
    rw [List.map_cons, seq_cons, mem_mul]
    constructor
    · rintro ⟨a, ha, r, hr, rfl⟩
      rw [mem_char.1 ha, ih.1 hr]
      rfl
    · rintro rfl
      exact ⟨[b], mem_char.2 rfl, bytes, ih.2 rfl, rfl⟩

theorem mem_oneOf {p : UInt8 → Bool} : s ∈ (oneOf p).matches' ↔ ∃ b, p b = true ∧ s = [b] := by
  have hlist : ∀ bytes : List UInt8,
      s ∈ (bytes.foldr (fun b r => char b + r) (0 : RegularExpression UInt8)).matches' ↔
        ∃ b ∈ bytes, s = [b] := by
    intro bytes
    induction bytes with
    | nil => simp [Language.notMem_zero]
    | cons b bytes ih => rw [List.foldr_cons, mem_add, mem_char, ih, List.exists_mem_cons_iff]
  have hall : ∀ b : UInt8, b ∈ (List.range 256).map UInt8.ofNat := by
    intro b
    exact List.mem_map.2 ⟨b.toNat, List.mem_range.2 b.toNat_lt, UInt8.ofNat_toNat⟩
  rw [oneOf, hlist]
  constructor
  · rintro ⟨b, hb, rfl⟩
    exact ⟨b, (List.mem_filter.1 hb).2, rfl⟩
  · rintro ⟨b, hb, rfl⟩
    exact ⟨b, List.mem_filter.2 ⟨hall b, hb⟩, rfl⟩

/-- Where a pattern is one byte with a property, any number of them is a row of such bytes. -/
theorem mem_star {p : UInt8 → Bool} (hP : ∀ t, t ∈ P.matches' ↔ ∃ b, p b = true ∧ t = [b]) :
    s ∈ (star P).matches' ↔ ∀ b ∈ s, p b = true := by
  rw [matches'_star, Language.mem_kstar]
  constructor
  · rintro ⟨pieces, rfl, hpieces⟩ b hb
    obtain ⟨piece, hpiece, hb⟩ := List.mem_flatten.1 hb
    obtain ⟨c, hc, rfl⟩ := (hP piece).1 (hpieces piece hpiece)
    rwa [List.mem_singleton.1 hb]
  · intro hs
    refine ⟨s.map fun b => [b], by rw [← List.flatMap_def, List.flatMap_singleton'], ?_⟩
    intro piece hpiece
    obtain ⟨b, hb, rfl⟩ := List.mem_map.1 hpiece
    exact (hP _).2 ⟨b, hs b hb, rfl⟩

theorem mem_space : s ∈ (char 32 + char 9 : RegularExpression UInt8).matches' ↔
    ∃ b, isSpace b = true ∧ s = [b] := by
  rw [mem_add, mem_char, mem_char]
  simp [isSpace, or_and_right, exists_or]

theorem mem_spaces : s ∈ spaces.matches' ↔ ∀ b ∈ s, isSpace b = true :=
  mem_star fun _ => mem_space

theorem mem_anything : s ∈ anything.matches' ↔ 10 ∉ s := by
  rw [anything, mem_star fun _ => mem_oneOf]
  simp only [bne_iff_ne]
  exact ⟨fun h hs => h 10 hs rfl, fun h b hb hten => h (hten ▸ hb)⟩

/-! ### Scanning -/

/-- No match of the pattern starts with a byte that has the property. -/
def Avoids (p : UInt8 → Bool) (P : RegularExpression UInt8) : Prop :=
  ∀ s ∈ P.matches', ∀ b ∈ s.head?, p b = false

/-- What stands in front of something that does not start with a space goes away with the spaces. -/
theorem skipSpaces_append (hs : ∀ b ∈ s, isSpace b = true) (ht : ∀ b ∈ t.head?, isSpace b = false) :
    skipSpaces (s ++ t) = t := by
  unfold skipSpaces
  rw [List.dropWhile_append_of_pos hs]
  rcases t with - | ⟨b, t⟩
  · rfl
  · rw [List.dropWhile_cons_of_neg]
    rw [ht b rfl]
    exact Bool.false_ne_true

theorem mem_spaces_mul (hP : Avoids isSpace P) :
    s ∈ (spaces * P).matches' ↔ skipSpaces s ∈ P.matches' := by
  rw [mem_mul]
  constructor
  · rintro ⟨a, ha, b, hb, rfl⟩
    rwa [skipSpaces_append (mem_spaces.1 ha) (hP b hb)]
  · intro h
    refine ⟨s.takeWhile isSpace, mem_spaces.2 ?_, skipSpaces s, h, List.takeWhile_append_dropWhile⟩
    intro b hb
    exact List.mem_takeWhile_imp hb

theorem mem_someSpaces_mul (hP : Avoids isSpace P) :
    s ∈ (someSpaces * P).matches' ↔ ∃ r ∈ afterSpaces? s, r ∈ P.matches' := by
  rw [someSpaces, mem_mul_assoc, mem_mul]
  constructor
  · rintro ⟨a, ha, r, hr, rfl⟩
    obtain ⟨b, hb, rfl⟩ := mem_space.1 ha
    refine ⟨skipSpaces r, ?_, (mem_spaces_mul hP).1 hr⟩
    simp [afterSpaces?, hb]
  · rintro ⟨r, hr, hrP⟩
    rcases s with - | ⟨b, s⟩
    · cases hr
    · simp only [afterSpaces?] at hr
      split at hr
      · next hb =>
        cases hr
        exact ⟨[b], mem_space.2 ⟨b, hb, rfl⟩, s, (mem_spaces_mul hP).2 hrP, rfl⟩
      · cases hr

theorem afterWord?_eq_some {w : String} : afterWord? w s = some t ↔ s = bytesOf w ++ t := by
  unfold afterWord?
  constructor
  · intro h
    split at h
    · next hw =>
      cases h
      obtain ⟨r, rfl⟩ := List.isPrefixOf_iff_prefix.1 hw
      rw [List.drop_left]
    · cases h
  · rintro rfl
    rw [if_pos (List.isPrefixOf_iff_prefix.2 (List.prefix_append _ _)), List.drop_left]

theorem mem_word_mul {w : String} :
    s ∈ (word w * P).matches' ↔ ∃ r ∈ afterWord? w s, r ∈ P.matches' := by
  rw [mem_mul]
  constructor
  · rintro ⟨a, ha, r, hr, rfl⟩
    exact ⟨r, afterWord?_eq_some.2 (by rw [mem_word.1 ha]), hr⟩
  · rintro ⟨r, hr, hrP⟩
    exact ⟨bytesOf w, mem_word.2 rfl, r, hrP, (afterWord?_eq_some.1 hr).symm⟩

theorem avoids_word_mul {p : UInt8 → Bool} {w : String}
    (hw : (bytesOf w).head?.any (fun b => !p b) = true) : Avoids p (word w * P) := by
  intro s hs c hc
  obtain ⟨r, hr, -⟩ := mem_word_mul.1 hs
  rcases hbytes : bytesOf w with - | ⟨b, bytes⟩
  · rw [hbytes] at hw
    cases hw
  · rw [afterWord?_eq_some.1 hr, hbytes] at hc
    cases hc
    rw [hbytes] at hw
    simpa using hw

theorem mem_char_mul {b : UInt8} : s ∈ (char b * P).matches' ↔ ∃ r ∈ P.matches', s = b :: r := by
  rw [mem_mul]
  simp only [mem_char, exists_eq_left, List.singleton_append, eq_comm]

theorem avoids_char_mul {p : UInt8 → Bool} {b : UInt8} (hb : p b = false) :
    Avoids p (char b * P) := by
  intro s hs c hc
  obtain ⟨r, -, rfl⟩ := mem_char_mul.1 hs
  cases hc
  exact hb

theorem head?_skipSpaces (s : List UInt8) : ∀ b ∈ (skipSpaces s).head?, isSpace b = false := by
  intro b hb
  have h := List.head?_dropWhile_not isSpace s
  rw [skipSpaces] at hb
  rw [Option.mem_def.1 hb] at h
  exact h

/-- A byte that may be absent, with spaces around it. -/
theorem mem_spaces_opt_spaces_mul {b : UInt8} (hb : isSpace b = false) (hP : Avoids isSpace P)
    (hPb : Avoids (· == b) P) :
    s ∈ (spaces * (opt (char b) * (spaces * P))).matches' ↔
      skipSpaces (skipByte b (skipSpaces s)) ∈ P.matches' := by
  have hsplit : s ∈ (spaces * (opt (char b) * (spaces * P))).matches' ↔
      s ∈ (spaces * P).matches' ∨ s ∈ (spaces * (char b * (spaces * P))).matches' := by
    -- without the byte the spaces before and after it are one row of spaces
    simp only [opt, matches'_mul, matches'_add, matches'_epsilon, add_mul, one_mul, mul_add,
      Language.mem_add]
    rw [spaces, matches'_star, ← mul_assoc, kstar_mul_kstar]
  rw [hsplit, mem_spaces_mul hP, mem_spaces_mul (avoids_char_mul hb), mem_char_mul]
  have hhead := head?_skipSpaces s
  generalize skipSpaces s = t at hhead ⊢
  rcases t with - | ⟨c, r⟩
  · simp [skipByte, skipSpaces]
  · by_cases hc : c = b
    · subst hc
      have hnone : ¬(c :: r) ∈ P.matches' := by
        intro h
        have := hPb _ h c rfl
        simp at this
      have hskip : skipByte c (c :: r) = r := if_pos rfl
      rw [hskip, ← mem_spaces_mul hP]
      simp [hnone]
    · have hkeep : skipSpaces (c :: r) = c :: r := by
        rw [skipSpaces, List.dropWhile_cons_of_neg]
        rw [hhead c rfl]
        exact Bool.false_ne_true
      simp [skipByte, hc, hkeep]

/-! ### The lines of a guard -/

theorem exists_mem_bind {α β : Type} {o : Option α} {f : α → Option β} {p : β → Prop} :
    (∃ b ∈ o.bind f, p b) ↔ ∃ a ∈ o, ∃ b ∈ f a, p b := by
  rcases o with - | a
  · simp
  · simp

theorem mem_directive_mul {w : String} (hw : Avoids isSpace (word w * P)) :
    s ∈ (spaces * (word "#" * (spaces * (word w * P)))).matches' ↔
      ∃ r ∈ afterDirective? w s, r ∈ P.matches' := by
  rw [mem_spaces_mul (avoids_word_mul rfl), mem_word_mul, afterDirective?]
  simp only [mem_spaces_mul hw, mem_word_mul]
  exact exists_mem_bind.symm

/-- The first form of the test, `def` and the name that only C++ compilers define. -/
theorem mem_ifdef_mul : s ∈ (seq [word "def", someSpaces, word "__cplusplus"] * P).matches' ↔
    ∃ a ∈ afterWord? "def" s, ∃ b ∈ afterSpaces? a, ∃ r ∈ afterWord? "__cplusplus" b,
      r ∈ P.matches' := by
  have hrow : (seq [word "def", someSpaces, word "__cplusplus"] * P).matches' =
      (word "def" * (someSpaces * (word "__cplusplus" * P))).matches' := by
    simp only [seq, List.foldr, matches'_mul, matches'_epsilon, mul_assoc, one_mul]
  have hname : Avoids isSpace (word "__cplusplus" * P) := avoids_word_mul rfl
  rw [hrow, mem_word_mul]
  simp only [mem_someSpaces_mul hname, mem_word_mul]

/-- The second form of the test, in which the name may stand in parentheses. -/
theorem mem_defined_mul (hP : Avoids isSpace P) (hclose : Avoids (· == 41) P) :
    s ∈ (seq [someSpaces, word "defined", spaces, opt (char 40), spaces, word "__cplusplus", spaces,
        opt (char 41)] * (spaces * P)).matches' ↔
      ∃ a ∈ afterSpaces? s, ∃ b ∈ afterWord? "defined" a,
        ∃ r ∈ afterWord? "__cplusplus" (skipSpaces (skipByte 40 (skipSpaces b))),
          skipSpaces (skipByte 41 (skipSpaces r)) ∈ P.matches' := by
  have hrow : (seq [someSpaces, word "defined", spaces, opt (char 40), spaces, word "__cplusplus",
        spaces, opt (char 41)] * (spaces * P)).matches' =
      (someSpaces * (word "defined" * (spaces * (opt (char 40) * (spaces * (word "__cplusplus" *
        (spaces * (opt (char 41) * (spaces * P))))))))).matches' := by
    simp only [seq, List.foldr, matches'_mul, matches'_epsilon, mul_assoc, one_mul]
  have hname : Avoids isSpace (word "__cplusplus" * (spaces * (opt (char 41) * (spaces * P)))) :=
    avoids_word_mul rfl
  have hopen : Avoids (· == 40) (word "__cplusplus" * (spaces * (opt (char 41) * (spaces * P)))) :=
    avoids_word_mul rfl
  rw [hrow, mem_someSpaces_mul (avoids_word_mul rfl)]
  simp only [mem_word_mul, mem_spaces_opt_spaces_mul (b := 40) rfl hname hopen,
    mem_spaces_opt_spaces_mul (b := 41) rfl hP hclose]

theorem mem_test_mul (hP : Avoids isSpace P) (hclose : Avoids (· == 41) P) :
    s ∈ (spaces * (word "#" * (spaces * (word "if" * (test * (spaces * P)))))).matches' ↔
      ∃ r ∈ afterTest? s, skipSpaces r ∈ P.matches' := by
  rw [mem_directive_mul (avoids_word_mul rfl), afterTest?]
  rcases afterDirective? "if" s with - | t
  · simp
  have hforms : t ∈ (test * (spaces * P)).matches' ↔ _ :=
    mem_add_mul.trans (or_congr mem_ifdef_mul (mem_defined_mul hP hclose))
  simp only [Option.mem_some_iff, exists_eq_left', hforms, mem_spaces_mul hP]
  rcases hdef : afterWord? "def" t with - | a
  · simp only [Option.bind_eq_bind, exists_mem_bind, Option.pure_def, Option.mem_some_iff,
      exists_eq_left', Option.not_mem_none, false_and, exists_false, false_or]
  · -- the word is no space, so the second form is out
    have hnone : afterSpaces? t = none := by
      rw [afterWord?_eq_some.1 hdef]
      rfl
    simp only [Option.bind_eq_bind, exists_mem_bind, hnone, Option.mem_some_iff, exists_eq_left',
      Option.not_mem_none, false_and, exists_false, or_false]

/-- What may stand behind the test. -/
theorem mem_tail_iff (hs : 10 ∉ s) :
    s ∈ (opt (seq [word "//", anything]) * opt (char 13)).matches' ↔
      s = [] ∨ s = [13] ∨ (afterWord? "//" s).isSome = true := by
  rw [mem_mul]
  constructor
  · rintro ⟨a, ha, b, hb, rfl⟩
    rcases mem_opt.1 ha with rfl | ha
    · rcases mem_opt.1 hb with rfl | hb
      · exact .inl rfl
      · exact .inr (.inl (mem_char.1 hb))
    · obtain ⟨r, hr, -⟩ := mem_word_mul.1 ha
      have hcomment : afterWord? "//" (a ++ b) = some (r ++ b) := by
        rw [afterWord?_eq_some, afterWord?_eq_some.1 hr, List.append_assoc]
      rw [hcomment]
      exact .inr (.inr rfl)
  · rintro (rfl | rfl | hcomment)
    · exact ⟨[], mem_opt.2 (.inl rfl), [], mem_opt.2 (.inl rfl), rfl⟩
    · exact ⟨[], mem_opt.2 (.inl rfl), [13], mem_opt.2 (.inr (mem_char.2 rfl)), rfl⟩
    · obtain ⟨r, hr⟩ := Option.isSome_iff_exists.1 hcomment
      have hrest : 10 ∉ r := by
        rw [afterWord?_eq_some.1 hr] at hs
        exact fun h => hs (List.mem_append_right _ h)
      refine ⟨s, mem_opt.2 (.inr ?_), [], mem_opt.2 (.inl rfl), List.append_nil s⟩
      exact mem_word_mul.2 ⟨r, hr, mem_mul_one.2 (mem_anything.2 hrest)⟩

/-! ### Scanning goes forward -/

theorem skipSpaces_suffix (s : List UInt8) : skipSpaces s <:+ s :=
  List.dropWhile_suffix _

theorem skipByte_suffix (b : UInt8) (s : List UInt8) : skipByte b s <:+ s := by
  rcases s with - | ⟨c, s⟩
  · exact List.suffix_rfl
  · simp only [skipByte]
    split
    · exact List.suffix_cons c s
    · exact List.suffix_rfl

theorem afterWord?_suffix {w : String} (h : afterWord? w s = some t) : t <:+ s := by
  rw [afterWord?_eq_some.1 h]
  exact List.suffix_append _ _

theorem afterSpaces?_suffix (h : afterSpaces? s = some t) : t <:+ s := by
  rcases s with - | ⟨b, s⟩
  · cases h
  · simp only [afterSpaces?] at h
    split at h
    · cases h
      exact (skipSpaces_suffix s).trans (List.suffix_cons b s)
    · cases h

theorem afterDirective?_suffix {w : String} (h : afterDirective? w s = some t) : t <:+ s := by
  obtain ⟨a, ha, hw⟩ := Option.bind_eq_some_iff.1 h
  exact (afterWord?_suffix hw).trans ((skipSpaces_suffix a).trans
    ((afterWord?_suffix ha).trans (skipSpaces_suffix s)))

theorem afterTest?_suffix (h : afterTest? s = some t) : t <:+ s := by
  unfold afterTest? at h
  split at h
  · cases h
  · next a ha =>
    refine List.IsSuffix.trans ?_ (afterDirective?_suffix ha)
    split at h
    · next b hb =>
      obtain ⟨c, hc, hname⟩ := Option.bind_eq_some_iff.1 h
      exact (afterWord?_suffix hname).trans ((afterSpaces?_suffix hc).trans (afterWord?_suffix hb))
    · obtain ⟨b, hb, h⟩ := Option.bind_eq_some_iff.1 h
      obtain ⟨c, hc, h⟩ := Option.bind_eq_some_iff.1 h
      obtain ⟨d, hd, h⟩ := Option.bind_eq_some_iff.1 h
      cases h
      have hname : d <:+ c := (afterWord?_suffix hd).trans ((skipSpaces_suffix _).trans
        ((skipByte_suffix 40 _).trans (skipSpaces_suffix c)))
      exact (skipByte_suffix 41 _).trans ((skipSpaces_suffix d).trans (hname.trans
        ((afterWord?_suffix hc).trans (afterSpaces?_suffix hb))))

/-! ### The tests agree with the patterns -/

theorem avoids_tail {p : UInt8 → Bool} (hslash : p 47 = false) (hreturn : p 13 = false) :
    Avoids p (opt (seq [word "//", anything]) * opt (char 13)) := by
  intro s hs b hb
  obtain ⟨a, ha, r, hr, rfl⟩ := mem_mul.1 hs
  rcases mem_opt.1 ha with rfl | ha
  · rcases mem_opt.1 hr with rfl | hr
    · cases hb
    · rw [mem_char.1 hr] at hb
      cases hb
      exact hreturn
  · obtain ⟨t, ht, -⟩ := mem_word_mul.1 ha
    rw [afterWord?_eq_some.1 ht] at hb
    cases hb
    exact hslash

theorem isOpening_iff (hs : 10 ∉ s) : isOpening s = true ↔ s ∈ opening.matches' := by
  have hrow : opening.matches' = (spaces * (word "#" * (spaces * (word "if" * (test * (spaces *
      (opt (seq [word "//", anything]) * opt (char 13)))))))).matches' := by
    simp only [opening, seq, List.foldr, matches'_mul, matches'_epsilon, mul_one]
  rw [hrow, mem_test_mul (avoids_tail rfl rfl) (avoids_tail rfl rfl), isOpening]
  rcases h : afterTest? s with - | r
  · simp
  · have hrest : 10 ∉ skipSpaces r := fun hten =>
      hs ((afterTest?_suffix h).subset ((skipSpaces_suffix r).subset hten))
    simp only [Option.mem_some_iff, exists_eq_left', mem_tail_iff hrest, Bool.or_eq_true, beq_iff_eq,
      or_assoc]

theorem isClosing_iff (hs : 10 ∉ s) : isClosing s = true ↔ s ∈ closing.matches' := by
  have hrow : closing.matches' =
      (spaces * (word "#" * (spaces * (word "endif" * anything)))).matches' := by
    simp only [closing, seq, List.foldr, matches'_mul, matches'_epsilon, mul_one]
  rw [hrow, mem_directive_mul (avoids_word_mul rfl), isClosing]
  rcases h : afterDirective? "endif" s with - | r
  · simp
  · have hrest : 10 ∉ r := fun hten => hs ((afterDirective?_suffix h).subset hten)
    simp [mem_anything, hrest]

theorem mem_extern_mul :
    s ∈ (seq [word "extern", someSpaces, word "\"C\"", spaces, char 123] * P).matches' ↔
      ∃ a ∈ afterExtern? s, ∃ r ∈ P.matches', a = 123 :: r := by
  have hrow : (seq [word "extern", someSpaces, word "\"C\"", spaces, char 123] * P).matches' =
      (word "extern" * (someSpaces * (word "\"C\"" * (spaces * (char 123 * P))))).matches' := by
    simp only [seq, List.foldr, matches'_mul, matches'_epsilon, mul_assoc, one_mul]
  have hlinkage : Avoids isSpace (word "\"C\"" * (spaces * (char 123 * P))) := avoids_word_mul rfl
  have hbrace : Avoids isSpace (char 123 * P) := avoids_char_mul rfl
  rw [hrow, mem_word_mul, afterExtern?]
  simp only [mem_someSpaces_mul hlinkage, mem_word_mul, mem_spaces_mul hbrace, mem_char_mul,
    Option.bind_eq_bind, exists_mem_bind, Option.pure_def, Option.mem_some_iff, exists_eq_left']

/-- Only what starts with a letter goes on with the word `extern`. -/
theorem head?_of_afterExtern? (h : afterExtern? s = some t) : s.head? = some 101 := by
  obtain ⟨a, ha, -⟩ := Option.bind_eq_some_iff.1 h
  rw [afterWord?_eq_some.1 ha]
  rfl

theorem afterExtern?_suffix (h : afterExtern? s = some t) : t <:+ s := by
  obtain ⟨a, ha, h⟩ := Option.bind_eq_some_iff.1 h
  obtain ⟨b, hb, h⟩ := Option.bind_eq_some_iff.1 h
  obtain ⟨c, hc, h⟩ := Option.bind_eq_some_iff.1 h
  cases h
  exact (skipSpaces_suffix c).trans ((afterWord?_suffix hc).trans
    ((afterSpaces?_suffix hb).trans (afterWord?_suffix ha)))

theorem isBrace_iff (hs : 10 ∉ s) : isBrace s = true ↔ s ∈ brace.matches' := by
  have hrow : brace.matches' = (spaces * ((seq [word "extern", someSpaces, word "\"C\"", spaces,
      char 123] + char 125) * anything)).matches' := by
    simp only [brace, seq, List.foldr, matches'_mul, matches'_add, matches'_epsilon, mul_one]
  have hforms : ∀ t, t ∈ ((seq [word "extern", someSpaces, word "\"C\"", spaces, char 123] +
      char 125) * anything).matches' ↔
        (∃ a ∈ afterExtern? t, ∃ r ∈ anything.matches', a = 123 :: r) ∨
          ∃ r ∈ anything.matches', t = 125 :: r :=
    fun t => mem_add_mul.trans (or_congr mem_extern_mul mem_char_mul)
  have havoids : Avoids isSpace ((seq [word "extern", someSpaces, word "\"C\"", spaces, char 123] +
      char 125) * anything) := by
    intro t ht b hb
    rcases (hforms t).1 ht with ⟨a, ha, -⟩ | ⟨r, -, rfl⟩
    · rw [head?_of_afterExtern? ha] at hb
      cases hb
      rfl
    · cases hb
      rfl
  rw [hrow, mem_spaces_mul havoids, hforms, isBrace]
  have hrest : 10 ∉ skipSpaces s := fun hten => hs ((skipSpaces_suffix s).subset hten)
  generalize skipSpaces s = t at hrest
  simp only [mem_anything]
  rcases h : afterExtern? t with - | a
  · -- only the closing brace is left
    rcases t with - | ⟨b, t⟩
    · simp
    · have htail : 10 ∉ t := fun hten => hrest (List.mem_cons_of_mem b hten)
      simp [htail]
  · have hhead := head?_of_afterExtern? h
    have htail : 10 ∉ a := fun hten => hrest ((afterExtern?_suffix h).subset hten)
    have hother : ¬∃ r, 10 ∉ r ∧ t = 125 :: r := by
      rintro ⟨r, -, rfl⟩
      cases hhead
    rcases a with - | ⟨b, a⟩
    · simp [hhead, hother]
    · have hbehind : 10 ∉ a := fun hten => htail (List.mem_cons_of_mem b hten)
      simp [hother, hbehind]

end Unreferenced.Guard
