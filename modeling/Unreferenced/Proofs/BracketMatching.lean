/-
Unreferenced/Proofs/BracketMatching.lean

Template arguments are what stands between matching angle brackets.

Brackets are matched from the left: a `>` closes the nearest `<` before it that is
still open, and a bracket without a partner is matched with nothing (`matched`).
Taking template arguments out deletes all that stands between the two brackets of
a pair, brackets included, and nothing else (`withoutMatched`).

The rounds delete innermost pairs only, all at once, so they are compared with the
matching over a third description, which reads the text once: a `>` takes what was
kept back to what it was before the nearest open `<` (`Draft.read`).  An innermost
pair is read without any effect, so a round does not change what is kept at the
end (`foldl_read_dropInnermostArgs`); and at any time what is kept is what lies
outside of the pairs matched so far (`Tracks.read`).
-/
import Mathlib.Data.List.Infix
import Mathlib.Logic.Function.Iterate
import Unreferenced.Proofs.ScopeSpelling

namespace Unreferenced.Spelling

/-! ### Matching -/

/-- A text read so far: its length, the positions of the open brackets, the nearest first, and the
pairs of positions of matching brackets. -/
structure Matching where
  position : Nat := 0
  opened : List Nat := []
  pairs : List (Nat × Nat) := []

/-- Read one more character.  A `>` closes the nearest open `<`, if there is one. -/
def Matching.read (m : Matching) (c : Char) : Matching :=
  if c = '<' then ⟨m.position + 1, m.position :: m.opened, m.pairs⟩
  else if c = '>' then
    match m.opened with
    | [] => ⟨m.position + 1, [], m.pairs⟩
    | start :: opened => ⟨m.position + 1, opened, m.pairs ++ [(start, m.position)]⟩
  else ⟨m.position + 1, m.opened, m.pairs⟩

/-- The pairs of positions of matching brackets. -/
def matched (s : List Char) : List (Nat × Nat) :=
  (s.foldl Matching.read {}).pairs

/-- Whether a position lies between the positions of a pair, these included. -/
def isCovered (pairs : List (Nat × Nat)) (position : Nat) : Bool :=
  pairs.any fun p => decide (p.1 ≤ position) && decide (position ≤ p.2)

/-- What is left of a text that starts at a position if everything covered by some pairs goes. -/
def uncoveredFrom (position : Nat) (pairs : List (Nat × Nat)) (s : List Char) : List Char :=
  ((s.zipIdx position).filter fun c => !isCovered pairs c.2).map Prod.fst

/-- The text without its pairs of matching brackets and what stands between them. -/
def withoutMatched (s : List Char) : List Char :=
  uncoveredFrom 0 (matched s) s

/-- Every `>` has a `<` to close, and every `<` is closed. -/
def IsBalanced (s : List Char) : Prop :=
  (∀ front, front <+: s → front.count '>' ≤ front.count '<') ∧ s.count '<' = s.count '>'

instance (s : List Char) : Decidable (IsBalanced s) :=
  decidable_of_iff
    ((∀ front ∈ s.inits, front.count '>' ≤ front.count '<') ∧ s.count '<' = s.count '>')
    (and_congr_left' (forall_congr' fun front => imp_congr_left (List.mem_inits front s)))

/-! ### What lies outside of some pairs -/

theorem uncoveredFrom_append (position : Nat) (pairs : List (Nat × Nat)) (s t : List Char) :
    uncoveredFrom position pairs (s ++ t) =
      uncoveredFrom position pairs s ++ uncoveredFrom (position + s.length) pairs t := by
  simp [uncoveredFrom, List.zipIdx_append]

/-- Pairs that cover the same positions of a text leave the same. -/
theorem uncoveredFrom_congr {position : Nat} {pairs pairs' : List (Nat × Nat)} {s : List Char}
    (h : ∀ i, position ≤ i → i < position + s.length → isCovered pairs i = isCovered pairs' i) :
    uncoveredFrom position pairs s = uncoveredFrom position pairs' s := by
  unfold uncoveredFrom
  refine congrArg (List.map Prod.fst) (List.filter_congr ?_)
  rintro ⟨c, i⟩ hmem
  obtain ⟨hge, hlt, -⟩ := List.mem_zipIdx hmem
  show (!isCovered pairs i) = !isCovered pairs' i
  rw [h i hge hlt]

theorem uncoveredFrom_eq_nil {position : Nat} {pairs : List (Nat × Nat)} {s : List Char}
    (h : ∀ i, position ≤ i → i < position + s.length → isCovered pairs i = true) :
    uncoveredFrom position pairs s = [] := by
  rw [uncoveredFrom, List.map_eq_nil_iff, List.filter_eq_nil_iff]
  rintro ⟨c, i⟩ hmem
  obtain ⟨hge, hlt, -⟩ := List.mem_zipIdx hmem
  simp [h i hge hlt]

theorem isCovered_concat (pairs : List (Nat × Nat)) (start stop i : Nat) :
    isCovered (pairs ++ [(start, stop)]) i =
      (isCovered pairs i || (decide (start ≤ i) && decide (i ≤ stop))) := by
  simp [isCovered]

/-- Behind all pairs nothing is covered. -/
theorem isCovered_eq_false {pairs : List (Nat × Nat)} {i : Nat} (h : ∀ p ∈ pairs, p.2 < i) :
    isCovered pairs i = false := by
  rw [isCovered, List.any_eq_false]
  intro p hp
  have := h p hp
  simp
  omega

/-- A character behind all pairs is kept. -/
theorem uncoveredFrom_concat {pairs : List (Nat × Nat)} {s : List Char}
    (h : ∀ p ∈ pairs, p.2 < s.length) (c : Char) :
    uncoveredFrom 0 pairs (s ++ [c]) = uncoveredFrom 0 pairs s ++ [c] := by
  rw [uncoveredFrom_append, Nat.zero_add]
  simp [uncoveredFrom, isCovered_eq_false h]

/-- A pair that starts behind a text takes nothing of it. -/
theorem uncoveredFrom_before {pairs : List (Nat × Nat)} {s : List Char} {start : Nat}
    (h : s.length ≤ start) (stop : Nat) :
    uncoveredFrom 0 (pairs ++ [(start, stop)]) s = uncoveredFrom 0 pairs s := by
  apply uncoveredFrom_congr
  intro i _ hi
  have hstart : ¬start ≤ i := by omega
  simp [isCovered_concat, hstart]

/-- A pair that ends with a text leaves what was left before its start. -/
theorem uncoveredFrom_close (pairs : List (Nat × Nat)) (s : List Char) (c : Char) {start : Nat}
    (h : start ≤ s.length) :
    uncoveredFrom 0 (pairs ++ [(start, s.length)]) (s ++ [c]) =
      uncoveredFrom 0 pairs (s.take start) := by
  have hlength : (s.take start).length = start := List.length_take_of_le h
  have hcovered : uncoveredFrom start (pairs ++ [(start, s.length)]) (s.drop start ++ [c]) = [] := by
    apply uncoveredFrom_eq_nil
    intro i hge hlt
    have hstop : i ≤ s.length := by
      simp at hlt
      omega
    simp [isCovered_concat, hge, hstop]
  calc uncoveredFrom 0 (pairs ++ [(start, s.length)]) (s ++ [c])
      = uncoveredFrom 0 (pairs ++ [(start, s.length)]) (s.take start ++ (s.drop start ++ [c])) := by
        rw [← List.append_assoc, List.take_append_drop]
    _ = uncoveredFrom 0 (pairs ++ [(start, s.length)]) (s.take start) := by
        rw [uncoveredFrom_append, Nat.zero_add, hlength, hcovered, List.append_nil]
    _ = uncoveredFrom 0 pairs (s.take start) := uncoveredFrom_before (Nat.le_of_eq hlength) _

/-! ### Reading once -/

/-- A text read so far: what is kept of it, and what had been kept before each open `<`, the nearest
first. -/
structure Draft where
  kept : List Char := []
  saved : List (List Char) := []

/-- Read one more character.  A `>` takes back everything from the nearest open `<` on. -/
def Draft.read (d : Draft) (c : Char) : Draft :=
  if c = '<' then ⟨d.kept ++ [c], d.kept :: d.saved⟩
  else if c = '>' then
    match d.saved with
    | [] => ⟨d.kept ++ [c], []⟩
    | before :: saved => ⟨before, saved⟩
  else ⟨d.kept ++ [c], d.saved⟩

theorem Draft.read_plain {c : Char} (hc : isAngle c = false) (d : Draft) :
    d.read c = ⟨d.kept ++ [c], d.saved⟩ := by
  have hangle : c ≠ '<' ∧ c ≠ '>' := by simpa [isAngle] using hc
  rw [read, if_neg hangle.1, if_neg hangle.2]

/-- After reading a text, what is kept is what lies outside of the pairs matched so far, and the same
holds of what was kept before each bracket that is still open. -/
structure Tracks (s : List Char) (m : Matching) (d : Draft) : Prop where
  position_eq : m.position = s.length
  kept_eq : d.kept = uncoveredFrom 0 m.pairs s
  saved_eq : d.saved = m.opened.map fun start => uncoveredFrom 0 m.pairs (s.take start)
  sorted : (s.length :: m.opened).Pairwise (· > ·)
  ended : ∀ p ∈ m.pairs, p.2 < s.length

namespace Tracks

variable {s : List Char} {m : Matching} {d : Draft}

theorem nil : Tracks [] {} {} :=
  ⟨rfl, rfl, rfl, List.pairwise_singleton _ _, List.forall_mem_nil _⟩

theorem lt_length (h : Tracks s m d) {start : Nat} (hstart : start ∈ m.opened) :
    start < s.length :=
  List.rel_of_pairwise_cons h.sorted hstart

/-- What was kept before an open bracket does not change when the text goes on. -/
theorem map_take (h : Tracks s m d) (c : Char) :
    (m.opened.map fun start => uncoveredFrom 0 m.pairs ((s ++ [c]).take start)) = d.saved := by
  rw [h.saved_eq]
  apply List.map_congr_left
  intro start hstart
  rw [List.take_append_of_le_length (Nat.le_of_lt (h.lt_length hstart))]

theorem sorted_concat (h : Tracks s m d) (c : Char) :
    ((s ++ [c]).length :: s.length :: m.opened).Pairwise (· > ·) := by
  refine List.pairwise_cons.2 ⟨?_, h.sorted⟩
  intro start hstart
  rw [List.length_append]
  rcases List.mem_cons.1 hstart with rfl | hstart
  · exact Nat.lt_succ_self _
  · exact Nat.lt_succ_of_lt (h.lt_length hstart)

theorem ended_concat (h : Tracks s m d) (c : Char) : ∀ p ∈ m.pairs, p.2 < (s ++ [c]).length := by
  intro p hp
  rw [List.length_append]
  exact Nat.lt_succ_of_lt (h.ended p hp)

/-- Reading a character that is kept and opens nothing. -/
theorem plain (h : Tracks s m d) (c : Char) :
    Tracks (s ++ [c]) ⟨m.position + 1, m.opened, m.pairs⟩ ⟨d.kept ++ [c], d.saved⟩ where
  position_eq := by rw [h.position_eq, List.length_append]; rfl
  kept_eq := by rw [uncoveredFrom_concat h.ended, h.kept_eq]
  saved_eq := (h.map_take c).symm
  sorted := (h.sorted_concat c).sublist ((List.sublist_cons_self _ _).cons_cons _)
  ended := h.ended_concat c

/-- Reading a character that opens a pair. -/
theorem start (h : Tracks s m d) (c : Char) :
    Tracks (s ++ [c]) ⟨m.position + 1, m.position :: m.opened, m.pairs⟩
      ⟨d.kept ++ [c], d.kept :: d.saved⟩ where
  position_eq := (h.plain c).position_eq
  kept_eq := (h.plain c).kept_eq
  saved_eq := by rw [List.map_cons, h.map_take c, h.position_eq, List.take_left, h.kept_eq]
  sorted := h.position_eq ▸ h.sorted_concat c
  ended := h.ended_concat c

/-- Reading a character that closes the nearest open pair. -/
theorem close {position start : Nat} {opened : List Nat} {pairs : List (Nat × Nat)}
    {kept before : List Char} {saved : List (List Char)}
    (h : Tracks s ⟨position, start :: opened, pairs⟩ ⟨kept, before :: saved⟩) (c : Char) :
    Tracks (s ++ [c]) ⟨position + 1, opened, pairs ++ [(start, position)]⟩ ⟨before, saved⟩ := by
  obtain ⟨hbefore, hsaved⟩ := List.cons.inj h.saved_eq
  obtain rfl : position = s.length := h.position_eq
  have hstart : start < s.length := h.lt_length List.mem_cons_self
  have hnear : ∀ o ∈ opened, o < start := fun o ho =>
    List.rel_of_pairwise_cons (List.pairwise_cons.1 h.sorted).2 ho
  refine ⟨(h.plain c).position_eq, ?_, ?_, ?_, ?_⟩
  · show before = _
    rw [uncoveredFrom_close pairs s c (Nat.le_of_lt hstart), hbefore]
  · show saved = _
    rw [hsaved]
    apply List.map_congr_left
    intro o ho
    have hlength : o < s.length := h.lt_length (List.mem_cons_of_mem _ ho)
    -- the new pair starts behind every bracket that is still open
    rw [List.take_append_of_le_length (Nat.le_of_lt hlength), uncoveredFrom_before]
    exact Nat.le_trans (List.length_take_le o s) (Nat.le_of_lt (hnear o ho))
  · refine (h.sorted_concat c).sublist (.cons_cons _ ?_)
    exact (List.sublist_cons_self _ _).trans (List.sublist_cons_self _ _)
  · intro p hp
    rcases List.mem_append.1 hp with hp | hp
    · exact h.ended_concat c p hp
    · rw [List.mem_singleton.1 hp, List.length_append]
      exact Nat.lt_succ_self _

/-- Reading one character. -/
theorem read (h : Tracks s m d) (c : Char) : Tracks (s ++ [c]) (m.read c) (d.read c) := by
  unfold Matching.read Draft.read
  split
  · exact h.start c
  split
  · obtain ⟨position, opened, pairs⟩ := m
    obtain ⟨kept, saved⟩ := d
    rcases opened with - | ⟨start, opened⟩
    · obtain rfl : saved = [] := h.saved_eq
      exact h.plain c
    · obtain ⟨before, saved, rfl⟩ : ∃ before rest, saved = before :: rest := ⟨_, _, h.saved_eq⟩
      exact h.close c
  · exact h.plain c

/-- Reading a text. -/
theorem foldl_read {front : List Char} (h : Tracks front m d) (s : List Char) :
    Tracks (front ++ s) (s.foldl Matching.read m) (s.foldl Draft.read d) := by
  induction s generalizing front m d with
  | nil => rw [List.append_nil]; exact h
  | cons c s ih =>
    rw [List.append_cons, List.foldl_cons, List.foldl_cons]
    exact ih (h.read c)

end Tracks

theorem kept_foldl_read (s : List Char) : (s.foldl Draft.read {}).kept = withoutMatched s :=
  (Tracks.nil.foldl_read s).kept_eq

/-! ### Rounds -/

/-- Characters that are no brackets are kept. -/
theorem foldl_read_plain {inside : List Char} (h : ∀ c ∈ inside, isAngle c = false) (d : Draft) :
    inside.foldl Draft.read d = ⟨d.kept ++ inside, d.saved⟩ := by
  induction inside generalizing d with
  | nil => rw [List.append_nil]; rfl
  | cons c inside ih =>
    obtain ⟨hc, hinside⟩ := List.forall_mem_cons.1 h
    rw [List.foldl_cons, Draft.read_plain hc, ih hinside, List.append_assoc]
    rfl

/-- An innermost pair of brackets has no effect. -/
theorem foldl_read_pair {inside : List Char} (h : ∀ c ∈ inside, isAngle c = false) (d : Draft)
    (rest : List Char) :
    ('<' :: (inside ++ '>' :: rest)).foldl Draft.read d = rest.foldl Draft.read d := by
  rw [List.foldl_cons, List.foldl_append, foldl_read_plain h]
  rfl

/-- A round does not change what is kept. -/
theorem foldl_read_dropInnermostArgs (d : Draft) (s : List Char) :
    (dropInnermostArgs s).foldl Draft.read d = s.foldl Draft.read d := by
  fun_induction dropInnermostArgs s generalizing d with
  | case1 => rfl
  | case2 r t hdrop ih =>
    have hinside : ∀ c ∈ r.takeWhile fun d => !isAngle d, isAngle c = false := fun c hc => by
      simpa using List.mem_takeWhile_imp hc
    have hr : (r.takeWhile fun d => !isAngle d) ++ '>' :: t = r := by
      rw [← hdrop, List.takeWhile_append_dropWhile]
    rw [ih, ← hr, foldl_read_pair hinside]
  | case3 r _ ih => exact ih _
  | case4 c r _ ih => exact ih _

/-- Where nothing looks like template arguments, everything is kept. -/
theorem kept_foldl_read_of_not_isBracketed {s : List Char} (h : ¬IsBracketed s) {d : Draft}
    (hsaved : d.saved ≠ [] → '>' ∉ s) : (s.foldl Draft.read d).kept = d.kept ++ s := by
  induction s generalizing d with
  | nil => rw [List.append_nil]; rfl
  | cons c s ih =>
    rw [isBracketed_cons, not_or, not_and] at h
    have hrest : d.saved ≠ [] → '>' ∉ s := fun hne hmem => hsaved hne (List.mem_cons_of_mem c hmem)
    rw [List.foldl_cons, List.append_cons d.kept c s]
    unfold Draft.read
    split
    · next hopen => exact ih h.1 fun _ => h.2 hopen
    split
    · next hclose =>
      -- nothing is open before a `>`
      have hnil : d.saved = [] := by
        by_contra hne
        exact hsaved hne (hclose ▸ List.mem_cons_self)
      rw [hnil]
      exact ih h.1 fun hne => absurd rfl hne
    · exact ih h.1 hrest

theorem dropTemplateArgs_eq_kept (s : List Char) :
    dropTemplateArgs s = (s.foldl Draft.read {}).kept := by
  fun_induction dropTemplateArgs s with
  | case1 s _ ih => rw [ih, foldl_read_dropInnermostArgs]
  | case2 s hlength =>
    have hfree : ¬IsBracketed s := fun h => hlength (length_dropInnermostArgs_lt h)
    rw [kept_foldl_read_of_not_isBracketed hfree fun hne => absurd rfl hne]
    rfl

/-- Template arguments are what stands between matching brackets. -/
theorem dropTemplateArgs_eq_withoutMatched (s : List Char) :
    dropTemplateArgs s = withoutMatched s := by
  rw [dropTemplateArgs_eq_kept, kept_foldl_read]

-- one pair goes, and brackets without a partner stay
example : withoutMatched "a>b<c<d>".toList = "a>b<c".toList := by decide

/-- The rounds end, after no more of them than the text has characters. -/
theorem exists_iterate_dropInnermostArgs (s : List Char) :
    ∃ n ≤ s.length, dropInnermostArgs^[n] s = dropTemplateArgs s := by
  fun_induction dropTemplateArgs s with
  | case1 s hlength ih =>
    obtain ⟨n, hn, hrounds⟩ := ih
    refine ⟨n + 1, by omega, ?_⟩
    rw [Function.iterate_succ_apply, hrounds]
  | case2 s _ => exact ⟨0, Nat.zero_le _, rfl⟩

/-! ### What is left -/

/-- Every `>` stands before every `<` where nothing looks like template arguments. -/
theorem lt_of_not_isBracketed {s : List Char} (h : ¬IsBracketed s) {i j : Nat}
    (hi : s[i]? = some '>') (hj : s[j]? = some '<') : i < j := by
  have hpairs : s.Pairwise fun a b => ¬(a = '<' ∧ b = '>') := by
    refine List.pairwise_iff_forall_sublist.2 ?_
    rintro a b hsub ⟨rfl, rfl⟩
    exact h hsub
  obtain ⟨hi', hclose⟩ := List.getElem?_eq_some_iff.1 hi
  obtain ⟨hj', hopen⟩ := List.getElem?_eq_some_iff.1 hj
  by_contra hle
  rcases Nat.lt_or_eq_of_le (Nat.le_of_not_lt hle) with hlt | rfl
  · exact List.pairwise_iff_getElem.1 hpairs j i hj' hi' hlt ⟨hopen, hclose⟩
  · rw [hclose] at hopen
    exact absurd hopen (by decide)

/-- What is kept holds one bracket for each open one, and no other. -/
inductive Draft.Opened : Draft → Prop where
  | none {kept : List Char} (h : ∀ c ∈ kept, isAngle c = false) : Opened ⟨kept, []⟩
  | more {before inside : List Char} {saved : List (List Char)} (h : Opened ⟨before, saved⟩)
      (hinside : ∀ c ∈ inside, isAngle c = false) :
      Opened ⟨before ++ '<' :: inside, before :: saved⟩

theorem Draft.Opened.plain {d : Draft} (h : d.Opened) {c : Char} (hc : isAngle c = false) :
    Opened ⟨d.kept ++ [c], d.saved⟩ := by
  have hconcat : ∀ s : List Char, (∀ e ∈ s, isAngle e = false) →
      ∀ e ∈ s ++ [c], isAngle e = false := by
    intro s hs e he
    rcases List.mem_append.1 he with he | he
    · exact hs e he
    · rw [List.mem_singleton.1 he, hc]
  cases h with
  | none h => exact .none (hconcat _ h)
  | more h hinside =>
    rw [List.append_assoc, List.cons_append]
    exact .more h (hconcat _ hinside)

/-- With so many brackets open before it, a text closes all of them and its own, and no other. -/
def ClosesAll (depth : Nat) (s : List Char) : Prop :=
  (∀ front, front <+: s → front.count '>' ≤ depth + front.count '<') ∧
    depth + s.count '<' = s.count '>'

namespace ClosesAll

variable {depth : Nat} {s : List Char}

theorem of_isBalanced (h : IsBalanced s) : ClosesAll 0 s := by
  refine ⟨fun front hfront => ?_, ?_⟩
  · rw [Nat.zero_add]
    exact h.1 front hfront
  · rw [Nat.zero_add]
    exact h.2

theorem depth_of_nil (h : ClosesAll depth []) : depth = 0 := by
  simpa using h.2

/-- The condition on the beginnings of a text, seen from behind its first character. -/
theorem front_le {c : Char} (h : ClosesAll depth (c :: s)) {front : List Char}
    (hfront : front <+: s) : (c :: front).count '>' ≤ depth + (c :: front).count '<' :=
  h.1 _ ((List.prefix_cons_inj c).2 hfront)

theorem of_open (h : ClosesAll depth ('<' :: s)) : ClosesAll (depth + 1) s := by
  refine ⟨fun front hfront => ?_, ?_⟩
  · have hle := h.front_le hfront
    rw [List.count_cons_self, List.count_cons_of_ne (by decide)] at hle
    omega
  · have hcount := h.2
    rw [List.count_cons_self, List.count_cons_of_ne (by decide)] at hcount
    omega

/-- A `>` at the start closes a bracket that is open before. -/
theorem of_close (h : ClosesAll depth ('>' :: s)) : 0 < depth ∧ ClosesAll (depth - 1) s := by
  have hpos : 0 < depth := by
    have hle := h.front_le List.nil_prefix
    rw [List.count_cons_self, List.count_cons_of_ne (by decide), List.count_nil,
      List.count_nil] at hle
    exact hle
  refine ⟨hpos, fun front hfront => ?_, ?_⟩
  · have hle := h.front_le hfront
    rw [List.count_cons_self, List.count_cons_of_ne (by decide)] at hle
    omega
  · have hcount := h.2
    rw [List.count_cons_self, List.count_cons_of_ne (by decide)] at hcount
    omega

theorem of_plain {c : Char} (h : ClosesAll depth (c :: s)) (hopen : c ≠ '<') (hclose : c ≠ '>') :
    ClosesAll depth s := by
  refine ⟨fun front hfront => ?_, ?_⟩
  · have hle := h.front_le hfront
    rwa [List.count_cons_of_ne hopen, List.count_cons_of_ne hclose] at hle
  · have hcount := h.2
    rwa [List.count_cons_of_ne hopen, List.count_cons_of_ne hclose] at hcount

end ClosesAll

/-- No bracket is kept if all open ones are closed and none is closed that is not open. -/
theorem Draft.Opened.isAngle_of_mem {d : Draft} (h : d.Opened) {s : List Char}
    (hs : ClosesAll d.saved.length s) : ∀ c ∈ (s.foldl Draft.read d).kept, isAngle c = false := by
  induction s generalizing d with
  | nil =>
    cases h with
    | none h => exact h
    | more _ _ => cases hs.depth_of_nil
  | cons c s ih =>
    rw [List.foldl_cons]
    by_cases hopen : c = '<'
    · subst hopen
      exact ih (d := ⟨_, _⟩) (.more h (List.forall_mem_nil _)) hs.of_open
    by_cases hclose : c = '>'
    · subst hclose
      obtain ⟨hpos, hs⟩ := hs.of_close
      cases h with
      | none _ => cases hpos
      | more h _ => exact ih (d := ⟨_, _⟩) h hs
    · have hangle : isAngle c = false := by simp [isAngle, hopen, hclose]
      rw [Draft.read_plain hangle]
      exact ih (h.plain hangle) (hs.of_plain hopen hclose)

theorem IsBalanced.isAngle_of_mem {s : List Char} (h : IsBalanced s) :
    ∀ c ∈ dropTemplateArgs s, isAngle c = false := by
  rw [dropTemplateArgs_eq_kept]
  have hnone : Draft.Opened {} := .none (List.forall_mem_nil _)
  exact hnone.isAngle_of_mem (.of_isBalanced h)

/-- **Taking template arguments out is matching brackets.**  The rounds come to an end, and what is
left then is the text without its pairs of matching brackets and all that stands between them.  In
it every `>` stands before every `<`; if the brackets were balanced, there are none; and taking
template arguments out again changes nothing. -/
theorem withoutTemplateArgs_exact (s : String) :
    (∃ n ≤ s.length, dropInnermostArgs^[n] s.toList = (withoutTemplateArgs s).toList ∧
        dropInnermostArgs (withoutTemplateArgs s).toList = (withoutTemplateArgs s).toList) ∧
      (withoutTemplateArgs s).toList = withoutMatched s.toList ∧
      (∀ i j : Nat, (withoutTemplateArgs s).toList[i]? = some '>' →
        (withoutTemplateArgs s).toList[j]? = some '<' → i < j) ∧
      (IsBalanced s.toList →
        '<' ∉ (withoutTemplateArgs s).toList ∧ '>' ∉ (withoutTemplateArgs s).toList) ∧
      withoutTemplateArgs (withoutTemplateArgs s) = withoutTemplateArgs s := by
  have ht : (withoutTemplateArgs s).toList = dropTemplateArgs s.toList := String.toList_ofList
  have hfree : ¬IsBracketed (withoutTemplateArgs s).toList :=
    ht ▸ not_isBracketed_dropTemplateArgs s.toList
  refine ⟨?_, ht.trans (dropTemplateArgs_eq_withoutMatched _), fun i j => lt_of_not_isBracketed hfree,
    fun hbalanced => ?_, ?_⟩
  · obtain ⟨n, hn, hrounds⟩ := exists_iterate_dropInnermostArgs s.toList
    exact ⟨n, hn, hrounds.trans ht.symm, dropInnermostArgs_eq_self hfree⟩
  · have hangle : ∀ c ∈ (withoutTemplateArgs s).toList, isAngle c = false :=
      ht ▸ hbalanced.isAngle_of_mem
    exact ⟨fun hmem => absurd (hangle _ hmem) (by decide),
      fun hmem => absurd (hangle _ hmem) (by decide)⟩
  · show String.ofList (dropTemplateArgs (withoutTemplateArgs s).toList) = _
    rw [dropTemplateArgs_eq_self hfree, String.ofList_toList]

/-- Arguments inside of arguments go with them. -/
theorem withoutTemplateArgs_exact_nested :
    let s := "ns::Map<Key, Set<Value>>::at"
    IsBalanced s.toList ∧ '<' ∉ (withoutTemplateArgs s).toList ∧
      '>' ∉ (withoutTemplateArgs s).toList := by
  intro s
  have hbalanced : IsBalanced s.toList := by decide +kernel
  obtain ⟨-, -, -, hnone, -⟩ := withoutTemplateArgs_exact s
  exact ⟨hbalanced, hnone hbalanced⟩

end Unreferenced.Spelling
