/-
Unreferenced/Proofs/JsonFault.lean

What is in a text that is refused for more than its grammar.

Only a word can be refused for its number of digits, and the word that the
reader is inside of is always the one that ends the text read so far.  Only an
opening bracket can be refused for what is open around it, and never more lists
and objects are open than brackets have been read.  So a text in which a number
is too long has that many digits in a row, and a text that nests too deep has
more opening brackets than the limit allows (`shows_of_read`).
-/
import Unreferenced.Json.Reader

namespace Unreferenced.Json

open Text

/-- The text has a run of more digits than a number may have. -/
def HasLongNumber (s : List Char) : Prop :=
  ∃ digits, digits <:+: s ∧ maxDigits < digits.length ∧ digits.all isDigit = true

/-- The number of brackets in a text that open a list or an object. -/
def openings (s : List Char) : Nat :=
  s.countP fun c => c == '[' || c == '\x7b'

/-- What has to be in a text for a fault to be found in it. -/
def Shows (limit : Nat) (s : List Char) : Fault → Prop
  | .malformed => True
  | .numberTooLong => HasLongNumber s
  | .nestedTooDeep => limit < openings s

variable {limit : Nat} {s w : List Char} {c : Char} {t : Token} {state : State} {p : Progress}
  {e : Fault}

theorem HasLongNumber.mono (h : HasLongNumber w) (hpart : w <:+: s) : HasLongNumber s := by
  obtain ⟨digits, hdigits, hlong, hall⟩ := h
  exact ⟨digits, hdigits.trans hpart, hlong, hall⟩

theorem Shows.mono (h : Shows limit w e) (hpart : w <:+: s) : Shows limit s e := by
  cases e with
  | malformed => trivial
  | numberTooLong => exact HasLongNumber.mono h hpart
  | nestedTooDeep => exact Nat.lt_of_lt_of_le h (hpart.sublist.countP_le)

theorem openings_concat (s : List Char) (c : Char) :
    openings (s ++ [c]) = openings s + openings [c] :=
  List.countP_append

/-! ### Words -/

theorem hasLongNumber_of_startsTooLong (h : startsTooLong s = true) : HasLongNumber s := by
  simp only [startsTooLong, leadingDigits, Bool.and_eq_true] at h
  exact ⟨s.takeWhile isDigit, (List.takeWhile_prefix _).isInfix, of_decide_eq_true h.1.1,
    List.all_takeWhile⟩

theorem shows_of_ofWord (h : ofWord w = .error e) : Shows limit w e := by
  unfold ofWord at h
  dsimp only at h
  repeat' split at h
  all_goals try simp at h
  -- the number stands behind a sign or is the whole word
  · cases h
    exact (hasLongNumber_of_startsTooLong ‹_›).mono (List.suffix_cons _ _).isInfix
  · cases h
    trivial
  · cases h
    exact hasLongNumber_of_startsTooLong ‹_›
  · cases h
    trivial

/-! ### Tokens -/

/-- The number of lists and objects that a token opens. -/
def Token.opens : Token → Nat
  | .openArray | .openObject => 1
  | _ => 0

namespace State

/-- The number of lists and objects that are open. -/
def depth (state : State) : Nat :=
  state.stack.length +
    match state.due with
    | .keyOrEnd _ | .key _ | .colon _ _ => 1
    | _ => 0

/-- What a token comes to where so many lists and objects are open: one more at most is open behind
it, and it is refused for a fault it shows itself. -/
def Yields (limit count : Nat) (t : Token) : Except Fault State → Prop
  | .ok state => state.depth ≤ count + t.opens
  | .error .malformed => True
  | .error .numberTooLong => ∃ w, t = .word w ∧ HasLongNumber w
  | .error .nestedTooDeep => limit < count + t.opens

theorem yields_startValue (limit : Nat) (stack : List Frame) (t : Token) :
    Yields limit stack.length t (startValue limit stack t) := by
  cases t with
  | openArray =>
    rw [startValue]
    split
    · next h => exact Nat.lt_succ_of_le h
    · exact Nat.le_refl _
  | openObject =>
    rw [startValue]
    split
    · next h => exact Nat.lt_succ_of_le h
    · exact Nat.le_refl _
  | string _ => exact Nat.le_refl _
  | word w =>
    rw [startValue]
    rcases hw : ofWord w with e | v
    · have hshows := @shows_of_ofWord limit w e hw
      cases e with
      | malformed => trivial
      | numberTooLong => exact ⟨w, rfl, hshows⟩
      | nestedTooDeep => exact absurd (@shows_of_ofWord (openings w) w _ hw) (Nat.lt_irrefl _)
    · exact Nat.le_refl _
  | _ => trivial

theorem yields_step (limit : Nat) (state : State) (t : Token) :
    Yields limit state.depth t (state.step limit t) := by
  obtain ⟨due, stack⟩ := state
  cases due with
  | value => exact yields_startValue limit stack t
  | valueOrEnd =>
    unfold step
    dsimp only
    split
    · exact Nat.le_succ _
    · exact yields_startValue limit stack t
  | keyOrEnd fields => cases t <;> simp [step, Yields, depth, Token.opens]
  | key fields => cases t <;> simp [step, Yields, depth, Token.opens]
  | colon fields key => cases t <;> simp [step, Yields, depth, Token.opens]
  | separator v =>
    unfold step
    dsimp only
    split <;> simp [Yields, depth, closeArray, Token.opens]

/-- A word opens nothing, and only its own digits can be too many. -/
theorem shows_of_step_word (h : state.step limit (.word w) = .error e) (hw : w <:+: s)
    (hdepth : state.depth ≤ openings s) : Shows limit s e := by
  have hyields := yields_step limit state (.word w)
  rw [h] at hyields
  cases e with
  | malformed => trivial
  | numberTooLong =>
    obtain ⟨w', hw', hlong⟩ := hyields
    cases hw'
    exact hlong.mono hw
  | nestedTooDeep => exact Nat.lt_of_lt_of_le hyields hdepth

theorem depth_of_step_word {state' : State} (h : state.step limit (.word w) = .ok state') :
    state'.depth ≤ state.depth := by
  have hyields := yields_step limit state (.word w)
  rw [h] at hyields
  exact hyields

theorem finish_eq_malformed (h : state.finish = .error e) : e = .malformed := by
  unfold finish at h
  split at h
  · cases h
  · exact (Except.error.inj h).symm

end State

/-! ### Characters -/

namespace Progress

/-- A result of reading `s`: a fault that `s` shows, or no more lists and objects open than `s` has
opening brackets and, inside a word, the word that `s` ends with. -/
def Reads (limit : Nat) (s : List Char) : Except Fault Progress → Prop
  | .ok p => (∀ w, p.mode = .inWord w → w.reverse <:+ s) ∧ p.state.depth ≤ openings s
  | .error e => Shows limit s e

/-- A token that is no word and opens what its last character opens. -/
theorem reads_map_step (hdepth : state.depth ≤ openings s) (ht : ∀ w, t ≠ .word w)
    (hopens : t.opens ≤ openings [c]) :
    Reads limit (s ++ [c]) ((state.step limit t).map fun st => ⟨.between, st⟩) := by
  have hyields := State.yields_step limit state t
  rcases hstep : state.step limit t with e | st
  · rw [hstep] at hyields
    cases e with
    | malformed => trivial
    | numberTooLong =>
      obtain ⟨w, hw, -⟩ := hyields
      exact absurd hw (ht w)
    | nestedTooDeep =>
      have hlimit : limit < state.depth + t.opens := hyields
      show limit < openings (s ++ [c])
      rw [openings_concat]
      omega
  · rw [hstep] at hyields
    have hst : st.depth ≤ state.depth + t.opens := hyields
    refine ⟨by simp, ?_⟩
    show st.depth ≤ openings (s ++ [c])
    rw [openings_concat]
    omega

theorem depth_le_concat (hdepth : state.depth ≤ openings s) (c : Char) :
    state.depth ≤ openings (s ++ [c]) := by
  rw [openings_concat]
  omega

theorem opens_mark? (h : mark? c = some t) : (∀ w, t ≠ .word w) ∧ t.opens ≤ openings [c] := by
  unfold mark? at h
  split at h <;> cases h
  all_goals exact ⟨nofun, by decide⟩

section Step

variable (hdepth : state.depth ≤ openings s) (c : Char)
include hdepth

theorem reads_stepBetween : Reads limit (s ++ [c]) (stepBetween limit state c) := by
  have hconcat := depth_le_concat hdepth c
  unfold stepBetween
  repeat' split
  · exact ⟨nofun, hconcat⟩
  · exact ⟨nofun, hconcat⟩
  · refine ⟨fun w hw => ?_, hconcat⟩
    obtain rfl : [c] = w := by simpa using hw
    exact List.suffix_append s [c]
  · next t ht =>
    obtain ⟨hword, hopens⟩ := opens_mark? ht
    exact reads_map_step hdepth hword hopens
  · trivial

theorem reads_stepString (j : JsonString) :
    Reads limit (s ++ [c]) (stepString limit state j c) := by
  have hconcat := depth_le_concat hdepth c
  unfold stepString
  repeat' split
  · exact reads_map_step hdepth nofun (Nat.zero_le _)
  · exact ⟨nofun, hconcat⟩
  · trivial
  · exact ⟨nofun, hconcat⟩

theorem reads_stepEscape (j : JsonString) : Reads limit (s ++ [c]) (stepEscape state j c) := by
  have hconcat := depth_le_concat hdepth c
  unfold stepEscape
  repeat' split
  · exact ⟨nofun, hconcat⟩
  · exact ⟨nofun, hconcat⟩
  · trivial

end Step

theorem pushUnit_ne (j : JsonString) (unit : Nat) (w : List Char) :
    pushUnit j unit ≠ .inWord w := by
  unfold pushUnit
  split <;> simp

theorem pushAfterHigh_ne (j : JsonString) (high unit : Nat) (w : List Char) :
    pushAfterHigh j high unit ≠ .inWord w := by
  unfold pushAfterHigh
  split
  · simp
  · exact pushUnit_ne _ _ w

/-- One more character. -/
theorem reads_step (hp : Reads limit s (.ok p)) (c : Char) :
    Reads limit (s ++ [c]) (p.step limit c) := by
  obtain ⟨hword, hdepth⟩ := hp
  have hconcat := depth_le_concat hdepth c
  unfold step
  split
  case h_2 w hmode =>
    have hw := hword w hmode
    split
    · -- the word goes on
      obtain ⟨front, rfl⟩ := hw
      refine ⟨fun w' hw' => ?_, hconcat⟩
      obtain rfl : c :: w = w' := by simpa using hw'
      exact ⟨front, by simp⟩
    · -- the word ends, and is the only place where a number is read
      split
      · next state' hstep =>
        exact reads_stepBetween (Nat.le_trans (State.depth_of_step_word hstep) hdepth) c
      · next e hstep =>
        exact (State.shows_of_step_word hstep hw.isInfix hdepth).mono
          (List.prefix_append s [c]).isInfix
  · exact reads_stepBetween hdepth c
  · exact reads_stepString hdepth c _
  · exact reads_stepEscape hdepth c _
  all_goals
    repeat' split
    all_goals first
      | exact reads_stepString hdepth c _
      | exact reads_stepEscape hdepth c _
      | exact trivial
      | exact ⟨by simp [pushUnit_ne, pushAfterHigh_ne], hconcat⟩

/-- The characters of a text, one after the other. -/
theorem reads_foldlM (hp : Reads limit s (.ok p)) (t : List Char) :
    Reads limit (s ++ t) (t.foldlM (step limit) p) := by
  induction t generalizing s p with
  | nil =>
    rw [List.append_nil]
    exact hp
  | cons c t ih =>
    have hstep := reads_step hp c
    rw [List.append_cons, List.foldlM_cons]
    rcases hc : p.step limit c with e | p'
    · rw [hc] at hstep
      exact Shows.mono hstep (List.prefix_append _ t).isInfix
    · rw [hc] at hstep
      exact ih hstep

theorem shows_of_finish (hp : Reads limit s (.ok p)) (h : p.finish limit = .error e) :
    Shows limit s e := by
  unfold finish at h
  split at h
  · rw [State.finish_eq_malformed h]
    trivial
  · next w hmode =>
    split at h
    · rw [State.finish_eq_malformed h]
      trivial
    · next e' hstep =>
      cases h
      exact State.shows_of_step_word hstep (hp.1 w hmode).isInfix hp.2
  · cases h
    trivial

end Progress

/-- What a text is refused for is to be seen in it. -/
theorem shows_of_read (h : read limit s = .error e) : Shows limit s e := by
  have hstart : Progress.Reads limit [] (.ok {}) := ⟨nofun, Nat.le_refl 0⟩
  have hrun := Progress.reads_foldlM hstart s
  rw [List.nil_append] at hrun
  unfold read at h
  split at h
  · next p hp =>
    rw [hp] at hrun
    exact Progress.shows_of_finish hrun h
  · next e' he =>
    rw [he] at hrun
    cases h
    exact hrun

end Unreferenced.Json
