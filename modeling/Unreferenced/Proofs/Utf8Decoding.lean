/-
Unreferenced/Proofs/Utf8Decoding.lean

Strict decoding against the encoding of strings.

The bytes of a character are described by their numbers, one statement for each
length.  From these a step of decoding reads a character exactly if its bytes
come next, and so strict decoding accepts the bytes of strings and nothing else.
-/
import Unreferenced.Text.Utf8

namespace Unreferenced.Text.Utf8

variable {b d e f : UInt8} {c : Char}

/-! ### Bytes and characters as numbers -/

theorem isTail_iff : isTail b = true ↔ 128 ≤ b.toNat ∧ b.toNat < 192 := by
  simp only [isTail, Bool.and_eq_true, decide_eq_true_eq, UInt8.le_iff_toNat_le, UInt8.reduceToNat]
  omega

theorem isSecond_iff :
    isSecond b d = true ↔ (128 ≤ d.toNat ∧ d.toNat < 192) ∧ (b.toNat = 224 → 160 ≤ d.toNat) ∧
      (b.toNat = 237 → d.toNat < 160) ∧ (b.toNat = 240 → 144 ≤ d.toNat) ∧
      (b.toNat = 244 → d.toNat < 144) := by
  simp only [isSecond, Bool.and_eq_true, isTail_iff, ← UInt8.toNat_inj, UInt8.reduceToNat]
  refine and_congr_right fun _ => ?_
  repeat' split
  all_goals
    simp only [decide_eq_true_eq, UInt8.le_iff_toNat_le, UInt8.reduceToNat, true_iff]
    omega

theorem toNat_ofNat {n : Nat} (h : n < 0xd800 ∨ 0xdfff < n ∧ n < 0x110000) :
    (Char.ofNat n).toNat = n := by
  rw [Char.ofNat, dif_pos h]
  rfl

theorem toNat_valid (c : Char) : c.toNat < 0xd800 ∨ 0xdfff < c.toNat ∧ c.toNat < 0x110000 :=
  c.valid

theorem ofNat_eq_iff {n : Nat} : UInt8.ofNat n = b ↔ n % 256 = b.toNat := by
  rw [← UInt8.toNat_inj, UInt8.toNat_ofNat']

/-! ### The bytes of a character -/

theorem utf8EncodeChar_eq_one_iff :
    String.utf8EncodeChar c = [b] ↔ b.toNat < 128 ∧ c.toNat = b.toNat := by
  have hb_lt := b.toNat_lt
  have hc : c.val.toNat = c.toNat := rfl
  simp only [String.utf8EncodeChar, hc]
  repeat' split
  all_goals
    simp only [List.cons.injEq, ofNat_eq_iff, reduceCtorEq, and_false, and_true, false_iff]
    omega

theorem utf8EncodeChar_eq_two_iff :
    String.utf8EncodeChar c = [b, d] ↔ 0xc2 ≤ b.toNat ∧ b.toNat < 0xe0 ∧ isTail d = true ∧
      c.toNat = b.toNat % 32 * 64 + payload d := by
  have hb_lt := b.toNat_lt
  have hd_lt := d.toNat_lt
  have hc : c.val.toNat = c.toNat := rfl
  simp only [String.utf8EncodeChar, hc, isTail_iff, payload]
  repeat' split
  all_goals
    simp only [List.cons.injEq, ofNat_eq_iff, reduceCtorEq, and_false, and_true, false_iff]
    omega

theorem utf8EncodeChar_eq_three_iff :
    String.utf8EncodeChar c = [b, d, e] ↔ 0xe0 ≤ b.toNat ∧ b.toNat < 0xf0 ∧ isSecond b d = true ∧
      isTail e = true ∧ c.toNat = b.toNat % 16 * 4096 + payload d * 64 + payload e := by
  have hb_lt := b.toNat_lt
  have hd_lt := d.toNat_lt
  have he_lt := e.toNat_lt
  have hvalid := toNat_valid c
  have hc : c.val.toNat = c.toNat := rfl
  simp only [String.utf8EncodeChar, hc, isSecond_iff, isTail_iff, payload]
  repeat' split
  all_goals
    simp only [List.cons.injEq, ofNat_eq_iff, reduceCtorEq, and_false, and_true, false_iff]
  -- the bytes of the other lengths are ruled out by the number of the character
  · omega
  · omega
  · constructor
    · rintro ⟨hb, hd, he⟩
      refine ⟨?_, ?_, ⟨?_, ?_, ?_, ?_, ?_⟩, ?_, ?_⟩
      all_goals omega
    · rintro ⟨hlow, hhigh, ⟨hd, -⟩, he, hnumber⟩
      refine ⟨?_, ?_, ?_⟩
      all_goals omega
  · omega

theorem utf8EncodeChar_eq_four_iff :
    String.utf8EncodeChar c = [b, d, e, f] ↔ 0xf0 ≤ b.toNat ∧ b.toNat < 0xf5 ∧
      isSecond b d = true ∧ isTail e = true ∧ isTail f = true ∧
      c.toNat = b.toNat % 8 * 262144 + payload d * 4096 + payload e * 64 + payload f := by
  have hb_lt := b.toNat_lt
  have hd_lt := d.toNat_lt
  have he_lt := e.toNat_lt
  have hf_lt := f.toNat_lt
  have hvalid := toNat_valid c
  have hc : c.val.toNat = c.toNat := rfl
  simp only [String.utf8EncodeChar, hc, isSecond_iff, isTail_iff, payload]
  repeat' split
  all_goals
    simp only [List.cons.injEq, ofNat_eq_iff, reduceCtorEq, and_false, and_true, false_iff]
  · omega
  · omega
  · omega
  · constructor
    · rintro ⟨hb, hd, he, hf⟩
      refine ⟨?_, ?_, ⟨?_, ?_, ?_, ?_, ?_⟩, ?_, ?_, ?_⟩
      all_goals omega
    · rintro ⟨hlow, hhigh, ⟨hd, -⟩, he, hf, hnumber⟩
      refine ⟨?_, ?_, ?_, ?_⟩
      all_goals omega

/-- The number of a character that a step has put together from well-formed bytes. -/
theorem eq_ofNat_iff {n : Nat} (h : n < 0xd800 ∨ 0xdfff < n ∧ n < 0x110000) :
    Char.ofNat n = c ↔ c.toNat = n := by
  constructor
  · rintro rfl
    exact toNat_ofNat h
  · rintro rfl
    exact Char.ofNat_toNat c

/-! ### Decoding -/

theorem decodeStep_of_encode {rest r : List UInt8} (h : String.utf8EncodeChar c ++ r = b :: rest) :
    decodeStep b rest = (some c, r) := by
  -- a character has one to four bytes, and the first of them tells how many
  have hlength : (String.utf8EncodeChar c).length ≤ 4 ∧ String.utf8EncodeChar c ≠ [] := by
    refine ⟨?_, String.utf8EncodeChar_ne_nil⟩
    rw [String.length_utf8EncodeChar]
    exact c.utf8Size_le_four
  match hw : String.utf8EncodeChar c, hlength with
  | [b'], _ =>
    obtain ⟨rfl, rfl⟩ : b' = b ∧ r = rest := by simpa [hw] using h
    obtain ⟨hb, hc⟩ := utf8EncodeChar_eq_one_iff.1 hw
    simp [decodeStep, UInt8.lt_iff_toNat_lt, hc ▸ hb, ← hc]
  | [b', d], _ =>
    obtain ⟨rfl, rfl⟩ : b' = b ∧ d :: r = rest := by simpa [hw] using h
    obtain ⟨hlow, hhigh, hd, hc⟩ := utf8EncodeChar_eq_two_iff.1 hw
    have hb : ¬b'.toNat < 128 ∧ ¬b'.toNat < 0xc2 := by omega
    simp [decodeStep, UInt8.lt_iff_toNat_lt, hb, hhigh, hd, ← hc]
  | [b', d, e], _ =>
    obtain ⟨rfl, rfl⟩ : b' = b ∧ d :: e :: r = rest := by simpa [hw] using h
    obtain ⟨hlow, hhigh, hd, he, hc⟩ := utf8EncodeChar_eq_three_iff.1 hw
    have hb : ¬b'.toNat < 128 ∧ ¬b'.toNat < 0xc2 ∧ ¬b'.toNat < 0xe0 := by omega
    simp [decodeStep, UInt8.lt_iff_toNat_lt, hb, hhigh, hd, he, ← hc]
  | [b', d, e, f], _ =>
    obtain ⟨rfl, rfl⟩ : b' = b ∧ d :: e :: f :: r = rest := by simpa [hw] using h
    obtain ⟨hlow, hhigh, hd, he, hf, hc⟩ := utf8EncodeChar_eq_four_iff.1 hw
    have hb : ¬b'.toNat < 128 ∧ ¬b'.toNat < 0xc2 ∧ ¬b'.toNat < 0xe0 ∧ ¬b'.toNat < 0xf0 := by omega
    simp [decodeStep, UInt8.lt_iff_toNat_lt, hb, hhigh, hd, he, hf, ← hc]

theorem encode_of_decodeStep {rest r : List UInt8} (h : decodeStep b rest = (some c, r)) :
    String.utf8EncodeChar c ++ r = b :: rest := by
  unfold decodeStep at h
  simp only [UInt8.lt_iff_toNat_lt, UInt8.reduceToNat] at h
  repeat' split at h
  all_goals simp only [Prod.mk.injEq, Option.some.injEq, reduceCtorEq, false_and] at h
  -- left are the four branches that give a character
  all_goals obtain ⟨hc, rfl⟩ := h
  · rw [eq_ofNat_iff (by omega)] at hc
    rw [utf8EncodeChar_eq_one_iff.2 ⟨‹_›, hc⟩]
    rfl
  · next d r hd =>
    have htail := isTail_iff.1 hd
    rw [eq_ofNat_iff (by unfold payload; omega)] at hc
    rw [utf8EncodeChar_eq_two_iff.2 ⟨by omega, by assumption, hd, hc⟩]
    rfl
  · next d hd _ e _ he =>
    have hsecond := isSecond_iff.1 hd
    have htail := isTail_iff.1 he
    rw [eq_ofNat_iff (by unfold payload; omega)] at hc
    rw [utf8EncodeChar_eq_three_iff.2 ⟨by omega, by assumption, hd, he, hc⟩]
    rfl
  · next d hd _ e he _ f _ hf =>
    have hsecond := isSecond_iff.1 hd
    have htail := isTail_iff.1 he
    rw [eq_ofNat_iff (by unfold payload; omega)] at hc
    rw [utf8EncodeChar_eq_four_iff.2 ⟨by omega, by assumption, hd, he, hf, hc⟩]
    rfl

/-- A step reads a character exactly if its bytes come next. -/
theorem decodeStep_eq_some_iff {rest r : List UInt8} :
    decodeStep b rest = (some c, r) ↔ String.utf8EncodeChar c ++ r = b :: rest :=
  ⟨encode_of_decodeStep, decodeStep_of_encode⟩

theorem decodeStrict?_of_some {rest r : List UInt8} (h : decodeStep b rest = (some c, r)) :
    decodeStrict? (b :: rest) = (decodeStrict? r).map (c :: ·) := by
  rw [decodeStrict?]
  split <;> simp_all

theorem decodeStrict?_of_none {rest r : List UInt8} (h : decodeStep b rest = (none, r)) :
    decodeStrict? (b :: rest) = none := by
  rw [decodeStrict?]
  split <;> simp_all

theorem decodeStrict?_flatMap (cs : List Char) :
    decodeStrict? (cs.flatMap String.utf8EncodeChar) = some cs := by
  induction cs with
  | nil => simp [decodeStrict?]
  | cons c cs ih =>
    rw [List.flatMap_cons]
    rcases hbytes : String.utf8EncodeChar c ++ cs.flatMap String.utf8EncodeChar with - | ⟨b, rest⟩
    · simp [String.utf8EncodeChar_ne_nil] at hbytes
    · rw [decodeStrict?_of_some (decodeStep_eq_some_iff.2 hbytes), ih]
      rfl

theorem flatMap_of_decodeStrict? {bytes : List UInt8} {cs : List Char}
    (h : decodeStrict? bytes = some cs) : cs.flatMap String.utf8EncodeChar = bytes := by
  -- one step takes one character but any number of bytes, so the characters carry the induction
  induction cs generalizing bytes with
  | nil =>
    rcases bytes with - | ⟨b, rest⟩
    · rfl
    · rcases hstep : decodeStep b rest with ⟨- | c, r⟩
      · simp [decodeStrict?_of_none hstep] at h
      · simp [decodeStrict?_of_some hstep] at h
  | cons c cs ih =>
    rcases bytes with - | ⟨b, rest⟩
    · simp [decodeStrict?] at h
    · rcases hstep : decodeStep b rest with ⟨- | c', r⟩
      · simp [decodeStrict?_of_none hstep] at h
      · rw [decodeStrict?_of_some hstep] at h
        obtain ⟨cs', hr, hcons⟩ := Option.map_eq_some_iff.1 h
        obtain ⟨rfl, rfl⟩ := List.cons.inj hcons
        rw [List.flatMap_cons, ih hr]
        exact decodeStep_eq_some_iff.1 hstep

/-! ### Strings -/

theorem toList_loop (bytes : ByteArray) (i : Nat) (r : List UInt8) :
    ByteArray.toList.loop bytes i r = r.reverse ++ bytes.data.toList.drop i := by
  fun_induction ByteArray.toList.loop bytes i r with
  | case1 i r hi ih =>
    have hsize : i < bytes.data.size := hi
    have hget : bytes.get! i = bytes.data[i] := by
      show bytes.data[i]! = bytes.data[i]
      exact getElem!_pos bytes.data i hsize
    rw [ih, List.drop_eq_getElem_cons (l := bytes.data.toList) (i := i) hsize, hget]
    simp
  | case2 i r hi =>
    rw [List.drop_eq_nil_of_le (by simpa using hi), List.append_nil]

/-- The bytes of a string are those of its characters. -/
theorem encode_eq_flatMap (s : String) : encode s = s.toList.flatMap String.utf8EncodeChar := by
  rw [encode, ByteArray.toList, toList_loop, String.toUTF8_eq_toByteArray, ← String.utf8Encode_toList,
    List.utf8Encode, List.toList_data_toByteArray]
  rfl

/-- **Strict decoding inverts encoding**: it accepts the bytes of strings and no others. -/
theorem decodeStrict?_eq_some_iff {bytes : List UInt8} {cs : List Char} :
    decodeStrict? bytes = some cs ↔ encode (String.ofList cs) = bytes := by
  rw [encode_eq_flatMap, String.toList_ofList]
  constructor
  · exact flatMap_of_decodeStrict?
  · rintro rfl
    exact decodeStrict?_flatMap cs

@[simp] theorem decodeStrict?_encode (s : String) : decodeStrict? (encode s) = some s.toList := by
  rw [decodeStrict?_eq_some_iff, String.ofList_toList]

theorem decodeStrict?_eq_none_iff {bytes : List UInt8} :
    decodeStrict? bytes = none ↔ ∀ s, encode s ≠ bytes := by
  constructor
  · rintro h s rfl
    simp at h
  · intro h
    rw [Option.eq_none_iff_forall_ne_some]
    intro cs hcs
    exact h _ (decodeStrict?_eq_some_iff.1 hcs)

end Unreferenced.Text.Utf8
