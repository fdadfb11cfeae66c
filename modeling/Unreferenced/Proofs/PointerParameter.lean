/-
Unreferenced/Proofs/PointerParameter.lean

Which qualifiers of a pointer parameter are part of its type.

The declarator of `char *const *volatile p` is a chain of pointers around the
name.  The outermost one is written next to the type and has `const`; the one
next to the name has `volatile`.  The type of a parameter leaves out the
qualifiers of the outermost pointer and keeps all others
(`parameterType_pointers`).  Where there are two pointers or more, these
are not the qualifiers of the parameter itself, which stand next to the name.

A star is a tight character, and the canonical spelling of a type can be computed
piece by piece between tight characters (`canonicalType_split`,
`afterTight_split`).  Words survive it, and since they have neither blanks nor
stars in them, they are found again in the result (`tightStars_injective`).
-/
import Unreferenced.Proofs.QualifierSpelling
import Unreferenced.Proofs.Unplaced

namespace Unreferenced

open Text

namespace Spelling

/-! ### Spellings cut at a tight character -/

section Split

variable {c : Char} (hc : isTight c = true)
include hc

theorem after?_split {word : List Char} (hword : ∀ d ∈ word, isWord d = true) (s rest : List Char) :
    after? word (s ++ c :: rest) = (after? word s).map (· ++ c :: rest) := by
  induction word generalizing s with
  | nil => rfl
  | cons d word ih =>
    obtain ⟨hd, hword⟩ := List.forall_mem_cons.1 hword
    rcases s with - | ⟨e, s⟩
    · -- a word does not go on with the tight character
      have hne : d ≠ c := by
        rintro rfl
        rw [isWord_of_isTight hc] at hd
        cases hd
      simp [after?, hne]
    · rw [List.cons_append, after?, after?]
      split
      · exact ih hword s
      · rfl

theorem skipBlanks_split (front rest : List Char) :
    skipBlanks (front ++ c :: rest) = skipBlanks front ++ c :: rest := by
  have hstays : (c :: rest).dropWhile isBlank = c :: rest := by
    rw [List.dropWhile_cons_of_neg]
    simp [isBlank_of_isTight hc]
  unfold skipBlanks
  rw [List.dropWhile_append, hstays]
  split
  · next hempty => rw [List.isEmpty_iff.1 hempty, List.nil_append]
  · rfl

theorem afterElaborator?_split (s rest : List Char) :
    afterElaborator? (s ++ c :: rest) = (afterElaborator? s).map (· ++ c :: rest) := by
  unfold afterElaborator?
  rw [List.map_findSome?, ← List.head?_filterMap, ← List.head?_filterMap]
  refine congrArg List.head? (List.filterMap_congr fun w hw => ?_)
  rw [after?_split hc (fun d hd => isWord_of_mem_elaborators hw hd)]
  rw [Function.comp_apply]
  generalize after? w s = found
  rcases found with - | ⟨- | ⟨d, r⟩⟩
  · rfl
  · simp [isBlank_of_isTight hc]
  · simp only [Option.map_some, List.cons_append]
    split
    · rw [skipBlanks_split hc]
      rfl
    · rfl

theorem dropElaborators_split (afterWord : Bool) (front rest : List Char) :
    dropElaborators afterWord (front ++ c :: rest) =
      dropElaborators afterWord front ++ c :: dropElaborators false rest := by
  fun_induction dropElaborators afterWord front with
  | case1 afterWord => exact dropElaborators_cons (isWord_of_isTight hc) afterWord rest
  | case2 d front ih =>
    rw [List.cons_append, dropElaborators, if_pos rfl, ih]
    rfl
  | case3 afterWord d front hafter r hr ih =>
    have hsplit := afterElaborator?_split hc (d :: front) rest
    rw [hr, Option.map_some, List.cons_append] at hsplit
    rw [List.cons_append, dropElaborators, if_neg hafter]
    split
    · next heq =>
      rw [hsplit] at heq
      cases heq
      exact ih
    · next heq =>
      rw [hsplit] at heq
      cases heq
  | case4 afterWord d front hafter hnone ih =>
    have hsplit := afterElaborator?_split hc (d :: front) rest
    rw [hnone, Option.map_none, List.cons_append] at hsplit
    rw [List.cons_append, dropElaborators, if_neg hafter]
    split
    · next heq =>
      rw [hsplit] at heq
      cases heq
    · rw [ih]
      rfl

theorem collapse_split (front rest : List Char) :
    collapse (front ++ c :: rest) = collapse front ++ c :: collapse rest := by
  induction front with
  | nil => simp [collapse, isBlank_of_isTight hc]
  | cons d front ih =>
    rw [List.cons_append, collapse, collapse, ih]
    split
    · rcases collapse front with - | ⟨e, t⟩
      · -- the blank stands right before the tight character, which is no space
        have hne : c ≠ ' ' := by
          rintro rfl
          exact absurd (isBlank_of_isTight hc) (by decide)
        simp [hne]
      · simp only [List.cons_append]
        split
        · next heq =>
          obtain ⟨rfl, rfl⟩ := List.cons.inj heq
          rfl
        · next hne =>
          split
          · next heq =>
            obtain ⟨rfl, rfl⟩ := List.cons.inj heq
            exact absurd rfl (hne _)
          · rfl
    · rfl

end Split

/-! ### Pieces between tight characters -/

/-- The text without the blanks next to a tight character, where `before` and `after` tell whether one
stands right before it and right after it. -/
def tightenBetween (before after : Bool) (s : List Char) : List Char :=
  (dropBlanksAfterTight after (dropBlanksAfterTight before s).reverse).reverse

theorem tightenBetween_split {c : Char} (hc : isTight c = true) (before after : Bool)
    (front rest : List Char) :
    tightenBetween before after (front ++ c :: rest) =
      tightenBetween before true front ++ c :: tightenBetween true after rest := by
  unfold tightenBetween
  rw [dropBlanksAfterTight_split hc, List.reverse_append, List.reverse_cons, List.append_assoc,
    List.singleton_append, dropBlanksAfterTight_split hc, List.reverse_append, List.reverse_cons,
    List.append_assoc, List.singleton_append]

/-- What the canonical spelling makes of a text before a tight character. -/
def beforeTight (s : List Char) : List Char :=
  tightenBetween false true (skipBlanks (collapse (dropElaborators false s)))

/-- What the canonical spelling makes of a text between two tight characters. -/
def betweenTight (s : List Char) : List Char :=
  tightenBetween true true (collapse (dropElaborators false s))

/-- What the canonical spelling makes of a text after a tight character. -/
def afterTight (s : List Char) : List Char :=
  tightenBetween true false (dropTrailingBlanks (collapse (dropElaborators false s)))

theorem canonicalType_split {c : Char} (hc : isTight c = true) (front rest : List Char) :
    canonicalType (front ++ c :: rest) = beforeTight front ++ c :: afterTight rest := by
  show tightenBetween false false (trim (collapse (dropElaborators false (front ++ c :: rest)))) = _
  rw [dropElaborators_split hc, collapse_split hc, trim, skipBlanks_split hc,
    dropTrailingBlanks_split (isBlank_of_isTight hc), tightenBetween_split hc]
  rfl

theorem afterTight_split {c : Char} (hc : isTight c = true) (front rest : List Char) :
    afterTight (front ++ c :: rest) = betweenTight front ++ c :: afterTight rest := by
  unfold afterTight
  rw [dropElaborators_split hc, collapse_split hc, dropTrailingBlanks_split (isBlank_of_isTight hc),
    tightenBetween_split hc]
  rfl

/-! ### Words -/

/-- Words, with a space before each of them. -/
def spaced (words : List String) : List Char :=
  words.flatMap fun w => ' ' :: w.toList

theorem spaced_cons (w : String) (words : List String) :
    spaced (w :: words) = ' ' :: (w.toList ++ spaced words) :=
  rfl

theorem head?_spaced (words : List String) : (spaced words).head?.all (· == ' ') = true := by
  cases words with
  | nil => rfl
  | cons w words => rfl

section Words

variable {words : List String} (hwords : ∀ w ∈ words, IsIdentifier w)
include hwords

theorem isTight_of_mem_spaced {c : Char} (hc : c ∈ spaced words) : isTight c = false := by
  obtain ⟨w, hw, hc⟩ := List.mem_flatMap.1 hc
  rcases List.mem_cons.1 hc with rfl | hc
  · decide
  · exact isTight_of_isWord ((hwords w hw).isWord_of_mem hc)

theorem dropElaborators_spaced (afterWord : Bool) :
    dropElaborators afterWord (spaced words) = spaced words := by
  induction words generalizing afterWord with
  | nil => simp [spaced, dropElaborators]
  | cons w words ih =>
    obtain ⟨hw, hwords⟩ := List.forall_mem_cons.1 hwords
    have hhead : (spaced words).head?.all (fun c => !isWord c) = true := by
      rcases words with - | ⟨v, words⟩
      · rfl
      · show (!isWord ' ') = true
        decide +kernel
    rw [spaced_cons, dropElaborators_cons (by decide +kernel),
      dropElaborators_append hw.ne_nil hw.words hhead hw.no_keyword, ih hwords]

theorem collapse_spaced : collapse (spaced words) = spaced words := by
  induction words with
  | nil => rfl
  | cons w words ih =>
    obtain ⟨hw, hwords⟩ := List.forall_mem_cons.1 hwords
    rw [spaced_cons, collapse, if_pos (by decide), collapse_append hw.words, ih hwords]
    split
    · next t heq =>
      -- the word would start with a space
      obtain ⟨c, word, hcons⟩ := List.exists_cons_of_ne_nil hw.ne_nil
      rw [hcons, List.cons_append] at heq
      have hc : isWord c = true := hw.isWord_of_mem (hcons ▸ List.mem_cons_self)
      rw [(List.cons.inj heq).1] at hc
      exact absurd hc (by decide +kernel)
    · rfl

/-- A list of words ends in a word. -/
theorem exists_last_spaced (hne : words ≠ []) :
    ∃ front c, spaced words = ' ' :: (front ++ [c]) ∧ isBlank c = false := by
  induction words with
  | nil => exact absurd rfl hne
  | cons w words ih =>
    obtain ⟨hw, hwords⟩ := List.forall_mem_cons.1 hwords
    rw [spaced_cons]
    rcases words with - | ⟨v, words⟩
    · obtain ⟨front, c, hlast⟩ := (List.eq_nil_or_concat w.toList).resolve_left hw.ne_nil
      have hc : c ∈ w.toList := by simp [hlast]
      exact ⟨front, c, by simp [hlast, spaced], isBlank_of_isWord (hw.isWord_of_mem hc)⟩
    · obtain ⟨front, c, hlast, hc⟩ := ih hwords (List.cons_ne_nil v words)
      exact ⟨w.toList ++ ' ' :: front, c, by simp [hlast], hc⟩

theorem dropTrailingBlanks_spaced : dropTrailingBlanks (spaced words) = spaced words := by
  rcases eq_or_ne words [] with rfl | hne
  · rfl
  · obtain ⟨front, c, hlast, hc⟩ := exists_last_spaced hwords hne
    rw [hlast, ← List.cons_append, dropTrailingBlanks_split hc]
    rfl

end Words

/-- A text without tight characters keeps its blanks, but for one before it. -/
theorem dropBlanksAfterTight_of_loose {s : List Char} (hs : ∀ c ∈ s, isTight c = false) :
    dropBlanksAfterTight false s = s := by
  induction s with
  | nil => rfl
  | cons c s ih =>
    obtain ⟨hc, hs⟩ := List.forall_mem_cons.1 hs
    rw [dropBlanksAfterTight, Bool.false_and, if_neg Bool.false_ne_true, hc, ih hs]

theorem dropBlanksAfterTight_cons {c : Char} {s : List Char} (hc : isBlank c = false)
    (hs : ∀ d ∈ c :: s, isTight d = false) (afterTight : Bool) :
    dropBlanksAfterTight afterTight (c :: s) = c :: s := by
  obtain ⟨hloose, hs⟩ := List.forall_mem_cons.1 hs
  rw [dropBlanksAfterTight, hc, Bool.and_false, if_neg Bool.false_ne_true, hloose,
    dropBlanksAfterTight_of_loose hs]

/-- Between tight characters words lose only the first space. -/
theorem tightenBetween_spaced {words : List String} (hwords : ∀ w ∈ words, IsIdentifier w)
    (after : Bool) : tightenBetween true after (spaced words) = (spaced words).tail := by
  rcases words with - | ⟨w, words⟩
  · rfl
  obtain ⟨hw, hrest⟩ := List.forall_mem_cons.1 hwords
  have hloose : ∀ c ∈ w.toList ++ spaced words, isTight c = false := fun c hc =>
    isTight_of_mem_spaced hwords (List.mem_cons_of_mem ' ' hc)
  have hfirst : dropBlanksAfterTight true (spaced (w :: words)) = w.toList ++ spaced words := by
    have hempty : w.toList.isEmpty = false := by simpa using hw.ne_nil
    rw [spaced_cons, dropBlanksAfterTight, isBlank_space, Bool.and_true, if_pos rfl,
      dropBlanksAfterTight_append hw.words, hempty, Bool.and_false,
      dropBlanksAfterTight_of_loose fun c hc => hloose c (List.mem_append_right _ hc)]
  -- from behind, the text starts with a character of a word
  obtain ⟨front, c, hlast, hc⟩ := exists_last_spaced hwords (List.cons_ne_nil w words)
  have htail : w.toList ++ spaced words = front ++ [c] := (List.cons.inj hlast).2
  rw [htail] at hloose hfirst
  have hreverse : (front ++ [c]).reverse = c :: front.reverse := by simp
  have hsecond : dropBlanksAfterTight after (front ++ [c]).reverse = (front ++ [c]).reverse := by
    rw [hreverse]
    refine dropBlanksAfterTight_cons hc (fun d hd => hloose d ?_) after
    rw [← List.mem_reverse, hreverse]
    exact hd
  unfold tightenBetween
  rw [hfirst, hsecond, List.reverse_reverse, hlast]
  rfl

/-- Words are found again between their spaces. -/
theorem spaced_injective {words words' : List String} (hwords : ∀ w ∈ words, IsIdentifier w)
    (hwords' : ∀ w ∈ words', IsIdentifier w) (h : spaced words = spaced words') : words = words' := by
  have hspace : ∀ {w : String}, IsIdentifier w → ∀ c ∈ w.toList, (c == ' ') = false := by
    intro w hw c hc
    rw [beq_eq_false_iff_ne]
    rintro rfl
    exact absurd (hw.isWord_of_mem hc) (by decide +kernel)
  induction words generalizing words' with
  | nil =>
    cases words' with
    | nil => rfl
    | cons w words' => cases h
  | cons w words ih =>
    cases words' with
    | nil => cases h
    | cons w' words' =>
      obtain ⟨hw, hwords⟩ := List.forall_mem_cons.1 hwords
      obtain ⟨hw', hwords'⟩ := List.forall_mem_cons.1 hwords'
      rw [spaced_cons, spaced_cons] at h
      obtain ⟨hword, hrest⟩ := cut_unique (p := (· == ' ')) (hspace hw) (hspace hw')
        (head?_spaced words) (head?_spaced words') (List.cons.inj h).2
      rw [String.toList_inj.1 hword, ih hwords hwords' hrest]

theorem tail_spaced_injective {words words' : List String} (hwords : ∀ w ∈ words, IsIdentifier w)
    (hwords' : ∀ w ∈ words', IsIdentifier w) (h : (spaced words).tail = (spaced words').tail) :
    words = words' := by
  -- a word is not empty, so the space that is gone is there again on both sides or on none
  have hnil : ∀ {words : List String}, (∀ w ∈ words, IsIdentifier w) → (spaced words).tail = [] →
      words = [] := by
    intro words hwords htail
    rcases words with - | ⟨w, words⟩
    · rfl
    · exact absurd (List.append_eq_nil_iff.1 htail).1 (hwords w List.mem_cons_self).ne_nil
  rcases words with - | ⟨w, words⟩
  · exact (hnil hwords' h.symm).symm
  rcases words' with - | ⟨w', words'⟩
  · exact hnil hwords h
  · exact spaced_injective hwords hwords' (congrArg (' ' :: ·) h)

/-! ### Stars with qualifiers -/

/-- Stars, each with its qualifiers after it. -/
def stars (levels : List (List String)) : List Char :=
  levels.flatMap fun qualifiers => '*' :: spaced qualifiers

/-- Stars with their qualifiers and without the spaces next to a star. -/
def tightStars (levels : List (List String)) : List Char :=
  levels.flatMap fun qualifiers => '*' :: (spaced qualifiers).tail

/-- All qualifiers are words. -/
def AreWords (levels : List (List String)) : Prop :=
  ∀ qualifiers ∈ levels, ∀ w ∈ qualifiers, IsIdentifier w

instance (levels : List (List String)) : Decidable (AreWords levels) :=
  inferInstanceAs (Decidable (∀ qualifiers ∈ levels, ∀ w ∈ qualifiers, IsIdentifier w))

theorem afterTight_spaced_stars {qualifiers : List String} {levels : List (List String)}
    (h : AreWords (qualifiers :: levels)) :
    afterTight (spaced qualifiers ++ stars levels) =
      (spaced qualifiers).tail ++ tightStars levels := by
  induction levels generalizing qualifiers with
  | nil =>
    obtain ⟨hwords, -⟩ := List.forall_mem_cons.1 h
    show afterTight (spaced qualifiers ++ []) = (spaced qualifiers).tail ++ []
    rw [List.append_nil, List.append_nil, afterTight, dropElaborators_spaced hwords,
      collapse_spaced hwords, dropTrailingBlanks_spaced hwords, tightenBetween_spaced hwords]
  | cons next levels ih =>
    obtain ⟨hwords, hlevels⟩ := List.forall_mem_cons.1 h
    have hbetween : betweenTight (spaced qualifiers) = (spaced qualifiers).tail := by
      rw [betweenTight, dropElaborators_spaced hwords, collapse_spaced hwords,
        tightenBetween_spaced hwords]
    show afterTight (spaced qualifiers ++ '*' :: (spaced next ++ stars levels)) = _
    rw [afterTight_split (by decide), hbetween, ih hlevels]
    rfl

/-- The canonical spelling of a type with stars. -/
theorem canonicalType_stars (base : List Char) {levels : List (List String)} (h : AreWords levels) :
    canonicalType (base ++ '*' :: stars levels) = beforeTight base ++ '*' :: tightStars levels := by
  have hstars := afterTight_spaced_stars (List.forall_mem_cons.2 ⟨List.forall_mem_nil _, h⟩)
  rw [canonicalType_split (by decide)]
  exact congrArg (fun rest => beforeTight base ++ '*' :: rest) hstars

/-- Qualifiers are found again between the stars. -/
theorem tightStars_injective {levels levels' : List (List String)} (hlevels : AreWords levels)
    (hlevels' : AreWords levels') (h : tightStars levels = tightStars levels') :
    levels = levels' := by
  have hstar : ∀ {words : List String}, (∀ w ∈ words, IsIdentifier w) →
      ∀ c ∈ (spaced words).tail, (c == '*') = false := by
    intro words hwords c hc
    rw [beq_eq_false_iff_ne]
    rintro rfl
    exact absurd (isTight_of_mem_spaced hwords (List.mem_of_mem_tail hc)) (by decide)
  have hhead : ∀ levels : List (List String), (tightStars levels).head?.all (· == '*') = true := by
    intro levels
    cases levels with
    | nil => rfl
    | cons qualifiers levels => rfl
  induction levels generalizing levels' with
  | nil =>
    cases levels' with
    | nil => rfl
    | cons qualifiers' levels' => cases h
  | cons qualifiers levels ih =>
    cases levels' with
    | nil => cases h
    | cons qualifiers' levels' =>
      obtain ⟨hwords, hlevels⟩ := List.forall_mem_cons.1 hlevels
      obtain ⟨hwords', hlevels'⟩ := List.forall_mem_cons.1 hlevels'
      obtain ⟨hqualifiers, hrest⟩ := cut_unique (p := (· == '*')) (hstar hwords) (hstar hwords')
        (hhead levels) (hhead levels') (List.cons.inj h).2
      rw [tail_spaced_injective hwords hwords' hqualifiers, ih hlevels hlevels' hrest]

end Spelling

namespace Node

open Spelling

/-! ### Pointer parameters -/

/-- The declarator is a chain of pointers around a name.  The levels are the qualifiers of the
pointers; those of the outermost one, which is written next to the type, come first, and those of the
one next to the name last. -/
inductive IsPointerChain : Node → List (List String) → Prop
  | name {n : Node} : n.kind = "identifier" → IsPointerChain n []
  | pointer {n c : Node} {levels : List (List String)} : n.kind = "pointer_declarator" →
      n.child? "declarator" = some c → IsPointerChain c levels →
      IsPointerChain n (n.qualifierTexts :: levels)

/-- A parameter with qualifiers before its type, the text of the type, and a chain of pointers. -/
structure IsPointerParameter (p : Node) (qualifiers : List String) (type : String)
    (levels : List (List String)) : Prop where
  qualifiers_eq : p.qualifierTexts = qualifiers
  type_eq : textOf (p.child? "type") = type
  declarator : ∃ d, p.child? "declarator" = some d ∧ IsPointerChain d levels

theorem toList_qualifiers (words : List String) :
    ("".intercalate (words.map (" " ++ ·))).toList = spaced words := by
  rw [String.toList_intercalate]
  induction words with
  | nil => rfl
  | cons w words ih =>
    rw [spaced_cons, ← ih]
    cases words with
    | nil => simp
    | cons v words => simp [List.intercalate]

theorem shape_pointer {n c : Node} (hkind : n.kind = "pointer_declarator")
    (hchild : n.child? "declarator" = some c) (outermost : Bool) :
    (shape outermost n).toList =
      '*' :: ((if outermost then [] else spaced n.qualifierTexts) ++ (shape false c).toList) := by
  have hpointer : n.isOneOf ["pointer_declarator", "abstract_pointer_declarator"] = true := by
    simp [isOneOf, hkind]
  rw [shape_eq, if_pos hpointer, hchild, String.toList_append, String.toList_append]
  cases outermost with
  | true => rfl
  | false =>
    simp only [Bool.false_eq_true, if_false, toList_qualifiers, List.append_assoc]
    rfl

theorem IsPointerChain.toList_shape {n : Node} {levels : List (List String)}
    (h : IsPointerChain n levels) : (shape false n).toList = stars levels := by
  induction h with
  | name hkind =>
    rw [shape_eq]
    simp [isOneOf, hkind, stars]
  | pointer hkind hchild _ ih =>
    rw [shape_pointer hkind hchild, ih]
    rfl

/-- The type of a pointer parameter is spelled with the stars and without the qualifiers of the
outermost pointer. -/
theorem IsPointerParameter.parameterType_eq {p : Node} {qualifiers outer : List String}
    {type : String} {inner : List (List String)}
    (h : IsPointerParameter p qualifiers type (outer :: inner)) :
    p.parameterType = String.ofList (canonicalType
      ((" ".intercalate (qualifiers.mergeSort (· ≤ ·) ++ [type])).toList ++ '*' :: stars inner)) := by
  obtain ⟨d, hd, hchain⟩ := h.declarator
  have hshape : (shape true d).toList = '*' :: stars inner := by
    cases hchain with
    | pointer hkind hchild hinner =>
      rw [shape_pointer hkind hchild, hinner.toList_shape]
      rfl
  have hne : shape true d ≠ "" := by
    intro hempty
    rw [hempty] at hshape
    cases hshape
  rw [Node.parameterType_eq, hd]
  show parameterSpelling p (shape true d) = _
  unfold parameterSpelling
  dsimp only
  rw [if_neg hne, h.qualifiers_eq, h.type_eq, typeName, String.toList_append, hshape]

/-- **The qualifiers in the type of a pointer parameter.**  Take two parameters of the same base type,
each with a chain of one pointer or more around its name.  Whatever the qualifiers of the outermost
pointers are, the parameters have the same type if all other levels have the same qualifiers; and if
all these are words, only then.

So the qualifiers that do not count are those of the pointer written next to the type.  They are those
of the parameter itself if there is just one pointer.  If there are more, then the qualifiers next to
the name count, which are those of the parameter, and those of a pointer that it points to do not. -/
theorem parameterType_pointers {p q : Node} {qualifiers outer outer' : List String} {type : String}
    {inner inner' : List (List String)} (hp : IsPointerParameter p qualifiers type (outer :: inner))
    (hq : IsPointerParameter q qualifiers type (outer' :: inner')) :
    (inner = inner' → p.parameterType = q.parameterType) ∧
      (AreWords (inner ++ inner') → p.parameterType = q.parameterType → inner = inner') := by
  rw [hp.parameterType_eq, hq.parameterType_eq]
  refine ⟨fun h => by rw [h], fun hwords h => ?_⟩
  obtain ⟨hinner, hinner'⟩ := List.forall_mem_append.1 hwords
  have htypes := String.ofList_injective h
  rw [canonicalType_stars _ hinner, canonicalType_stars _ hinner'] at htypes
  have htails := List.append_cancel_left htypes
  exact tightStars_injective hinner hinner' (List.cons.inj htails).2

/-- The parameter `char *o *i p` with some qualifiers for `o` and for `i`. -/
def samplePointers (outer inner : List String) : Node :=
  let node := Context.sampleNode
  let words (l : List String) := l.map fun w => node "type_qualifier" "" w []
  node "parameter_declaration" "" "" [node "primitive_type" "type" "char" [],
    node "pointer_declarator" "declarator" "" (words outer ++
      [node "pointer_declarator" "declarator" "" (words inner ++
        [node "identifier" "declarator" "p" []])])]

/-- `char *const *p` has the type of `char **p`, and `char **const p` has not, although it is the
latter in which the parameter itself is constant. -/
theorem parameterType_pointers_sample :
    IsPointerParameter (samplePointers ["const"] []) [] "char" [["const"], []] ∧
      IsPointerParameter (samplePointers [] []) [] "char" [[], []] ∧
      IsPointerParameter (samplePointers [] ["const"]) [] "char" [[], ["const"]] ∧
      (samplePointers ["const"] []).parameterType = (samplePointers [] []).parameterType ∧
      (samplePointers [] ["const"]).parameterType ≠ (samplePointers [] []).parameterType := by
  have hfar : IsPointerParameter (samplePointers ["const"] []) [] "char" [["const"], []] :=
    ⟨rfl, rfl, _, rfl, .pointer rfl rfl (.pointer rfl rfl (.name rfl))⟩
  have hplain : IsPointerParameter (samplePointers [] []) [] "char" [[], []] :=
    ⟨rfl, rfl, _, rfl, .pointer rfl rfl (.pointer rfl rfl (.name rfl))⟩
  have hnear : IsPointerParameter (samplePointers [] ["const"]) [] "char" [[], ["const"]] :=
    ⟨rfl, rfl, _, rfl, .pointer rfl rfl (.pointer rfl rfl (.name rfl))⟩
  refine ⟨hfar, hplain, hnear, (parameterType_pointers hfar hplain).1 rfl, fun heq => ?_⟩
  have hlevels := (parameterType_pointers hnear hplain).2 (by decide +kernel) heq
  cases hlevels

end Node

end Unreferenced
