/-
Unreferenced/Proofs/QualifierSpelling.lean

What a qualifier is taken to name, whatever template arguments follow the name.

The text of a qualifier is brought to its canonical spelling, and what stands
before the first `<` is looked up.  An identifier survives every step of the
way, with all that follows it (`dropElaborators_append`, `collapse_append`,
`trim_append`, `dropBlanksAfterTight_append`), and blanks before the `<` are
gone at the end.  So a qualifier that is spelled as an identifier, with or
without arguments, names just this identifier (`Spells.before_typeName`), and a
path spelled in this way from the global scope leads to the class registered
there (`qualifierScopes_of_spellsPath`).
-/
import Mathlib.Data.List.Forall2
import Unreferenced.Proofs.QualifiedScope
import Unreferenced.Proofs.SymbolDecoding

namespace Unreferenced

open Text

namespace Spelling

/-! ### Characters of words -/

/-- The code points of all blanks. -/
def blankCodes : List Nat :=
  List.range' 0x09 5 ++ List.range' 0x1c 5 ++ [0x85, 0xa0, 0x1680] ++ List.range' 0x2000 11 ++
    [0x2028, 0x2029, 0x202f, 0x205f, 0x3000]

theorem toNat_mem_blankCodes {c : Char} (h : isBlank c = true) : c.toNat ∈ blankCodes := by
  simp only [isBlank, Bool.or_eq_true, Bool.and_eq_true, decide_eq_true_eq, beq_iff_eq] at h
  simp only [blankCodes, List.mem_append, List.mem_range'_1, List.mem_cons, List.not_mem_nil,
    or_false]
  omega

/-- No blank is part of a word. -/
theorem isBlank_of_isWord {c : Char} (h : isWord c = true) : isBlank c = false := by
  have hcodes : blankCodes.all (fun n => !isWord (Char.ofNat n)) = true := by decide +kernel
  rw [Bool.eq_false_iff]
  intro hblank
  have hword := List.all_eq_true.1 hcodes c.toNat (toNat_mem_blankCodes hblank)
  rw [Char.ofNat_toNat, h] at hword
  cases hword

theorem isWord_of_isBlank {c : Char} (h : isBlank c = true) : isWord c = false := by
  rw [Bool.eq_false_iff]
  intro hword
  rw [isBlank_of_isWord hword] at h
  cases h

/-- A class of characters without tight ones. -/
theorem isTight_eq_false {p : Char → Bool}
    (hp : ['*', '&', ',', '<', '>', '(', ')', '[', ']'].all (fun d => !p d) = true) {c : Char}
    (h : p c = true) : isTight c = false := by
  rw [Bool.eq_false_iff]
  intro htight
  have hc := List.all_eq_true.1 hp c (List.contains_iff_mem.1 htight)
  rw [h] at hc
  cases hc

theorem isTight_of_isWord {c : Char} (h : isWord c = true) : isTight c = false :=
  isTight_eq_false (by decide +kernel) h

theorem isTight_of_isBlank {c : Char} (h : isBlank c = true) : isTight c = false :=
  isTight_eq_false (by decide +kernel) h

theorem isWord_of_isTight {c : Char} (h : isTight c = true) : isWord c = false := by
  rw [Bool.eq_false_iff]
  intro hword
  rw [isTight_of_isWord hword] at h
  cases h

theorem isBlank_of_isTight {c : Char} (h : isTight c = true) : isBlank c = false := by
  rw [Bool.eq_false_iff]
  intro hblank
  rw [isTight_of_isBlank hblank] at h
  cases h

/-! ### Identifiers -/

/-- An identifier: a word that is no elaborating keyword. -/
structure IsIdentifier (name : String) : Prop where
  ne_nil : name.toList ≠ []
  words : name.toList.all isWord = true
  no_keyword : name.toList ∉ elaborators

instance (name : String) : Decidable (IsIdentifier name) :=
  decidable_of_iff (name.toList ≠ [] ∧ name.toList.all isWord = true ∧ name.toList ∉ elaborators)
    ⟨fun h => ⟨h.1, h.2.1, h.2.2⟩, fun h => ⟨h.ne_nil, h.words, h.no_keyword⟩⟩

namespace IsIdentifier

variable {name : String} (h : IsIdentifier name)
include h

theorem isWord_of_mem {c : Char} (hc : c ∈ name.toList) : isWord c = true :=
  List.all_eq_true.1 h.words c hc

theorem isPlainName : IsPlainName name := by
  refine ⟨?_, List.all_eq_true.2 ?_⟩
  · rintro rfl
    exact h.ne_nil rfl
  · intro c hc
    have hword := h.isWord_of_mem hc
    have hangle : c ≠ '<' := by
      rintro rfl
      exact absurd hword (by decide +kernel)
    rw [isBlank_of_isWord hword, bne_iff_ne.2 hangle]
    rfl

end IsIdentifier

/-! ### Elaborating keywords -/

theorem isWord_of_mem_elaborators {w : List Char} (hw : w ∈ elaborators) {c : Char} (hc : c ∈ w) :
    isWord c = true := by
  have hall : elaborators.all (fun w => w.all isWord) = true := by decide +kernel
  exact List.all_eq_true.1 (List.all_eq_true.1 hall w hw) c hc

theorem ne_nil_of_mem_elaborators {w : List Char} (hw : w ∈ elaborators) : w ≠ [] := by
  have hall : elaborators.all (fun w => !w.isEmpty) = true := by decide +kernel
  rintro rfl
  exact absurd (List.all_eq_true.1 hall [] hw) Bool.false_ne_true

/-- The keyword that a text starts with is the word it starts with. -/
theorem afterElaborator?_eq_none {word rest : List Char} (hword : word.all isWord = true)
    (hrest : rest.head?.all (fun c => !isWord c) = true) (hkeyword : word ∉ elaborators) :
    afterElaborator? (word ++ rest) = none := by
  unfold afterElaborator?
  rw [List.findSome?_eq_none_iff]
  intro w hw
  split
  · next c r hafter =>
    split
    · next hblank =>
      -- the word ends where the keyword ends
      have hcut := cut_unique (p := fun c => !isWord c) (a := word) (b := w) (y := c :: r)
        (fun d hd => by rw [List.all_eq_true.1 hword d hd]; rfl)
        (fun d hd => by rw [isWord_of_mem_elaborators hw hd]; rfl) hrest
        (by
          show (!isWord c) = true
          rw [isWord_of_isBlank hblank]
          rfl)
        (after?_eq_some_iff.1 hafter)
      exact absurd (hcut.1 ▸ hw) hkeyword
    · rfl
  · rfl

/-- Inside a word nothing is dropped. -/
theorem dropElaborators_word {word : List Char} (hword : word.all isWord = true)
    (rest : List Char) :
    dropElaborators true (word ++ rest) = word ++ dropElaborators true rest := by
  induction word with
  | nil => rfl
  | cons c word ih =>
    rw [List.all_cons, Bool.and_eq_true] at hword
    rw [List.cons_append, dropElaborators, if_pos rfl, hword.1, ih hword.2]
    rfl

/-- A word that is no keyword stays. -/
theorem dropElaborators_append {word rest : List Char} (hne : word ≠ [])
    (hword : word.all isWord = true) (hrest : rest.head?.all (fun c => !isWord c) = true)
    (hkeyword : word ∉ elaborators) :
    dropElaborators false (word ++ rest) = word ++ dropElaborators true rest := by
  have hnone := afterElaborator?_eq_none hword hrest hkeyword
  obtain ⟨c, word, rfl⟩ := List.exists_cons_of_ne_nil hne
  rw [List.all_cons, Bool.and_eq_true] at hword
  rw [List.cons_append] at hnone ⊢
  rw [dropElaborators, if_neg Bool.false_ne_true]
  split
  · next hsome =>
    rw [hnone] at hsome
    cases hsome
  · rw [hword.1, dropElaborators_word hword.2]
    rfl

/-- Outside of words nothing is dropped either, up to the next word. -/
theorem dropElaborators_cons {c : Char} (hc : isWord c = false) (afterWord : Bool)
    (rest : List Char) :
    dropElaborators afterWord (c :: rest) = c :: dropElaborators false rest := by
  have hnone : afterElaborator? ([] ++ c :: rest) = none :=
    afterElaborator?_eq_none rfl (by show (!isWord c) = true; rw [hc]; rfl)
      fun hnil => ne_nil_of_mem_elaborators hnil rfl
  rw [List.nil_append] at hnone
  rw [dropElaborators]
  split
  · rw [hc]
  · split
    · next hsome =>
      rw [hnone] at hsome
      cases hsome
    · rw [hc]

theorem dropElaborators_blanks {blanks : List Char} (hblanks : blanks.all isBlank = true)
    (afterWord : Bool) (rest : List Char) :
    ∃ rest', dropElaborators afterWord (blanks ++ '<' :: rest) = blanks ++ '<' :: rest' := by
  induction blanks generalizing afterWord with
  | nil =>
    refine ⟨dropElaborators false rest, ?_⟩
    rw [List.nil_append, dropElaborators_cons (by decide +kernel)]
    rfl
  | cons c blanks ih =>
    rw [List.all_cons, Bool.and_eq_true] at hblanks
    obtain ⟨rest', hrest'⟩ := ih hblanks.2 false
    refine ⟨rest', ?_⟩
    rw [List.cons_append, dropElaborators_cons (isWord_of_isBlank hblanks.1), hrest']
    rfl

/-! ### Spacing -/

theorem collapse_append {word : List Char} (hword : word.all isWord = true) (rest : List Char) :
    collapse (word ++ rest) = word ++ collapse rest := by
  induction word with
  | nil => rfl
  | cons c word ih =>
    rw [List.all_cons, Bool.and_eq_true] at hword
    rw [List.cons_append, collapse, if_neg (by simp [isBlank_of_isWord hword.1]), ih hword.2]
    rfl

/-- Blanks in front of a `<` become one or none. -/
theorem collapse_blanks {blanks : List Char} (hblanks : blanks.all isBlank = true)
    (rest : List Char) :
    ∃ space, space.all isBlank = true ∧ collapse (blanks ++ '<' :: rest) =
      space ++ '<' :: collapse rest := by
  induction blanks with
  | nil => exact ⟨[], rfl, rfl⟩
  | cons c blanks ih =>
    rw [List.all_cons, Bool.and_eq_true] at hblanks
    obtain ⟨space, hspace, hcollapse⟩ := ih hblanks.2
    rw [List.cons_append, collapse, if_pos hblanks.1, hcollapse]
    split
    · next t ht => exact ⟨space, hspace, ht.symm⟩
    · exact ⟨' ' :: space, by rw [List.all_cons, hspace]; rfl, rfl⟩

/-- Trailing blanks are dropped behind the last character that is none. -/
theorem dropTrailingBlanks_cons {c : Char} (hc : isBlank c = false) (rest : List Char) :
    dropTrailingBlanks (c :: rest) = c :: dropTrailingBlanks rest := by
  rw [dropTrailingBlanks]
  split
  · next hnil => rw [hc, hnil]; rfl
  · rfl

theorem dropTrailingBlanks_append {word : List Char} (hword : word.all isWord = true)
    (rest : List Char) : dropTrailingBlanks (word ++ rest) = word ++ dropTrailingBlanks rest := by
  induction word with
  | nil => rfl
  | cons c word ih =>
    rw [List.all_cons, Bool.and_eq_true] at hword
    rw [List.cons_append, dropTrailingBlanks_cons (isBlank_of_isWord hword.1), ih hword.2]
    rfl

theorem dropTrailingBlanks_split {c : Char} (hc : isBlank c = false) (front rest : List Char) :
    dropTrailingBlanks (front ++ c :: rest) = front ++ c :: dropTrailingBlanks rest := by
  induction front with
  | nil => exact dropTrailingBlanks_cons hc rest
  | cons d front ih =>
    rw [List.cons_append, dropTrailingBlanks, ih]
    rcases front with - | ⟨e, front⟩
    · rfl
    · rfl

theorem trim_append {word : List Char} (hne : word ≠ []) (hword : word.all isWord = true)
    (rest : List Char) : trim (word ++ rest) = word ++ dropTrailingBlanks rest := by
  have hskip : skipBlanks (word ++ rest) = word ++ rest := by
    obtain ⟨c, word, rfl⟩ := List.exists_cons_of_ne_nil hne
    rw [List.all_cons, Bool.and_eq_true] at hword
    rw [List.cons_append, skipBlanks, List.dropWhile_cons_of_neg]
    rw [isBlank_of_isWord hword.1]
    exact Bool.false_ne_true
  rw [trim, hskip, dropTrailingBlanks_append hword]

/-- Words stay as they are where blanks next to tight characters go. -/
theorem dropBlanksAfterTight_append {word : List Char} (hword : word.all isWord = true)
    (afterTight : Bool) (rest : List Char) :
    dropBlanksAfterTight afterTight (word ++ rest) =
      word ++ dropBlanksAfterTight (afterTight && word.isEmpty) rest := by
  induction word generalizing afterTight with
  | nil => rw [List.isEmpty_nil, Bool.and_true]; rfl
  | cons c word ih =>
    rw [List.all_cons, Bool.and_eq_true] at hword
    rw [List.cons_append, dropBlanksAfterTight, isBlank_of_isWord hword.1, Bool.and_false,
      if_neg Bool.false_ne_true, isTight_of_isWord hword.1, ih hword.2]
    rw [Bool.false_and, List.isEmpty_cons, Bool.and_false]
    rfl

/-- Blanks that follow no tight character stay. -/
theorem dropBlanksAfterTight_blanks {space : List Char} (hspace : space.all isBlank = true)
    (rest : List Char) :
    dropBlanksAfterTight false (space ++ rest) = space ++ dropBlanksAfterTight false rest := by
  induction space with
  | nil => rfl
  | cons c space ih =>
    rw [List.all_cons, Bool.and_eq_true] at hspace
    rw [List.cons_append, dropBlanksAfterTight, Bool.false_and, if_neg Bool.false_ne_true,
      isTight_of_isBlank hspace.1, ih hspace.2]
    rfl

/-- Blanks that follow a tight character go. -/
theorem dropBlanksAfterTight_true {space : List Char} (hspace : space.all isBlank = true)
    (rest : List Char) :
    dropBlanksAfterTight true (space ++ rest) = dropBlanksAfterTight true rest := by
  induction space with
  | nil => rfl
  | cons c space ih =>
    rw [List.all_cons, Bool.and_eq_true] at hspace
    rw [List.cons_append, dropBlanksAfterTight, hspace.1, Bool.and_true, if_pos rfl, ih hspace.2]

/-- A tight character always stays, and what follows it stands behind a tight character. -/
theorem dropBlanksAfterTight_split {c : Char} (hc : isTight c = true) (afterTight : Bool)
    (front rest : List Char) :
    dropBlanksAfterTight afterTight (front ++ c :: rest) =
      dropBlanksAfterTight afterTight front ++ c :: dropBlanksAfterTight true rest := by
  induction front generalizing afterTight with
  | nil =>
    have hstays : dropBlanksAfterTight afterTight (c :: rest) =
        c :: dropBlanksAfterTight true rest := by
      rw [dropBlanksAfterTight, isBlank_of_isTight hc, Bool.and_false, if_neg Bool.false_ne_true, hc]
    exact hstays
  | cons d front ih =>
    rw [List.cons_append, dropBlanksAfterTight, dropBlanksAfterTight]
    split
    · exact ih true
    · rw [ih]
      rfl

theorem tighten_word {word : List Char} (hword : word.all isWord = true) : tighten word = word := by
  have hreverse : word.reverse.all isWord = true := by rw [List.all_reverse]; exact hword
  have hfront := dropBlanksAfterTight_append hword false []
  have hback := dropBlanksAfterTight_append hreverse false []
  rw [List.append_nil] at hfront hback
  unfold tighten
  rw [hfront, dropBlanksAfterTight, List.append_nil, hback, dropBlanksAfterTight, List.append_nil,
    List.reverse_reverse]

/-- The blanks between a word and a `<` go. -/
theorem tighten_append {word space : List Char} (hword : word.all isWord = true)
    (hspace : space.all isBlank = true) (rest : List Char) :
    ∃ rest', tighten (word ++ (space ++ '<' :: rest)) = word ++ '<' :: rest' := by
  have hreverse : word.reverse.all isWord = true := by rw [List.all_reverse]; exact hword
  have hspace' : space.reverse.all isBlank = true := by rw [List.all_reverse]; exact hspace
  have hback := dropBlanksAfterTight_append hreverse true []
  unfold tighten
  rw [dropBlanksAfterTight_append hword, Bool.false_and, dropBlanksAfterTight_blanks hspace]
  -- the second pass comes from behind, over the `<`, the blanks and the word
  obtain ⟨rest', hrest'⟩ : ∃ rest', dropBlanksAfterTight false ('<' :: rest) = '<' :: rest' :=
    ⟨_, dropBlanksAfterTight_split (by decide) false [] rest⟩
  rw [hrest', List.reverse_append, List.reverse_append, List.reverse_cons, List.append_assoc,
    List.append_assoc, List.singleton_append, dropBlanksAfterTight_split (by decide),
    dropBlanksAfterTight_true hspace', ← List.append_nil word.reverse, hback]
  refine ⟨(dropBlanksAfterTight false rest'.reverse).reverse, ?_⟩
  rw [dropBlanksAfterTight, List.append_nil]
  simp

/-! ### Qualifiers -/

/-- The spellings of a qualifier: the name of a scope, with template arguments after it or
without. -/
inductive Spells (name : String) : String → Prop where
  | bare : Spells name name
  | withArguments (blanks arguments : List Char) (hblanks : blanks.all isBlank = true) :
      Spells name (String.ofList (name.toList ++ (blanks ++ '<' :: arguments)))

theorem canonicalType_word {name : String} (h : IsIdentifier name) :
    canonicalType name.toList = name.toList := by
  have hdrop : dropElaborators false (name.toList ++ []) = _ :=
    dropElaborators_append h.ne_nil h.words rfl h.no_keyword
  have hcollapse := collapse_append h.words []
  have htrim := trim_append h.ne_nil h.words []
  rw [List.append_nil] at hdrop hcollapse htrim
  rw [canonicalType, hdrop, dropElaborators, List.append_nil, hcollapse, collapse, List.append_nil,
    htrim, dropTrailingBlanks, List.append_nil, tighten_word h.words]

theorem canonicalType_arguments {name : String} (h : IsIdentifier name) {blanks : List Char}
    (hblanks : blanks.all isBlank = true) (arguments : List Char) :
    ∃ rest, canonicalType (name.toList ++ (blanks ++ '<' :: arguments)) =
      name.toList ++ '<' :: rest := by
  have hhead : (blanks ++ '<' :: arguments).head?.all (fun c => !isWord c) = true := by
    rcases blanks with - | ⟨c, blanks⟩
    · show (!isWord '<') = true
      decide +kernel
    · rw [List.all_cons, Bool.and_eq_true] at hblanks
      show (!isWord c) = true
      rw [isWord_of_isBlank hblanks.1]
      rfl
  obtain ⟨first, hfirst⟩ := dropElaborators_blanks hblanks true arguments
  obtain ⟨space, hspace, hcollapse⟩ := collapse_blanks hblanks first
  obtain ⟨rest, hrest⟩ := tighten_append h.words hspace (dropTrailingBlanks (collapse first))
  refine ⟨rest, ?_⟩
  rw [canonicalType, dropElaborators_append h.ne_nil h.words hhead h.no_keyword, hfirst,
    collapse_append h.words, hcollapse, trim_append h.ne_nil h.words,
    dropTrailingBlanks_split (by decide), hrest]

/-- A qualifier names the identifier it is spelled with. -/
theorem Spells.before_typeName {name text : String} (h : IsIdentifier name) (ht : Spells name text) :
    before '<' (typeName text) = name := by
  cases ht with
  | bare => rw [typeName, canonicalType_word h, String.ofList_toList, h.isPlainName.before_eq]
  | withArguments blanks arguments hblanks =>
    obtain ⟨rest, hrest⟩ := canonicalType_arguments h hblanks arguments
    have htake : (name.toList ++ '<' :: rest).takeWhile (· != '<') = name.toList := by
      rw [List.takeWhile_append_of_pos, List.takeWhile_cons_of_neg, List.append_nil]
      · decide
      · intro c hc
        exact bne_iff_ne.2 (h.isPlainName.of_mem hc).1
    rw [typeName, String.toList_ofList, hrest, before, String.toList_ofList, htake,
      String.ofList_toList]

/-- The qualifiers that spell a path, with a double colon in front of them or without. -/
inductive SpellsPath (path : List String) : List String → Prop where
  | relative {texts : List String} (h : List.Forall₂ Spells path texts) : SpellsPath path texts
  | absolute {texts : List String} (h : List.Forall₂ Spells path texts) :
      SpellsPath path ("" :: texts)

theorem SpellsPath.ne_nil {path texts : List String} (h : SpellsPath path texts)
    (hne : path ≠ []) : texts ≠ [] := by
  cases h with
  | relative h =>
    rintro rfl
    exact hne (List.forall₂_nil_right_iff.1 h)
  | absolute _ => exact List.cons_ne_nil _ _

end Spelling

theorem ClassType.name_mem_path (c : ClassType) : c.name ∈ c.path :=
  List.mem_append_right _ List.mem_cons_self

theorem ClassType.path_ne_nil (c : ClassType) : c.path ≠ [] :=
  List.ne_nil_of_mem c.name_mem_path

namespace Registry

open Spelling

/-- Qualifiers count only as far as their names go. -/
theorem qualifierStep_spells (r : Registry) (enclosing : List String)
    (reached : List ScopeSegment × List String) {name text : String} (h : IsIdentifier name)
    (ht : Spells name text) :
    r.qualifierStep enclosing reached (typeName text) = r.qualifierStep enclosing reached name := by
  unfold qualifierStep
  rw [ht.before_typeName h, h.isPlainName.before_eq]

theorem foldl_qualifierStep_spells (r : Registry) (enclosing : List String) {path texts : List String}
    (hpath : ∀ name ∈ path, IsIdentifier name) (h : List.Forall₂ Spells path texts)
    (reached : List ScopeSegment × List String) :
    (texts.map typeName).foldl (r.qualifierStep enclosing) reached =
      path.foldl (r.qualifierStep enclosing) reached := by
  induction h generalizing reached with
  | nil => rfl
  | cons hname _ ih =>
    obtain ⟨hfirst, hrest⟩ := List.forall_mem_cons.1 hpath
    rw [List.map_cons, List.foldl_cons, List.foldl_cons,
      r.qualifierStep_spells enclosing reached hfirst hname]
    exact ih hrest _

/-- Seen from the global scope, the path of a class leads to the scopes of the class. -/
theorem foldl_qualifierStep_path {r : Registry} {c : ClassType} (hc : r.get? c.path = some c)
    (hpath : ∀ name ∈ c.path, IsIdentifier name) :
    (c.path.foldl (r.qualifierStep []) ([], [])).1 = c.segments := by
  obtain ⟨first, rest, hcons⟩ : ∃ first rest, c.path = first :: rest :=
    List.exists_cons_of_ne_nil c.path_ne_nil
  rw [hcons] at hpath hc ⊢
  obtain ⟨outer, hreached, hiff⟩ := exists_reached (r := r)
    (fun q hq => (hpath q hq).isPlainName) []
  -- around the global scope there is nothing to look in
  have houter : outer = [] := by
    refine hiff.2 fun inner hne hinner => ?_
    exact absurd (List.prefix_nil.1 hinner) hne
  subst houter
  exact hreached.segments c hc

/-- Seen from the global scope, the qualifiers that spell the path of a class stand for the scopes of
the class. -/
theorem qualifierScopes_of_spellsPath {r : Registry} {c : ClassType} (hc : r.get? c.path = some c)
    (hpath : ∀ name ∈ c.path, IsIdentifier name) {texts : List String}
    (h : SpellsPath c.path texts) :
    r.qualifierScopes [] (texts.map typeName) = c.segments := by
  have hscopes := foldl_qualifierStep_path hc hpath
  unfold qualifierScopes
  cases h with
  | relative h => rw [r.foldl_qualifierStep_spells [] hpath h, hscopes]
  | absolute h =>
    have hname : String.ofList (trim (before '<' (typeName "")).toList) = "" := by decide +kernel
    have hlead : r.qualifierStep [] ([], []) (typeName "") = ([], []) := by
      rw [qualifierStep, hname]
      exact if_pos rfl
    rw [List.map_cons, List.foldl_cons, hlead, r.foldl_qualifierStep_spells [] hpath h, hscopes]

end Registry

namespace ClassType

open Spelling

theorem exists_last_spells {c : ClassType} {texts : List String}
    (h : List.Forall₂ Spells c.path texts) :
    ∃ front text, texts = front ++ [text] ∧ Spells c.name text := by
  have hreverse := List.forall₂_reverse_iff.2 h
  rw [path, List.reverse_append, List.reverse_singleton, List.singleton_append] at hreverse
  obtain ⟨text, rest, htext, -, hcons⟩ := List.forall₂_cons_left_iff.1 hreverse
  refine ⟨rest.reverse, text, ?_, htext⟩
  rw [← List.reverse_reverse texts, hcons, List.reverse_cons]

/-- The last of the qualifiers names the class. -/
theorem before_getLastD_typeName {c : ClassType} (hpath : ∀ name ∈ c.path, IsIdentifier name)
    {texts : List String} (h : SpellsPath c.path texts) :
    before '<' ((texts.map typeName).getLastD "") = c.name := by
  obtain ⟨front, text, rfl, htext⟩ : ∃ front text, texts = front ++ [text] ∧
      Spells c.name text := by
    cases h with
    | relative h => exact exists_last_spells h
    | absolute h =>
      obtain ⟨front, text, rfl, htext⟩ := exists_last_spells h
      exact ⟨"" :: front, text, rfl, htext⟩
  rw [List.map_append, List.map_singleton, List.getLastD_concat,
    htext.before_typeName (hpath _ c.name_mem_path)]

end ClassType

end Unreferenced
