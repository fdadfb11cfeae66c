/-
Unreferenced/Proofs/SymbolDecoding.lean

A symbol can be read back: two functions have one symbol only if they agree in
everything the symbol is made of.

A symbol is a text put together from parts of any length, some of them optional.
Each part ends before the first character of some sort: the file and the parts of
a scope before an `@`, a number before what is no digit, a name before `<` or `#`,
a parameter type before `#`.  A text can be cut in one way only before the first
such character (`cut_unique`), so the parts are found again one after the other:
the file, the scope (`scope_unique`), and of the tail the name with its template
data (`tail_unique`).  The parameters and the qualifiers behind them are told
apart by their last piece, which is a number only if there are qualifiers
(`parameterPieces_unique`).
-/
import Unreferenced.Proofs.Symbol

namespace Unreferenced

/-! ### Cutting a text -/

/-- A text is cut in one way only before the first character of a sort. -/
theorem cut_unique {p : Char → Bool} {a b x y : List Char} (ha : ∀ c ∈ a, p c = false)
    (hb : ∀ c ∈ b, p c = false) (hx : x.head?.all p = true) (hy : y.head?.all p = true)
    (h : a ++ x = b ++ y) : a = b ∧ x = y := by
  induction a generalizing b with
  | nil =>
    rcases b with - | ⟨c, b⟩
    · exact ⟨rfl, h⟩
    · -- `x` would have to start with a character of `b`
      have hc : p c = true := by
        rw [show x = c :: (b ++ y) from h] at hx
        exact hx
      rw [hb c List.mem_cons_self] at hc
      cases hc
  | cons c a ih =>
    rcases b with - | ⟨d, b⟩
    · have hc : p c = true := by
        rw [show y = c :: (a ++ x) from h.symm] at hy
        exact hy
      rw [ha c List.mem_cons_self] at hc
      cases hc
    · obtain ⟨rfl, hrest⟩ := List.cons.inj h
      obtain ⟨rfl, rfl⟩ := ih (fun e he => ha e (List.mem_cons_of_mem c he))
        (fun e he => hb e (List.mem_cons_of_mem c he)) hrest
      exact ⟨rfl, rfl⟩

/-- The text has none of some characters. -/
def LacksAll (marks : List Char) (s : String) : Prop :=
  s.toList.all (fun c => !marks.contains c) = true

instance (marks : List Char) (s : String) : Decidable (LacksAll marks s) :=
  inferInstanceAs (Decidable (_ = _))

theorem LacksAll.not_mem {marks : List Char} {s : String} (h : LacksAll marks s) {c : Char}
    (hc : c ∈ marks) : c ∉ s.toList := by
  intro hmem
  have hlacks := List.all_eq_true.1 h c hmem
  rw [List.contains_iff_mem.2 hc] at hlacks
  cases hlacks

theorem LacksAll.ne_of_mem {marks : List Char} {s : String} (h : LacksAll marks s) {c d : Char}
    (hc : c ∈ s.toList) (hd : d ∈ marks) : (c == d) = false := by
  rw [beq_eq_false_iff_ne]
  rintro rfl
  exact h.not_mem hd hc

theorem isDigit_of_mem_digits {n : Nat} {c : Char} (hc : c ∈ Nat.toDigits 10 n) :
    c.isDigit = true :=
  Nat.isDigit_of_mem_toDigits (by decide) (by decide) hc

theorem digits_unique {m n : Nat} (h : Nat.toDigits 10 m = Nat.toDigits 10 n) : m = n := by
  rw [← Nat.ofDigitChars_ten_toDigits (n := m), h, Nat.ofDigitChars_ten_toDigits]

/-! ### Scopes -/

namespace ScopeSegment

/-- The segment as it counts for a symbol: whatever stands in place of the name of an anonymous
namespace is not read. -/
def bare (s : ScopeSegment) : ScopeSegment :=
  if s.kind = .anonymous then { s with name := "" } else s

/-- The segment is lexically sound: it is a namespace or a class, its name has no mark of a symbol
in it, and only a class has template parameters. -/
structure IsLexical (s : ScopeSegment) : Prop where
  kind : s.kind = .nspace ∨ s.kind = .record ∨ s.kind = .anonymous
  name : LacksAll ['@', '#'] s.name
  templateArity : s.kind ≠ .record → s.templateArity = 0

instance (s : ScopeSegment) : Decidable s.IsLexical :=
  decidable_of_iff (_ ∧ LacksAll ['@', '#'] s.name ∧ (s.kind ≠ .record → s.templateArity = 0))
    ⟨fun h => ⟨h.1, h.2.1, h.2.2⟩, fun h => ⟨h.kind, h.name, h.templateArity⟩⟩

/-- What the text of a segment starts with, up to the name. -/
def tag (s : ScopeSegment) : List Char :=
  match s.kind with
  | .anonymous => ['a', 'N']
  | .nspace => ['N']
  | .record =>
    if s.templateArity = 0 then ['S'] else 'S' :: 'T' :: '>' :: Nat.toDigits 10 s.templateArity
  | .other _ => []

/-- The name in the text of a segment. -/
def nameText (s : ScopeSegment) : List Char :=
  if s.kind = .anonymous then [] else '@' :: s.name.toList

variable {s t : ScopeSegment} {text : String}

theorem toList_of_symbolText? (h : s.symbolText? = some text) :
    text.toList = '@' :: (s.tag ++ s.nameText) := by
  rcases s with ⟨kind, name, arity⟩
  simp only [symbolText?] at h
  rcases kind with - | - | - | word
  · obtain ⟨-, h⟩ := Option.ite_none_left_eq_some.1 h
    cases h
    simp [tag, nameText]
  · obtain ⟨-, h⟩ := Option.ite_none_left_eq_some.1 h
    split at h
    · next harity =>
      cases h
      simp [tag, nameText, harity]
    · next harity =>
      cases h
      simp [tag, nameText, harity]
  · cases h
    simp [tag, nameText]
  · cases h

/-- A tag ends where the next mark stands. -/
theorem tag_lacks (s : ScopeSegment) : ∀ c ∈ s.tag, (c == '@') = false := by
  rcases s with ⟨kind, name, arity⟩
  intro c hc
  rcases kind with - | - | - | word
  · simp_all [tag]
  · simp only [tag] at hc
    split at hc
    · simp_all
    · simp only [List.mem_cons] at hc
      rcases hc with rfl | rfl | rfl | hc
      · rfl
      · rfl
      · rfl
      · rw [beq_eq_false_iff_ne]
        rintro rfl
        exact absurd (isDigit_of_mem_digits hc) (by decide)
  · simp only [tag, List.mem_cons, List.not_mem_nil, or_false] at hc
    rcases hc with rfl | rfl
    · rfl
    · rfl
  · cases hc

/-- The tag of a segment tells its kind and its template parameters. -/
theorem IsLexical.tag_unique (hs : s.IsLexical) (ht : t.IsLexical) (h : s.tag = t.tag) :
    s.kind = t.kind ∧ s.templateArity = t.templateArity := by
  have has := hs.templateArity
  have hat := ht.templateArity
  rcases hs.kind with hk | hk | hk <;> rcases ht.kind with hl | hl | hl <;>
    grind [tag, digits_unique]

/-- No segment has the tag of a function. -/
theorem IsLexical.head?_tag_append (hs : s.IsLexical) (rest : List Char) :
    (s.tag ++ rest).head? ≠ some 'F' := by
  rcases hs.kind with h | h | h <;> grind [tag]

/-- What comes after a tag starts with a mark. -/
theorem head?_nameText_append (s : ScopeSegment) {rest : List Char} (h : rest.head? = some '@') :
    (s.nameText ++ rest).head?.all (· == '@') = true := by
  unfold nameText
  split
  · rw [List.nil_append, h]
    rfl
  · rfl

/-- The name in the text of a segment ends where the next mark stands. -/
theorem IsLexical.nameText_unique (hs : s.IsLexical) (ht : t.IsLexical) (hkind : s.kind = t.kind)
    {x y : List Char} (hx : x.head? = some '@') (hy : y.head? = some '@')
    (h : s.nameText ++ x = t.nameText ++ y) : (s.kind ≠ .anonymous → s.name = t.name) ∧ x = y := by
  unfold nameText at h
  rw [← hkind] at h
  by_cases hanonymous : s.kind = .anonymous
  · rw [if_pos hanonymous, if_pos hanonymous] at h
    exact ⟨fun hnot => absurd hanonymous hnot, h⟩
  · rw [if_neg hanonymous, if_neg hanonymous] at h
    obtain ⟨hname, hrest⟩ := cut_unique (p := (· == '@'))
      (fun c hc => hs.name.ne_of_mem hc (by decide)) (fun c hc => ht.name.ne_of_mem hc (by decide))
      (by rw [hx]; rfl) (by rw [hy]; rfl) (List.cons.inj h).2
    exact ⟨fun _ => String.toList_inj.1 hname, hrest⟩

/-- The segments of one kind with one name are the same as far as a symbol tells. -/
theorem bare_unique (hkind : s.kind = t.kind) (harity : s.templateArity = t.templateArity)
    (hname : s.kind ≠ .anonymous → s.name = t.name) : s.bare = t.bare := by
  unfold bare
  rw [← hkind]
  rcases s with ⟨ks, ns, as⟩
  rcases t with ⟨kt, nt, at'⟩
  cases hkind
  cases harity
  by_cases h : ks = .anonymous
  · rw [if_pos h, if_pos h]
  · rw [if_neg h, if_neg h]
    cases hname h
    rfl

end ScopeSegment

/-- The characters of a scope's text. -/
def scopeChars (scope : List ScopeSegment) : List Char :=
  scope.flatMap fun s => '@' :: (s.tag ++ s.nameText)

theorem scopeChars_cons_append (s : ScopeSegment) (scope : List ScopeSegment) (rest : List Char) :
    scopeChars (s :: scope) ++ rest = '@' :: (s.tag ++ (s.nameText ++ (scopeChars scope ++ rest))) := by
  unfold scopeChars
  rw [List.flatMap_cons, List.cons_append, List.cons_append, List.append_assoc, List.append_assoc]

theorem toList_of_scopeSymbolText {scope : List ScopeSegment} {text : String}
    (h : scopeSymbolText scope = .ok text) : text.toList = scopeChars scope := by
  induction scope generalizing text with
  | nil =>
    cases h
    rfl
  | cons s scope ih =>
    rw [scopeSymbolText] at h
    rcases hs : s.symbolText? with - | first
    · rw [hs] at h
      cases h
    · rw [hs] at h
      rcases hmore : scopeSymbolText scope with t | more
      · rw [hmore] at h
        cases h
      · rw [hmore] at h
        cases h
        rw [String.toList_append, ih hmore, ScopeSegment.toList_of_symbolText? hs]
        rfl

/-- The name of an anonymous namespace leaves no trace. -/
theorem scopeChars_map_bare (scope : List ScopeSegment) :
    scopeChars (scope.map ScopeSegment.bare) = scopeChars scope := by
  have hsegment : ∀ s : ScopeSegment, s.bare.tag = s.tag ∧ s.bare.nameText = s.nameText := by
    intro s
    unfold ScopeSegment.bare
    split
    · next h => simp [ScopeSegment.tag, ScopeSegment.nameText, h]
    · exact ⟨rfl, rfl⟩
  unfold scopeChars
  rw [List.flatMap_map]
  simp only [hsegment]

/-- What comes after a segment starts with a mark. -/
theorem head?_scopeChars_append (scope : List ScopeSegment) {rest : List Char}
    (h : rest.head? = some '@') : (scopeChars scope ++ rest).head? = some '@' := by
  rcases scope with - | ⟨s, scope⟩
  · exact h
  · rfl

/-- The text of a scope ends where a function's name begins. -/
theorem scope_unique {a b : List ScopeSegment} (ha : ∀ s ∈ a, s.IsLexical)
    (hb : ∀ s ∈ b, s.IsLexical) {x y : List Char}
    (h : scopeChars a ++ '@' :: 'F' :: x = scopeChars b ++ '@' :: 'F' :: y) :
    a.map ScopeSegment.bare = b.map ScopeSegment.bare ∧ x = y := by
  induction a generalizing b with
  | nil =>
    rcases b with - | ⟨t, b⟩
    · exact ⟨rfl, (List.cons.inj (List.cons.inj h).2).2⟩
    · -- behind the mark stands the tag of a segment on one side and that of a function on the other
      rw [scopeChars_cons_append] at h
      have hhead := congrArg List.head? (List.cons.inj h).2
      exact absurd hhead.symm ((hb t List.mem_cons_self).head?_tag_append _)
  | cons s a ih =>
    rcases b with - | ⟨t, b⟩
    · rw [scopeChars_cons_append] at h
      have hhead := congrArg List.head? (List.cons.inj h).2
      exact absurd hhead ((ha s List.mem_cons_self).head?_tag_append _)
    · obtain ⟨hs, ha⟩ := List.forall_mem_cons.1 ha
      obtain ⟨ht, hb⟩ := List.forall_mem_cons.1 hb
      rw [scopeChars_cons_append, scopeChars_cons_append] at h
      have hx : (scopeChars a ++ '@' :: 'F' :: x).head? = some '@' := head?_scopeChars_append a rfl
      have hy : (scopeChars b ++ '@' :: 'F' :: y).head? = some '@' := head?_scopeChars_append b rfl
      -- first the tags, then the names, then the segments inside
      obtain ⟨htag, h⟩ := cut_unique s.tag_lacks t.tag_lacks (s.head?_nameText_append hx)
        (t.head?_nameText_append hy) (List.cons.inj h).2
      obtain ⟨hkind, harity⟩ := hs.tag_unique ht htag
      obtain ⟨hname, h⟩ := hs.nameText_unique ht hkind hx hy h
      obtain ⟨hrest, rfl⟩ := ih ha hb h
      rw [List.map_cons, List.map_cons, hrest, ScopeSegment.bare_unique hkind harity hname]
      exact ⟨rfl, rfl⟩

/-! ### Parameters and qualifiers -/

/-- The text is a number. -/
def IsNumeral (s : String) : Prop :=
  s.toList.all Char.isDigit = true

instance (s : String) : Decidable (IsNumeral s) :=
  inferInstanceAs (Decidable (_ = _))

/-- The text can stand for a parameter's type. -/
structure IsTypeText (t : String) : Prop where
  ne_empty : t ≠ ""
  lacks : LacksAll ['#'] t
  not_numeral : ¬IsNumeral t

instance (t : String) : Decidable (IsTypeText t) :=
  decidable_of_iff (t ≠ "" ∧ LacksAll ['#'] t ∧ ¬IsNumeral t)
    ⟨fun h => ⟨h.1, h.2.1, h.2.2⟩, fun h => ⟨h.ne_empty, h.lacks, h.not_numeral⟩⟩

theorem isNumeral_toString (n : Nat) : IsNumeral (toString n) := by
  unfold IsNumeral
  rw [Nat.toString_eq_ofList_toDigits, String.toList_ofList, List.all_eq_true]
  intro c hc
  exact isDigit_of_mem_digits hc

/-- The types of the parameters between the `#` of a symbol; without parameters there is an empty
piece. -/
def typePieces (types : List String) : List String :=
  if types = [] then [""] else types

/-- What stands between the `#` of a symbol: the types of the parameters, and a number for the
qualifiers if there are some. -/
def parameterPieces (types : List String) (qualifiers : Nat) : List String :=
  typePieces types ++ if qualifiers = 0 then [] else [toString qualifiers]

theorem typePieces_ne_nil (types : List String) : typePieces types ≠ [] := by
  unfold typePieces
  split
  · exact List.cons_ne_nil _ _
  · assumption

theorem intercalate_typePieces (types : List String) :
    "#".intercalate (typePieces types) = "#".intercalate types := by
  unfold typePieces
  split
  · next h => rw [h, String.intercalate_nil, String.intercalate_singleton]
  · rfl

theorem intercalate_parameterPieces (types : List String) (qualifiers : Nat) :
    "#".intercalate (parameterPieces types qualifiers) =
      "#".intercalate types ++ if qualifiers = 0 then "" else "#" ++ toString qualifiers := by
  unfold parameterPieces
  split
  · rw [List.append_nil, String.append_empty, intercalate_typePieces]
  · rw [String.intercalate_append_of_ne_nil (typePieces_ne_nil types) (List.cons_ne_nil _ _),
      intercalate_typePieces, String.intercalate_singleton, String.append_assoc]

section Parameters

variable {a b : List String} {m n : Nat}

theorem typePieces_unique (ha : ∀ t ∈ a, IsTypeText t) (hb : ∀ t ∈ b, IsTypeText t)
    (h : typePieces a = typePieces b) : a = b := by
  -- no parameter has an empty type, so the empty piece is not taken for one
  have hempty : ∀ l : List String, (∀ t ∈ l, IsTypeText t) → l ≠ [""] := by
    rintro l hl rfl
    exact (hl "" List.mem_cons_self).ne_empty rfl
  unfold typePieces at h
  split at h
  · next hnil =>
    split at h
    · next hnil' => rw [hnil, hnil']
    · exact absurd h.symm (hempty b hb)
  · split at h
    · exact absurd h (hempty a ha)
    · exact h

theorem hash_not_mem_parameterPieces (ha : ∀ t ∈ a, IsTypeText t) {t : String}
    (ht : t ∈ parameterPieces a m) : '#' ∉ t.toList := by
  intro hmark
  unfold parameterPieces typePieces at ht
  rcases List.mem_append.1 ht with ht | ht
  · split at ht
    · rw [List.mem_singleton.1 ht] at hmark
      cases hmark
    · exact (ha t ht).lacks.not_mem List.mem_cons_self hmark
  · split at ht
    · cases ht
    · rw [List.mem_singleton.1 ht, Nat.toString_eq_ofList_toDigits, String.toList_ofList] at hmark
      exact absurd (isDigit_of_mem_digits hmark) (by decide)

/-- The last piece is a number only if there are qualifiers. -/
theorem typePieces_ne_parameterPieces (ha : ∀ t ∈ a, IsTypeText t) (hn : n ≠ 0) :
    typePieces a ≠ parameterPieces b n := by
  intro h
  have hmem : toString n ∈ typePieces a := by
    rw [h, parameterPieces, if_neg hn]
    exact List.mem_append_right _ List.mem_cons_self
  unfold typePieces at hmem
  split at hmem
  · -- the piece for want of parameters is empty, and no number is
    have hchars := congrArg String.toList (List.mem_singleton.1 hmem)
    rw [Nat.toString_eq_ofList_toDigits, String.toList_ofList] at hchars
    exact Nat.toDigits_ne_nil hchars
  · exact (ha _ hmem).not_numeral (isNumeral_toString n)

/-- The pieces tell the types of the parameters and the qualifiers. -/
theorem parameterPieces_unique (ha : ∀ t ∈ a, IsTypeText t) (hb : ∀ t ∈ b, IsTypeText t)
    (h : parameterPieces a m = parameterPieces b n) : a = b ∧ m = n := by
  by_cases hm : m = 0 <;> by_cases hn : n = 0
  · simp only [parameterPieces, if_pos hm, if_pos hn, List.append_nil] at h
    exact ⟨typePieces_unique ha hb h, hm.trans hn.symm⟩
  · refine absurd ?_ (typePieces_ne_parameterPieces (b := b) ha hn)
    rw [← h, parameterPieces, if_pos hm, List.append_nil]
  · refine absurd ?_ (typePieces_ne_parameterPieces (b := a) hb hm)
    rw [h, parameterPieces, if_pos hn, List.append_nil]
  · simp only [parameterPieces, if_neg hm, if_neg hn] at h
    obtain ⟨htypes, hlast⟩ := List.append_inj' h rfl
    have hchars := congrArg String.toList (List.cons.inj hlast).1
    rw [Nat.toString_eq_ofList_toDigits, Nat.toString_eq_ofList_toDigits, String.toList_ofList,
      String.toList_ofList] at hchars
    exact ⟨typePieces_unique ha hb htypes, digits_unique hchars⟩

/-- The text of parameters and qualifiers tells both. -/
theorem parameters_unique (ha : ∀ t ∈ a, IsTypeText t) (hb : ∀ t ∈ b, IsTypeText t)
    (h : "#".intercalate (parameterPieces a m) = "#".intercalate (parameterPieces b n)) :
    a = b ∧ m = n := by
  have hsplit : ∀ (l : List String) (k : Nat), (∀ t ∈ l, IsTypeText t) →
      ("#".intercalate (parameterPieces l k)).toList.splitOn '#' =
        (parameterPieces l k).map String.toList := by
    intro l k hl
    rw [String.toList_intercalate]
    refine List.splitOn_intercalate '#' ?_ ?_
    · rw [List.forall_mem_map]
      exact fun t ht => hash_not_mem_parameterPieces hl ht
    · unfold parameterPieces
      simp [typePieces_ne_nil]
  have hpieces : (parameterPieces a m).map String.toList = (parameterPieces b n).map String.toList := by
    rw [← hsplit a m ha, ← hsplit b n hb, h]
  exact parameterPieces_unique ha hb
    ((List.map_inj_right fun _ _ => String.toList_inj.1).1 hpieces)

end Parameters

/-! ### The tail of a symbol -/

namespace Declaration

variable {δ ε : Type}

/-- The declaration is lexically sound: no part of it contains the mark that ends it in a symbol. -/
structure IsLexical (d : Declaration δ) : Prop where
  scope : ∀ s ∈ d.scope, s.IsLexical
  name : LacksAll ['@', '#', '<', '>'] d.name
  name_start : d.name.toList.head?.all (fun c => !c.isDigit) = true
  signature : ∀ t ∈ d.signature, IsTypeText t
  templateArgs : ∀ args ∈ d.templateArgs, LacksAll ['#'] args
  file : LacksAll ['@'] d.declaringFile
  file_start : d.declaringFile.toList.head? = some '/'

instance (d : Declaration δ) : Decidable d.IsLexical :=
  decidable_of_iff
    ((∀ s ∈ d.scope, s.IsLexical) ∧ LacksAll ['@', '#', '<', '>'] d.name ∧
      d.name.toList.head?.all (fun c => !c.isDigit) = true ∧ (∀ t ∈ d.signature, IsTypeText t) ∧
      (∀ args ∈ d.templateArgs, LacksAll ['#'] args) ∧ LacksAll ['@'] d.declaringFile ∧
      d.declaringFile.toList.head? = some '/')
    ⟨fun ⟨h₁, h₂, h₃, h₄, h₅, h₆, h₇⟩ => ⟨h₁, h₂, h₃, h₄, h₅, h₆, h₇⟩,
      fun h => ⟨h.scope, h.name, h.name_start, h.signature, h.templateArgs, h.file, h.file_start⟩⟩

/-- The number of template parameters in a symbol. -/
def arityChars (d : Declaration δ) : List Char :=
  if d.templateArity = 0 then ['@'] else 'T' :: '@' :: '>' :: Nat.toDigits 10 d.templateArity

/-- The template arguments in a symbol. -/
def argumentChars (d : Declaration δ) : List Char :=
  match d.templateArgs with
  | some args => '<' :: (args.toList ++ ['>'])
  | none => []

/-- The tail of a symbol without the mark that it starts with. -/
def tailChars (d : Declaration δ) : List Char :=
  d.arityChars ++ (d.name.toList ++ d.argumentChars ++
    '#' :: ("#".intercalate (parameterPieces d.signature d.qualifiers)).toList)

theorem toList_symbolTail (d : Declaration δ) :
    d.symbolTail.toList = '@' :: 'F' :: d.tailChars := by
  unfold tailChars
  rw [intercalate_parameterPieces]
  unfold symbolTail arityChars argumentChars
  rcases d.templateArgs with - | args <;> by_cases h : d.templateArity = 0 <;> simp [h]

variable {d : Declaration δ} {e : Declaration ε}

/-- The number of template parameters ends where the name begins. -/
theorem arity_unique {x y : List Char} (hx : x.head?.all (fun c => !c.isDigit) = true)
    (hy : y.head?.all (fun c => !c.isDigit) = true) (h : d.arityChars ++ x = e.arityChars ++ y) :
    d.templateArity = e.templateArity ∧ x = y := by
  unfold arityChars at h
  by_cases hd : d.templateArity = 0 <;> by_cases he : e.templateArity = 0
  · rw [if_pos hd, if_pos he] at h
    exact ⟨hd.trans he.symm, (List.cons.inj h).2⟩
  · rw [if_pos hd, if_neg he] at h
    cases (List.cons.inj h).1
  · rw [if_neg hd, if_pos he] at h
    cases (List.cons.inj h).1
  · rw [if_neg hd, if_neg he] at h
    have hdigits := (List.cons.inj (List.cons.inj (List.cons.inj h).2).2).2
    obtain ⟨harity, hrest⟩ := cut_unique (fun c hc => by rw [isDigit_of_mem_digits hc]; rfl)
      (fun c hc => by rw [isDigit_of_mem_digits hc]; rfl) hx hy hdigits
    exact ⟨digits_unique harity, hrest⟩

/-- The name ends where the template arguments begin. -/
theorem name_unique (hd : d.IsLexical) (he : e.IsLexical)
    (h : d.name.toList ++ d.argumentChars = e.name.toList ++ e.argumentChars) :
    d.name = e.name ∧ d.templateArgs = e.templateArgs := by
  have hstart : ∀ {ι : Type} (f : Declaration ι), f.argumentChars.head?.all (· == '<') = true := by
    intro ι f
    unfold argumentChars
    rcases f.templateArgs with - | args
    · rfl
    · rfl
  obtain ⟨hname, hargs⟩ := cut_unique (fun c hc => hd.name.ne_of_mem hc (by decide))
    (fun c hc => he.name.ne_of_mem hc (by decide)) (hstart d) (hstart e) h
  refine ⟨String.toList_inj.1 hname, ?_⟩
  unfold argumentChars at hargs
  rcases hda : d.templateArgs with - | args <;> rcases hea : e.templateArgs with - | args'
  · rfl
  · rw [hda, hea] at hargs
    cases hargs
  · rw [hda, hea] at hargs
    cases hargs
  · rw [hda, hea] at hargs
    rw [String.toList_inj.1 (List.append_cancel_right (List.cons.inj hargs).2)]

theorem ne_hash_of_mem_name (hd : d.IsLexical) {c : Char}
    (hc : c ∈ d.name.toList ++ d.argumentChars) : (c == '#') = false := by
  rcases List.mem_append.1 hc with hc | hc
  · exact hd.name.ne_of_mem hc (by decide)
  · unfold argumentChars at hc
    rcases ha : d.templateArgs with - | args
    · rw [ha] at hc
      cases hc
    · rw [ha] at hc
      simp only [List.mem_cons, List.mem_append, List.not_mem_nil, or_false] at hc
      rcases hc with rfl | hc | rfl
      · rfl
      · exact (hd.templateArgs args ha).ne_of_mem hc List.mem_cons_self
      · rfl

/-- No name starts with a digit, and no mark behind a name that is empty is one. -/
theorem head?_name_append (hd : d.IsLexical) (rest : List Char) :
    (d.name.toList ++ d.argumentChars ++ '#' :: rest).head?.all (fun c => !c.isDigit) = true := by
  have hstart := hd.name_start
  rcases hname : d.name.toList with - | ⟨c, cs⟩
  · unfold argumentChars
    rcases d.templateArgs with - | args
    · rfl
    · rfl
  · rw [hname] at hstart
    exact hstart

/-- The two declarations agree in all that the tail of a symbol is made of. -/
structure SameTail (d : Declaration δ) (e : Declaration ε) : Prop where
  name : d.name = e.name
  templateArity : d.templateArity = e.templateArity
  templateArgs : d.templateArgs = e.templateArgs
  signature : d.signature = e.signature
  qualifiers : d.qualifiers = e.qualifiers

/-- The tail of a symbol tells everything it is made of. -/
theorem tail_unique (hd : d.IsLexical) (he : e.IsLexical) (h : d.tailChars = e.tailChars) :
    d.SameTail e := by
  obtain ⟨harity, h⟩ := arity_unique (head?_name_append hd _) (head?_name_append he _) h
  -- the arguments may contain any mark but `#`, so they are cut off together with the name
  obtain ⟨hnames, h⟩ := cut_unique (fun c hc => ne_hash_of_mem_name hd hc)
    (fun c hc => ne_hash_of_mem_name he hc) rfl rfl h
  obtain ⟨hname, hargs⟩ := name_unique hd he hnames
  obtain ⟨hsignature, hqualifiers⟩ := parameters_unique hd.signature he.signature
    (String.toList_inj.1 (List.cons.inj h).2)
  exact ⟨hname, harity, hargs, hsignature, hqualifiers⟩

/-! ### Whole symbols -/

/-- The file in a symbol. -/
def fileChars (d : Declaration δ) : List Char :=
  if d.linkage = .internal then d.declaringFile.toList else []

theorem toList_of_naming {symbol : Symbol} (h : d.naming = .named symbol) (hc : d.linkage ≠ .c) :
    symbol.toList =
      'c' :: ':' :: (d.fileChars ++ (scopeChars d.scope ++ '@' :: 'F' :: d.tailChars)) := by
  obtain ⟨text, htext, rfl⟩ := naming_eq_named h hc
  rw [String.toList_append, String.toList_append, String.toList_append, toList_symbolTail,
    toList_of_scopeSymbolText htext]
  unfold fileChars
  by_cases hl : d.linkage = .internal
  · simp [hl]
  · simp [hl]

theorem naming_of_c {symbol : Symbol} (h : d.naming = .named symbol) (hc : d.linkage = .c) :
    symbol = "c:@F@" ++ d.name := by
  unfold naming at h
  rw [if_pos hc] at h
  split at h
  · cases h
  · cases h
    rfl

/-- The file ends where the scope begins, and no file means that the name is known everywhere. -/
theorem file_unique (hd : d.IsLexical) (he : e.IsLexical) {x y : List Char}
    (hx : x.head? = some '@') (hy : y.head? = some '@') (h : d.fileChars ++ x = e.fileChars ++ y) :
    (d.linkage = .internal ↔ e.linkage = .internal) ∧
      (d.linkage = .internal → d.declaringFile = e.declaringFile) ∧ x = y := by
  have hlacks : ∀ {ι : Type} {f : Declaration ι}, f.IsLexical → ∀ c ∈ f.fileChars, (c == '@') = false := by
    intro ι f hf c hc
    unfold fileChars at hc
    split at hc
    · exact hf.file.ne_of_mem hc List.mem_cons_self
    · cases hc
  obtain ⟨hfile, hrest⟩ := cut_unique (p := (· == '@')) (hlacks hd) (hlacks he) (by rw [hx]; rfl)
    (by rw [hy]; rfl) h
  -- where a file stands it is not empty, so its absence is seen
  have hne : ∀ {ι : Type} {f : Declaration ι}, f.IsLexical → f.declaringFile.toList ≠ [] := by
    intro ι f hf hnil
    have hstart := hf.file_start
    rw [hnil] at hstart
    cases hstart
  unfold fileChars at hfile
  by_cases hdi : d.linkage = .internal <;> by_cases hei : e.linkage = .internal
  · rw [if_pos hdi, if_pos hei] at hfile
    exact ⟨iff_of_true hdi hei, fun _ => String.toList_inj.1 hfile, hrest⟩
  · rw [if_pos hdi, if_neg hei] at hfile
    exact absurd hfile (hne hd)
  · rw [if_neg hdi, if_pos hei] at hfile
    exact absurd hfile.symm (hne he)
  · exact ⟨iff_of_false hdi hei, fun h => absurd h hdi, hrest⟩

/-- The two declarations agree in all that a symbol without C linkage is made of. -/
structure SameIdentity (d : Declaration δ) (e : Declaration ε) : Prop extends SameTail d e where
  internal_iff : d.linkage = .internal ↔ e.linkage = .internal
  declaringFile : d.linkage = .internal → d.declaringFile = e.declaringFile
  scope : d.scope.map ScopeSegment.bare = e.scope.map ScopeSegment.bare

/-- Symbols without C linkage are the same exactly if all they are made of is. -/
theorem symbol_eq_iff_sameIdentity {s t : Symbol} (hs : d.naming = .named s) (ht : e.naming = .named t)
    (hcd : d.linkage ≠ .c) (hce : e.linkage ≠ .c) (hd : d.IsLexical) (he : e.IsLexical) :
    s = t ↔ d.SameIdentity e := by
  rw [← String.toList_inj, toList_of_naming hs hcd, toList_of_naming ht hce]
  constructor
  · intro h
    have hbody := (List.cons.inj (List.cons.inj h).2).2
    obtain ⟨hinternal, hfile, h⟩ := file_unique hd he (head?_scopeChars_append d.scope rfl)
      (head?_scopeChars_append e.scope rfl) hbody
    obtain ⟨hscope, htail⟩ := scope_unique hd.scope he.scope h
    exact ⟨tail_unique hd he htail, hinternal, hfile, hscope⟩
  · intro h
    have hfile : d.fileChars = e.fileChars := by
      unfold fileChars
      by_cases hdi : d.linkage = .internal
      · rw [if_pos hdi, if_pos (h.internal_iff.1 hdi), h.declaringFile hdi]
      · rw [if_neg hdi, if_neg (mt h.internal_iff.2 hdi)]
    have htail : d.tailChars = e.tailChars := by
      unfold tailChars arityChars argumentChars
      rw [h.name, h.templateArity, h.templateArgs, h.signature, h.qualifiers]
    rw [hfile, htail, ← scopeChars_map_bare d.scope, h.scope, scopeChars_map_bare]

/-- A symbol with C linkage has no parameters in it, and every other one has. -/
theorem symbol_ne_of_c {s t : Symbol} (hs : d.naming = .named s) (ht : e.naming = .named t)
    (hcd : d.linkage = .c) (hce : e.linkage ≠ .c) (hd : d.IsLexical) : s ≠ t := by
  intro h
  have hmem : '#' ∈ s.toList := by
    rw [h, toList_of_naming ht hce, tailChars]
    simp
  rw [naming_of_c hs hcd, String.toList_append] at hmem
  rcases List.mem_append.1 hmem with hmem | hmem
  · exact absurd hmem (by decide)
  · exact hd.name.not_mem (by decide) hmem

end Declaration

/-! ### Declarations of different units -/

/-- A sample function, which each of two files has for itself: a member of a class template in an
anonymous namespace. -/
def sampleLocal (file : String) : Declaration Nat where
  name := "get"
  qualifiedName := "(anonymous namespace)::Box::get"
  location := ⟨file, 3⟩
  linkage := .internal
  scope := [⟨.anonymous, "", 0⟩, ⟨.record, "Box", 1⟩]
  signature := ["const char*", "int"]
  qualifiers := 1
  templateArity := 2
  templateArgs := some "int"
  declaringFile := file
  chain := [0]

/-- **Symbols tell functions apart.**  Two declarations that stand for their functions, in the same
unit or in different ones, have one symbol exactly if both have C linkage and the same name, or
neither has C linkage and they agree in linkage, in the file if that matters, in scope, name,
template data, parameters and qualifiers. -/
theorem View.symbol?_eq_symbol?_iff {δ ε : Type} (view : View δ) (other : View ε) {d : δ} {e : ε}
    (hd : view.canonical d = d) (he : other.canonical e = e)
    (hpd : (view d).isInstantiation = false) (hpe : (other e).isInstantiation = false)
    (hsd : (view.symbol? d).isSome) (hse : (other.symbol? e).isSome)
    (hld : (view d).IsLexical) (hle : (other e).IsLexical) :
    view.symbol? d = other.symbol? e ↔
      ((view d).linkage = .c ∧ (other e).linkage = .c ∧ (view d).name = (other e).name) ∨
      ((view d).linkage ≠ .c ∧ (other e).linkage ≠ .c ∧ (view d).SameIdentity (other e)) := by
  obtain ⟨s, hs⟩ := Option.isSome_iff_exists.1 hsd
  obtain ⟨t, ht⟩ := Option.isSome_iff_exists.1 hse
  rw [hs, ht, Option.some.injEq]
  rw [symbol?_eq_some_iff hd hpd] at hs
  rw [symbol?_eq_some_iff he hpe] at ht
  -- one of C linkage and one without it never have one symbol
  by_cases hcd : (view d).linkage = .c <;> by_cases hce : (other e).linkage = .c
  · rw [Declaration.naming_of_c hs hcd, Declaration.naming_of_c ht hce]
    simp [hcd, hce, String.append_right_inj]
  · simp [hcd, hce, Declaration.symbol_ne_of_c hs ht hcd hce hld]
  · simp [hcd, hce, (Declaration.symbol_ne_of_c ht hs hce hcd hle).symm]
  · simp [hcd, hce, Declaration.symbol_eq_iff_sameIdentity hs ht hcd hce hld hle]

/-- The two sample functions are not taken for one, since they belong to different files. -/
theorem View.symbol?_eq_symbol?_iff_sample :
    (sampleLocal "/p/a.cpp").IsLexical ∧ (sampleLocal "/p/b.cpp").IsLexical ∧
      View.symbol? (fun _ : Nat => sampleLocal "/p/a.cpp") 0 =
        some "c:/p/a.cpp@aN@ST>1@Box@FT@>2get<int>#const char*#int#1" ∧
      View.symbol? (fun _ : Nat => sampleLocal "/p/a.cpp") 0 ≠
        View.symbol? (fun _ : Nat => sampleLocal "/p/b.cpp") 0 := by
  have hla : (sampleLocal "/p/a.cpp").IsLexical := by decide +kernel
  have hlb : (sampleLocal "/p/b.cpp").IsLexical := by decide +kernel
  refine ⟨hla, hlb, by decide +kernel, ?_⟩
  rw [ne_eq, View.symbol?_eq_symbol?_iff (fun _ => sampleLocal "/p/a.cpp")
    (fun _ => sampleLocal "/p/b.cpp") rfl rfl rfl rfl (by decide +kernel) (by decide +kernel) hla hlb]
  rintro (⟨hc, -⟩ | ⟨-, -, h⟩)
  · cases hc
  · exact absurd (h.declaringFile rfl) (by decide)

end Unreferenced
