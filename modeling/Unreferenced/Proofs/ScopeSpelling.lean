/-
Unreferenced/Proofs/ScopeSpelling.lean

What the spelling of a qualified name is cut into.

A qualified name is spelled by its components with double colons between them.
Cutting it gives the components back, if none of them holds a colon, a blank or
the start of template arguments (`scopeParts_join`).  Only the last component may
be anything else: what looks like template arguments in it is taken out, and the
blanks at its ends are trimmed.

Something looks like template arguments as soon as a `<` stands before a `>`.
Nothing of the sort is left where template arguments were taken out
(`not_isBracketed_dropTemplateArgs`), and nothing is taken out where there is
nothing of the sort (`dropTemplateArgs_eq_self`).

The canonical spelling of an operator differs from any other one in its blanks
only (`solid_canonicalOperator`).  So the last component of a qualified name, cut
out as it is written, is the canonical spelling only if it was written in this
way, and never for an operator with a `<` before a `>`
(`trim_dropTemplateArgs_eq_iff`).
-/
import Unreferenced.Proofs.QualifiedScope
import Unreferenced.Spelling.OperatorName
import Unreferenced.Spelling.ScopeName

namespace Unreferenced

open Text

namespace Text

/-! ### Cutting at double colons -/

/-- What stands before the next colon belongs to the first piece. -/
theorem splitColons_append {part rest piece : List Char} {pieces : List (List Char)}
    (h : ':' ∉ part) (hrest : splitColons rest = piece :: pieces) :
    splitColons (part ++ rest) = (part ++ piece) :: pieces := by
  induction part with
  | nil => exact hrest
  | cons c part ih =>
    obtain ⟨hc, hpart⟩ := List.ne_and_not_mem_of_not_mem_cons h
    rw [List.cons_append, splitColons, ih hpart]
    · rfl
    · rintro r rfl
      exact absurd rfl hc

theorem splitColons_of_not_mem {part : List Char} (h : ':' ∉ part) : splitColons part = [part] := by
  have hcut : splitColons (part ++ []) = [part ++ []] := splitColons_append h rfl
  simpa using hcut

theorem splitColons_colons {part : List Char} (h : ':' ∉ part) (rest : List Char) :
    splitColons (part ++ ':' :: ':' :: rest) = part :: splitColons rest := by
  have hrest : splitColons (':' :: ':' :: rest) = [] :: splitColons rest := rfl
  simpa using splitColons_append h hrest

end Text

namespace Spelling

/-! ### Template arguments -/

/-- A `<` stands somewhere before a `>`. -/
def IsBracketed (s : List Char) : Prop :=
  ['<', '>'].Sublist s

instance (s : List Char) : Decidable (IsBracketed s) :=
  inferInstanceAs (Decidable (['<', '>'].Sublist s))

theorem isBracketed_cons {c : Char} {s : List Char} :
    IsBracketed (c :: s) ↔ IsBracketed s ∨ c = '<' ∧ '>' ∈ s := by
  unfold IsBracketed
  constructor
  · intro h
    cases h with
    | cons _ h => exact .inl h
    | cons_cons _ h => exact .inr ⟨rfl, List.singleton_sublist.1 h⟩
  · rintro (h | ⟨rfl, h⟩)
    · exact h.cons c
    · exact (List.singleton_sublist.2 h).cons_cons '<'

theorem IsBracketed.mono {s t : List Char} (h : s.Sublist t) (hs : IsBracketed s) : IsBracketed t :=
  List.Sublist.trans hs h

/-- A round deletes characters and moves none. -/
theorem dropInnermostArgs_sublist (s : List Char) : (dropInnermostArgs s).Sublist s := by
  fun_induction dropInnermostArgs s with
  | case1 => exact .refl _
  | case2 r t h ih =>
    -- what is deleted ends before the rest
    have ht : t.Sublist r := by
      have hdrop := List.dropWhile_sublist (fun d => !isAngle d) (l := r)
      rw [h] at hdrop
      exact (List.sublist_cons_self '>' t).trans hdrop
    exact (ih.trans ht).cons '<'
  | case3 r _ ih => exact ih.cons_cons '<'
  | case4 c r _ ih => exact ih.cons_cons c

theorem dropTemplateArgs_sublist (s : List Char) : (dropTemplateArgs s).Sublist s := by
  fun_induction dropTemplateArgs s with
  | case1 s _ ih => exact ih.trans (dropInnermostArgs_sublist s)
  | case2 s _ => exact .refl s

/-- A round changes nothing where nothing looks like template arguments. -/
theorem dropInnermostArgs_eq_self {s : List Char} (h : ¬IsBracketed s) :
    dropInnermostArgs s = s := by
  fun_induction dropInnermostArgs s with
  | case1 => rfl
  | case2 r t hdrop ih =>
    -- the text deleted would start with `<` and end in `>`
    have hmem : '>' ∈ r := by
      have hsub := List.dropWhile_sublist (fun d => !isAngle d) (l := r)
      rw [hdrop] at hsub
      exact hsub.subset List.mem_cons_self
    exact absurd (isBracketed_cons.2 (.inr ⟨rfl, hmem⟩)) h
  | case3 r _ ih => rw [ih fun hr => h (isBracketed_cons.2 (.inl hr))]
  | case4 c r _ ih => rw [ih fun hr => h (isBracketed_cons.2 (.inl hr))]

/-- If the first angle bracket is no `>` although there is one, it is a `<` before that. -/
theorem isBracketed_of_dropWhile {s : List Char} (hmem : '>' ∈ s)
    (hdrop : ∀ t, s.dropWhile (fun d => !isAngle d) ≠ '>' :: t) : IsBracketed s := by
  induction s with
  | nil => cases hmem
  | cons c s ih =>
    by_cases hangle : isAngle c
    · have hfirst : (c :: s).dropWhile (fun d => !isAngle d) = c :: s :=
        List.dropWhile_cons_of_neg (by simp [hangle])
      have hc : c ≠ '>' := fun hc => hdrop s (by rw [hfirst, hc])
      have hopen : c = '<' := by simpa [isAngle, hc] using hangle
      have hrest : '>' ∈ s := (List.mem_cons.1 hmem).resolve_left (Ne.symm hc)
      exact isBracketed_cons.2 (.inr ⟨hopen, hrest⟩)
    · have hnext : (c :: s).dropWhile (fun d => !isAngle d) = s.dropWhile fun d => !isAngle d :=
        List.dropWhile_cons_of_pos (by simp [hangle])
      have hrest : '>' ∈ s := by
        rcases List.mem_cons.1 hmem with rfl | hrest
        · exact absurd rfl hangle
        · exact hrest
      exact isBracketed_cons.2 (.inl (ih hrest (hnext ▸ hdrop)))

/-- A round makes a text shorter in which something looks like template arguments. -/
theorem length_dropInnermostArgs_lt {s : List Char} (h : IsBracketed s) :
    (dropInnermostArgs s).length < s.length := by
  fun_induction dropInnermostArgs s with
  | case1 => cases h
  | case2 r t hdrop ih =>
    have hround := (dropInnermostArgs_sublist t).length_le
    have hsub := (List.dropWhile_sublist (fun d => !isAngle d) (l := r)).length_le
    rw [hdrop] at hsub
    simp only [List.length_cons] at hsub ⊢
    omega
  | case3 r hdrop ih =>
    -- a `<` that stays has another one behind it before the next `>`
    have hr : IsBracketed r := by
      rcases isBracketed_cons.1 h with hr | ⟨-, hmem⟩
      · exact hr
      · exact isBracketed_of_dropWhile hmem hdrop
    exact Nat.succ_lt_succ (ih hr)
  | case4 c r hc ih =>
    have hr : IsBracketed r := by
      rcases isBracketed_cons.1 h with hr | ⟨rfl, -⟩
      · exact hr
      · exact absurd rfl hc
    exact Nat.succ_lt_succ (ih hr)

/-- Nothing looks like template arguments where they were taken out. -/
theorem not_isBracketed_dropTemplateArgs (s : List Char) : ¬IsBracketed (dropTemplateArgs s) := by
  fun_induction dropTemplateArgs s with
  | case1 s _ ih => exact ih
  | case2 s hlength => exact fun h => hlength (length_dropInnermostArgs_lt h)

theorem dropTemplateArgs_eq_self {s : List Char} (h : ¬IsBracketed s) : dropTemplateArgs s = s := by
  rw [dropTemplateArgs, dropInnermostArgs_eq_self h, if_neg (Nat.lt_irrefl _)]

/-- Template arguments start with a `<`, so nothing before the first one is touched. -/
theorem dropInnermostArgs_append {front : List Char} (h : '<' ∉ front) (rest : List Char) :
    dropInnermostArgs (front ++ rest) = front ++ dropInnermostArgs rest := by
  induction front with
  | nil => rfl
  | cons c front ih =>
    obtain ⟨hc, hfront⟩ := List.ne_and_not_mem_of_not_mem_cons h
    rw [List.cons_append, dropInnermostArgs, if_neg (Ne.symm hc), ih hfront]
    rfl

theorem dropTemplateArgs_append {front : List Char} (h : '<' ∉ front) (rest : List Char) :
    dropTemplateArgs (front ++ rest) = front ++ dropTemplateArgs rest := by
  fun_induction dropTemplateArgs rest with
  | case1 rest hlength ih =>
    rw [dropTemplateArgs, dropInnermostArgs_append h, if_pos (by simpa using hlength), ih]
  | case2 rest hlength =>
    rw [dropTemplateArgs, dropInnermostArgs_append h, if_neg (by simpa using hlength)]

/-! ### Components -/

/-- A name that can stand between double colons, as every identifier can: it holds no colon, no
blank and no start of template arguments. -/
def IsComponent (name : String) : Prop :=
  IsPlainName name ∧ ':' ∉ name.toList

instance (name : String) : Decidable (IsComponent name) :=
  inferInstanceAs (Decidable (_ ∧ _))

namespace IsComponent

variable {name : String} (h : IsComponent name)
include h

theorem ne_empty : name ≠ "" :=
  h.1.1

theorem not_mem_angle : '<' ∉ name.toList :=
  fun hmem => (h.1.of_mem hmem).1 rfl

theorem trim_toList : trim name.toList = name.toList :=
  trim_eq_self fun _ hc => (h.1.of_mem hc).2

end IsComponent

/-- The spelling of a qualified name, from its components. -/
def join (components : List String) : String :=
  "::".intercalate components

theorem toList_join_cons (first : String) {rest : List String} (h : rest ≠ []) :
    (join (first :: rest)).toList = first.toList ++ ':' :: ':' :: (join rest).toList := by
  obtain ⟨next, rest, rfl⟩ := List.exists_cons_of_ne_nil h
  rw [join, String.intercalate_cons_cons, String.toList_append, String.toList_append]
  simp [join]

theorem join_concat {path : List String} (h : path ≠ []) (name : String) :
    join path ++ "::" ++ name = join (path ++ [name]) := by
  unfold join
  rw [String.intercalate_append_of_ne_nil h (List.cons_ne_nil _ _), String.intercalate_singleton]

/-- Cutting the spelling of a qualified name gives its components.  An empty one may stand among
them, which is how a name is spelled from the global scope. -/
theorem scopeParts_join {front : List String} (h : ∀ name ∈ front, name = "" ∨ IsComponent name)
    {last : String} (hlast : ':' ∉ last.toList) :
    scopeParts (join (front ++ [last])) =
      front ++ [String.ofList (trim (dropTemplateArgs last.toList))] := by
  unfold scopeParts
  induction front with
  | nil =>
    have hcolon : ':' ∉ dropTemplateArgs last.toList :=
      fun hmem => hlast ((dropTemplateArgs_sublist _).subset hmem)
    rw [List.nil_append, join, String.intercalate_singleton, splitColons_of_not_mem hcolon]
    rfl
  | cons name front ih =>
    obtain ⟨hname, hfront⟩ := List.forall_mem_cons.1 h
    have hangle : '<' ∉ name.toList ++ [':', ':'] := by
      rcases hname with rfl | hname
      · decide
      · simpa using hname.not_mem_angle
    have hcolon : ':' ∉ name.toList := by
      rcases hname with rfl | hname
      · decide
      · exact hname.2
    have htrim : String.ofList (trim name.toList) = name := by
      rcases hname with rfl | hname
      · rfl
      · rw [hname.trim_toList, String.ofList_toList]
    have htext : (join (name :: (front ++ [last]))).toList =
        (name.toList ++ [':', ':']) ++ (join (front ++ [last])).toList := by
      rw [toList_join_cons name (by simp)]
      simp
    rw [List.cons_append, htext, dropTemplateArgs_append hangle, List.append_assoc]
    rw [show [':', ':'] ++ dropTemplateArgs (join (front ++ [last])).toList =
      ':' :: ':' :: dropTemplateArgs (join (front ++ [last])).toList from rfl,
      splitColons_colons hcolon, List.map_cons, htrim, ih hfront]
    rfl

/-! ### Operators -/

/-- The text without its blanks. -/
def solid (s : List Char) : List Char :=
  s.filter fun c => !isBlank c

@[simp] theorem solid_append (s t : List Char) : solid (s ++ t) = solid s ++ solid t :=
  List.filter_append s t

theorem solid_cons_of_isBlank {c : Char} (h : isBlank c = true) (s : List Char) :
    solid (c :: s) = solid s :=
  List.filter_cons_of_neg (by simp [h])

theorem solid_cons_of_not_isBlank {c : Char} (h : ¬isBlank c = true) (s : List Char) :
    solid (c :: s) = c :: solid s :=
  List.filter_cons_of_pos (by simpa using h)

theorem solid_cons_congr (c : Char) {s t : List Char} (h : solid s = solid t) :
    solid (c :: s) = solid (c :: t) := by
  by_cases hc : isBlank c = true
  · rw [solid_cons_of_isBlank hc, solid_cons_of_isBlank hc, h]
  · rw [solid_cons_of_not_isBlank hc, solid_cons_of_not_isBlank hc, h]

theorem solid_skipBlanks (s : List Char) : solid (skipBlanks s) = solid s := by
  induction s with
  | nil => rfl
  | cons c s ih =>
    by_cases hc : isBlank c = true
    · rw [solid_cons_of_isBlank hc, skipBlanks, List.dropWhile_cons_of_pos hc]
      exact ih
    · rw [skipBlanks, List.dropWhile_cons_of_neg hc]

theorem solid_dropTrailingBlanks (s : List Char) : solid (dropTrailingBlanks s) = solid s := by
  induction s with
  | nil => rfl
  | cons c s ih =>
    unfold dropTrailingBlanks
    split
    · next hnil =>
      rw [hnil] at ih
      split
      · next hc => rw [solid_cons_of_isBlank hc, ← ih]
      · exact solid_cons_congr c ih
    · exact solid_cons_congr c ih

theorem solid_trim (s : List Char) : solid (trim s) = solid s := by
  rw [trim, solid_dropTrailingBlanks, solid_skipBlanks]

theorem solid_collapse (s : List Char) : solid (collapse s) = solid s := by
  induction s with
  | nil => rfl
  | cons c s ih =>
    unfold collapse
    split
    · next hc =>
      rw [solid_cons_of_isBlank hc, ← ih]
      split
      · next heq => rw [heq]
      · exact solid_cons_of_isBlank isBlank_space _
    · exact solid_cons_congr c ih

/-- Closing brackets only takes blanks away. -/
theorem solid_closeBrackets (s : List Char) : solid (closeBrackets s) = solid s := by
  fun_induction closeBrackets s with
  | case1 => rfl
  | case2 c r inside hopen rest hclose ih =>
    have hwhole : solid (c :: r) = '[' :: solid inside := by
      rw [← solid_skipBlanks, hopen]
      exact solid_cons_of_not_isBlank (by decide) inside
    have hinside : solid inside = ']' :: solid rest := by
      rw [← solid_skipBlanks, hclose]
      exact solid_cons_of_not_isBlank (by decide) rest
    rw [hwhole, hinside, ← ih]
    rfl
  | case3 c r _ _ _ ih => exact solid_cons_congr c ih
  | case4 c r _ ih => exact solid_cons_congr c ih

theorem solid_filter_space (s : List Char) : solid (s.filter (· != ' ')) = solid s := by
  unfold solid
  rw [List.filter_filter]
  apply List.filter_congr
  intro c _
  by_cases hc : c = ' '
  · rw [hc]
    rfl
  · simp [hc]

/-- The canonical spelling of an operator has the characters of every other one, blanks apart. -/
theorem solid_canonicalOperator {s : List Char} (h : "operator".toList <+: s) :
    solid (canonicalOperator s) = solid s := by
  obtain ⟨rest, rfl⟩ := h
  have hrest : solid (trim (collapse rest)) = solid rest := by rw [solid_trim, solid_collapse]
  have hdrop : ("operator".toList ++ rest).drop 8 = rest := rfl
  unfold canonicalOperator
  rw [hdrop, solid_append, ← hrest]
  generalize trim (collapse rest) = tidy
  rcases tidy with - | ⟨c, tidy⟩
  · rfl
  simp only
  split
  · rw [solid_append, solid_closeBrackets]
    rfl
  · rw [solid_append, solid_filter_space]

theorem isBracketed_iff_of_solid {s t : List Char} (h : solid s = solid t) :
    IsBracketed s ↔ IsBracketed t := by
  have hsolid : ∀ s, IsBracketed s ↔ IsBracketed (solid s) := fun s =>
    ⟨fun hs => List.Sublist.filter (fun c => !isBlank c) hs, .mono List.filter_sublist⟩
  rw [hsolid s, h, ← hsolid t]

theorem mem_iff_of_solid {s t : List Char} (h : solid s = solid t) {c : Char}
    (hc : isBlank c = false) : c ∈ s ↔ c ∈ t := by
  have hsolid : ∀ s, c ∈ s ↔ c ∈ solid s := fun s => by simp [solid, hc]
  rw [hsolid s, h, ← hsolid t]

theorem trim_sublist (s : List Char) : (trim s).Sublist s := by
  have htrailing : ∀ t, (dropTrailingBlanks t).Sublist t := by
    intro t
    induction t with
    | nil => exact .refl _
    | cons c t ih =>
      unfold dropTrailingBlanks
      split
      · split
        · exact List.nil_sublist _
        · exact (List.nil_sublist t).cons_cons c
      · exact ih.cons_cons c
  exact (htrailing _).trans (List.dropWhile_sublist _)

/-- A text that differs from a name in blanks only, cut out as the last component of a qualified
name, gives this name exactly if it is spelled like it up to the blanks at its ends, and nothing in
it looks like template arguments. -/
theorem trim_dropTemplateArgs_eq_iff {s name : List Char} (h : solid name = solid s) :
    trim (dropTemplateArgs s) = name ↔ trim s = name ∧ ¬IsBracketed name := by
  have hbracketed := isBracketed_iff_of_solid h
  constructor
  · rintro hname
    have hfree : ¬IsBracketed name := by
      rw [← hname]
      exact fun hb => not_isBracketed_dropTemplateArgs s (hb.mono (trim_sublist _))
    refine ⟨?_, hfree⟩
    rw [← dropTemplateArgs_eq_self (hbracketed.not.1 hfree), hname]
  · rintro ⟨hname, hfree⟩
    rw [dropTemplateArgs_eq_self (hbracketed.not.1 hfree), hname]

end Spelling

end Unreferenced
