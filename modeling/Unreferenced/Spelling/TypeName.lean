/-
Unreferenced/Spelling/TypeName.lean

The canonical spelling of a type.  Two spellings of a type that differ only in
elaborating keywords (`struct S` for `S`) or in their spacing get the same
canonical form:

* an elaborating keyword goes, with the blanks after it;
* a run of blanks becomes one space, and none stands at an end;
* no blank stands next to one of `*`, `&`, `,`, `<`, `>`, `(`, `)`, `[`, `]`.

Blanks that only separate words stay (`unsigned long`), and so do blanks around
a double colon.
-/
import Unreferenced.Text.Blank
import Unreferenced.Text.Cut
import Unreferenced.Text.Word

namespace Unreferenced.Spelling

open Text

/-! ### Elaborating keywords -/

/-- The keywords that may stand before the name of a class, an enumeration or a dependent type. -/
def elaborators : List (List Char) :=
  ["struct".toList, "class".toList, "union".toList, "enum".toList, "typename".toList]

/-- What follows an elaborating keyword and the blanks after it, if the text begins with them. -/
def afterElaborator? (s : List Char) : Option (List Char) :=
  elaborators.findSome? fun w =>
    match after? w s with
    | some (c :: r) => if isBlank c then some (skipBlanks r) else none
    | _ => none

theorem length_lt_of_afterElaborator? {s rest : List Char} (h : afterElaborator? s = some rest) :
    rest.length < s.length := by
  simp only [afterElaborator?] at h
  obtain ⟨w, -, hw⟩ := List.exists_of_findSome?_eq_some h
  split at hw
  · next c r heq =>
    split at hw
    · simp only [Option.some.injEq] at hw
      have hs := after?_eq_some_iff.1 heq
      have := length_skipBlanks_le r
      subst hw hs
      simp only [List.length_append, List.length_cons]
      omega
    · simp at hw
  · simp at hw

/-- The text without its elaborating keywords; `afterWord` tells whether a word character stands
right before it, so that a word ending in a keyword is left alone. -/
def dropElaborators (afterWord : Bool) (s : List Char) : List Char :=
  match s with
  | [] => []
  | c :: r =>
    if afterWord then c :: dropElaborators (isWord c) r
    else
      match _h : afterElaborator? (c :: r) with
      | some rest => dropElaborators false rest
      | none => c :: dropElaborators (isWord c) r
termination_by s.length
decreasing_by
  · simp
  · exact length_lt_of_afterElaborator? _h
  · simp

/-! ### Spacing -/

/-- The characters that need no blank next to them. -/
def isTight (c : Char) : Bool :=
  ['*', '&', ',', '<', '>', '(', ')', '[', ']'].contains c

/-- The text without the blanks that follow a tight character; `afterTight` tells whether one stands
right before it. -/
def dropBlanksAfterTight (afterTight : Bool) : List Char → List Char
  | [] => []
  | c :: r =>
    if afterTight && isBlank c then dropBlanksAfterTight true r
    else c :: dropBlanksAfterTight (isTight c) r

/-- The text without the blanks next to a tight character. -/
def tighten (s : List Char) : List Char :=
  (dropBlanksAfterTight false (dropBlanksAfterTight false s).reverse).reverse

/-- The canonical spelling of a type, on characters. -/
def canonicalType (s : List Char) : List Char :=
  tighten (trim (collapse (dropElaborators false s)))

/-- The canonical spelling of a type. -/
def typeName (s : String) : String :=
  String.ofList (canonicalType s.toList)

end Unreferenced.Spelling
