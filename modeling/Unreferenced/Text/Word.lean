/-
Unreferenced/Text/Word.lean

Word characters and what is read off them: the maximal runs of word characters
of a text, and the identifiers that occur in it.

An identifier starts with an ASCII letter or an underscore and goes on as long
as word characters follow.  It need not start where a run does: `9abc` holds
the identifier `abc`.
-/
import Unreferenced.Text.Letter
import Unreferenced.Text.Numeral

namespace Unreferenced.Text

/-- Whether `c` can stand inside a word: a letter, a numeral or an underscore. -/
def isWord (c : Char) : Bool :=
  c == '_' || isAsciiLetter c || (decide ('0' ≤ c) && decide (c ≤ '9')) ||
    (decide (0x80 ≤ c.toNat) && (isLetter c || isNumeral c))

/-- Whether `c` can start an identifier. -/
def isIdentifierStart (c : Char) : Bool :=
  c == '_' || isAsciiLetter c

/-- The maximal runs of word characters of a text, in order. -/
def words : List Char → List (List Char)
  | [] => []
  | c :: r =>
    if isWord c then
      match r with
      | [] => [[c]]
      | d :: _ =>
        if isWord d then
          match words r with
          | [] => [[c]]
          | w :: ws => (c :: w) :: ws
        else [c] :: words r
    else words r

/-- Whether `w` occurs in `s` with no word character on either side. -/
def hasWord (w : String) (s : String) : Bool :=
  (words s.toList).contains w.toList

/-- The identifiers of a text, left to right. -/
def identifiers (s : List Char) : List (List Char) :=
  match s with
  | [] => []
  | c :: r =>
    if isIdentifierStart c then
      (c :: r.takeWhile isWord) :: identifiers (r.dropWhile isWord)
    else identifiers r
termination_by s.length
decreasing_by
  · have := (List.dropWhile_sublist isWord (l := r)).length_le
    simp only [List.length_cons]
    omega
  · simp

end Unreferenced.Text
