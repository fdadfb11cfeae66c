/-
Unreferenced/Text/Blank.lean

Blank characters.  A blank is a space, a tab, a line or page break, one of the
four information separators U+001C to U+001F, or one of the wider spaces of
Unicode; the zero-width space U+200B is not blank.

Three operations work on runs of blanks: `skipBlanks` drops a leading run,
`trim` drops the runs at both ends, and `collapse` writes each run as one
space.
-/

namespace Unreferenced.Text

/-- Whether `c` separates words. -/
def isBlank (c : Char) : Bool :=
  let n := c.toNat
  (decide (0x09 ≤ n) && decide (n ≤ 0x0d)) || (decide (0x1c ≤ n) && decide (n ≤ 0x20)) ||
    n == 0x85 || n == 0xa0 || n == 0x1680 || (decide (0x2000 ≤ n) && decide (n ≤ 0x200a)) ||
    n == 0x2028 || n == 0x2029 || n == 0x202f || n == 0x205f || n == 0x3000

/-- The text without its leading blanks. -/
def skipBlanks (s : List Char) : List Char :=
  s.dropWhile isBlank

/-- The text without its trailing blanks. -/
def dropTrailingBlanks : List Char → List Char
  | [] => []
  | c :: r =>
    match dropTrailingBlanks r with
    | [] => if isBlank c then [] else [c]
    | t => c :: t

/-- The text without the blanks at its two ends. -/
def trim (s : List Char) : List Char :=
  dropTrailingBlanks (skipBlanks s)

/-- Every run of blanks written as one space. -/
def collapse : List Char → List Char
  | [] => []
  | c :: r =>
    if isBlank c then
      match collapse r with
      | ' ' :: t => ' ' :: t
      | t => ' ' :: t
    else c :: collapse r

@[simp] theorem isBlank_space : isBlank ' ' = true := by decide

/-- Skipping blanks never makes a text longer. -/
theorem length_skipBlanks_le (s : List Char) : (skipBlanks s).length ≤ s.length :=
  (List.dropWhile_sublist _).length_le

/-- What is left after skipping blanks does not start with one. -/
theorem isBlank_of_skipBlanks_eq_cons {s t : List Char} {c : Char} (h : skipBlanks s = c :: t) :
    isBlank c = false := by
  have := List.head?_dropWhile_not isBlank s
  simp_all [skipBlanks]

end Unreferenced.Text
