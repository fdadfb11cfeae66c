/-
Unreferenced/CommandLine/Count.lean

Counts as they are given on a command line.  A count is a row of ASCII digits
with single underscores between them.  Blanks around it, a plus sign, zeros in
front and a fraction of zeros only are allowed and mean nothing: ` +004_0.00 ` is
forty.
-/
import Unreferenced.Text.Digit
import Unreferenced.Text.Integer

namespace Unreferenced.CommandLine

open Text

/-- The text from its first digit other than zero.  Zeros and underscores before it are dropped,
`last` being the latest of them; of zeros that are all there is before a point or the end, the
latest is kept. -/
def skipZeros? (last : Char) : List Char → Option (List Char)
  | [] => some [last]
  | c :: r =>
    if c = '0' ∨ c = '_' then skipZeros? c r
    else if c = '.' then some (last :: c :: r)
    else if isDigit c then some (c :: r)
    else none

/-- The text without the zeros in front; it has to start with a digit. -/
def withoutLeadingZeros? : List Char → Option (List Char)
  | '0' :: r => skipZeros? '0' r
  | c :: r => if isDigit c then some (c :: r) else none
  | [] => none

/-- The text without a fraction in which there is no digit but zero. -/
def withoutZeroFraction (s : List Char) : List Char :=
  let whole := s.takeWhile (· != '.')
  if (s.drop (whole.length + 1)).all (· == '0') then whole else s

/-- The text without one plus sign in front. -/
def withoutPlus : List Char → List Char
  | '+' :: r => r
  | s => s

/-- The count that a text spells. -/
def count? (s : String) : Option Nat :=
  let body := ((s.toList.dropWhile isNumberBlank).reverse.dropWhile isNumberBlank).reverse
  match withoutLeadingZeros? (withoutPlus body) with
  | none => none
  | some digits =>
    let whole := withoutZeroFraction digits
    if whole.all fun c => c == '_' || isDigit c then natural? whole else none

end Unreferenced.CommandLine
