/-
Unreferenced/Text/Integer.lean

Whole numbers as a user writes them: blanks around, an optional sign, decimal
digits of any script with single underscores between them.  The information
separators U+001C to U+001F do not count as blanks here, and a number of more
than 4300 digits is refused.
-/
import Unreferenced.Text.Blank
import Unreferenced.Text.Numeral

namespace Unreferenced.Text

/-- The most digits a number may be written with. -/
def maxDigits : Nat := 4300

/-- Whether `c` may stand around a number. -/
def isNumberBlank (c : Char) : Bool :=
  isBlank c && !(decide (0x1c ≤ c.toNat) && decide (c.toNat ≤ 0x1f))

/-- The value and the number of the digits of a text that continues the number `value` of `count`
digits; `afterDigit` tells whether an underscore may come next. -/
def digitsFrom (value count : Nat) (afterDigit : Bool) : List Char → Option (Nat × Nat)
  | [] => if afterDigit then some (value, count) else none
  | c :: r =>
    if c = '_' then
      if afterDigit then digitsFrom value count false r else none
    else
      match decimalValue? c with
      | some d => digitsFrom (value * 10 + d) (count + 1) true r
      | none => none

/-- The value of a nonempty text of digits. -/
def natural? (s : List Char) : Option Nat :=
  match digitsFrom 0 0 false s with
  | some (value, count) => if count ≤ maxDigits then some value else none
  | none => none

/-- The value of a written whole number. -/
def integer? (s : String) : Option Int :=
  let body := ((s.toList.dropWhile isNumberBlank).reverse.dropWhile isNumberBlank).reverse
  match body with
  | '-' :: r => (natural? r).map fun n => -(n : Int)
  | '+' :: r => (natural? r).map fun n => (n : Int)
  | r => (natural? r).map fun n => (n : Int)

end Unreferenced.Text
