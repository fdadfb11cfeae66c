/-
Unreferenced/Text/Digit.lean

ASCII digits of the bases eight, ten and sixteen, and their values.
-/

namespace Unreferenced.Text

/-- Whether `c` is one of `0` to `9`. -/
def isDigit (c : Char) : Bool :=
  decide ('0' ≤ c) && decide (c ≤ '9')

/-- Whether `c` is one of `0` to `7`. -/
def isOctalDigit (c : Char) : Bool :=
  decide ('0' ≤ c) && decide (c ≤ '7')

/-- The value of a decimal digit. -/
def digitValue (c : Char) : Nat :=
  c.toNat - '0'.toNat

/-- The value of a hexadecimal digit. -/
def hexValue? (c : Char) : Option Nat :=
  if '0' ≤ c ∧ c ≤ '9' then some (c.toNat - '0'.toNat)
  else if 'a' ≤ c ∧ c ≤ 'f' then some (c.toNat - 'a'.toNat + 10)
  else if 'A' ≤ c ∧ c ≤ 'F' then some (c.toNat - 'A'.toNat + 10)
  else none

/-- The leading decimal digits of a text, and the rest. -/
def leadingDigits (s : List Char) : List Char × List Char :=
  (s.takeWhile isDigit, s.dropWhile isDigit)

/-- The number that decimal digits spell. -/
def digitsValue (s : List Char) : Nat :=
  s.foldl (fun n c => n * 10 + digitValue c) 0

/-- The number that `count` hexadecimal digits at the start of a text spell when they continue
`value`, and the rest. -/
def hexNumber? : Nat → Nat → List Char → Option (Nat × List Char)
  | 0, value, s => some (value, s)
  | _ + 1, _, [] => none
  | count + 1, value, c :: r =>
    match hexValue? c with
    | some d => hexNumber? count (value * 16 + d) r
    | none => none

/-- The number that at most `count` octal digits at the start of a text spell when they continue
`value`, and the rest. -/
def octalNumber : Nat → Nat → List Char → Nat × List Char
  | 0, value, s => (value, s)
  | _ + 1, value, [] => (value, [])
  | count + 1, value, c :: r =>
    if isOctalDigit c then octalNumber count (value * 8 + digitValue c) r else (value, c :: r)

end Unreferenced.Text
