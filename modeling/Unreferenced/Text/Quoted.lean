/-
Unreferenced/Text/Quoted.lean

Texts quoted in messages.  A text stands between single quotes, or between
double quotes if it holds a single quote and no double one.  The quote in use
and the backslash get a backslash before them, and what cannot be printed is
written as an escape: `\t`, `\n`, `\r`, or its code point in two, four or eight
hexadecimal digits.
-/
import Unreferenced.Text.Printable

namespace Unreferenced.Text

/-- The number in hexadecimal, filled up with zeros on the left to `width` digits. -/
def hexadecimal (width n : Nat) : List Char :=
  let digits := Nat.toDigits 16 n
  List.replicate (width - digits.length) '0' ++ digits

/-- One character as it is written between the quotes `quote`. -/
def quotedChar (quote c : Char) : List Char :=
  if c = quote ∨ c = '\\' then ['\\', c]
  else if c = '\t' then ['\\', 't']
  else if c = '\n' then ['\\', 'n']
  else if c = '\r' then ['\\', 'r']
  else if isPrintable c then [c]
  else if c.toNat ≤ 0xff then '\\' :: 'x' :: hexadecimal 2 c.toNat
  else if c.toNat ≤ 0xffff then '\\' :: 'u' :: hexadecimal 4 c.toNat
  else '\\' :: 'U' :: hexadecimal 8 c.toNat

/-- The quote for a text: single unless only single quotes occur in it. -/
def quoteFor (s : List Char) : Char :=
  if s.contains '\'' && !s.contains '"' then '"' else '\''

/-- The text between quotes. -/
def quoted (s : String) : String :=
  let quote := quoteFor s.toList
  String.ofList (quote :: s.toList.flatMap (quotedChar quote) ++ [quote])

end Unreferenced.Text
