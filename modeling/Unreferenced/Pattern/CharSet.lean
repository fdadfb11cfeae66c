/-
Unreferenced/Pattern/CharSet.lean

The sets of characters that patterns are made of, and how a character is compared
with them: exactly, or with the case of ASCII letters or of all letters ignored.

Where case is ignored a character belongs to a range if some member of the range
is the same letter.  It is enough to look at the few code points that are
lowered to the same letter, so a range is never run through.
-/
import Unreferenced.Text.Blank
import Unreferenced.Text.Case
import Unreferenced.Text.Word

namespace Unreferenced

open Text

/-- How characters are compared. -/
inductive Casing where
  | exact
  /-- The case of ASCII letters is ignored. -/
  | ascii
  /-- The case of all letters is ignored. -/
  | unicode
deriving DecidableEq, Repr

namespace Casing

/-- What a code point is compared as. -/
def fold : Casing → Nat → Nat
  | .exact, n => n
  | .ascii, n => lowerAsciiPoint n
  | .unicode, n => lower n

/-- The code points that are compared as a given one. -/
def origins : Casing → Nat → List Nat
  | .exact, n => [n]
  | .ascii, n => lowerAsciiOrigins n
  | .unicode, n => lowerOrigins n

/-- The folded code points that count as a folded one, itself first. -/
def kin : Casing → Nat → List Nat
  | .unicode, n => sameLetters n
  | _, n => [n]

/-- Whether some code point from `low` to `high` counts as `n`. -/
def within (k : Casing) (low high n : Nat) : Bool :=
  (k.kin (k.fold n)).any fun m =>
    (k.origins m).any fun i => decide (low ≤ i) && decide (i ≤ high)

/-- Whether two characters are compared as the same. -/
def same (k : Casing) (c d : Char) : Bool :=
  k.fold c.toNat == k.fold d.toNat

end Casing

/-- The classes of characters that have an escape of their own. -/
inductive CharClass where
  | digit
  | word
  | blank
deriving DecidableEq, Repr

/-- Whether a character belongs to a class, of which only the ASCII characters count if `ascii` is
set. -/
def CharClass.has (ascii : Bool) (cls : CharClass) (c : Char) : Bool :=
  (!ascii || decide (c.toNat < 0x80)) &&
    match cls with
    | .digit => (decimalValue? c).isSome
    | .word => isWord c
    | .blank => isBlank c && !(ascii && decide (0x1c ≤ c.toNat) && decide (c.toNat ≤ 0x1f))

/-- One item of a set of characters. -/
inductive CharItem where
  | range (low high : Nat)
  /-- A code point listed among others.  One beyond U+FFFF has to be met in lower case: it counts
  only as itself. -/
  | listed (n : Nat)
  | ofClass (cls : CharClass) (ascii negated : Bool)
deriving DecidableEq, Repr

/-- Whether a character belongs to an item. -/
def CharItem.has (k : Casing) (i : CharItem) (c : Char) : Bool :=
  match i with
  | .range low high => k.within low high c.toNat
  | .listed n => if k.fold n < 0x10000 then k.within n n c.toNat else k.fold c.toNat == n
  | .ofClass cls ascii negated => cls.has ascii c != negated

/-- A set of characters: those of some item, or those of none. -/
structure CharSet where
  casing : Casing := .exact
  negated : Bool := false
  items : List CharItem
deriving DecidableEq, Repr

/-- Whether a character belongs to a set. -/
def CharSet.has (s : CharSet) (c : Char) : Bool :=
  (s.items.any fun i => i.has s.casing c) != s.negated

end Unreferenced
