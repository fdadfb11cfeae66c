/-
Unreferenced/Pattern/Basic.lean

Search patterns (regular expressions) and the number of characters their matches
take.

Flags do not occur in a pattern: where one is in force, the parts it concerns
are other ones, such as a set of characters that ignores case.
-/
import Unreferenced.Pattern.CharSet

namespace Unreferenced

/-- A condition on a place in a text. -/
inductive Place where
  | textStart
  | textEnd
  /-- The end of the text, or the place before a line feed that ends it. -/
  | lastLineEnd
  /-- The start of any line. -/
  | lineStart
  /-- The end of any line. -/
  | lineEnd
  /-- A place with a word character on exactly one side, or any other place. -/
  | boundary (ascii negated : Bool)
deriving DecidableEq, Repr

/-- In which order a repetition tries how often to repeat. -/
inductive Manner where
  /-- The most repetitions first. -/
  | greedy
  /-- The fewest repetitions first. -/
  | reluctant
  /-- As many as possible; whatever matched is never given back. -/
  | possessive
deriving DecidableEq, Repr

/-- A search pattern. -/
inductive Pattern where
  /-- Matches everywhere, and takes nothing. -/
  | empty
  | one (set : CharSet)
  | place (p : Place)
  | seq (p q : Pattern)
  /-- The first pattern or, if that leads to no match, the second. -/
  | alt (p q : Pattern)
  /-- A numbered group, which remembers what it matched. -/
  | group (index : Nat) (p : Pattern)
  /-- What a group matched, once more. -/
  | reference (index : Nat) (casing : Casing)
  /-- The first pattern if a group has matched, else the second. -/
  | conditional (index : Nat) (p q : Pattern)
  /-- A place at which a match starts, or at which none does. -/
  | ahead (negated : Bool) (p : Pattern)
  /-- A place before which a match of `width` characters stands, or none does. -/
  | behind (negated : Bool) (width : Nat) (p : Pattern)
  /-- Only the first way of matching. -/
  | atomic (p : Pattern)
  /-- At least `least` matches in a row, and at most `most` if there is a bound. -/
  | repeated (p : Pattern) (least : Nat) (most : Option Nat) (manner : Manner)
deriving Repr

/-- The least and the largest number of characters a match can take, if there is a largest. -/
structure Width where
  least : Nat
  most : Option Nat
deriving DecidableEq, Repr

namespace Width

/-- No character. -/
def zero : Width := ⟨0, some 0⟩

/-- The width of two parts in a row. -/
def add (v w : Width) : Width where
  least := v.least + w.least
  most :=
    match v.most, w.most with
    | some a, some b => some (a + b)
    | _, _ => none

/-- The width of either of two parts. -/
def union (v w : Width) : Width where
  least := min v.least w.least
  most :=
    match v.most, w.most with
    | some a, some b => some (max a b)
    | _, _ => none

/-- The width of a part that is repeated. -/
def times (w : Width) (least : Nat) (most : Option Nat) : Width where
  least := w.least * least
  most :=
    match w.most, most with
    | some 0, _ => some 0
    | _, some 0 => some 0
    | some a, some m => some (a * m)
    | _, _ => none

/-- The one number of characters, if there is only one and it is not beyond all bounds. -/
def fixed? (w : Width) : Option Nat :=
  if w.most = some w.least ∧ w.least < 4294967296 then some w.least else none

end Width

/-- The width of a pattern, given those of the groups it refers to. -/
def Pattern.width (groups : List (Nat × Width)) : Pattern → Width
  | .empty => .zero
  | .one _ => ⟨1, some 1⟩
  | .place _ => .zero
  | .seq p q => (p.width groups).add (q.width groups)
  | .alt p q => (p.width groups).union (q.width groups)
  | .group _ p => p.width groups
  | .reference index _ => (groups.lookup index).getD .zero
  | .conditional _ p q => (p.width groups).union (q.width groups)
  | .ahead _ _ => .zero
  | .behind _ _ _ => .zero
  | .atomic p => p.width groups
  | .repeated p least most _ => (p.width groups).times least most

end Unreferenced
