/-
Unreferenced/Pattern/Matching.lean

Matching patterns.  `Pattern.run p text next s` matches `p` from the place `s` on
and goes on with `next` from where the match ends.  If `next` fails there, the
next way of matching `p` is tried, in the order of preference that the pattern
gives, and the first success is the result.

A repetition does not go on after a round that took nothing and was not due, and
the rounds that are due are done as soon as one of them changes nothing.  So the
length of the text and the size of the pattern bound the number of rounds.
-/
import Unreferenced.Pattern.Basic

namespace Unreferenced

open Text

/-- How far a match has come: its place in the text, and the places where groups started and
stopped last. -/
structure Spot where
  position : Nat
  starts : List (Nat × Nat) := []
  stops : List (Nat × Nat) := []
deriving DecidableEq, Repr

namespace Spot

/-- The part of the text that a group matched. -/
def matched? (s : Spot) (index : Nat) : Option (Nat × Nat) :=
  match s.starts.lookup index, s.stops.lookup index with
  | some a, some b => if a ≤ b then some (a, b) else none
  | _, _ => none

/-- Marks of groups with the one of a group set. -/
def setMark (index position : Nat) (marks : List (Nat × Nat)) : List (Nat × Nat) :=
  (index, position) :: marks.filter fun m => m.1 != index

/-- The place with a group opened at it. -/
def openGroup (s : Spot) (index : Nat) : Spot :=
  { s with starts := setMark index s.position s.starts }

/-- The place with a group closed at it. -/
def closeGroup (s : Spot) (index : Nat) : Spot :=
  { s with stops := setMark index s.position s.stops }

end Spot

/-- Whether a word character stands at a position. -/
def isWordAt (text : Array Char) (ascii : Bool) (position : Nat) : Bool :=
  text[position]?.any (CharClass.word.has ascii)

/-- Whether a position in a text meets a condition. -/
def Place.holds (text : Array Char) (position : Nat) : Place → Bool
  | .textStart => position == 0
  | .textEnd => position == text.size
  | .lastLineEnd =>
    position == text.size || (position + 1 == text.size && text[position]? == some '\n')
  | .lineStart => position == 0 || text[position - 1]? == some '\n'
  | .lineEnd => position == text.size || text[position]? == some '\n'
  | .boundary ascii negated =>
    text.size != 0 &&
      ((position != 0 && isWordAt text ascii (position - 1)) != isWordAt text ascii position)
        != negated

/-- Whether the same `count` characters stand at two positions. -/
def isRepeated (text : Array Char) (casing : Casing) (first second : Nat) : Nat → Bool
  | 0 => true
  | count + 1 =>
    (match text[first]?, text[second]? with
      | some c, some d => casing.same c d
      | _, _ => false) && isRepeated text casing (first + 1) (second + 1) count

/-- How a match goes on. -/
abbrev Continuation := Spot → Option Spot

/-- Repeat `body` and then go on with `next`.  `count` rounds are done, and `last` is where the last
one started that was not due.  At most `fuel` further steps are made. -/
def rounds (body : Continuation → Continuation) (least : Nat) (most : Option Nat) (greedy : Bool)
    (next : Continuation) : Nat → Nat → Option Nat → Continuation
  | 0, _, _, _ => none
  | fuel + 1, count, last, s =>
    if count < least then
      let after (t : Spot) : Option Spot :=
        let count := if t = s then least else count + 1
        rounds body least most greedy next fuel count last t
      body after s
    else
      let mayGoOn := (most.all fun m => decide (count < m)) && last != some s.position
      let after := rounds body least most greedy next fuel (count + 1) (some s.position)
      if greedy then
        match if mayGoOn then body after s else none with
        | some t => some t
        | none => next s
      else
        match next s with
        | some t => some t
        | none => if mayGoOn then body after s else none

namespace Pattern

/-- The number of parts of a pattern. -/
def size : Pattern → Nat
  | .seq p q | .alt p q | .conditional _ p q => p.size + q.size + 1
  | .group _ p | .ahead _ p | .behind _ _ p | .atomic p | .repeated p _ _ _ => p.size + 1
  | _ => 1

/-- Match a pattern and go on. -/
def run (text : Array Char) : Pattern → Continuation → Continuation
  | .empty, next, s => next s
  | .one set, next, s =>
    match text[s.position]? with
    | some c => if set.has c then next { s with position := s.position + 1 } else none
    | none => none
  | .place p, next, s => if p.holds text s.position then next s else none
  | .seq p q, next, s => p.run text (q.run text next) s
  | .alt p q, next, s =>
    match p.run text next s with
    | some t => some t
    | none => q.run text next s
  | .group index p, next, s => p.run text (fun t => next (t.closeGroup index)) (s.openGroup index)
  | .reference index casing, next, s =>
    match s.matched? index with
    | some (a, b) =>
      if isRepeated text casing a s.position (b - a) then
        next { s with position := s.position + (b - a) }
      else none
    | none => none
  | .conditional index p q, next, s =>
    if (s.matched? index).isSome then p.run text next s else q.run text next s
  | .ahead negated p, next, s =>
    match p.run text some s with
    | some t => if negated then none else next { t with position := s.position }
    | none => if negated then next s else none
  | .behind negated width p, next, s =>
    if s.position < width then if negated then next s else none
    else
      match p.run text some { s with position := s.position - width } with
      | some t => if negated then none else next { t with position := s.position }
      | none => if negated then next s else none
  | .atomic p, next, s =>
    match p.run text some s with
    | some t => next t
    | none => none
  | .repeated p least most manner, next, s =>
    let fuel := (text.size + 2) * (2 * p.size + 4)
    match manner with
    | .greedy => rounds (p.run text) least most true next fuel 0 none s
    | .reluctant => rounds (p.run text) least most false next fuel 0 none s
    | .possessive =>
      let body (next : Continuation) (t : Spot) : Option Spot :=
        match p.run text some t with
        | some t => next t
        | none => none
      match rounds body least most true some fuel 0 none s with
      | some t => next t
      | none => none

/-- Whether a text contains a match. -/
def foundIn (p : Pattern) (s : String) : Bool :=
  let text := s.toList.toArray
  (List.range (text.size + 1)).any fun i => (p.run text some { position := i }).isSome

end Pattern

end Unreferenced
