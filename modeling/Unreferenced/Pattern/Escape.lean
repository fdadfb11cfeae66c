/-
Unreferenced/Pattern/Escape.lean

Escapes and sets of characters as they are written in patterns.

After a backslash a letter stands for a class of characters, a control character,
a number in hexadecimal digits or the name of a character in braces, and any
other letter is a fault; a mark stands for itself.  Inside a set up to three
octal digits are a number as well.
-/
import Unreferenced.Pattern.CharSet
import Unreferenced.Text.CharacterNames
import Unreferenced.Text.Digit

namespace Unreferenced.Pattern

open Text

/-- The code point of a letter that stands for a control character. -/
def control? : Char → Option Nat
  | 'a' => some 7
  | 'f' => some 12
  | 'n' => some 10
  | 'r' => some 13
  | 't' => some 9
  | 'v' => some 11
  | _ => none

/-- The class a letter stands for. -/
def class? (ascii : Bool) : Char → Option CharItem
  | 'd' => some (.ofClass .digit ascii false)
  | 'D' => some (.ofClass .digit ascii true)
  | 's' => some (.ofClass .blank ascii false)
  | 'S' => some (.ofClass .blank ascii true)
  | 'w' => some (.ofClass .word ascii false)
  | 'W' => some (.ofClass .word ascii true)
  | _ => none

/-- The code point of a character whose name stands in braces, and what follows. -/
def namedPoint? (s : List Char) : Option (Nat × List Char) :=
  match s with
  | '{' :: r =>
    match r.dropWhile (· != '}') with
    | _ :: rest => (named? (r.takeWhile (· != '}'))).map fun n => (n, rest)
    | [] => none
  | _ => none

/-- The item that the escape of the character `c` stands for both inside and outside of sets, and
what follows it. -/
def escapedItem? (ascii : Bool) (c : Char) (r : List Char) : Option (CharItem × List Char) :=
  match class? ascii c, control? c with
  | some i, _ => some (i, r)
  | none, some n => some (.listed n, r)
  | none, none =>
    if c = 'x' then (hexNumber? 2 0 r).map fun (n, r) => (.listed n, r)
    else if c = 'u' then (hexNumber? 4 0 r).map fun (n, r) => (.listed n, r)
    else if c = 'U' then
      match hexNumber? 8 0 r with
      | some (n, r) => if n < 0x110000 then some (.listed n, r) else none
      | none => none
    else if c = 'N' then (namedPoint? r).map fun (n, r) => (.listed n, r)
    else if isAsciiLetter c || isDigit c then none
    else some (.listed c.toNat, r)

/-- The item at the start of the inside of a set, and what follows. -/
def setItem? (ascii : Bool) (s : List Char) : Option (CharItem × List Char) :=
  match s with
  | [] => none
  | '\\' :: 'b' :: r => some (.listed 8, r)
  | '\\' :: c :: r =>
    if isOctalDigit c then
      let (n, r) := octalNumber 3 0 (c :: r)
      if n < 256 then some (.listed n, r) else none
    else escapedItem? ascii c r
  | ['\\'] => none
  | c :: r => some (.listed c.toNat, r)

/-- The range from one item to another, if both are single characters in order. -/
def range? : CharItem → CharItem → Option CharItem
  | .listed a, .listed b => if a ≤ b then some (.range a b) else none
  | _, _ => none

/-- The items of a set up to its closing bracket, and what follows; a closing bracket that comes
first stands for itself. -/
def setItems? (ascii : Bool) (items : List CharItem) (s : List Char) :
    Option (List CharItem × List Char) :=
  match s with
  | [] => none
  | c :: r =>
    if c = ']' ∧ items ≠ [] then some (items.reverse, r)
    else
      match setItem? ascii (c :: r) with
      | none => none
      | some (i, rest) =>
        match rest with
        | '-' :: ']' :: rest => some ((.listed '-'.toNat :: i :: items).reverse, rest)
        | '-' :: rest =>
          match setItem? ascii rest with
          | none => none
          | some (j, rest) =>
            match range? i j with
            | none => none
            | some k =>
              if rest.length < (c :: r).length then setItems? ascii (k :: items) rest else none
        | rest =>
          if rest.length < (c :: r).length then setItems? ascii (i :: items) rest else none
termination_by s.length
decreasing_by all_goals assumption

/-- A code point that stands by itself. -/
def single (n : Nat) : CharItem := .range n n

/-- The items of a set; if they are all one code point, it stands by itself. -/
def simplified (items : List CharItem) : List CharItem :=
  match items with
  | .listed n :: rest => if rest.all (· == .listed n) then [single n] else items
  | _ => items

/-- The set after its opening bracket, and what follows. -/
def set? (casing : Casing) (ascii : Bool) (s : List Char) : Option (CharSet × List Char) :=
  match s with
  | '^' :: r => (setItems? ascii [] r).map fun (items, r) => (⟨casing, true, simplified items⟩, r)
  | r => (setItems? ascii [] r).map fun (items, r) => (⟨casing, false, simplified items⟩, r)

end Unreferenced.Pattern
