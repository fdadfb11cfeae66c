/-
Unreferenced/Terminal.lean

What reaches a terminal.  Icons outside ASCII are replaced on a terminal that
does not write UTF-8.  The console shows emoji for their codes, leaves out the
control characters that would move it, and fills up tabs with spaces.  Text that
goes through a markup reader has its tags escaped.
-/
import Unreferenced.Text.CellWidth
import Unreferenced.Text.Cut
import Unreferenced.Text.Emoji
import Unreferenced.Text.Letter

namespace Unreferenced

open Text

/-- A table to be drawn: a title, column heads and rows of cells. -/
structure Table where
  title : String
  columns : List String
  rows : List (List String)
deriving DecidableEq, Repr

namespace Terminal

/-- Whether a terminal with this encoding writes UTF-8.  The names are ASCII, so lowering ASCII
letters decides the question for every text. -/
def writesUtf8 (encoding : String) : Bool :=
  ["utf-8", "utf8", "utf_8"].contains (String.ofList (encoding.toList.map lowerAscii))

/-- The ASCII form of an icon; every other character is itself. -/
def plainIcon (c : Char) : List Char :=
  match c with
  | '✓' => "[OK]".toList
  | '✗' => "[FAIL]".toList
  | '⚠' => "[WARN]".toList
  | '→' => "->".toList
  | '←' => "<-".toList
  | '⇒' => "=>".toList
  | '│' => "|".toList
  | '─' => "-".toList
  | '…' => "...".toList
  | '•' => "*".toList
  | _ => [c]

/-- The text a terminal with this encoding is given. -/
def adapted (encoding text : String) : String :=
  if writesUtf8 encoding then text else String.ofList (text.toList.flatMap plainIcon)

/-- Several items written in one line, with a space between them. -/
def itemsLine (encoding : String) (items : List String) : String :=
  " ".intercalate (items.map (adapted encoding)) ++ "\n"

/-! ### The console -/

/-- Whether `c` moves the console: the bell, the backspace, the carriage return and the breaks of
lines and pages other than the line feed. -/
def isMovement (c : Char) : Bool :=
  [0x07, 0x08, 0x0b, 0x0c, 0x0d].contains c.toNat

/-- The distance of two tab stops. -/
def tabWidth : Nat := 8

/-- The text with its tabs filled up to the next tab stop, where `column` cells of the line are
taken already. -/
def expandTabs (column : Nat) : List Char → List Char
  | [] => []
  | '\n' :: r => '\n' :: expandTabs 0 r
  | '\t' :: r =>
    let gap := tabWidth - column % tabWidth
    List.replicate gap ' ' ++ expandTabs (column + gap) r
  | c :: r => c :: expandTabs (column + cellWidth c) r

/-- A piece of text as the console takes it in. -/
def takenIn (s : List Char) : List Char :=
  (withEmoji s).filter fun c => !isMovement c

/-- What the console shows for a text. -/
def console (text : String) : String :=
  String.ofList (expandTabs 0 (takenIn text.toList))

/-- One line as the console of a terminal with this encoding shows it. -/
def lineOf (encoding text : String) : String :=
  console (adapted encoding text) ++ "\n"

/-! ### Markup -/

/-- The rest of a tag after its opening bracket, up to and including the closing one: a lower-case
letter or one of `#`, `/`, `@` comes first, and no other opening bracket stands inside. -/
def tagBody? (s : List Char) : Option (List Char) :=
  match s with
  | c :: r =>
    if (decide ('a' ≤ c) && decide (c ≤ 'z')) || ['#', '/', '@'].contains c then
      let inside := r.takeWhile fun d => d != '[' && d != ']'
      match r.drop inside.length with
      | ']' :: _ => some (c :: inside ++ [']'])
      | _ => none
    else none
  | [] => none

/-- The text with every tag made literal: a backslash is put before its bracket, and backslashes
that stand there already are doubled.  `slashes` counts those right before the text. -/
def escapeTags (slashes : Nat) : List Char → List Char
  | [] => List.replicate slashes '\\'
  | '\\' :: r => escapeTags (slashes + 1) r
  | '[' :: r =>
    match tagBody? r with
    | some _ => List.replicate (2 * slashes + 1) '\\' ++ '[' :: escapeTags 0 r
    | none => List.replicate slashes '\\' ++ '[' :: escapeTags 0 r
  | c :: r => List.replicate slashes '\\' ++ c :: escapeTags 0 r

/-- A single backslash at the end is doubled, so that it cannot escape what follows. -/
def closeEscape (s : List Char) : List Char :=
  match s.reverse with
  | '\\' :: '\\' :: _ => s
  | '\\' :: _ => s ++ ['\\']
  | _ => s

/-- The text as it must be written where markup is read. -/
def escaped (text : String) : String :=
  String.ofList (closeEscape (escapeTags 0 text.toList))

/-- The text without the backslashes right before its brackets: one of them is always taken for an
escape. -/
def loseSlashes : List Char → List Char
  | [] => []
  | '\\' :: '[' :: r => '[' :: loseSlashes r
  | c :: r => c :: loseSlashes r

/-- The pieces that a markup reader finds in an escaped text: every tag is a piece, the backslashes
before it are one, and so is the text between two of these.  `plain` is the text before, its last
character first, and `slashes` counts the backslashes right after it. -/
def markupPieces (plain : List Char) (slashes : Nat) (s : List Char) : List (List Char) :=
  match s with
  | [] => [(List.replicate slashes '\\' ++ plain).reverse]
  | c :: r =>
    if c = '\\' then markupPieces plain (slashes + 1) r
    else if c = '[' then
      match tagBody? r with
      | some body =>
        plain.reverse :: List.replicate slashes '\\' :: ('[' :: body) ::
          markupPieces [] 0 (r.drop body.length)
      | none => markupPieces ('[' :: (List.replicate slashes '\\' ++ plain)) 0 r
    else markupPieces (c :: (List.replicate slashes '\\' ++ plain)) 0 r
termination_by s.length
decreasing_by all_goals simp only [List.length_cons, List.length_drop]; omega

/-- What the console shows for an escaped text that ends a line, `column` cells of which are taken
already. -/
def shown (column : Nat) (text : String) : String :=
  let pieces := markupPieces [] 0 (closeEscape text.toList)
  String.ofList (expandTabs column (pieces.flatMap fun piece => takenIn (loseSlashes piece)))

end Terminal

end Unreferenced
