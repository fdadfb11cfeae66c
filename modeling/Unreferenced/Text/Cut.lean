/-
Unreferenced/Text/Cut.lean

Cutting texts at separators.  Everything is stated on lists of characters, with
a version on strings beside it where the library needs one.
-/

namespace Unreferenced.Text

/-- The pieces of a text between the places where `sep` stands.  A text without
`sep` is one piece, and the empty text is one empty piece. -/
def splitAt (sep : Char) : List Char → List (List Char)
  | [] => [[]]
  | c :: r =>
    if c = sep then [] :: splitAt sep r
    else
      match splitAt sep r with
      | [] => [[c]]
      | piece :: pieces => (c :: piece) :: pieces

/-- The pieces of a text between its double colons, read from the left. -/
def splitColons : List Char → List (List Char)
  | [] => [[]]
  | ':' :: ':' :: r => [] :: splitColons r
  | c :: r =>
    match splitColons r with
    | [] => [[c]]
    | piece :: pieces => (c :: piece) :: pieces

/-- The pieces of a string between the places where `sep` stands. -/
def pieces (sep : Char) (s : String) : List String :=
  (splitAt sep s.toList).map String.ofList

/-- The pieces of a string between its double colons. -/
def scopePieces (s : String) : List String :=
  (splitColons s.toList).map String.ofList

/-- The last piece of a string between its double colons. -/
def lastScopePiece (s : String) : String :=
  (scopePieces s).getLastD ""

/-- Whether a line ends at `c`. -/
def isLineBreak (c : Char) : Bool :=
  let n := c.toNat
  (decide (0x0a ≤ n) && decide (n ≤ 0x0d)) || (decide (0x1c ≤ n) && decide (n ≤ 0x1e)) ||
    n == 0x85 || n == 0x2028 || n == 0x2029

/-- The lines of a text.  A carriage return and a line feed after it are one break, and a break at
the end opens no further line. -/
def splitLines : List Char → List (List Char)
  | [] => []
  | '\r' :: '\n' :: r => [] :: splitLines r
  | c :: r =>
    if isLineBreak c then [] :: splitLines r
    else
      match splitLines r with
      | [] => [[c]]
      | line :: lines => (c :: line) :: lines

/-- The lines that appear when a string is printed and the line is ended. -/
def printedLines (s : String) : List String :=
  (splitLines (s.toList ++ ['\n'])).map String.ofList

/-- What stands before the first `c`, or the whole string if there is none. -/
def before (c : Char) (s : String) : String :=
  String.ofList (s.toList.takeWhile (· != c))

/-- The string without the characters `c` at its right end. -/
def dropTrailing (c : Char) (s : String) : String :=
  String.ofList ((s.toList.reverse.dropWhile (· == c)).reverse)

/-- The string without the characters `c` at its two ends. -/
def dropAround (c : Char) (s : String) : String :=
  String.ofList (((s.toList.dropWhile (· == c)).reverse.dropWhile (· == c)).reverse)

/-- The string without every occurrence of `c`. -/
def removeAll (c : Char) (s : String) : String :=
  String.ofList (s.toList.filter (· != c))

/-- The string without its first and last character. -/
def dropEnds (s : String) : String :=
  String.ofList (s.toList.tail.dropLast)

/-- What follows `start` in a text that begins with it. -/
def after? : List Char → List Char → Option (List Char)
  | [], s => some s
  | _ :: _, [] => none
  | c :: start, d :: s => if c = d then after? start s else none

/-- Whether the string begins with `start`. -/
def beginsWith (start s : String) : Bool :=
  start.toList.isPrefixOf s.toList

/-- Whether the string ends with `stop`. -/
def endsWith (stop s : String) : Bool :=
  stop.toList.isSuffixOf s.toList

theorem splitAt_ne_nil (sep : Char) (s : List Char) : splitAt sep s ≠ [] := by
  cases s with
  | nil => simp [splitAt]
  | cons c r =>
    simp only [splitAt]
    split
    · simp
    · split <;> simp

/-- What follows a beginning is exactly the rest of the text. -/
theorem after?_eq_some_iff {start s rest : List Char} :
    after? start s = some rest ↔ s = start ++ rest := by
  induction start generalizing s with
  | nil => simp [after?, eq_comm]
  | cons c start ih =>
    cases s with
    | nil => simp [after?]
    | cons d s =>
      by_cases h : c = d
      · simp [after?, h, ih]
      · simp [after?, h, Ne.symm h]

end Unreferenced.Text
