/-
Unreferenced/Shell.lean

Splitting a command line into words the way a shell does.  Spaces, tabs and
ends of lines separate words.  Single quotes keep everything up to the next
single quote; double quotes do so too, except that a backslash there escapes a
double quote or a backslash.  Outside quotes a backslash escapes any character.
-/

namespace Unreferenced.Shell

/-- Why a command line cannot be split. -/
inductive Error where
  /-- A quote is never closed. -/
  | unclosedQuote
  /-- The text ends after a backslash. -/
  | nothingEscaped
  /-- There is no text to split. -/
  | noText
deriving DecidableEq, Repr

/-- The wording of an error. -/
def Error.message : Error → String
  | .unclosedQuote => "No closing quotation"
  | .nothingEscaped => "No escaped character"
  | .noText => "s argument must not be None"

/-- Where in a command line a character stands. -/
inductive Mode where
  /-- Outside quotes. -/
  | plain
  /-- Inside the quotes given. -/
  | quoted (quote : Char)
  /-- After a backslash; `inside` is the quote around it, if any. -/
  | escaped (inside : Option Char)
deriving DecidableEq, Repr

/-- Whether `c` separates words. -/
def isSeparator (c : Char) : Bool :=
  c == ' ' || c == '\t' || c == '\r' || c == '\n'

/-- The words of a text read so far: those that are complete, and the one that has begun, if any,
with its last character first. -/
structure Progress where
  mode : Mode := .plain
  words : List (List Char) := []
  word : Option (List Char) := none

namespace Progress

/-- Add a character to the word that has begun. -/
def push (p : Progress) (c : Char) : Progress :=
  { p with word := some (c :: p.word.getD []) }

/-- End the word that has begun. -/
def endWord (p : Progress) : Progress :=
  match p.word with
  | some w => { p with words := w.reverse :: p.words, word := none }
  | none => p

/-- Read one character. -/
def step (p : Progress) (c : Char) : Progress :=
  match p.mode with
  | .plain =>
    if isSeparator c then p.endWord
    else if c = '\\' then { p with mode := .escaped none }
    else if c = '\'' ∨ c = '"' then { p with mode := .quoted c, word := some (p.word.getD []) }
    else p.push c
  | .quoted q =>
    if c = q then { p with mode := .plain }
    else if c = '\\' ∧ q = '"' then { p with mode := .escaped (some q) }
    else p.push c
  | .escaped none => { p.push c with mode := .plain }
  | .escaped (some q) =>
    -- inside quotes a backslash stays unless it escapes itself or the quote
    let p := if c = '\\' ∨ c = q then p else p.push '\\'
    { p.push c with mode := .quoted q }

/-- The words when the text ends. -/
def finish (p : Progress) : Except Error (List String) :=
  match p.mode with
  | .plain => .ok (p.endWord.words.reverse.map String.ofList)
  | .quoted _ => .error .unclosedQuote
  | .escaped _ => .error .nothingEscaped

end Progress

/-- The words of a command line. -/
def split (s : String) : Except Error (List String) :=
  (s.toList.foldl Progress.step {}).finish

end Unreferenced.Shell
