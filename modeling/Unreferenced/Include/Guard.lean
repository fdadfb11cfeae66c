/-
Unreferenced/Include/Guard.lean

Guards around linkage blocks.  C headers open and close a block of C linkage
inside three lines that only a C++ compiler reads:

    #ifdef __cplusplus
    extern "C" {
    #endif

Such a guard is resolved before a file is parsed: C++ keeps the middle line and
loses the two directives, C loses all three lines.  What is lost becomes spaces,
so every byte keeps its offset and its line.
-/
import Unreferenced.Language

namespace Unreferenced.Guard

/-- The bytes of an ASCII word. -/
def bytesOf (s : String) : List UInt8 :=
  s.toList.map fun c => UInt8.ofNat c.toNat

/-- A byte that ends a line. -/
def isLineFeed (b : UInt8) : Bool := b == 10

/-- Whether `b` is a space or a tab. -/
def isSpace (b : UInt8) : Bool := b == 32 || b == 9

/-- The bytes after the leading spaces and tabs. -/
def skipSpaces (s : List UInt8) : List UInt8 :=
  s.dropWhile isSpace

/-- What follows a word that stands at the start. -/
def afterWord? (w : String) (s : List UInt8) : Option (List UInt8) :=
  if (bytesOf w).isPrefixOf s then some (s.drop (bytesOf w).length) else none

/-- What follows one or more spaces and tabs. -/
def afterSpaces? (s : List UInt8) : Option (List UInt8) :=
  match s with
  | b :: r => if isSpace b then some (skipSpaces r) else none
  | [] => none

/-- What follows a byte that may be absent. -/
def skipByte (b : UInt8) (s : List UInt8) : List UInt8 :=
  match s with
  | c :: r => if c = b then r else s
  | [] => []

/-- What follows a `#` and one or more words of a directive; spaces may stand around the `#`. -/
def afterDirective? (w : String) (s : List UInt8) : Option (List UInt8) := do
  let s ← afterWord? "#" (skipSpaces s)
  afterWord? w (skipSpaces s)

/-- What follows the test for a C++ compiler: `#ifdef __cplusplus` or `#if defined(__cplusplus)`,
the parentheses being optional. -/
def afterTest? (line : List UInt8) : Option (List UInt8) :=
  match afterDirective? "if" line with
  | none => none
  | some s =>
    match afterWord? "def" s with
    | some s => do
      let s ← afterSpaces? s
      afterWord? "__cplusplus" s
    | none => do
      let s ← afterSpaces? s
      let s ← afterWord? "defined" s
      let s ← afterWord? "__cplusplus" (skipSpaces (skipByte 40 (skipSpaces s)))
      return skipByte 41 (skipSpaces s)

/-- Whether a line opens a guard: the test for a C++ compiler, with at most a line comment or a
carriage return after it. -/
def isOpening (line : List UInt8) : Bool :=
  match afterTest? line with
  | none => false
  | some s =>
    let s := skipSpaces s
    s == [] || s == [13] || (afterWord? "//" s).isSome

/-- What follows the word `extern` and the linkage `"C"`. -/
def afterExtern? (s : List UInt8) : Option (List UInt8) := do
  let s ← afterWord? "extern" s
  let s ← afterSpaces? s
  let s ← afterWord? "\"C\"" s
  return skipSpaces s

/-- Whether a line starts with the opening or the closing brace of a linkage block. -/
def isBrace (line : List UInt8) : Bool :=
  let s := skipSpaces line
  match afterExtern? s with
  | some (b :: _) => b == 123
  | _ => s.head? == some 125

/-- Whether a line closes a guard. -/
def isClosing (line : List UInt8) : Bool :=
  (afterDirective? "endif" line).isSome

/-- The bytes up to the end of the line. -/
def line (s : List UInt8) : List UInt8 :=
  s.takeWhile fun b => !isLineFeed b

/-- The bytes from the end of the line on. -/
def afterLine (s : List UInt8) : List UInt8 :=
  s.dropWhile fun b => !isLineFeed b

/-- The lines of a guard, without their ends, and what follows the last of them. -/
structure Block where
  opening : List UInt8
  brace : List UInt8
  closing : List UInt8
  rest : List UInt8

/-- The guard that stands at the start. -/
def block? (s : List UInt8) : Option Block :=
  match afterLine s with
  | [] => none
  | _ :: s₂ =>
    match afterLine s₂ with
    | [] => none
    | _ :: s₃ =>
      if isOpening (line s) && isBrace (line s₂) && isClosing (line s₃) then
        some ⟨line s, line s₂, line s₃, afterLine s₃⟩
      else none

/-- The bytes as spaces; ends of lines stay. -/
def blank (s : List UInt8) : List UInt8 :=
  s.map fun b => if b == 10 || b == 13 then b else 32

/-- What a guard becomes. -/
def Block.resolved (language : Language) (g : Block) : List UInt8 :=
  blank g.opening ++ 10 ::
    ((match language with
      | .cpp => g.brace
      | .c => blank g.brace) ++ 10 :: blank g.closing)

theorem length_afterLine_le (s : List UInt8) : (afterLine s).length ≤ s.length :=
  (List.dropWhile_sublist _).length_le

theorem length_rest_lt {s : List UInt8} {g : Block} (h : block? s = some g) :
    g.rest.length < s.length := by
  unfold block? at h
  split at h
  · simp at h
  · next b s₂ h₁ =>
    split at h
    · simp at h
    · next c s₃ h₂ =>
      split at h
      · simp only [Option.some.injEq] at h
        subst h
        have l₁ := length_afterLine_le s
        have l₂ := length_afterLine_le s₂
        have l₃ := length_afterLine_le s₃
        rw [h₁] at l₁
        rw [h₂] at l₂
        simp only [List.length_cons] at l₁ l₂
        show (afterLine s₃).length < s.length
        omega
      · simp at h

/-- Resolve the guards of a text; `lineStart` tells whether it starts a line. -/
def resolveFrom (language : Language) (lineStart : Bool) (s : List UInt8) : List UInt8 :=
  match s with
  | [] => []
  | b :: r =>
    if lineStart then
      match _h : block? (b :: r) with
      | some g => g.resolved language ++ resolveFrom language false g.rest
      | none => b :: resolveFrom language (isLineFeed b) r
    else b :: resolveFrom language (isLineFeed b) r
termination_by s.length
decreasing_by
  · exact length_rest_lt _h
  · simp
  · simp

/-- Resolve the guards of a file. -/
def resolve (language : Language) (source : List UInt8) : List UInt8 :=
  resolveFrom language true source

end Unreferenced.Guard
