/-
Unreferenced/Spelling/OperatorName.lean

The canonical spelling of an operator function.  The first eight characters are
taken for the keyword.  An operator that is a word keeps one space after the
keyword (`operator new[]`, `operator bool`); one made of symbols is written
without any space (`operator==`).
-/
import Unreferenced.Text.Blank
import Unreferenced.Text.Letter

namespace Unreferenced.Spelling

open Text

/-- The text with every pair of brackets that holds at most blanks written `[]`, without the blanks
before it. -/
def closeBrackets (s : List Char) : List Char :=
  match s with
  | [] => []
  | c :: r =>
    match _h : skipBlanks (c :: r) with
    | '[' :: inside =>
      match _h' : skipBlanks inside with
      | ']' :: rest => '[' :: ']' :: closeBrackets rest
      | _ => c :: closeBrackets r
    | _ => c :: closeBrackets r
termination_by s.length
decreasing_by
  · have h₁ := length_skipBlanks_le (c :: r)
    have h₂ := length_skipBlanks_le inside
    rw [_h] at h₁
    rw [_h'] at h₂
    simp only [List.length_cons] at h₁ h₂ ⊢
    omega
  · simp
  · simp

/-- The canonical spelling of an operator function, on characters. -/
def canonicalOperator (s : List Char) : List Char :=
  let rest := trim (collapse (s.drop 8))
  match rest with
  | [] => "operator".toList
  | c :: _ =>
    if isLetter c || c == '_' then "operator ".toList ++ closeBrackets rest
    else "operator".toList ++ rest.filter (· != ' ')

/-- The canonical spelling of an operator function. -/
def operatorName (s : String) : String :=
  String.ofList (canonicalOperator s.toList)

end Unreferenced.Spelling
