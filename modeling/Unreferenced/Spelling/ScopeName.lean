/-
Unreferenced/Spelling/ScopeName.lean

Qualified names such as `::ns::Box<int>::get`: taking the template arguments
out, and cutting what is left at the double colons.

Template arguments go innermost first: a round deletes every `<…>` that holds
no other angle bracket, and rounds follow one another until nothing changes.
-/
import Unreferenced.Text.Blank
import Unreferenced.Text.Cut

namespace Unreferenced.Spelling

open Text

/-- Whether `c` is an angle bracket. -/
def isAngle (c : Char) : Bool :=
  c == '<' || c == '>'

/-- One round: the text without its innermost template argument lists. -/
def dropInnermostArgs (s : List Char) : List Char :=
  match s with
  | [] => []
  | c :: r =>
    if c = '<' then
      match _h : r.dropWhile (fun d => !isAngle d) with
      | '>' :: t => dropInnermostArgs t
      | _ => c :: dropInnermostArgs r
    else c :: dropInnermostArgs r
termination_by s.length
decreasing_by
  · have := (List.dropWhile_sublist (fun d => !isAngle d) (l := r)).length_le
    rw [_h] at this
    simp only [List.length_cons] at this ⊢
    omega
  · simp
  · simp

/-- The text without its template argument lists, on characters. -/
def dropTemplateArgs (s : List Char) : List Char :=
  if (dropInnermostArgs s).length < s.length then dropTemplateArgs (dropInnermostArgs s) else s
termination_by s.length

/-- The name without its template argument lists. -/
def withoutTemplateArgs (s : String) : String :=
  String.ofList (dropTemplateArgs s.toList)

/-- The components of a qualified name, template arguments and surrounding blanks taken away.  The
first one is empty for a name that starts with a double colon. -/
def scopeParts (s : String) : List String :=
  (splitColons (dropTemplateArgs s.toList)).map fun part => String.ofList (trim part)

/-! ### Copying and moving constructors -/

/-- The text without every `const` that a space follows. -/
def dropConst : List Char → List Char
  | [] => []
  | 'c' :: 'o' :: 'n' :: 's' :: 't' :: ' ' :: r => dropConst r
  | c :: r => c :: dropConst r

/-- Whether a parameter list is that of a constructor of `className` taking one reference to another
object of the class, as `(const X&)` and `(X&&)` do. -/
def takesSameClass (signature : List String) (className : String) : Bool :=
  match signature with
  | [parameter] =>
    endsWith "&" parameter &&
      let target := (dropTemplateArgs parameter.toList).reverse.dropWhile (· == '&')
      let base := trim (dropConst target.reverse)
      (splitColons base).getLastD [] == className.toList
  | _ => false

end Unreferenced.Spelling
