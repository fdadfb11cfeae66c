/-
Unreferenced/Text/Emoji.lean

Emoji codes: a name between two colons stands for the emoji of that name.

The name has no blank and no colon in it, and its case does not matter.  With
`-emoji` or `-text` at its end the emoji is followed by the character that asks
for a coloured or a plain picture.  A code with an unknown name stays as it is.
-/
import Unreferenced.Text.Blank
import Unreferenced.Text.Case
import Unreferenced.Text.Cut
import Unreferenced.Text.EmojiNames

namespace Unreferenced.Text

/-- The pairs of neighbours of a list of even length. -/
def neighbours : List (List Char) → List (String × List Char)
  | name :: value :: rest => (String.ofList name, value) :: neighbours rest
  | _ => []

/-- The emoji by their names. -/
def emoji : List (String × List Char) :=
  neighbours ((splitAt ' ' (collapse emojiNames.toList)).filter (· != []))

/-- The lower case of a character of a name.  The capital i with a dot keeps its dot. -/
def lowerInName (c : Char) : List Char :=
  if c.toNat = 0x130 then ['i', Char.ofNat 0x307] else [Char.ofNat (lower c.toNat)]

/-- The emoji of a name. -/
def emojiNamed? (name : List Char) : Option (List Char) :=
  emoji.lookup (String.ofList (name.flatMap lowerInName))

/-- The text without `stop` at its end, if it ends so. -/
def withoutEnd? (stop s : List Char) : Option (List Char) :=
  if stop.isSuffixOf s then some (s.take (s.length - stop.length)) else none

/-- The characters that the inside of a code stands for. -/
def emojiOf? (code : List Char) : Option (List Char) :=
  match withoutEnd? "-emoji".toList code, withoutEnd? "-text".toList code with
  | some name, _ => (emojiNamed? name).map (· ++ [Char.ofNat 0xfe0f])
  | none, some name => (emojiNamed? name).map (· ++ [Char.ofNat 0xfe0e])
  | none, none => emojiNamed? code

/-- Whether `c` can stand inside a code. -/
def isInCode (c : Char) : Bool :=
  c != ':' && !isBlank c

/-- The text with its emoji codes replaced. -/
def withEmoji (s : List Char) : List Char :=
  match s with
  | [] => []
  | c :: r =>
    if c = ':' then
      match _h : r.dropWhile isInCode with
      | ':' :: rest =>
        let code := r.takeWhile isInCode
        (emojiOf? code).getD (':' :: code ++ [':']) ++ withEmoji rest
      | _ => c :: withEmoji r
    else c :: withEmoji r
termination_by s.length
decreasing_by
  · have hle := (List.dropWhile_sublist isInCode (l := r)).length_le
    rw [_h] at hle
    simp only [List.length_cons] at hle ⊢
    omega
  · simp
  · simp

end Unreferenced.Text
