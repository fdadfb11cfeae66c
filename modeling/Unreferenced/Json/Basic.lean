/-
Unreferenced/Json/Basic.lean

JSON values.  Objects keep their keys in the order of first occurrence; a key
that occurs again replaces the value.  Whole numbers are exact, other numbers
are binary floating point and may be infinite or not a number.

A JSON string is a row of code points.  It may hold surrogates, which no text
can: one that is escaped without its partner stands there by itself.

`Json.shown` is the text of a value where a text is wanted: a string is itself,
the three constants are capitalised words, and strings inside lists and objects
are quoted.
-/
import Unreferenced.Container.OrderedMap
import Unreferenced.Text.Decimal
import Unreferenced.Text.Quoted

namespace Unreferenced

open Text

/-- One element of a JSON string. -/
inductive CodePoint where
  | char (c : Char)
  /-- A surrogate without its partner. -/
  | surrogate (unit : Nat)
deriving DecidableEq, Repr

namespace CodePoint

/-- The character of a code point.  The surrogates have the last 2048 characters, each its own, so
that texts with different surrogates stay different. -/
def toChar : CodePoint → Char
  | .char c => c
  | .surrogate unit => Char.ofNat (0x10f800 + (unit - 0xd800))

/-- A code point as it is written between the quotes `quote`. -/
def quoted (quote : Char) : CodePoint → List Char
  | .char c => quotedChar quote c
  | .surrogate unit => '\\' :: 'u' :: hexadecimal 4 unit

end CodePoint

/-- The content of a JSON string. -/
abbrev JsonString := List CodePoint

namespace JsonString

/-- The JSON string of a text. -/
def ofText (s : String) : JsonString :=
  s.toList.map .char

/-- The text of a JSON string. -/
def text (s : JsonString) : String :=
  String.ofList (s.map CodePoint.toChar)

/-- The JSON string between quotes. -/
def quoted (s : JsonString) : String :=
  let quote := quoteFor (s.map CodePoint.toChar)
  String.ofList (quote :: s.flatMap (CodePoint.quoted quote) ++ [quote])

end JsonString

/-- A JSON value. -/
inductive Json where
  | null
  | bool (b : Bool)
  | integer (n : Int)
  | decimal (x : Float)
  | string (s : JsonString)
  | array (items : List Json)
  | object (fields : List (JsonString × Json))
deriving Inhabited

namespace Json

/-- The value of a key of an object. -/
def get? (fields : List (JsonString × Json)) (key : String) : Option Json :=
  fields.lookup (JsonString.ofText key)

/-- The fields with one more; a key that is there already keeps its place and gets the new value. -/
def setField (fields : List (JsonString × Json)) (key : JsonString) (value : Json) :
    List (JsonString × Json) :=
  OrderedMap.alterEntries key (fun _ => value) fields

mutual

/-- A value inside a list or an object, as text. -/
def inner : Json → String
  | .null => "None"
  | .bool b => if b then "True" else "False"
  | .integer n => toString n
  | .decimal x => Decimal.text x
  | .string s => s.quoted
  | .array items => "[" ++ ", ".intercalate (innerAll items) ++ "]"
  | .object fields => "\x7b" ++ ", ".intercalate (innerFields fields) ++ "\x7d"

/-- Several values, as texts. -/
def innerAll : List Json → List String
  | [] => []
  | v :: vs => inner v :: innerAll vs

/-- Several fields, as texts. -/
def innerFields : List (JsonString × Json) → List String
  | [] => []
  | (key, v) :: vs => (key.quoted ++ ": " ++ inner v) :: innerFields vs

end

/-- A value as text. -/
def shown : Json → String
  | .string s => s.text
  | v => inner v

end Json

end Unreferenced
