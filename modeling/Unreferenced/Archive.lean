/-
Unreferenced/Archive.lean

Archives: a project as one JSON value, with everything a run reads.

    {"files": {"/p/a.cpp": {"text": "void f();", "cpp": ["translation_unit", 0, 9, 1]}},
     "dirs": ["/p/include"], "cwd": "/p", "env": {"LANG": "C"}, "processors": 4}

The content of a file is a text or a row of hexadecimal digits.  A syntax tree is
an array of its kind, its first and last offset, its flags, its field and its
children; what is missing at the end is zero or empty.  Of the flags 1 means
named, 2 missing and 4 in error.  What is not written this way counts as absent.
-/
import Unreferenced.FileSystem
import Unreferenced.Json.Reader
import Unreferenced.Settings

namespace Unreferenced

open Text

namespace Json

/-- The text of a string; empty for any other value. -/
def textOf : Json → String
  | .string s => s.text
  | _ => ""

/-- The number of a value; zero if it is not a whole number. -/
def numberOf : Json → Nat
  | .integer n => n.toNat
  | _ => 0

/-- The fields of an object. -/
def fieldsOf : Json → List (JsonString × Json)
  | .object fields => fields
  | _ => []

/-- The items of an array. -/
def itemsOf : Json → List Json
  | .array items => items
  | _ => []

/-- The value of a key. -/
def field (j : Json) (key : String) : Json :=
  (get? j.fieldsOf key).getD .null

end Json

/-- The bytes that a row of hexadecimal digits stands for. -/
def hexBytes : List Char → List UInt8
  | high :: low :: rest =>
    match hexValue? high, hexValue? low with
    | some h, some l => UInt8.ofNat (16 * h + l) :: hexBytes rest
    | _, _ => []
  | _ => []

/-- A tree of a kind, with flags as a number. -/
def Tree.flagged (kind start stop flags field : Json) (children : List Tree) : Tree where
  kind := kind.textOf
  start := start.numberOf
  stop := stop.numberOf
  named := flags.numberOf % 2 == 1
  missing := flags.numberOf / 2 % 2 == 1
  hasError := flags.numberOf / 4 % 2 == 1
  field := field.textOf
  children := children

mutual

/-- The syntax tree that a value stands for. -/
def Tree.ofJson : Json → Tree
  | .array [kind, start, stop, flags, field, .array children] =>
    .flagged kind start stop flags field (Tree.ofJsonAll children)
  | .array [kind, start, stop, flags, field] => .flagged kind start stop flags field []
  | .array [kind, start, stop, flags] => .flagged kind start stop flags .null []
  | .array [kind, start, stop] => .flagged kind start stop .null .null []
  | _ => Tree.blank

/-- The syntax trees that several values stand for. -/
def Tree.ofJsonAll : List Json → List Tree
  | [] => []
  | j :: js => Tree.ofJson j :: Tree.ofJsonAll js

end

/-- The syntax tree under a key, if there is one. -/
def Tree.ofField? (j : Json) (key : String) : Option Tree :=
  match j.field key with
  | .array items => some (Tree.ofJson (.array items))
  | _ => none

/-- The file that a value stands for. -/
def StoredFile.ofJson (j : Json) : StoredFile where
  bytes :=
    match j.field "hex" with
    | .string digits => hexBytes digits.text.toList
    | _ => Utf8.encode (j.field "text").textOf
  readable :=
    match j.field "unreadable" with
    | .bool true => false
    | _ => true
  cTree := Tree.ofField? j "c"
  cppTree := Tree.ofField? j "cpp"

/-- Everything that a run reads. -/
structure Archive where
  fileSystem : FileSystem
  environment : Variables
  processors : Nat

/-- The archive that a value stands for. -/
def Archive.ofJson (j : Json) : Archive where
  fileSystem :=
    let files := (j.field "files").fieldsOf.map fun f => (f.1.text, StoredFile.ofJson f.2)
    { FileSystem.ofFiles files ((j.field "dirs").itemsOf.map Json.textOf) with
      workingDirectory := .ofText (j.field "cwd").textOf }
  environment := (j.field "env").fieldsOf.map fun v => (v.1.text, v.2.textOf)
  processors := max 1 (j.field "processors").numberOf

/-- The archive that a text holds.  No text opens more lists and objects than it has characters. -/
def Archive.read? (text : String) : Option Archive :=
  (Json.read text.length text.toList).toOption.map Archive.ofJson

end Unreferenced
