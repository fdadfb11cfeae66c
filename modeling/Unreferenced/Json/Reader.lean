/-
Unreferenced/Json/Reader.lean

Reading JSON.  The characters are read once from the left.  They are put
together to tokens, and every token is handed at once to a stack of the lists
and objects that are still open, so the first fault from the left decides what
is wrong with a text.

Besides standard JSON the words `NaN`, `Infinity` and `-Infinity` are numbers.
A control character inside a string, a byte order mark and a comma before a
closing bracket are refused.  A whole number of too many digits is a fault of
its own, and so is a list or an object inside too many others.
-/
import Unreferenced.Json.Basic
import Unreferenced.Text.Digit
import Unreferenced.Text.Integer

namespace Unreferenced.Json

open Text

/-- What is wrong with a text. -/
inductive Fault where
  /-- It is not JSON. -/
  | malformed
  /-- A whole number has more digits than a number may be written with. -/
  | numberTooLong
  /-- A list or an object starts inside as many others as may be open. -/
  | nestedTooDeep
deriving DecidableEq, Repr

/-! ### Words -/

/-- The exponent at the end of a number, zero if there is none. -/
def exponent? (s : List Char) : Option Int :=
  match s with
  | [] => some 0
  | e :: r =>
    if e = 'e' ∨ e = 'E' then
      let (negative, r) :=
        match r with
        | '-' :: r => (true, r)
        | '+' :: r => (false, r)
        | r => (false, r)
      if r ≠ [] ∧ r.all isDigit then
        some (if negative then -(digitsValue r : Int) else digitsValue r)
      else none
    else none

/-- The number a word without its sign spells: digits without a superfluous zero in front, then
perhaps a point and more digits, then perhaps an exponent. -/
def unsigned? (negative : Bool) (s : List Char) : Option Json :=
  let (whole, rest) := leadingDigits s
  if whole = [] ∨ (whole.head? = some '0' ∧ whole.length ≠ 1) then none
  else if rest = [] then
    let n := digitsValue whole
    some (.integer (if negative then -(n : Int) else n))
  else
    let fraction? : Option (List Char × List Char) :=
      match rest with
      | '.' :: r =>
        let (f, r) := leadingDigits r
        if f = [] then none else some (f, r)
      | r => some ([], r)
    match fraction? with
    | none => none
    | some (fraction, r) =>
      (exponent? r).map fun e =>
        let x := Text.Decimal.read (digitsValue (whole ++ fraction)) (e - fraction.length)
        .decimal (if negative then -x else x)

/-- Whether a text goes on with a fraction or an exponent. -/
def startsFraction : List Char → Bool
  | '.' :: c :: _ => isDigit c
  | e :: sign :: c :: _ =>
    (e == 'e' || e == 'E') && (isDigit sign || ((sign == '+' || sign == '-') && isDigit c))
  | [e, c] => (e == 'e' || e == 'E') && isDigit c
  | _ => false

/-- Whether a word without its sign starts with a whole number of too many digits, whatever follows
that number. -/
def startsTooLong (s : List Char) : Bool :=
  let (whole, rest) := leadingDigits s
  decide (maxDigits < whole.length) && whole.head? != some '0' && !startsFraction rest

/-- An infinite number. -/
def infinity : Float := 1.0 / 0.0

/-- The value a word stands for. -/
def ofWord (w : List Char) : Except Fault Json :=
  let number (negative : Bool) (s : List Char) : Except Fault Json :=
    if startsTooLong s then .error .numberTooLong
    else
      match unsigned? negative s with
      | some v => .ok v
      | none => .error .malformed
  if w = "null".toList then .ok .null
  else if w = "true".toList then .ok (.bool true)
  else if w = "false".toList then .ok (.bool false)
  else if w = "NaN".toList then .ok (.decimal (0.0 / 0.0))
  else if w = "Infinity".toList then .ok (.decimal infinity)
  else if w = "-Infinity".toList then .ok (.decimal (-infinity))
  else
    match w with
    | '-' :: r => number true r
    | r => number false r

/-! ### Values -/

/-- A token. -/
inductive Token where
  | openArray
  | closeArray
  | openObject
  | closeObject
  | comma
  | colon
  | string (s : JsonString)
  /-- A run of letters, digits, signs and points. -/
  | word (w : List Char)
deriving DecidableEq, Repr

/-- A list or an object that is still open, its last item first. -/
inductive Frame where
  | array (items : List Json)
  | object (fields : List (JsonString × Json)) (key : JsonString)

/-- What may come next. -/
inductive Due where
  /-- A value. -/
  | value
  /-- A value, or the end of a list that has just been opened. -/
  | valueOrEnd
  /-- A key, or the end of an object that has just been opened. -/
  | keyOrEnd (fields : List (JsonString × Json))
  /-- A key. -/
  | key (fields : List (JsonString × Json))
  /-- The colon after a key. -/
  | colon (fields : List (JsonString × Json)) (key : JsonString)
  /-- A comma or the end of the innermost list or object, which the value given is an item of. -/
  | separator (v : Json)

/-- What the tokens read so far come to. -/
structure State where
  due : Due := .value
  stack : List Frame := []

namespace State

variable (limit : Nat)

/-- The innermost list with one more item, closed. -/
def closeArray (items : List Json) (rest : List Frame) : State :=
  ⟨.separator (.array items.reverse), rest⟩

/-- Read a token that starts a value; `limit` lists and objects may be open at once. -/
def startValue (stack : List Frame) (t : Token) : Except Fault State :=
  match t with
  | .openArray =>
    if limit ≤ stack.length then .error .nestedTooDeep
    else .ok ⟨.valueOrEnd, .array [] :: stack⟩
  | .openObject =>
    if limit ≤ stack.length then .error .nestedTooDeep else .ok ⟨.keyOrEnd [], stack⟩
  | .string s => .ok ⟨.separator (.string s), stack⟩
  | .word w => (ofWord w).map fun v => ⟨.separator v, stack⟩
  | _ => .error .malformed

/-- Read one token. -/
def step (s : State) (t : Token) : Except Fault State :=
  match s.due with
  | .value => startValue limit s.stack t
  | .valueOrEnd =>
    match t, s.stack with
    | .closeArray, .array items :: rest => .ok (closeArray items rest)
    | _, _ => startValue limit s.stack t
  | .keyOrEnd fields =>
    match t with
    | .closeObject => .ok ⟨.separator (.object fields), s.stack⟩
    | .string key => .ok ⟨.colon fields key, s.stack⟩
    | _ => .error .malformed
  | .key fields =>
    match t with
    | .string key => .ok ⟨.colon fields key, s.stack⟩
    | _ => .error .malformed
  | .colon fields key =>
    match t with
    | .colon => .ok ⟨.value, .object fields key :: s.stack⟩
    | _ => .error .malformed
  | .separator v =>
    match t, s.stack with
    | .comma, .array items :: rest => .ok ⟨.value, .array (v :: items) :: rest⟩
    | .closeArray, .array items :: rest => .ok (closeArray (v :: items) rest)
    | .comma, .object fields key :: rest => .ok ⟨.key (setField fields key v), rest⟩
    | .closeObject, .object fields key :: rest =>
      .ok ⟨.separator (.object (setField fields key v)), rest⟩
    | _, _ => .error .malformed

/-- The value when all tokens are read. -/
def finish (s : State) : Except Fault Json :=
  match s.due, s.stack with
  | .separator v, [] => .ok v
  | _, _ => .error .malformed

end State

/-! ### Tokens -/

/-- What the reader of characters is in the middle of. -/
inductive LexMode where
  | between
  /-- A word, its last character first. -/
  | inWord (w : List Char)
  /-- A string, its last code point first. -/
  | inString (s : JsonString)
  /-- A string, after a backslash. -/
  | escape (s : JsonString)
  /-- A string, inside an escaped code unit of which `digits` more digits are due. -/
  | codeUnit (s : JsonString) (digits value : Nat)
  /-- A string, with an escaped high surrogate right before. -/
  | afterHigh (s : JsonString) (high : Nat)
  /-- A string, with an escaped high surrogate and a backslash right before. -/
  | escapeAfterHigh (s : JsonString) (high : Nat)
  /-- A string, with an escaped high surrogate right before an unfinished code unit. -/
  | unitAfterHigh (s : JsonString) (high digits value : Nat)
deriving DecidableEq, Repr

/-- What the characters read so far come to. -/
structure Progress where
  mode : LexMode := .between
  state : State := {}

/-- Whether `c` separates tokens. -/
def isSeparator (c : Char) : Bool :=
  c == ' ' || c == '\t' || c == '\n' || c == '\r'

/-- Whether `c` can stand in a word. -/
def isWordChar (c : Char) : Bool :=
  c.isAlphanum || c == '+' || c == '-' || c == '.'

/-- The token of a single mark. -/
def mark? : Char → Option Token
  | '[' => some .openArray
  | ']' => some .closeArray
  | '{' => some .openObject
  | '}' => some .closeObject
  | ',' => some .comma
  | ':' => some .colon
  | _ => none

/-- The character an escape stands for. -/
def escaped? : Char → Option Char
  | '"' => some '"'
  | '\\' => some '\\'
  | '/' => some '/'
  | 'b' => some '\x08'
  | 'f' => some '\x0c'
  | 'n' => some '\n'
  | 'r' => some '\r'
  | 't' => some '\t'
  | _ => none

/-- Whether a code unit is the first half of a surrogate pair. -/
def isHigh (unit : Nat) : Bool :=
  decide (0xd800 ≤ unit) && decide (unit < 0xdc00)

/-- Whether a code unit is the second half of a surrogate pair. -/
def isLow (unit : Nat) : Bool :=
  decide (0xdc00 ≤ unit) && decide (unit < 0xe000)

/-- The code point of a code unit that is not part of a pair. -/
def ofUnit (unit : Nat) : CodePoint :=
  if isHigh unit || isLow unit then .surrogate unit else .char (Char.ofNat unit)

/-- The character of a surrogate pair. -/
def ofPair (high low : Nat) : CodePoint :=
  .char (Char.ofNat (0x10000 + (high - 0xd800) * 1024 + (low - 0xdc00)))

/-- The string after an escaped code unit. -/
def pushUnit (s : JsonString) (unit : Nat) : LexMode :=
  if isHigh unit then .afterHigh s unit else .inString (ofUnit unit :: s)

/-- The string after an escaped code unit that follows a high surrogate. -/
def pushAfterHigh (s : JsonString) (high unit : Nat) : LexMode :=
  if isLow unit then .inString (ofPair high unit :: s)
  else pushUnit (.surrogate high :: s) unit

namespace Progress

variable (limit : Nat)

/-- Read a character that stands outside words and strings. -/
def stepBetween (state : State) (c : Char) : Except Fault Progress :=
  if isSeparator c then .ok ⟨.between, state⟩
  else if c = '"' then .ok ⟨.inString [], state⟩
  else if isWordChar c then .ok ⟨.inWord [c], state⟩
  else
    match mark? c with
    | some t => (state.step limit t).map fun s => ⟨.between, s⟩
    | none => .error .malformed

/-- Read a character inside a string. -/
def stepString (state : State) (s : JsonString) (c : Char) : Except Fault Progress :=
  if c = '"' then (state.step limit (.string s.reverse)).map fun st => ⟨.between, st⟩
  else if c = '\\' then .ok ⟨.escape s, state⟩
  else if c.toNat < 0x20 then .error .malformed
  else .ok ⟨.inString (.char c :: s), state⟩

/-- Read the character after a backslash. -/
def stepEscape (state : State) (s : JsonString) (c : Char) : Except Fault Progress :=
  if c = 'u' then .ok ⟨.codeUnit s 4 0, state⟩
  else
    match escaped? c with
    | some d => .ok ⟨.inString (.char d :: s), state⟩
    | none => .error .malformed

/-- Read one character. -/
def step (p : Progress) (c : Char) : Except Fault Progress :=
  match p.mode with
  | .between => stepBetween limit p.state c
  | .inWord w =>
    if isWordChar c then .ok ⟨.inWord (c :: w), p.state⟩
    else
      match p.state.step limit (.word w.reverse) with
      | .ok state => stepBetween limit state c
      | .error e => .error e
  | .inString s => stepString limit p.state s c
  | .escape s => stepEscape p.state s c
  | .codeUnit s digits value =>
    match hexValue? c with
    | none => .error .malformed
    | some d =>
      if digits ≤ 1 then .ok ⟨pushUnit s (value * 16 + d), p.state⟩
      else .ok ⟨.codeUnit s (digits - 1) (value * 16 + d), p.state⟩
  | .afterHigh s high =>
    if c = '\\' then .ok ⟨.escapeAfterHigh s high, p.state⟩
    else stepString limit p.state (.surrogate high :: s) c
  | .escapeAfterHigh s high =>
    if c = 'u' then .ok ⟨.unitAfterHigh s high 4 0, p.state⟩
    else stepEscape p.state (.surrogate high :: s) c
  | .unitAfterHigh s high digits value =>
    match hexValue? c with
    | none => .error .malformed
    | some d =>
      if digits ≤ 1 then .ok ⟨pushAfterHigh s high (value * 16 + d), p.state⟩
      else .ok ⟨.unitAfterHigh s high (digits - 1) (value * 16 + d), p.state⟩

/-- The value when all characters are read. -/
def finish (p : Progress) : Except Fault Json :=
  match p.mode with
  | .between => p.state.finish
  | .inWord w =>
    match p.state.step limit (.word w.reverse) with
    | .ok state => state.finish
    | .error e => .error e
  | _ => .error .malformed

end Progress

/-- The value a text spells, or what is wrong with it, if `limit` lists and objects may be open at
once. -/
def read (limit : Nat) (s : List Char) : Except Fault Json :=
  match s.foldlM (Progress.step limit) {} with
  | .ok p => p.finish limit
  | .error e => .error e

end Unreferenced.Json
