/-
Unreferenced/Text/Utf8.lean

Reading text from bytes in UTF-8.

`decodeStep` reads one character or, where the bytes are ill-formed, drops the
longest start of a well-formed sequence that stands there (at least one byte).
`decode` keeps the characters and forgets what was dropped; `decodeStrict?`
accepts well-formed bytes only.
-/

namespace Unreferenced.Text.Utf8

/-- Whether `b` can continue a sequence of several bytes. -/
def isTail (b : UInt8) : Bool :=
  decide (0x80 ≤ b) && decide (b ≤ 0xbf)

/-- Whether `c` can follow the first byte `b` of a sequence of three or four bytes.  The first bytes
`e0`, `ed`, `f0` and `f4` narrow the choice, so that no overlong form, surrogate or too large code
point is accepted. -/
def isSecond (b c : UInt8) : Bool :=
  isTail c &&
    (if b = 0xe0 then decide (0xa0 ≤ c)
     else if b = 0xed then decide (c ≤ 0x9f)
     else if b = 0xf0 then decide (0x90 ≤ c)
     else if b = 0xf4 then decide (c ≤ 0x8f)
     else true)

/-- The six payload bits of a continuing byte. -/
def payload (b : UInt8) : Nat :=
  b.toNat % 64

/-- One step of decoding at the byte `b`: the character read, or `none` for an ill-formed sequence,
and the bytes after it. -/
def decodeStep (b : UInt8) (rest : List UInt8) : Option Char × List UInt8 :=
  if b < 0x80 then (some (Char.ofNat b.toNat), rest)
  else if b < 0xc2 then (none, rest)
  else if b < 0xe0 then
    match rest with
    | c :: r =>
      if isTail c then (some (Char.ofNat ((b.toNat % 32) * 64 + payload c)), r) else (none, rest)
    | [] => (none, rest)
  else if b < 0xf0 then
    match rest with
    | c :: r =>
      if isSecond b c then
        match r with
        | d :: r' =>
          if isTail d then
            (some (Char.ofNat ((b.toNat % 16) * 4096 + payload c * 64 + payload d)), r')
          else (none, r)
        | [] => (none, r)
      else (none, rest)
    | [] => (none, rest)
  else if b < 0xf5 then
    match rest with
    | c :: r =>
      if isSecond b c then
        match r with
        | d :: r' =>
          if isTail d then
            match r' with
            | e :: r'' =>
              if isTail e then
                (some (Char.ofNat ((b.toNat % 8) * 262144 + payload c * 4096 + payload d * 64 +
                  payload e)), r'')
              else (none, r')
            | [] => (none, r')
          else (none, r)
        | [] => (none, r)
      else (none, rest)
    | [] => (none, rest)
  else (none, rest)

/-- A step never gives bytes back. -/
theorem length_decodeStep_le (b : UInt8) (rest : List UInt8) :
    (decodeStep b rest).2.length ≤ rest.length := by
  unfold decodeStep
  repeat' split
  all_goals grind

/-- The characters of the bytes, ill-formed sequences left out. -/
def decode (bytes : List UInt8) : List Char :=
  match bytes with
  | [] => []
  | b :: rest =>
    match decodeStep b rest, length_decodeStep_le b rest with
    | (some c, r), _h => c :: decode r
    | (none, r), _h => decode r
termination_by bytes.length
decreasing_by all_goals exact Nat.lt_succ_of_le _h

/-- The characters of the bytes, or `none` if some sequence is ill-formed. -/
def decodeStrict? (bytes : List UInt8) : Option (List Char) :=
  match bytes with
  | [] => some []
  | b :: rest =>
    match decodeStep b rest, length_decodeStep_le b rest with
    | (some c, r), _h => (decodeStrict? r).map (c :: ·)
    | (none, _), _ => none
termination_by bytes.length
decreasing_by exact Nat.lt_succ_of_le _h

/-- The bytes of a string. -/
def encode (s : String) : List UInt8 :=
  s.toUTF8.toList

end Unreferenced.Text.Utf8
