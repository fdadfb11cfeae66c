/-
Unreferenced/Text/Decimal.lean

Binary floating-point numbers in decimal: the fewest digits that read back as
the same number, the nearest such digits if there are several.

A positive finite number is `m * 2 ^ q`.  The reals that round to it reach half
way to its neighbours, ends included exactly if `m` is even.  In units of
`2 ^ (q - 2)` the number is `4 * m`, and the two ends are whole numbers as well,
so every test is one of natural numbers.
-/

namespace Unreferenced.Text.Decimal

/-- A positive finite number `mantissa * 2 ^ exponent`.  `narrowBelow` tells that the neighbour below
is only half as far away as the one above. -/
structure Binary where
  mantissa : Nat
  exponent : Int
  narrowBelow : Bool

/-- Digits `d₁d₂…` with the decimal point in front: the number `0.d₁d₂… * 10 ^ point`. -/
structure Digits where
  digits : List Char
  point : Int

/-- The number `mantissa * 2 ^ exponent` of a positive finite double. -/
def Binary.ofBits (bits : Nat) : Binary :=
  let field : Nat := bits / Nat.pow 2 52 % 2048
  let fraction : Nat := bits % Nat.pow 2 52
  if field = 0 then ⟨fraction, -1074, false⟩
  else ⟨Nat.pow 2 52 + fraction, (field : Int) - 1075, fraction == 0 && decide (1 < field)⟩

/-- The smallest `k` with `num / den < 10 ^ k`, for `0 < num`. -/
def magnitude (num den : Nat) : Int :=
  if den ≤ num then ((Nat.toDigits 10 (num / den)).length : Int)
  else
    let rec go : Nat → Nat → Nat → Nat
      | 0, _, steps => steps
      | fuel + 1, n, steps => if den ≤ n then steps else go fuel (n * 10) (steps + 1)
    1 - (go 400 num 0 : Int)

/-- Of the two decimals `c * 10 ^ -scale` next to the number with `n` digits, the nearest one that
reads back as the number. -/
def candidate? (x : Binary) (k : Int) (n : Nat) : Option Digits :=
  let scale : Int := n - k
  let shift : Int := 2 - x.exponent
  -- `c * a` is compared with `y * b` where `y` counts units of `2 ^ (exponent - 2)`
  let a := Nat.pow 10 (-scale).toNat * Nat.pow 2 shift.toNat
  let b := Nat.pow 10 scale.toNat * Nat.pow 2 (-shift).toNat
  let value := 4 * x.mantissa * b
  let low := (if x.narrowBelow then 4 * x.mantissa - 1 else 4 * x.mantissa - 2) * b
  let high := (4 * x.mantissa + 2) * b
  let even := x.mantissa % 2 == 0
  let inside (c : Nat) : Bool :=
    if even then decide (low ≤ c * a) && decide (c * a ≤ high)
    else decide (low < c * a) && decide (c * a < high)
  let down := value / a
  let up := down + 1
  let best : Option Nat :=
    if inside down && inside up then
      let below := value - down * a
      let above := up * a - value
      if below < above then some down
      else if above < below then some up
      else some (if down % 2 == 0 then down else up)
    else if inside down then some down
    else if inside up then some up
    else none
  best.map fun c =>
    let digits := Nat.toDigits 10 c
    ⟨(digits.reverse.dropWhile (· == '0')).reverse, (digits.length : Int) - scale⟩

/-- The fewest digits that read back; seventeen always do. -/
def shortest (x : Binary) : Digits :=
  let b := Nat.pow 2 (-x.exponent).toNat
  let k := magnitude (x.mantissa * Nat.pow 2 x.exponent.toNat) b
  ((List.range 17).findSome? fun i => candidate? x k (i + 1)).getD ⟨['0'], 1⟩

/-- The digits in positional notation, with at least one digit on each side of the point. -/
def positional (d : Digits) : List Char :=
  let count : Int := d.digits.length
  if d.point ≤ 0 then
    '0' :: '.' :: List.replicate (-d.point).toNat '0' ++ d.digits
  else if count ≤ d.point then
    d.digits ++ List.replicate (d.point - count).toNat '0' ++ ['.', '0']
  else
    d.digits.take d.point.toNat ++ '.' :: d.digits.drop d.point.toNat

/-- The digits in exponent notation; the exponent has a sign and at least two digits. -/
def scientific (d : Digits) : List Char :=
  let e := d.point - 1
  let exponent := Nat.toDigits 10 e.natAbs
  let mantissa :=
    match d.digits with
    | [] => ['0']
    | [c] => [c]
    | c :: r => c :: '.' :: r
  mantissa ++ 'e' :: (if e < 0 then '-' else '+') ::
    List.replicate (2 - exponent.length) '0' ++ exponent

/-- The digits as they are written: positional if the point stands within sixteen digits on the left
and at most three zeros follow it. -/
def written (d : Digits) : List Char :=
  if -4 < d.point ∧ d.point ≤ 16 then positional d else scientific d

/-- A floating-point number as text. -/
def text (x : Float) : String :=
  let bits := x.toBits.toNat
  let sign := if bits / Nat.pow 2 63 = 1 then ['-'] else []
  let rest := bits % Nat.pow 2 63
  if rest = 0 then String.ofList (sign ++ ['0', '.', '0'])
  else if rest = 2047 * Nat.pow 2 52 then String.ofList (sign ++ ['i', 'n', 'f'])
  else if 2047 * Nat.pow 2 52 < rest then "nan"
  else String.ofList (sign ++ written (shortest (Binary.ofBits rest)))

/-- The floating-point number nearest to `mantissa * 10 ^ exponent`. -/
def read (mantissa : Nat) (exponent : Int) : Float :=
  let size : Int := (Nat.toDigits 10 mantissa).length + exponent
  if mantissa = 0 || decide (size < -400) then 0.0
  else if 400 < size then Float.ofScientific 1 false 400
  else if exponent < 0 then Float.ofScientific mantissa true exponent.natAbs
  else Float.ofScientific mantissa false exponent.natAbs

end Unreferenced.Text.Decimal
