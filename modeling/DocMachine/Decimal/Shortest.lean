import DocMachine.Decimal.Binary

/-!
# The fewest digits that read back

`Decimal.shortest` chooses, among all decimal numerals that round to a given float, one with the
fewest digits, and of those the nearest to the float. For each count of digits the two neighbours of
the float on the grid of that count are tried; the first grid with a hit wins.

`FloatStyle` says how the digits are laid out: which positions of the point are written without an
exponent and whether whole numbers keep a `.0`.
-/

namespace DocMachine

/-- The number `coefficient * 10 ^ exponent`. -/
structure Decimal where
  coefficient : Nat
  exponent : Int

namespace Decimal

/-- Moves zeros at the end of the coefficient into the exponent. The fuel bounds their count. -/
def strip : Nat → Decimal → Decimal
  | 0, d => d
  | fuel + 1, d =>
    if d.coefficient ≠ 0 ∧ d.coefficient % 10 = 0 then
      strip fuel ⟨d.coefficient / 10, d.exponent + 1⟩
    else d

/-- The reals that round to a float, and the float itself, all over one denominator. -/
structure Interval where
  low : Nat
  value : Nat
  high : Nat
  den : Nat
  closed : Bool

/-- The interval of a positive magnitude. Below a power of two the next float is half as far. -/
def Interval.of (b : Binary) : Interval :=
  let scale := Nat.pow 2 (b.exponent - 2).toNat
  let nearBelow := b.mantissa = hiddenBit ∧ b.exponent ≠ Binary.leastExponent
  { low := (4 * b.mantissa - if nearBelow then 1 else 2) * scale
    value := 4 * b.mantissa * scale
    high := (4 * b.mantissa + 2) * scale
    den := Nat.pow 2 (2 - b.exponent).toNat
    closed := b.mantissa % 2 = 0 }

/-- Whether `coefficient * 10 ^ exponent` lies in the interval. -/
def Interval.holds (i : Interval) (coefficient : Nat) (exponent : Int) : Bool :=
  let point := coefficient * Nat.pow 10 exponent.toNat * i.den
  let scale := Nat.pow 10 (-exponent).toNat
  if i.closed then i.low * scale ≤ point && point ≤ i.high * scale
  else i.low * scale < point && point < i.high * scale

/-- The count of digits before the point of a positive ratio; zero or less below 1/10. -/
def pointOf (num den : Nat) : Int :=
  let reaches (e : Int) : Bool := Nat.pow 10 e.toNat * den ≤ num * Nat.pow 10 (-e).toNat
  let guess := floorLog2 num den * 30103 / 100000
  if reaches (guess + 1) then guess + 2 else if reaches guess then guess + 1 else guess

/-- The first grid, from the coarsest, on which a neighbour of the float reads back as it. The fuel
is the number of grids left to try. -/
def search (i : Interval) (point : Int) : Nat → Nat → Decimal
  | 0, count => ⟨i.value / i.den, point - Int.ofNat count⟩
  | fuel + 1, count =>
    let exponent := point - Int.ofNat count
    let num := i.value * Nat.pow 10 (-exponent).toNat
    let den := i.den * Nat.pow 10 exponent.toNat
    let below := num / den
    match i.holds below exponent, i.holds (below + 1) exponent with
    | true, true => ⟨roundHalfEven num den, exponent⟩
    | true, false => ⟨below, exponent⟩
    | false, true => ⟨below + 1, exponent⟩
    | false, false => search i point fuel (count + 1)

/-- A shortest decimal that rounds to the magnitude, and the nearest one of that length. -/
def shortest (b : Binary) : Decimal :=
  if b.mantissa = 0 then ⟨0, 0⟩
  else
    let i := Interval.of b
    strip 18 (search i (pointOf i.value i.den) 17 1)

end Decimal

/-- How the digits of a float are laid out. -/
structure FloatStyle where
  /-- Positions of the point, counted from before the first digit, that need no exponent. -/
  positional : Int → Bool
  /-- Whether a whole number is written with `.0`. -/
  keepsPoint : Bool

namespace FloatStyle

/-- Documents write an exponent outside `-5 < point ≤ 16` and mark every float by a point. -/
def document : FloatStyle :=
  ⟨fun point => decide (-5 < point) && decide (point ≤ 16), true⟩

/-- The style without exponents, in which whole numbers look like integers. -/
def plain : FloatStyle :=
  ⟨fun _ => true, false⟩

private def zeros (n : Nat) : String := String.ofList (List.replicate n '0')

/-- Lays out a magnitude whose digits are `digits` with the point at `point`. -/
def layout (style : FloatStyle) (digits : String) (point : Int) : String :=
  let count := digits.length
  if style.positional point then
    if point ≤ 0 then "0." ++ zeros (-point).toNat ++ digits
    else if count ≤ point.toNat then
      digits ++ zeros (point.toNat - count) ++ (if style.keepsPoint then ".0" else "")
    else
      let chars := digits.toList
      String.ofList (chars.take point.toNat) ++ "." ++ String.ofList (chars.drop point.toNat)
  else
    let mantissa :=
      match digits.toList with
      | first :: [] => first.toString
      | first :: rest => first.toString ++ "." ++ String.ofList rest
      | [] => ""
    let exponent := point - 1
    mantissa ++ (if exponent < 0 then "e-" else "e+") ++ toString exponent.natAbs

/-- The text of a float. -/
def render (style : FloatStyle) (x : Float) : String :=
  if x.isNaN then "NaN"
  else
    let sign := if signBit x then "-" else ""
    if x.isInf then sign ++ "inf"
    else
      let d := Decimal.shortest (Binary.ofFloat x)
      if d.coefficient = 0 then sign ++ (if style.keepsPoint then "0.0" else "0")
      else
        let digits := toString d.coefficient
        sign ++ style.layout digits (Int.ofNat digits.length + d.exponent)

end FloatStyle

end DocMachine
