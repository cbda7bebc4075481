import DocMachine.Decimal.Shortest

/-!
# Fixed places

The exact decimal expansion of a float, cut to a number of places and rounded half to even: with all
digits before the point (`fixedPoint`) or in scientific notation (`scientific`).
-/

namespace DocMachine

/-- `text` filled up with zeros on the left to at least `width` characters. -/
def zeroFill (text : String) (width : Nat) : String :=
  String.ofList (List.replicate (width - text.length) '0') ++ text

/-- Digits with the point before the last `places` of them; no point for zero places. -/
def withPoint (digits : String) (places : Nat) : String :=
  if places = 0 then digits
  else
    let chars := digits.toList
    let whole := chars.length - places
    String.ofList (chars.take whole) ++ "." ++ String.ofList (chars.drop whole)

/-- The magnitude of a finite float with `places` digits after the point. -/
def fixedPoint (x : Float) (places : Nat) : String :=
  let (num, den) := (Binary.ofFloat x).ratio
  withPoint (zeroFill (toString (roundHalfEven (num * Nat.pow 10 places) den)) (places + 1)) places

/-- The magnitude of a finite float as a mantissa with one digit before the point and `places`
after it, and a power of ten. -/
def scientific (x : Float) (places : Nat) : String × Int :=
  let (num, den) := (Binary.ofFloat x).ratio
  if num = 0 then (withPoint (zeroFill "0" (places + 1)) places, 0)
  else
    let power := Decimal.pointOf num den - 1
    let shift := Int.ofNat places - power
    let digits := roundHalfEven (num * Nat.pow 10 shift.toNat) (den * Nat.pow 10 (-shift).toNat)
    if digits = Nat.pow 10 (places + 1) then
      (withPoint (toString (Nat.pow 10 places)) places, power + 1)
    else (withPoint (toString digits) places, power)

/-- `fixedPoint` for every float: an infinite magnitude has a name instead of digits. -/
def fixedText (x : Float) (places : Nat) : String :=
  if x.isNaN then "NaN" else if x.isInf then "inf" else fixedPoint x places

/-- Scientific notation with a signed exponent of at least two digits. -/
def scientificText (x : Float) (places : Nat) : String :=
  if x.isNaN then "NaN"
  else if x.isInf then "inf"
  else
    let (mantissa, power) := scientific x places
    mantissa ++ (if power < 0 then "e-" else "e+") ++ zeroFill (toString power.natAbs) 2

end DocMachine
