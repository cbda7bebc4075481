/-!
# Floats as exact numbers

A finite float is a sign and a magnitude `mantissa * 2 ^ exponent`. Reading a decimal numeral means
rounding an exact ratio to the nearest such magnitude; printing means choosing decimal digits for
one. Both work on natural numbers only.

* `Binary.ofFloat` takes a magnitude apart.
* `floatOfRatio` is the nearest float of a ratio, a half going to the even neighbour.
* `floatOfDecimal` is the nearest float of a decimal numeral.
-/

namespace DocMachine

/-- The leading bit of a mantissa, which a float leaves out: 52 bits follow it. -/
def hiddenBit : Nat := 0x10000000000000

/-- The bit of the sign. -/
def signWeight : Nat := 0x8000000000000000

/-- The magnitude `mantissa * 2 ^ exponent`. -/
structure Binary where
  mantissa : Nat
  exponent : Int

namespace Binary

/-- The exponent of the smallest magnitudes. -/
def leastExponent : Int := -1074

/-- The magnitude of a finite float. -/
def ofFloat (x : Float) : Binary :=
  let bits := x.toBits.toNat
  let fraction := bits % hiddenBit
  let biased := bits / hiddenBit % 2048
  if biased = 0 then ⟨fraction, leastExponent⟩ else ⟨hiddenBit + fraction, Int.ofNat biased - 1075⟩

/-- The magnitude as a ratio of natural numbers. -/
def ratio (b : Binary) : Nat × Nat :=
  (b.mantissa * Nat.pow 2 b.exponent.toNat, Nat.pow 2 (-b.exponent).toNat)

end Binary

/-- Whether the sign bit of a float is set, as it is for -0.0. -/
def signBit (x : Float) : Bool :=
  decide (x.toBits.toNat / signWeight % 2 = 1)

/-- The quotient rounded to the nearest natural number, a half going to the even one. -/
def roundHalfEven (num den : Nat) : Nat :=
  let quotient := num / den
  let twice := 2 * (num % den)
  if twice < den then quotient
  else if den < twice then quotient + 1
  else if quotient % 2 = 0 then quotient
  else quotient + 1

/-- Puts a sign and the bits of a magnitude together. -/
def floatOfBits (negative : Bool) (magnitude : Nat) : Float :=
  Float.ofBits ((if negative then signWeight else 0) + magnitude).toUInt64

/-- The bits of positive infinity. -/
def infinityBits : Nat := 2047 * hiddenBit

/-- The bits of the quiet value that is not a number. -/
def nanBits : Nat := infinityBits + hiddenBit / 2

/-- The greatest `e` with `2 ^ e * den ≤ num`, for positive `num` and `den`. -/
def floorLog2 (num den : Nat) : Int :=
  let guess : Int := Int.ofNat num.log2 - Int.ofNat den.log2
  if den * Nat.pow 2 guess.toNat ≤ num * Nat.pow 2 (-guess).toNat then guess else guess - 1

/-- The float nearest to `num / den`. Ratios beyond the range give infinity. -/
def floatOfRatio (negative : Bool) (num den : Nat) : Float :=
  if num = 0 then floatOfBits negative 0
  else
    let exponent := max (floorLog2 num den - 52) Binary.leastExponent
    let mantissa :=
      roundHalfEven (num * Nat.pow 2 (-exponent).toNat) (den * Nat.pow 2 exponent.toNat)
    let bits :=
      if mantissa < hiddenBit then mantissa
      else (exponent + 1074).toNat * hiddenBit + mantissa
    floatOfBits negative (min bits infinityBits)

/-- The float nearest to `digits * 10 ^ exponent`. -/
def floatOfDecimal (negative : Bool) (digits : Nat) (exponent : Int) : Float :=
  if digits = 0 then floatOfBits negative 0
  else
    let point := Int.ofNat (Nat.toDigits 10 digits).length + exponent
    if 310 < point then floatOfBits negative infinityBits
    else if point < -330 then floatOfBits negative 0
    else floatOfRatio negative (digits * Nat.pow 10 exponent.toNat) (Nat.pow 10 (-exponent).toNat)

end DocMachine
