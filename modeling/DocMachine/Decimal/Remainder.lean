import DocMachine.Decimal.Binary

/-!
# The remainder of floats

The remainder of a division that truncates. It is exact: both magnitudes are brought to one power of
two, and the remainder of the mantissas needs no more bits than the divisor has.
-/

namespace DocMachine

/-- The remainder of two finite floats, with the sign of the dividend. The divisor is not zero. -/
def floatRemainder (x y : Float) : Float :=
  let a := Binary.ofFloat x
  let b := Binary.ofFloat y
  let least := min a.exponent b.exponent
  let dividend := a.mantissa * Nat.pow 2 (a.exponent - least).toNat
  let divisor := b.mantissa * Nat.pow 2 (b.exponent - least).toNat
  let rest : Binary := ⟨dividend % divisor, least⟩
  floatOfRatio (signBit x) rest.ratio.1 rest.ratio.2

end DocMachine
