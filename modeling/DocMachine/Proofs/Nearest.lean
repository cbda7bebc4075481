import DocMachine.Decimal.Binary
import Mathlib

/-!
# The floats of integers

A float has 53 binary digits, so an integer with more of them is rounded when it becomes a float. Two
integers that round to the same one cannot be told apart as floats, and no others can be mistaken for
each other.

* `Number.nearest`: the integer to which a float rounds, told without floats.
* `Nearest.Holds`: a float that is taken apart holds a number.

Results:
1. `Nearest.round_eq`: rounding keeps 53 digits, and those of the nearest number.
2. `Nearest.Holds.beq_iff` and `Nearest.Holds.stored`: floats are equal if what they hold is, and hold
   the same after they were packed.
3. `Nearest.ofInt_holds`: the float of an integer holds the nearest integer.
4. `Number.ofInt_beq_iff`: which integers have equal floats.
-/

namespace DocMachine

open Float.Model (Format UnpackedFloat totalExponent)
open Float.Model.UnpackedFloat

/-- The natural number nearest to `n` that has no more than 53 significant binary digits; a half goes to
the even neighbour. -/
def Number.nearestNat (n : Nat) : Nat :=
  let unit := 2 ^ (n.log2 - 52)
  roundHalfEven n unit * unit

/-- The integer nearest to `i` that a float holds. -/
def Number.nearest (i : Int) : Int :=
  i.sign * Number.nearestNat i.natAbs

namespace Nearest

theorem log2_mul_two_pow {n : Nat} (nonzero : n ≠ 0) (c : Nat) : (n * 2 ^ c).log2 = n.log2 + c := by
  rw [Nat.log2_eq_iff (Nat.mul_ne_zero nonzero (Nat.two_pow_pos c).ne'), Nat.pow_add,
    Nat.add_right_comm, Nat.pow_add]
  exact ⟨Nat.mul_le_mul_right _ (Nat.log2_self_le nonzero),
    Nat.mul_lt_mul_of_pos_right Nat.lt_log2_self (Nat.two_pow_pos c)⟩

/-- What is left of a number after its last `k` binary digits were dropped: the digits ahead of them,
the first of them, and whether any other of them was set. -/
theorem shifted (n k : Nat) : ExtendedMantissa.ofMantissaAndAccuracy n .exact >>> k =
    ⟨n / 2 ^ k, decide (2 ^ k ≤ 2 * (n % 2 ^ k)), decide (2 * (n % 2 ^ k) % 2 ^ k ≠ 0)⟩ := by
  induction k with
  | zero =>
    show ExtendedMantissa.mk n false false = _
    simp [Nat.mod_one]
  | succ k ih =>
    have step : ExtendedMantissa.ofMantissaAndAccuracy n .exact >>> (k + 1) =
        (ExtendedMantissa.ofMantissaAndAccuracy n .exact >>> k).shiftRightOne := rfl
    have split : n % 2 ^ (k + 1) = n % 2 ^ k + 2 ^ k * (n / 2 ^ k % 2) := by
      rw [Nat.pow_succ, Nat.mod_mul]
    have rest : n % 2 ^ k < 2 ^ k := Nat.mod_lt n (Nat.two_pow_pos k)
    have twice : 2 * (n % 2 ^ (k + 1)) % 2 ^ (k + 1) = 2 * (n % 2 ^ k) := by
      rw [split, Nat.pow_succ', Nat.mul_mod_mul_left, Nat.add_mul_mod_self_left, Nat.mod_mod]
    rw [step, ih, ExtendedMantissa.shiftRightOne, twice, split]
    congr 1
    · rw [Nat.div_div_eq_div_mul, Nat.pow_succ]
    · rcases Nat.mod_two_eq_zero_or_one (n / 2 ^ k) with even | odd
      · simp only [even, Nat.pow_succ]
        simp
        omega
      · simp only [odd, Nat.pow_succ]
        simp
        omega
    · by_cases exact : n % 2 ^ k = 0
      · simp [exact]
      · by_cases high : 2 ^ k ≤ 2 * (n % 2 ^ k)
        · simp [high]
          omega
        · rw [Nat.mod_eq_of_lt (Nat.lt_of_not_le high)]
          simp [high]

/-- The digits that are kept are rounded to the nearest number, a half to the even one. -/
theorem rounded (n k : Nat) :
    (ExtendedMantissa.ofMantissaAndAccuracy n .exact >>> k).roundedMantissa =
      roundHalfEven n (2 ^ k) := by
  have rest : n % 2 ^ k < 2 ^ k := Nat.mod_lt n (Nat.two_pow_pos k)
  rw [shifted]
  unfold roundHalfEven
  rcases Nat.lt_trichotomy (2 * (n % 2 ^ k)) (2 ^ k) with low | half | high
  · rw [decide_eq_false (Nat.not_le.mpr low), if_pos low]
    cases decide (2 * (n % 2 ^ k) % 2 ^ k ≠ 0) <;> rfl
  · rw [half, decide_eq_true (Nat.le_refl _), Nat.mod_self, if_neg (Nat.lt_irrefl _),
      if_neg (Nat.lt_irrefl _)]
    show n / 2 ^ k + n / 2 ^ k % 2 = _
    split <;> omega
  · have more : 2 * (n % 2 ^ k) % 2 ^ k ≠ 0 := by
      rw [Nat.mod_eq_sub_mod (Nat.le_of_lt high), Nat.mod_eq_of_lt (by omega)]
      omega
    rw [decide_eq_true (Nat.le_of_lt high), decide_eq_true more, if_neg (Nat.lt_asymm high),
      if_pos high]
    rfl

theorem shiftToTarget_eq {n : Nat} {e : Int} (least : -1074 ≤ e) (large : 52 ≤ n.log2) :
    shiftToTargetExponent Format.binary64 n e .exact =
      (ExtendedMantissa.ofMantissaAndAccuracy n .exact >>> (n.log2 - 52),
        e + (n.log2 - 52 : Nat)) := by
  have target : Format.binary64.targetExponent (totalExponent n e) = e + (n.log2 - 52 : Nat) := by
    simp only [Format.targetExponent, totalExponent, Format.mantissaBits, Format.minExponent]
    omega
  have amount : (e + (n.log2 - 52 : Nat) - e).toNat = n.log2 - 52 := by omega
  rw [shiftToTargetExponent, shiftToExponent, target, amount]

theorem le_roundHalfEven (num den : Nat) : num / den ≤ roundHalfEven num den := by
  simp only [roundHalfEven]
  split
  · exact Nat.le_refl _
  · split
    · exact Nat.le_succ _
    · split
      · exact Nat.le_refl _
      · exact Nat.le_succ _

theorem roundHalfEven_le (num den : Nat) : roundHalfEven num den ≤ num / den + 1 := by
  simp only [roundHalfEven]
  split
  · exact Nat.le_succ _
  · split
    · exact Nat.le_refl _
    · split
      · exact Nat.le_succ _
      · exact Nat.le_refl _

theorem finite_eq {sign : Sign} {x : ExtendedMantissa × Int} {m : Nat} {e : Int} {positive : 0 < m}
    (mantissa : x.1.mantissa = m) (exponent : x.2 = e) :
    (if zero : x.1.mantissa = 0 then .zero sign
      else .finite sign x.1.mantissa x.2 (Nat.pos_of_ne_zero zero)) =
      UnpackedFloat.finite sign m e positive := by
  subst mantissa exponent
  exact dif_neg (Nat.ne_of_gt positive)

/-- A number with 53 binary digits or more is rounded to 53. -/
theorem round_eq (sign : Sign) {n : Nat} {e : Int} (least : -1074 ≤ e) (large : 52 ≤ n.log2) :
    ∃ m d, ∃ positive : 0 < m, 2 ^ 52 ≤ m ∧ m < 2 ^ 53 ∧ d + 51 ≤ n.log2 ∧
      m * 2 ^ d = Number.nearestNat n ∧ roundWithAccuracy Format.binary64 sign n e .exact =
        .finite sign m (e + (d : Nat)) positive := by
  have bounds := (Nat.log2_eq_iff (n := n) (by rintro rfl; simp at large)).mp rfl
  have digits : n.log2 = 52 + (n.log2 - 52) := by omega
  have first := shiftToTarget_eq least large
  rw [Number.nearestNat]
  generalize n.log2 - 52 = k at digits first
  -- The digits that are kept are between these bounds, and rounding may reach the upper one.
  have low : 2 ^ 52 ≤ roundHalfEven n (2 ^ k) := by
    refine Nat.le_trans ?_ (le_roundHalfEven n (2 ^ k))
    rw [Nat.le_div_iff_mul_le (Nat.two_pow_pos k), ← Nat.pow_add, ← digits]
    exact bounds.1
  have high : roundHalfEven n (2 ^ k) ≤ 2 ^ 53 := by
    refine Nat.le_trans (roundHalfEven_le n (2 ^ k)) ?_
    rw [Nat.succ_le_iff, Nat.div_lt_iff_lt_mul (Nat.two_pow_pos k), ← Nat.pow_add,
      show 53 + k = n.log2 + 1 by omega]
    exact bounds.2
  rw [roundWithAccuracy, first]
  dsimp only
  rw [rounded]
  generalize roundHalfEven n (2 ^ k) = kept at low high
  have large' : 52 ≤ kept.log2 := (Nat.le_log2 (by omega)).mpr low
  rw [shiftToTarget_eq (by omega) large']
  rcases Nat.lt_or_eq_of_le high with fewer | rfl
  · refine ⟨kept, k, by omega, low, fewer, by omega, rfl, ?_⟩
    rw [(Nat.log2_eq_iff (by omega)).mpr ⟨low, fewer⟩]
    exact finite_eq rfl (by omega)
  · refine ⟨2 ^ 52, k + 1, by decide, Nat.le_refl _, by decide, by omega, ?_, ?_⟩
    · rw [← Nat.pow_add, ← Nat.pow_add, show 52 + (k + 1) = 53 + k by omega]
    · rw [Nat.log2_two_pow]
      exact finite_eq rfl (by omega)

/-! ### What a float holds -/

/-- The float holds this many units of `2 ^ (-53)`, with all 53 digits of its mantissa in use. -/
inductive Holds : UnpackedFloat → Int → Prop
  | zero (sign : Sign) : Holds (.zero sign) 0
  | positive {m a : Nat} {positive : 0 < m} (low : 2 ^ 52 ≤ m) (high : m < 2 ^ 53) (small : a ≤ 1000) :
      Holds (.finite .positive m (-53 + (a : Nat)) positive) (m * 2 ^ a : Nat)
  | negative {m a : Nat} {positive : 0 < m} (low : 2 ^ 52 ≤ m) (high : m < 2 ^ 53) (small : a ≤ 1000) :
      Holds (.finite .negative m (-53 + (a : Nat)) positive) (-(m * 2 ^ a : Nat))

theorem Holds.neg {v : Int} {x : UnpackedFloat} (holds : Holds x v) : Holds x.neg (-v) := by
  cases holds with
  | zero sign => exact .zero (-sign)
  | positive low high small => exact .negative low high small
  | negative low high small =>
    rw [Int.neg_neg]
    exact .positive low high small

/-- The length of a mantissa is known, so it and the exponent can be told from their product. -/
theorem parts_eq {m k a b : Nat} (lowM : 2 ^ 52 ≤ m) (highM : m < 2 ^ 53) (lowK : 2 ^ 52 ≤ k)
    (highK : k < 2 ^ 53) (same : m * 2 ^ a = k * 2 ^ b) : a = b ∧ m = k := by
  have length : ∀ {m : Nat} (a : Nat), 2 ^ 52 ≤ m → m < 2 ^ 53 → (m * 2 ^ a).log2 = 52 + a := by
    intro m a low high
    rw [log2_mul_two_pow (by omega), (Nat.log2_eq_iff (by omega)).mpr ⟨low, high⟩]
  obtain rfl : a = b := by
    have := length a lowM highM
    rw [same, length b lowK highK] at this
    omega
  exact ⟨rfl, Nat.eq_of_mul_eq_mul_right (Nat.two_pow_pos a) same⟩

/-- Two mantissas with their exponents are compared as the numbers they stand for. -/
theorem compare_parts {m k a b : Nat} (lowM : 2 ^ 52 ≤ m) (highM : m < 2 ^ 53)
    (lowK : 2 ^ 52 ≤ k) (highK : k < 2 ^ 53) :
    (compare (-53 + a : Int) (-53 + b)).then (compare m k) = .eq ↔ m * 2 ^ a = k * 2 ^ b := by
  rw [Ordering.then_eq_eq, Int.compare_eq_eq, Nat.compare_eq_eq]
  constructor
  · rintro ⟨exponents, rfl⟩
    obtain rfl : a = b := by omega
    rfl
  · intro same
    obtain ⟨rfl, rfl⟩ := parts_eq lowM highM lowK highK same
    exact ⟨rfl, rfl⟩

/-- Floats are told apart just as the numbers that they hold. -/
theorem Holds.beq_iff {v w : Int} {x y : UnpackedFloat} (left : Holds x v) (right : Holds y w) :
    x.beq y = true ↔ v = w := by
  have pos : ∀ {m : Nat} (a : Nat), 2 ^ 52 ≤ m → 0 < m * 2 ^ a := fun a low =>
    Nat.mul_pos (by omega) (Nat.two_pow_pos a)
  rw [UnpackedFloat.beq, beq_iff_eq]
  cases left with
  | zero sign =>
    cases right with
    | zero sign' => exact ⟨fun _ => rfl, fun _ => rfl⟩
    | @positive k b _ lowK highK _ => exact ⟨nofun, fun same => by have := pos b lowK; omega⟩
    | @negative k b _ lowK highK _ => exact ⟨nofun, fun same => by have := pos b lowK; omega⟩
  | @positive m a _ low high _ =>
    have := pos a low
    cases right with
    | zero sign' => exact ⟨nofun, fun same => by omega⟩
    | positive lowK highK _ =>
      show some _ = some Ordering.eq ↔ _
      rw [Option.some_inj, compare_parts low high lowK highK, Int.ofNat_inj]
    | @negative k b _ lowK highK _ => exact ⟨nofun, fun same => by have := pos b lowK; omega⟩
  | @negative m a _ low high _ =>
    have := pos a low
    cases right with
    | zero sign' => exact ⟨nofun, fun same => by omega⟩
    | @positive k b _ lowK highK _ => exact ⟨nofun, fun same => by have := pos b lowK; omega⟩
    | negative lowK highK _ =>
      show some (Ordering.swap _) = some Ordering.eq ↔ _
      rw [Option.some_inj, Ordering.swap_eq_eq, compare_parts low high lowK highK, Int.neg_inj,
        Int.ofNat_inj]

theorem unpackSign_packComponents (sign : Sign) (exponent : BitVec 11) (mantissa : BitVec 52) :
    unpackSign (packComponents Format.binary64 sign exponent mantissa) = sign.toBitVec := by
  show (sign.toBitVec ++ exponent ++ mantissa).extractLsb' 63 1 = sign.toBitVec
  rw [BitVec.extractLsb'_append_eq_of_le (by decide), BitVec.extractLsb'_append_eq_of_le (by decide)]
  cases sign <;> rfl

/-- A float with all its digits in use survives being stored. -/
theorem unpack_pack (sign : Sign) {m : Nat} {e : Int} {positive : 0 < m} (low : 2 ^ 52 ≤ m)
    (high : m < 2 ^ 53) (least : -1074 ≤ e) (greatest : e ≤ 971) :
    (Float.Model.pack (.finite sign m e positive)).unpack = .finite sign m e positive := by
  obtain ⟨biased, rfl⟩ : ∃ biased : Nat, e = biased - 1075 := ⟨(e + 1075).toNat, by omega⟩
  have stored : pack Format.binary64 (.finite sign m (biased - 1075) positive) =
      packComponents Format.binary64 sign (BitVec.ofNat 11 biased) (BitVec.ofNat 52 m) := by
    have exponent : (biased - 1075 + (Format.binary64.exponentBias : Int) +
        (Format.binary64.mantissaBitsWithoutImplicit : Nat)).toNat = biased := by
      show ((biased : Int) - 1075 + 1023 + 52).toNat = biased
      omega
    have length : m.log2 + 1 = Format.binary64.mantissaBits := by
      rw [(Nat.log2_eq_iff (by omega)).mpr ⟨low, high⟩]
      rfl
    simp only [pack, exponent]
    rw [if_neg (show ¬ 2 ^ 11 ≤ biased + 1 by omega), if_pos length]
  have exponent : (BitVec.ofNat 11 biased).toNat = biased := by
    rw [BitVec.toNat_ofNat]
    omega
  have mantissa : (1#1 ++ BitVec.ofNat 52 m).toNat = m := by
    rw [BitVec.toNat_append, BitVec.toNat_ofNat]
    show 1 <<< 52 ||| m % 2 ^ 52 = m
    rw [Nat.one_shiftLeft, Nat.or_comm, Nat.or_two_pow_eq_add_of_lt (Nat.mod_lt m (Nat.two_pow_pos 52))]
    omega
  have infinite : BitVec.ofNat 11 biased ≠ -1#11 := fun same => by
    have : biased = 2047 := exponent.symm.trans (congrArg BitVec.toNat same)
    omega
  have tiny : BitVec.ofNat 11 biased ≠ 0#11 := fun same => by
    have : biased = 0 := exponent.symm.trans (congrArg BitVec.toNat same)
    omega
  show unpack Format.binary64 (pack Format.binary64 _) = _
  rw [stored]
  simp only [unpack, unpackMantissa_packComponents, unpackExponent_packComponents,
    unpackSign_packComponents]
  rw [if_neg infinite, if_neg tiny]
  congr 1
  · cases sign <;> rfl
  · rw [exponent]
    rfl

theorem Holds.stored {v : Int} {x : UnpackedFloat} (holds : Holds x v) :
    (Float.Model.pack x).unpack = x := by
  cases holds with
  | zero sign => cases sign <;> rfl
  | positive low high small => exact unpack_pack _ low high (by omega) (by omega)
  | negative low high small => exact unpack_pack _ low high (by omega) (by omega)

/-- Few digits are all kept. -/
theorem nearestNat_of_lt {n : Nat} (few : n < 2 ^ 53) : Number.nearestNat n = n := by
  rcases Nat.eq_zero_or_pos n with rfl | positive
  · rfl
  · have short : n.log2 - 52 = 0 := by
      have := (Nat.log2_lt (k := 53) (by omega)).mpr few
      omega
    rw [Number.nearestNat, short]
    simp [roundHalfEven, Nat.mod_one]

theorem roundHalfEven_mul_right (num den : Nat) {c : Nat} (positive : 0 < c) :
    roundHalfEven (num * c) (den * c) = roundHalfEven num den := by
  simp only [roundHalfEven, Nat.mul_div_mul_right num den positive, Nat.mul_mod_mul_right,
    ← Nat.mul_assoc, Nat.mul_lt_mul_right positive]

/-- Zeros at the end of a number with enough digits are kept as they are. -/
theorem nearestNat_mul_two_pow {n : Nat} (large : 52 ≤ n.log2) (c : Nat) :
    Number.nearestNat (n * 2 ^ c) = Number.nearestNat n * 2 ^ c := by
  have length : (n * 2 ^ c).log2 - 52 = n.log2 - 52 + c := by
    rw [log2_mul_two_pow (by rintro rfl; simp at large), Nat.sub_add_comm large]
  simp only [Number.nearestNat, length]
  rw [Nat.pow_add, roundHalfEven_mul_right _ _ (Nat.two_pow_pos c), Nat.mul_assoc]

/-! ### The floats of integers -/

/-- Fewer digits than a float holds are followed by zeros. -/
theorem round_small {n : Nat} (nonzero : n ≠ 0) (few : n < 2 ^ 53) :
    ∃ m a, ∃ positive : 0 < m, 2 ^ 52 ≤ m ∧ m < 2 ^ 53 ∧ a ≤ 1000 ∧ m * 2 ^ a = n * 2 ^ 53 ∧
      UnpackedFloat.round Format.binary64 .positive n 0 =
        .finite .positive m (-53 + (a : Nat)) positive := by
  have length : n.log2 ≤ 52 := Nat.lt_succ_iff.mp ((Nat.log2_lt nonzero).mpr few)
  have target : Format.binary64.targetExponent (totalExponent n 0) = (n.log2 : Int) - 52 := by
    simp only [Format.targetExponent, totalExponent, Format.mantissaBits, Format.minExponent]
    omega
  have filled : (n * 2 ^ (52 - n.log2)).log2 = 52 := by
    rw [log2_mul_two_pow nonzero, Nat.add_sub_cancel' length]
  have all : n * 2 ^ (52 - n.log2) < 2 ^ 53 :=
    (Nat.log2_lt (Nat.mul_ne_zero nonzero (Nat.two_pow_pos _).ne')).mp (by omega)
  obtain ⟨m, d, positive, low, high, small, value, rounds⟩ :=
    round_eq (n := n * 2 ^ (52 - n.log2)) (e := 0 - (52 - n.log2 : Nat)) .positive (by omega)
      (Nat.le_of_eq filled.symm)
  rw [filled] at small
  refine ⟨m, n.log2 + 1 + d, positive, low, high, by omega, ?_, ?_⟩
  · rw [Nat.add_comm _ d, Nat.pow_add, ← Nat.mul_assoc, value, nearestNat_of_lt all, Nat.mul_assoc,
      ← Nat.pow_add, show 52 - n.log2 + (n.log2 + 1) = 53 by omega]
  · have amount : ((0 : Int) - (n.log2 - 52)).toNat = 52 - n.log2 := by omega
    simp only [UnpackedFloat.round, target, decreaseExponent, amount, Nat.shiftLeft_eq, rounds]
    congr 1
    omega

/-- A number times one, which is held as `2 ^ 52 * 2 ^ (-52)`, is itself. -/
theorem mul_one_eq {m : Nat} {e : Int} {positive : 0 < m} (low : 2 ^ 52 ≤ m) (high : m < 2 ^ 53)
    (least : -1000 ≤ e) :
    UnpackedFloat.mul Format.binary64 (.finite .positive m e positive)
      (.finite .positive (2 ^ 52) (-52) (by decide)) = .finite .positive m e positive := by
  have large : 52 ≤ (m * 2 ^ 52).log2 := by
    rw [log2_mul_two_pow (by omega)]
    exact Nat.le_add_left 52 _
  obtain ⟨k, d, positive', low', high', -, value, rounds⟩ :=
    round_eq (e := e + -52) .positive (by omega) large
  rw [nearestNat_mul_two_pow ((Nat.le_log2 (by omega)).mpr low), nearestNat_of_lt high] at value
  obtain ⟨rfl, rfl⟩ := parts_eq low' high' low high value
  refine rounds.trans ?_
  congr 1
  omega

/-- With few digits, the conversion multiplies by a power of ten, here the first one. -/
theorem ofNat_small {n : Nat} (nonzero : n ≠ 0) (few : n < 2 ^ 53) :
    Holds (Float.ofNat n).toModel.unpack (Number.nearestNat n * 2 ^ 53 : Nat) := by
  have unfolded : Float.ofNat n = n.toUInt64.toFloat * Float.exactlyRepresentablePowersOfTen[0] := by
    show Float.ofScientific n false 0 = _
    rw [Float.ofScientific, dif_pos ⟨few, by decide⟩]
    rfl
  obtain ⟨m, a, positive, low, high, small, value, rounds⟩ := round_small nonzero few
  have holds : Holds (.finite .positive m (-53 + (a : Nat)) positive) (m * 2 ^ a : Nat) :=
    .positive low high small
  have normal : ofUInt64 Format.binary64 n.toUInt64 =
      UnpackedFloat.round Format.binary64 .positive n 0 := by
    have word : n.toUInt64.toNat = n := by
      rw [Nat.toUInt64_eq, UInt64.toNat_ofNat', Nat.mod_eq_of_lt (by omega)]
    have above : compare (n : Int) 0 = .gt := Int.compare_eq_gt.mpr (by omega)
    rw [ofUInt64, word, UnpackedFloat.ofNat, UnpackedFloat.ofInt, UnpackedFloat.normalize, above,
      Int.toNat_natCast]
  have converted : n.toUInt64.toFloat.toModel.unpack =
      .finite .positive m (-53 + (a : Nat)) positive := by
    show (Float.Model.pack (ofUInt64 Format.binary64 n.toUInt64)).unpack = _
    rw [normal, rounds, holds.stored]
  have one : Float.exactlyRepresentablePowersOfTen[0].toModel.unpack =
      .finite .positive (2 ^ 52) (-52) (by decide) := rfl
  have product : (Float.ofNat n).toModel.unpack = .finite .positive m (-53 + (a : Nat)) positive := by
    rw [unfolded]
    show (Float.Model.pack (UnpackedFloat.mul Format.binary64 n.toUInt64.toFloat.toModel.unpack
      Float.exactlyRepresentablePowersOfTen[0].toModel.unpack)).unpack = _
    rw [converted, one, mul_one_eq low high (by omega), holds.stored]
  rw [product, nearestNat_of_lt few, ← value]
  exact holds

/-- With many digits, the conversion rounds once. -/
theorem ofNat_large {n : Nat} (many : 2 ^ 53 ≤ n) (bound : n ≤ 2 ^ 64) :
    Holds (Float.ofNat n).toModel.unpack (Number.nearestNat n * 2 ^ 53 : Nat) := by
  have unfolded : (Float.ofNat n).toModel = Float.Model.ofScientific n 0 := by
    show (Float.ofScientific n false 0).toModel = _
    rw [Float.ofScientific, dif_neg (fun small => Nat.not_lt.mpr many small.1)]
    rfl
  have large : 52 ≤ n.log2 := (Nat.le_log2 (by omega)).mpr (by omega)
  have short : n.log2 ≤ 64 := Nat.lt_succ_iff.mp ((Nat.log2_lt (by omega)).mpr (by omega))
  have length : (n * 2 ^ 53).log2 = n.log2 + 53 := log2_mul_two_pow (by omega) 53
  have scientific : ofScientific Format.binary64 n 0 =
      roundWithAccuracy Format.binary64 .positive (n * 2 ^ 53) (-53) .exact := by
    have least : ¬ (0 : Int) < -(2 ^ 11 + n.log2) := by omega
    rw [UnpackedFloat.ofScientific, dif_neg (by omega), if_neg (by decide), if_neg least,
      if_pos (by decide)]
    show roundWithAccuracy Format.binary64 .positive (n <<< 53 * 1) (-53 + 0) .exact = _
    rw [Nat.shiftLeft_eq, Nat.mul_one]
    rfl
  obtain ⟨m, d, positive, low, high, small, value, rounds⟩ :=
    round_eq (n := n * 2 ^ 53) (e := -53) .positive (by decide) (by omega)
  have holds : Holds (.finite .positive m (-53 + (d : Nat)) positive) (m * 2 ^ d : Nat) :=
    .positive low high (by omega)
  rw [unfolded, Float.Model.ofScientific, scientific, rounds, holds.stored,
    ← nearestNat_mul_two_pow large, ← value]
  exact holds

/-- The float of a natural number holds the nearest number. -/
theorem ofNat_holds {n : Nat} (bound : n ≤ 2 ^ 64) :
    Holds (Float.ofNat n).toModel.unpack (Number.nearestNat n * 2 ^ 53 : Nat) := by
  rcases Nat.eq_zero_or_pos n with rfl | nonzero
  · exact .zero .positive
  rcases Nat.lt_or_ge n (2 ^ 53) with few | many
  · exact ofNat_small nonzero.ne' few
  · exact ofNat_large many bound

/-- The float of an integer holds the nearest integer. -/
theorem ofInt_holds {i : Int} (bound : i.natAbs ≤ 2 ^ 64) :
    Holds (Float.ofInt i).toModel.unpack (Number.nearest i * 2 ^ 53) := by
  cases i with
  | ofNat n =>
    have value : Number.nearest n * 2 ^ 53 = (Number.nearestNat n * 2 ^ 53 : Nat) := by
      cases n with
      | zero => rfl
      | succ n =>
        show (1 : Int) * Number.nearestNat (n + 1) * 2 ^ 53 = _
        omega
    exact value ▸ ofNat_holds bound
  | negSucc n =>
    have holds := ofNat_holds (n := n + 1) bound
    have value : Number.nearest (.negSucc n) * 2 ^ 53 =
        -(Number.nearestNat (n + 1) * 2 ^ 53 : Nat) := by
      show (-1 : Int) * Number.nearestNat (n + 1) * 2 ^ 53 = _
      omega
    show Holds (Float.Model.pack (Float.ofNat (n + 1)).toModel.unpack.neg).unpack _
    rw [value, holds.neg.stored]
    exact holds.neg

end Nearest

namespace Number

/-- Up to `2 ^ 64`, two integers have equal floats if the same integer is nearest to both. -/
theorem ofInt_beq_iff {i j : Int} (left : i.natAbs ≤ 2 ^ 64) (right : j.natAbs ≤ 2 ^ 64) :
    (Float.ofInt i == Float.ofInt j) = true ↔ nearest i = nearest j := by
  show (Float.ofInt i).toModel.unpack.beq (Float.ofInt j).toModel.unpack = true ↔ _
  rw [(Nearest.ofInt_holds left).beq_iff (Nearest.ofInt_holds right)]
  omega

end Number

end DocMachine
