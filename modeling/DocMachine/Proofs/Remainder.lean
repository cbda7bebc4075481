import DocMachine.Proofs.Composites

/-!
# Remainders of words

The remainder of two integers is on the side of the divisor. In words it is made of the remainder that is
truncated towards zero, and two things may leave the words on the way: the quotient of the least word by -1,
and the sum that takes a remainder to the side of the divisor.

* `Number.Remains`: what it takes to be the remainder.
* `Number.wordRemainder?`: how it is made in words, with no result where a sum leaves them.
* `Builtin.Fails` says with what an op fails, wherever it is run, and what it leaves on the stack.

Results:
1. `Number.Remains.unique` and `Arith.flooredRemainder_remains`: there is one remainder, and arithmetic
   yields it.
2. `Arith.wordRemainder?_eq`: words suffice to make it.
3. `Builtin.modulo_remains`: by zero the op fails, and otherwise it pushes the remainder.
-/

namespace DocMachine

namespace Number

/-- `r` is what is left of `a` without a multiple of `b`. It is closer to zero than `b`, and on its side. -/
structure Remains (a b r : Int) : Prop where
  multiple : ∃ q, a = q * b + r
  small : r.natAbs < b.natAbs
  side : r = 0 ∨ r.sign = b.sign

/-- The sum of two words, if it is a word. -/
def sum? (a b : Int) : Option Int :=
  if isWord (a + b) then some (a + b) else none

/-- The remainder of two words that is truncated towards zero, if they have a quotient and it is a word. -/
def truncated? (a b : Int) : Option Int :=
  if b ≠ 0 ∧ isWord (a.tdiv b) then some (a.tmod b) else none

/-- The remainder of two words on the side of the divisor. The truncated one is on the side of the dividend,
and is taken to the other side if need be. -/
def wordRemainder? (a b : Int) : Option Int :=
  -- Where the quotient is no word, nothing remains.
  let r := (truncated? a b).getD 0
  if r ≠ 0 ∧ decide (r < 0) ≠ decide (b < 0) then sum? r b else some r

theorem isWord_iff {i : Int} :
    isWord i = true ↔ -0x8000000000000000 ≤ i ∧ i ≤ 0x7fffffffffffffff := by
  rw [isWord, Bool.and_eq_true, decide_eq_true_eq, decide_eq_true_eq]
  rfl

theorem sign_eq_sign_iff {r b : Int} (nonzero : r ≠ 0) (nonzero' : b ≠ 0) :
    r.sign = b.sign ↔ (r < 0 ↔ b < 0) := by
  rcases lt_or_gt_of_ne nonzero' with negative | positive
  · rw [Int.sign_eq_neg_one_of_neg negative, Int.sign_eq_neg_one_iff_neg]
    omega
  · rw [Int.sign_eq_one_of_pos positive, Int.sign_eq_one_iff_pos]
    omega

namespace Remains

variable {a b r s : Int}

theorem beside (remains : Remains a b r) : r = 0 ∨ (r < 0 ↔ b < 0) := by
  have nonzero : b ≠ 0 := by
    rintro rfl
    exact Nat.not_lt_zero _ remains.small
  by_cases exact : r = 0
  · exact .inl exact
  · exact .inr ((sign_eq_sign_iff exact nonzero).mp (remains.side.resolve_left exact))

/-- Two remainders differ by a multiple of the divisor, and by less than the divisor. -/
theorem unique (one : Remains a b r) (other : Remains a b s) : s = r := by
  obtain ⟨q, whole⟩ := one.multiple
  obtain ⟨p, whole'⟩ := other.multiple
  have apart : s - r = b * (q - p) := by
    rw [Int.mul_comm, Int.sub_mul]
    omega
  have close : (s - r).natAbs < b.natAbs := by
    have small := one.small
    have small' := other.small
    rcases one.beside with rfl | side <;> rcases other.beside with rfl | side' <;> omega
  have same : s - r = 0 := Int.eq_zero_of_dvd_of_natAbs_lt_natAbs ⟨_, apart⟩ close
  omega

end Remains

end Number

namespace Arith

open Number

variable {a b : Int}

theorem natAbs_tmod_lt (nonzero : b ≠ 0) : (a.tmod b).natAbs < b.natAbs := by
  rw [Int.natAbs_tmod]
  exact Nat.mod_lt _ (Int.natAbs_pos.mpr nonzero)

theorem flooredRemainder_remains (nonzero : b ≠ 0) : Remains a b (flooredRemainder a b) := by
  have small : (a.tmod b).natAbs < b.natAbs := natAbs_tmod_lt nonzero
  have whole : a = a.tdiv b * b + a.tmod b := by
    rw [Int.mul_comm, Int.mul_tdiv_add_tmod]
  unfold flooredRemainder
  dsimp only
  split
  · next across =>
    obtain ⟨rest, apart⟩ := across
    rw [Ne, decide_eq_decide] at apart
    -- One more multiple of the divisor leads across zero, and not as far as the divisor.
    refine ⟨⟨a.tdiv b - 1, by rw [Int.sub_mul]; omega⟩, by omega, .inr ?_⟩
    exact (sign_eq_sign_iff (by omega) nonzero).mpr (by omega)
  · next within =>
    refine ⟨⟨a.tdiv b, whole⟩, small, ?_⟩
    by_cases rest : a.tmod b = 0
    · exact .inl rest
    · refine .inr ((sign_eq_sign_iff rest nonzero).mpr ?_)
      by_contra apart
      exact within ⟨rest, by rwa [Ne, decide_eq_decide]⟩

/-- Where the quotient of two words is no word, nothing remains: the divisor is -1. -/
theorem truncated?_eq (word : isWord a = true) (nonzero : b ≠ 0) :
    (truncated? a b).getD 0 = a.tmod b := by
  unfold truncated?
  split
  · rfl
  · next leaves =>
    have wide : ¬ isWord (a.tdiv b) = true := fun quotient => leaves ⟨nonzero, quotient⟩
    rw [isWord_iff] at word wide
    have size : (a.tdiv b).natAbs = a.natAbs / b.natAbs := Int.natAbs_tdiv a b
    have unit : b.natAbs = 1 := by
      by_contra other
      have half : a.natAbs / b.natAbs ≤ a.natAbs / 2 := Nat.div_le_div_left (by omega) (by decide)
      omega
    have none : (a.tmod b).natAbs = 0 := by rw [Int.natAbs_tmod, unit, Nat.mod_one]
    exact (Int.natAbs_eq_zero.mp none).symm

/-- The sum that takes a remainder to the side of the divisor lies between two words. -/
theorem wordRemainder?_eq (word : isWord a = true) (word' : isWord b = true) (nonzero : b ≠ 0) :
    wordRemainder? a b = some (flooredRemainder a b) := by
  unfold wordRemainder? flooredRemainder
  rw [truncated?_eq word nonzero]
  dsimp only
  split
  · next across =>
    obtain ⟨rest, apart⟩ := across
    rw [Ne, decide_eq_decide] at apart
    have small : (a.tmod b).natAbs < b.natAbs := natAbs_tmod_lt nonzero
    rw [isWord_iff] at word'
    exact if_pos (isWord_iff.mpr (by omega))
  · rfl

end Arith

namespace Builtin

/-- Wherever it is run, with these parameters, the op fails, and leaves another stack and everything else as
it was. -/
def Fails (op : Builtin) (scope : Scope) (before : List Value) (fault : Fault) (after : List Value) : Prop :=
  ∀ ⦃ω π : Type⦄ (host : Host ω π) (callee : Frame → Machine ω π → Run ω π) (name : String)
    (frame : Frame) (machine : Machine ω π), machine.stack = before →
    frame.dispatch host callee name scope (.builtin op) machine =
      frame.stops fault frame.spent { machine with stack := after }

theorem Fails.not_rewrites {op : Builtin} {scope : Scope} {before after other : List Value} {fault : Fault}
    (fails : op.Fails scope before fault after) : ¬ op.Rewrites scope before other := by
  intro rewrites
  let machine : Machine (World Unit) (Plug Empty) :=
    { stack := before, registry := Registry.builtins, world := { guest := () } }
  have failed := fails (Standard.host Standard.noGuests) (fun frame machine => ⟨.ok (), frame, machine⟩) ""
    .root machine rfl
  cases failed.symm.trans (rewrites _ _ _ _ machine rfl)

variable {x y : Value} {a b : Int} {below : List Value}

/-- A binary op pops both operands, and pushes its result or fails. -/
theorem binary_dispatch {f : Value → Value → Except Fault Value} {op : Builtin}
    (means : ∀ ⦃ω π : Type⦄ (host : Host ω π), op.act host = binary f) (late : Fault.Late (f x y)) :
    (∀ value, f x y = .ok value → op.Rewrites [] (y :: x :: below) (value :: below)) ∧
    (∀ fault, f x y = .error fault → op.Fails [] (y :: x :: below) fault below) := by
  have ran : ∀ ⦃ω π : Type⦄ (host : Host ω π) (call : Call ω π), call.machine.stack = y :: x :: below →
      (op.act host []).run.run call = ((f x y).map fun value => [value],
        { call with machine := { call.machine with stack := below } }) := by
    intro ω π host call holds
    rw [means host]
    show ((Act.popPair : Act ω π _) >>= fun pair =>
      Act.ofExcept (f pair.1 pair.2) >>= fun value => pure [value]).run.run call = _
    rw [run_bind, Act.IsLocal.popPair_run_cons holds]
    dsimp only
    cases f x y <;> rfl
  constructor
  · intro value yields
    show op.Rewrites [] (y :: x :: below) ([value].reverse ++ below)
    refine rewrites_of_run fun ω π host call holds => ?_
    rw [ran host call holds, yields]
    rfl
  · intro fault fails ω π host callee name frame machine holds
    show frame.perform (op.act host []) name machine = _
    rw [Frame.perform, ran host ⟨machine, frame.spent, name⟩ holds, fails]
    exact Frame.spent_fail (late.plain fails) _

theorem modulo_eq (left : x.integer? = some a) (right : y.integer? = some b)
    (word : Number.isWord a = true) (word' : Number.isWord b = true) :
    Arith.modulo x y =
      if b = 0 then .error .divisionByZero else .ok (.int (Arith.flooredRemainder a b)) := by
  have reads : Arith.operands "%" x y = .ok (.int a, .int b) := by
    rw [Arith.operands, Value.number?_of_integer left, Value.number?_of_integer right, Number.viewed,
      Number.viewed, if_pos word, if_pos word']
  rw [Arith.modulo, reads]
  show (if b = 0 then _ else _ : Except Fault Value) = _
  split <;> rfl

/-- By zero the op fails, and only then. Otherwise it pushes the one remainder that is on the side of the
divisor, and words suffice to make it. -/
theorem modulo_remains (left : x.integer? = some a) (right : y.integer? = some b)
    (word : Number.isWord a = true) (word' : Number.isWord b = true) :
    (Builtin.modulo.Fails [] (y :: x :: below) .divisionByZero below ↔ b = 0) ∧
    (b ≠ 0 → ∃ r, Builtin.modulo.Rewrites [] (y :: x :: below) (.int r :: below) ∧
      Number.Remains a b r ∧ (∀ s, Number.Remains a b s → s = r) ∧
      Number.wordRemainder? a b = some r) := by
  obtain ⟨yields, fails⟩ := @binary_dispatch x y below Arith.modulo .modulo (fun _ _ _ => rfl)
    (Arith.modulo_late x y)
  have means := modulo_eq left right word word'
  have pushes : b ≠ 0 → Builtin.modulo.Rewrites [] (y :: x :: below)
      (.int (Arith.flooredRemainder a b) :: below) := fun nonzero =>
    yields _ (by rw [means, if_neg nonzero])
  refine ⟨⟨fun failed => ?_, fun zero => fails _ (by rw [means, if_pos zero])⟩, fun nonzero => ?_⟩
  · by_contra nonzero
    exact failed.not_rewrites (pushes nonzero)
  · have remains := Arith.flooredRemainder_remains (a := a) nonzero
    exact ⟨_, pushes nonzero, remains, fun s => remains.unique,
      Arith.wordRemainder?_eq word word' nonzero⟩

/-- The least word is one below a multiple of the greatest, so that the remainder is taken across zero; by -1
its quotient is no word; and by false it cannot be divided. -/
theorem modulo_remains_least :
    let x : Value := .int (-0x8000000000000000)
    let y : Value := .int 0x7fffffffffffffff
    (x.integer? = some Number.leastInt ∧ y.integer? = some Number.greatestInt ∧
      (Value.int (-1)).integer? = some (-1) ∧ (Value.bool false).integer? = some 0) ∧
    (Number.isWord Number.leastInt = true ∧ Number.isWord Number.greatestInt = true ∧
      Number.isWord (-1) = true ∧ Number.isWord 0 = true) ∧
    Builtin.modulo.Rewrites [] [y, x, .null] [.int 0x7ffffffffffffffe, .null] ∧
    Builtin.modulo.Rewrites [] [.int (-1), x, .null] [.int 0, .null] ∧
    Builtin.modulo.Fails [] [.bool false, x, .null] .divisionByZero [.null] := by
  intro x y
  have reads : x.integer? = some Number.leastInt ∧ y.integer? = some Number.greatestInt ∧
      (Value.int (-1)).integer? = some (-1) ∧ (Value.bool false).integer? = some 0 := ⟨rfl, rfl, rfl, rfl⟩
  have words : Number.isWord Number.leastInt = true ∧ Number.isWord Number.greatestInt = true ∧
      Number.isWord (-1) = true ∧ Number.isWord 0 = true := by decide
  obtain ⟨r, pushed, -, -, made⟩ :=
    (@modulo_remains x y _ _ [.null] reads.1 reads.2.1 words.1 words.2.1).2 (by decide)
  obtain ⟨s, pushed', -, -, made'⟩ :=
    (@modulo_remains x (.int (-1)) _ _ [.null] reads.1 reads.2.2.1 words.1 words.2.2.1).2 (by decide)
  obtain rfl : r = 0x7ffffffffffffffe := Option.some.inj (made.symm.trans (by decide))
  obtain rfl : s = 0 := Option.some.inj (made'.symm.trans (by decide))
  exact ⟨reads, words, pushed, pushed',
    (modulo_remains reads.1 reads.2.2.2 words.1 words.2.2.2).1.mpr rfl⟩

end Builtin

end DocMachine
