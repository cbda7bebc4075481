import DocMachine.Proofs.Locality
import DocMachine.Proofs.Nearest
import DocMachine.Proofs.Ordering

/-!
# Equality of wide integers

A document may hold integers that arithmetic cannot yield. Those are compared as floats, and so some of
them cannot be told apart. The op that compares and the checks of tests follow the same rule, whatever
is nested in what they compare.

* `Number.Meets`: what it takes for two integers to be equal.
* `Value.Whole`: a value whose numbers are integers that a document may hold.

Results:
1. `Value.same_whole`: equality of such values is agreement of their numbers.
2. `Value.whole_compared`: so it is for the op and for the checks.
-/

namespace DocMachine

/-- The integers are equal as numbers are compared: as they are if arithmetic may yield both, else as
the nearest floats. -/
def Number.Meets (i j : Int) : Prop :=
  if isWord i ∧ isWord j then i = j else nearest i = nearest j

instance (i j : Int) : Decidable (Number.Meets i j) :=
  inferInstanceAs (Decidable (if Number.isWord i ∧ Number.isWord j then i = j
    else Number.nearest i = Number.nearest j))

theorem Number.viewed_same_iff {i j : Int} (low : leastInt ≤ i) (high : i ≤ greatestNat)
    (low' : leastInt ≤ j) (high' : j ≤ greatestNat) :
    (viewed i).same (viewed j) = true ↔ Meets i j := by
  have floats : (Float.ofInt i == Float.ofInt j) = true ↔ nearest i = nearest j := by
    simp only [leastInt, greatestNat] at low high low' high'
    exact ofInt_beq_iff (by omega) (by omega)
  unfold viewed Meets
  cases isWord i with
  | true =>
    cases isWord j with
    | true => simp [same]
    | false => simpa [same, toFloat] using floats
  | false =>
    cases isWord j with
    | true => simpa [same, toFloat] using floats
    | false => simpa [same, toFloat] using floats

namespace Value

/-- A value whose numbers are integers that a document may hold. -/
abbrev Whole := { v : Value // v.Integral Number.leastInt Number.greatestNat }

theorem same_whole (a b : Whole) : a.val.same b.val = true ↔ Agree Number.Meets a.val b.val :=
  same_iff (by decide) (by decide) (fun _ _ => Number.viewed_same_iff) a.property b.property

/-- Integers beyond those that arithmetic yields are not told apart, though they differ. -/
theorem same_not_exact : ¬ ∀ a b : Whole, a.val.same b.val = true ↔ Agree Eq a.val b.val := by
  intro told
  have same : (Value.int 0x8000000000000000).same (.int 0x8000000000000001) = true := by decide +kernel
  have agree := (told ⟨.int 0x8000000000000000, .int (by decide) (by decide)⟩
    ⟨.int 0x8000000000000001, .int (by decide) (by decide)⟩).mp same
  obtain ⟨j, stands, same⟩ := (agree_integer rfl).mp agree
  obtain rfl := Option.some.inj stands
  exact absurd same (by decide)

/-- Equality, the op for it and the check of a test's answer agree on what is equal: values with the
same structure, and integers in it that meet. No two of the integers that arithmetic may yield meet
each other. -/
theorem whole_compared {ω π : Type} (host : Host ω π) :
    (∀ a b : Whole, a.val.same b.val = true ↔ Agree Number.Meets a.val b.val) ∧
    (∀ (callee : Frame → Machine ω π → Run ω π) (name : String) (frame : Frame)
      (machine : Machine ω π) (rest : List Value) (a b : Whole), ∃ answer : Bool,
      frame.dispatch host callee name [] (.builtin .equal)
        { machine with stack := b.val :: a.val :: rest } =
        .next frame.spent { machine with stack := .bool answer :: rest } ∧
      (answer = true ↔ Agree Number.Meets a.val b.val)) ∧
    (∀ (name : String) (index : Nat) (answer final : List Whole),
      (Suite.judge name (final.map Subtype.val) index [some (answer.map Subtype.val)]).error = none ↔
        List.Forall₂ (fun x y => Agree Number.Meets x.val y.val) answer final) ∧
    ∀ i j, Number.isWord i = true → Number.isWord j = true → (Number.Meets i j ↔ i = j) := by
  refine ⟨same_whole, ?_, ?_, ?_⟩
  · intro callee name frame machine rest a b
    exact ⟨a.val.same b.val, rfl, same_whole a b⟩
  · intro name index answer final
    rw [Suite.judge_passes]
    simp only [List.filterMap_cons, id, List.filterMap_nil, List.forall_mem_singleton, IsStack,
      List.forall₂_map_left_iff, List.forall₂_map_right_iff, same_whole]
  · intro i j word word'
    rw [Number.Meets, if_pos ⟨word, word'⟩]

-- The greatest integer that arithmetic yields meets the next one, which is compared as a float.
example : Number.Meets 0x7fffffffffffffff 0x8000000000000000 ∧
    ¬ Number.Meets 0x7fffffffffffffff 0x7ffffffffffffffe ∧
    ¬ Number.Meets 0x8000000000000000 0x8000000000001000 := by decide +kernel

end Value

end DocMachine
