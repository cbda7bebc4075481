import DocMachine.Proofs.Remainder

/-!
# Answers

Most ops take their operands from the stack and push one value for them, or fail. What they come to depends
on the operands alone.

* `Builtin.AnswersWith`: what an op comes to for its parameters and its operands, wherever it is run.
* `Builtin.Answers`: the same for an op without parameters.

Results:
1. `Builtin.Answers.unique`: there is one answer.
2. `Builtin.answers_unary` and `Builtin.answers_binary`: it is that of the function which the op stands for.
-/

namespace DocMachine

namespace Builtin

/-- Wherever it is run with these parameters, the op pops these operands, of which the last one is the top,
and pushes a value or fails. -/
def AnswersWith (op : Builtin) (scope : Scope) (operands : List Value) (result : Except Fault Value) : Prop :=
  ∀ ⦃ω π : Type⦄ (host : Host ω π) (callee : Frame → Machine ω π → Run ω π) (name : String)
    (frame : Frame) (machine : Machine ω π) (below : List Value), machine.stack = operands.reverse ++ below →
    frame.dispatch host callee name scope (.builtin op) machine =
      match result with
      | .ok value => .next frame.spent { machine with stack := value :: below }
      | .error fault => frame.stops fault frame.spent { machine with stack := below }

/-- So it does without parameters. -/
def Answers (op : Builtin) (operands : List Value) (result : Except Fault Value) : Prop :=
  op.AnswersWith [] operands result

variable {op : Builtin} {operands : List Value} {result : Except Fault Value}

theorem Answers.unique (answers : op.Answers operands result) {result' : Except Fault Value}
    (answers' : op.Answers operands result') : result = result' := by
  let machine : Machine (World Unit) (Plug Empty) :=
    { stack := operands.reverse, registry := Registry.builtins, world := { guest := () } }
  have one := answers (Standard.host Standard.noGuests) (fun frame machine => ⟨.ok (), frame, machine⟩) ""
    .root machine [] (List.append_nil _).symm
  have other := answers' (Standard.host Standard.noGuests) (fun frame machine => ⟨.ok (), frame, machine⟩) ""
    .root machine [] (List.append_nil _).symm
  rw [one] at other
  cases result <;> cases result' <;> cases other <;> rfl

/-- An op that answers so for its operands answers in no other way. -/
theorem Answers.iff (answers : op.Answers operands result) {result' : Except Fault Value} :
    op.Answers operands result' ↔ result = result' :=
  ⟨answers.unique, fun same => same ▸ answers⟩

theorem answers_binary {f : Value → Value → Except Fault Value}
    (means : ∀ ⦃ω π : Type⦄ (host : Host ω π), op.act host = binary f)
    (late : ∀ x y, Fault.Late (f x y)) (x y : Value) : op.Answers [x, y] (f x y) := by
  intro ω π host callee name frame machine below holds
  obtain ⟨yields, fails⟩ := @binary_dispatch x y below f op means (late x y)
  cases ran : f x y with
  | ok value => exact yields value ran host callee name frame machine holds
  | error fault => exact fails fault ran host callee name frame machine holds

theorem answers_unary {f : Value → Except Fault Value}
    (means : ∀ ⦃ω π : Type⦄ (host : Host ω π), op.act host = unary f)
    (late : ∀ x, Fault.Late (f x)) (x : Value) : op.Answers [x] (f x) := by
  intro ω π host callee name frame machine below holds
  have ran : (op.act host []).run.run ⟨machine, frame.spent, name⟩ =
      ((f x).map fun value => [value], ⟨{ machine with stack := below }, frame.spent, name⟩) := by
    rw [means host]
    show ((Act.pop : Act ω π _) >>= fun value =>
      Act.ofExcept (f value) >>= fun value => pure [value]).run.run ⟨machine, frame.spent, name⟩ = _
    rw [run_bind, Act.pop_run_cons holds]
    dsimp only
    cases f x <;> rfl
  show frame.perform (op.act host []) name machine = _
  rw [Frame.perform, ran]
  cases answer : f x with
  | ok value => rfl
  | error fault => exact Frame.spent_fail ((late x).plain answer) _

end Builtin

end DocMachine
