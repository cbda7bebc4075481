import DocMachine.Proofs.Acts
import DocMachine.Proofs.Steps
import Mathlib.Tactic.FinCases

/-!
# Turns of the control words

What a control word does to the activation that takes it up, as one equation for each word. A word
refuses parameters; otherwise it moves the program counter and opens or closes loops.

* `Registry.NamesWords`: no other name stands for a control word than its own.
* `Registry.BindsWords`: the names of the control words stand for the control words, and no other
  name does.
* `Frame.takeUp_refused`: a word met with pending parameters fails.
* `Frame.takeUp_openLoop` and the lemmas after it: a word met with none.
-/

namespace DocMachine

variable {ω π : Type}

/-- A control word as an element of a run list. -/
def Builtin.word (op : Builtin) : Value := .obj [("op", .str op.name)]

/-- Whether an element of a run list is a control word. -/
def Op.isWord (value : Value) : Bool :=
  Builtin.words.any fun op => decide (Op.name? value = some op.name)

/-- An element that invokes an op has its name. -/
theorem Op.name?_of_classify {value : Value} {name : String} {params : Scope}
    (classified : Op.classify value = .ok (.invoke name params)) : Op.name? value = some name := by
  unfold Op.classify at classified
  unfold Op.name?
  split at classified
  · split at classified <;> cases classified
    next found => rw [found]
  · cases classified

/-- No name stands for a control word but its own. -/
def Registry.NamesWords (registry : Registry π) : Prop :=
  ∀ name, ∀ op ∈ Builtin.words, registry.op name = .ok (.builtin op) → name = op.name

/-- The names of the control words stand for the control words, and no other name does. -/
structure Registry.BindsWords (registry : Registry π) : Prop where
  bound : ∀ op ∈ Builtin.words, registry.op op.name = .ok (.builtin op)
  only : ∀ name, ∀ op ∈ Builtin.words, registry.op name = .ok (.builtin op) → name = op.name

/-! ## Tracing -/

namespace Machine

variable (machine : Machine ω π) (frame : Frame) (op : String) (event : Event)

@[simp] theorem emit_stack : (machine.emit event).stack = machine.stack := by
  unfold emit
  split <;> rfl

@[simp] theorem emit_registry : (machine.emit event).registry = machine.registry := by
  unfold emit
  split <;> rfl

@[simp] theorem emit_maxDepth : (machine.emit event).maxDepth = machine.maxDepth := by
  unfold emit
  split <;> rfl

@[simp] theorem emit_globals : (machine.emit event).globals = machine.globals := by
  unfold emit
  split <;> rfl

@[simp] theorem writeStep_stack : (machine.writeStep frame op).stack = machine.stack := by
  unfold writeStep
  split
  · split <;> rfl
  · rfl

@[simp] theorem writeStep_registry : (machine.writeStep frame op).registry = machine.registry := by
  unfold writeStep
  split
  · split <;> rfl
  · rfl

@[simp] theorem writeStep_maxDepth : (machine.writeStep frame op).maxDepth = machine.maxDepth := by
  unfold writeStep
  split
  · split <;> rfl
  · rfl

@[simp] theorem writeStep_globals : (machine.writeStep frame op).globals = machine.globals := by
  unfold writeStep
  split
  · split <;> rfl
  · rfl

@[simp] theorem traceStep_stack : (machine.traceStep frame op).stack = machine.stack := by
  simp [traceStep]

@[simp] theorem traceStep_registry : (machine.traceStep frame op).registry = machine.registry := by
  simp [traceStep]

@[simp] theorem traceStep_maxDepth : (machine.traceStep frame op).maxDepth = machine.maxDepth := by
  simp [traceStep]

@[simp] theorem traceStep_globals : (machine.traceStep frame op).globals = machine.globals := by
  simp [traceStep]

end Machine

/-! ## Words as acts -/

namespace Act

variable {call : Call ω π}

theorem pop_run_nil (empty : call.machine.stack = []) :
    (pop : Act ω π Value).run.run call = (.error (.stackUnderflow 1 0), call) := by
  unfold pop
  rw [run_bind, show (stack : Act ω π _).run.run call = (.ok call.machine.stack, call) from rfl,
    empty]
  rfl

theorem pop_run_cons {top : Value} {rest : List Value} (holds : call.machine.stack = top :: rest) :
    (pop : Act ω π Value).run.run call =
      (.ok top, { call with machine := { call.machine with stack := rest } }) := by
  unfold pop
  rw [run_bind, show (stack : Act ω π _).run.run call = (.ok call.machine.stack, call) from rfl,
    holds]
  rfl

end Act

namespace Flow

variable (call : Call ω π)

theorem leaveLoop_run : (leaveLoop : Act ω π Unit).run.run call =
    match loopEnd? 0 (call.frame.ops.drop call.frame.pc) with
    | some count => (.ok (), { call with
        frame := { call.frame with
          pc := call.frame.pc + count, begins := call.frame.begins.tail } })
    | none => (.error (.unterminated .loop), call) := by
  show ((match loopEnd? 0 (call.frame.ops.drop call.frame.pc) with
    | some count => do
      skip count
      Act.onFrame fun frame => { frame with begins := frame.begins.tail }
    | none => throw (.unterminated .loop) : Act ω π Unit)).run.run call = _
  cases loopEnd? 0 (call.frame.ops.drop call.frame.pc) <;> rfl

theorem closeLoop_run : (closeLoop : Act ω π Unit).run.run call =
    match call.frame.begins with
    | body :: _ => (.ok (), { call with frame := { call.frame with pc := body } })
    | [] => (.error .repeatWithoutBegin, call) := by
  show ((match call.frame.begins with
    | body :: _ => Act.onFrame fun frame => { frame with pc := body }
    | [] => throw .repeatWithoutBegin : Act ω π Unit)).run.run call = _
  cases call.frame.begins <;> rfl

theorem otherwise_run : (otherwise : Act ω π Unit).run.run call =
    match blockEnd 0 (call.frame.ops.drop call.frame.pc) with
    | .ok count => (.ok (), { call with
        frame := { call.frame with pc := call.frame.pc + count } })
    | .error fault => (.error fault, call) := by
  show ((Act.ofExcept (blockEnd 0 (call.frame.ops.drop call.frame.pc)) >>= skip :
    Act ω π Unit)).run.run call = _
  cases blockEnd 0 (call.frame.ops.drop call.frame.pc) <;> rfl

theorem continueIf_run_nil (empty : call.machine.stack = []) :
    (continueIf : Act ω π Unit).run.run call = (.error (.stackUnderflow 1 0), call) := by
  unfold continueIf
  rw [run_bind, Act.pop_run_nil empty]

theorem continueIf_run_cons {top : Value} {rest : List Value}
    (holds : call.machine.stack = top :: rest) :
    (continueIf : Act ω π Unit).run.run call =
      if top.truthy then (.ok (), { call with machine := { call.machine with stack := rest } })
      else (leaveLoop : Act ω π Unit).run.run
        { call with machine := { call.machine with stack := rest } } := by
  unfold continueIf
  rw [run_bind, Act.pop_run_cons holds]
  cases truth : top.truthy with
  | true =>
    simp only [truth, if_true]
    rfl
  | false =>
    simp only [truth]
    rfl

theorem openIf_run_nil (empty : call.machine.stack = []) :
    (openIf : Act ω π Unit).run.run call = (.error (.stackUnderflow 1 0), call) := by
  unfold openIf
  rw [run_bind, Act.pop_run_nil empty]

theorem openIf_run_cons {top : Value} {rest : List Value}
    (holds : call.machine.stack = top :: rest) :
    (openIf : Act ω π Unit).run.run call =
      if top.truthy then (.ok (), { call with machine := { call.machine with stack := rest } })
      else
        match branchEnd? 0 (call.frame.ops.drop call.frame.pc) with
        | some count => (.ok (), { call with
            machine := { call.machine with stack := rest }
            frame := { call.frame with pc := call.frame.pc + count } })
        | none => (.error (.unterminated .conditional),
            { call with machine := { call.machine with stack := rest } }) := by
  unfold openIf
  rw [run_bind, Act.pop_run_cons holds]
  cases truth : top.truthy with
  | true =>
    simp only [truth, if_true]
    rfl
  | false =>
    simp only [truth]
    rw [if_neg (by simp), if_neg (by simp)]
    show ((match branchEnd? 0 (call.frame.ops.drop call.frame.pc) with
      | some count => skip count
      | none => throw (.unterminated .conditional) : Act ω π Unit)).run.run _ = _
    cases branchEnd? 0 (call.frame.ops.drop call.frame.pc) <;> rfl

end Flow

/-- A control word without parameters does what it means, and pushes nothing. -/
theorem Builtin.control_run (word : Act ω π Unit) (call : Call ω π) :
    (Builtin.control word []).run.run call =
      match word.run.run call with
      | (.ok _, left) => (.ok [], left)
      | (.error fault, left) => (.error fault, left) := by
  show (word >>= fun _ => pure []).run.run call = _
  rw [run_bind]
  cases word.run.run call with
  | mk outcome left => cases outcome <;> rfl

/-! ## Turns -/

namespace Frame

variable {host : Host ω π} {callee : Frame → Machine ω π → Run ω π} {frame : Frame}
  {machine : Machine ω π} {op : Builtin}

theorem takeUp_word (isWord : op ∈ Builtin.words) (binds : machine.registry.BindsWords) :
    frame.takeUp host callee op.word machine =
      frame.dispatch host callee op.name frame.pending (.builtin op)
        (machine.traceStep frame op.name) := by
  have bare : Op.bindings [("op", .str op.name)] = [] := by simp [Op.bindings]
  have classified : Op.classify op.word = .ok (.invoke op.name [("op", .str op.name)]) := by
    simp [Op.classify, Builtin.word, Table.get?]
  have found : (machine.traceStep frame op.name).registry.op op.name = .ok (.builtin op) := by
    rw [Machine.traceStep_registry]
    exact binds.bound op isWord
  unfold takeUp
  rw [classified]
  simp only [Op.traceName]
  rw [found, bare]
  rfl

/-- A control word met with pending parameters fails. -/
theorem takeUp_refused (isWord : op ∈ Builtin.words) (binds : machine.registry.BindsWords)
    {key : String} {value : Value} {rest : Scope} (pending : frame.pending = (key, value) :: rest) :
    frame.takeUp host callee op.word machine =
      frame.stops (.invalidParams op.name (.unexpected key)) frame.spent
        (machine.traceStep frame op.name) := by
  rw [takeUp_word isWord binds, pending, ← spent_fail rfl]
  fin_cases isWord <;> rfl

/-- A control word met with none does what it means. -/
theorem takeUp_accepted {word : Act ω π Unit} (isWord : op ∈ Builtin.words)
    (binds : machine.registry.BindsWords) (pending : frame.pending = [])
    (meaning : op.act host [] = Builtin.control word []) :
    frame.takeUp host callee op.word machine =
      match word.run.run ⟨machine.traceStep frame op.name, frame.advance, op.name⟩ with
      | (.ok _, call) => .next call.frame call.machine
      | (.error fault, call) => call.frame.fail fault call.machine := by
  have unpend : frame.spent = frame.advance := by
    rw [spent, ← pending]
    rfl
  rw [takeUp_word isWord binds, pending]
  simp only [dispatch, perform]
  rw [unpend, meaning, Builtin.control_run]
  cases word.run.run ⟨machine.traceStep frame op.name, frame.advance, op.name⟩ with
  | mk outcome call => cases outcome <;> rfl

section

variable (binds : machine.registry.BindsWords) (pending : frame.pending = [])

include binds pending

theorem takeUp_openLoop :
    frame.takeUp host callee Builtin.openLoop.word machine =
      .next { frame.advance with begins := (frame.pc + 1) :: frame.begins }
        (machine.traceStep frame Builtin.openLoop.name) := by
  rw [takeUp_accepted (by decide) binds pending rfl]
  rfl

theorem takeUp_closeIf :
    frame.takeUp host callee Builtin.closeIf.word machine =
      .next frame.advance (machine.traceStep frame Builtin.closeIf.name) := by
  rw [takeUp_accepted (by decide) binds pending rfl]
  rfl

theorem takeUp_recurse :
    frame.takeUp host callee Builtin.recurse.word machine =
      .next { frame with pc := 0, begins := [] }
        (machine.traceStep frame Builtin.recurse.name) := by
  rw [takeUp_accepted (by decide) binds pending rfl]
  rfl

theorem takeUp_closeLoop {body : Nat} {outer : List Nat} (opened : frame.begins = body :: outer) :
    frame.takeUp host callee Builtin.closeLoop.word machine =
      .next { frame with pc := body } (machine.traceStep frame Builtin.closeLoop.name) := by
  rw [takeUp_accepted (by decide) binds pending rfl, Flow.closeLoop_run]
  simp only [advance, opened]

theorem takeUp_leaveLoop {count : Nat}
    (found : Flow.loopEnd? 0 (frame.ops.drop (frame.pc + 1)) = some count) :
    frame.takeUp host callee Builtin.leaveLoop.word machine =
      .next { frame with pc := frame.pc + 1 + count, begins := frame.begins.tail }
        (machine.traceStep frame Builtin.leaveLoop.name) := by
  rw [takeUp_accepted (by decide) binds pending rfl, Flow.leaveLoop_run]
  simp only [advance, found]

theorem takeUp_otherwise {count : Nat}
    (found : Flow.blockEnd 0 (frame.ops.drop (frame.pc + 1)) = .ok count) :
    frame.takeUp host callee Builtin.otherwise.word machine =
      .next { frame with pc := frame.pc + 1 + count }
        (machine.traceStep frame Builtin.otherwise.name) := by
  rw [takeUp_accepted (by decide) binds pending rfl, Flow.otherwise_run]
  simp only [advance, found]

theorem takeUp_continueIf_nil (empty : machine.stack = []) :
    frame.takeUp host callee Builtin.continueIf.word machine =
      frame.stops (.stackUnderflow 1 0) frame.advance
        (machine.traceStep frame Builtin.continueIf.name) := by
  rw [takeUp_accepted (by decide) binds pending rfl, Flow.continueIf_run_nil]
  · exact advance_fail rfl _
  · simpa using empty

theorem takeUp_openIf_nil (empty : machine.stack = []) :
    frame.takeUp host callee Builtin.openIf.word machine =
      frame.stops (.stackUnderflow 1 0) frame.advance
        (machine.traceStep frame Builtin.openIf.name) := by
  rw [takeUp_accepted (by decide) binds pending rfl, Flow.openIf_run_nil]
  · exact advance_fail rfl _
  · simpa using empty

variable {top : Value} {rest : List Value} (holds : machine.stack = top :: rest)

include holds

theorem takeUp_continueIf_true (truth : top.truthy = true) :
    frame.takeUp host callee Builtin.continueIf.word machine =
      .next frame.advance
        { machine.traceStep frame Builtin.continueIf.name with stack := rest } := by
  rw [takeUp_accepted (by decide) binds pending rfl,
    Flow.continueIf_run_cons _ (by simpa using holds), if_pos truth]

theorem takeUp_continueIf_false (untruth : top.truthy = false) {count : Nat}
    (found : Flow.loopEnd? 0 (frame.ops.drop (frame.pc + 1)) = some count) :
    frame.takeUp host callee Builtin.continueIf.word machine =
      .next { frame with pc := frame.pc + 1 + count, begins := frame.begins.tail }
        { machine.traceStep frame Builtin.continueIf.name with stack := rest } := by
  rw [takeUp_accepted (by decide) binds pending rfl,
    Flow.continueIf_run_cons _ (by simpa using holds), if_neg (by simp [untruth]),
    Flow.leaveLoop_run]
  simp only [advance, found]

theorem takeUp_openIf_true (truth : top.truthy = true) :
    frame.takeUp host callee Builtin.openIf.word machine =
      .next frame.advance { machine.traceStep frame Builtin.openIf.name with stack := rest } := by
  rw [takeUp_accepted (by decide) binds pending rfl,
    Flow.openIf_run_cons _ (by simpa using holds), if_pos truth]

theorem takeUp_openIf_false (untruth : top.truthy = false) {count : Nat}
    (found : Flow.branchEnd? 0 (frame.ops.drop (frame.pc + 1)) = some count) :
    frame.takeUp host callee Builtin.openIf.word machine =
      .next { frame with pc := frame.pc + 1 + count }
        { machine.traceStep frame Builtin.openIf.name with stack := rest } := by
  rw [takeUp_accepted (by decide) binds pending rfl,
    Flow.openIf_run_cons _ (by simpa using holds), if_neg (by simp [untruth])]
  simp only [advance, found]

end

end Frame

end DocMachine
