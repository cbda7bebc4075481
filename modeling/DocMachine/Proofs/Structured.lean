import DocMachine.Proofs.Words

/-!
# Structured programs

Conditionals and loops as nested data, with a meaning of their own that knows neither program
counters nor searches. The meaning is a big-step evaluator with a budget: whatever runs for ever is
`starved` under every budget.

* `Structured` is the syntax. A program that leaves a loop can only be written inside one.
* `Structured.flatten` is the run list of a program, and `Structured.loops` tells for each op of it
  which loops are open there.
* `Structured.eval` is the meaning of a part of a program: it comes to its end, leaves the loop
  around, asks for the whole list to start over, or fails. A break abandons what follows it up to
  the end of the loop, and a restart what follows it altogether.
* `Structured.exec` is the meaning of a whole program.

A part is evaluated together with the index of its first op, which traces and failures report.
-/

namespace DocMachine

variable {ω π : Type}

/-- A structured program.

* `plain` is a literal or an op other than a control word.
* `cond` and `choice` are conditionals without and with an alternative.
* `leave` and `leaveUnless` break the loop around; they stand only inside a loop of the same list.
* `recurse` starts the whole list over. -/
inductive Structured : (inLoop : Bool) → Type where
  | skip {inLoop : Bool} : Structured inLoop
  | plain {inLoop : Bool} (op : Value) (isPlain : Op.isWord op = false) : Structured inLoop
  | seq {inLoop : Bool} (first second : Structured inLoop) : Structured inLoop
  | cond {inLoop : Bool} (body : Structured inLoop) : Structured inLoop
  | choice {inLoop : Bool} (yes no : Structured inLoop) : Structured inLoop
  | loop {inLoop : Bool} (body : Structured true) : Structured inLoop
  | leave : Structured true
  | leaveUnless : Structured true
  | recurse {inLoop : Bool} : Structured inLoop

namespace Structured

/-- The run list of a program. -/
def flatten {inLoop : Bool} : Structured inLoop → List Value
  | skip => []
  | plain op _ => [op]
  | seq first second => first.flatten ++ second.flatten
  | cond body => Builtin.openIf.word :: (body.flatten ++ [Builtin.closeIf.word])
  | choice yes no =>
    Builtin.openIf.word ::
      (yes.flatten ++ Builtin.otherwise.word :: (no.flatten ++ [Builtin.closeIf.word]))
  | loop body => Builtin.openLoop.word :: (body.flatten ++ [Builtin.closeLoop.word])
  | leave => [Builtin.leaveLoop.word]
  | leaveUnless => [Builtin.continueIf.word]
  | recurse => [Builtin.recurse.word]

/-- The number of ops in the run list of a program. -/
def length {inLoop : Bool} (program : Structured inLoop) : Nat := program.flatten.length

section

variable {inLoop : Bool}

theorem cond_append (body : Structured inLoop) (post : List Value) :
    (cond body).flatten ++ post =
      Builtin.openIf.word :: (body.flatten ++ Builtin.closeIf.word :: post) := by
  simp [flatten]

theorem choice_append (yes no : Structured inLoop) (post : List Value) :
    (choice yes no).flatten ++ post =
      Builtin.openIf.word :: (yes.flatten ++
        Builtin.otherwise.word :: (no.flatten ++ Builtin.closeIf.word :: post)) := by
  simp [flatten]

theorem loop_append (body : Structured true) (post : List Value) :
    (loop body : Structured inLoop).flatten ++ post =
      Builtin.openLoop.word :: (body.flatten ++ Builtin.closeLoop.word :: post) := by
  simp [flatten]

@[simp] theorem length_skip : (skip : Structured inLoop).length = 0 := rfl

@[simp] theorem length_plain {op : Value} {isPlain : Op.isWord op = false} :
    (plain op isPlain : Structured inLoop).length = 1 := rfl

@[simp] theorem length_seq (first second : Structured inLoop) :
    (seq first second).length = first.length + second.length :=
  List.length_append

@[simp] theorem length_cond (body : Structured inLoop) : (cond body).length = body.length + 2 := by
  simp [length, flatten]

@[simp] theorem length_choice (yes no : Structured inLoop) :
    (choice yes no).length = yes.length + no.length + 3 := by
  simp [length, flatten]
  omega

@[simp] theorem length_loop (body : Structured true) :
    (loop body : Structured inLoop).length = body.length + 2 := by
  simp [length, flatten]

@[simp] theorem length_leave : leave.length = 1 := rfl

@[simp] theorem length_leaveUnless : leaveUnless.length = 1 := rfl

@[simp] theorem length_recurse : (recurse : Structured inLoop).length = 1 := rfl

end

/-- For each op of the run list, the loops around it, innermost first. A loop is told by the index
of its opening word; its closing word is inside it. The program starts at index `pc`, inside the
loops `outer`. -/
def loops {inLoop : Bool} (outer : List Nat) (pc : Nat) : Structured inLoop → List (List Nat)
  | skip => []
  | seq first second => first.loops outer pc ++ second.loops outer (pc + first.length)
  | cond body => outer :: (body.loops outer (pc + 1) ++ [outer])
  | choice yes no =>
    outer :: (yes.loops outer (pc + 1) ++
      outer :: (no.loops outer (pc + 1 + yes.length + 1) ++ [outer]))
  | loop body => outer :: (body.loops (pc :: outer) (pc + 1) ++ [pc :: outer])
  | plain _ _ | leave | leaveUnless | recurse => [outer]

end Structured

/-! ## Meaning -/

/-- What a structured program works on: the variables and the pending parameters of its activation,
and the machine. -/
structure Scene (ω π : Type) where
  locals : Scope
  pending : Scope
  machine : Machine ω π

/-- How a part of a structured program ends. -/
inductive Ending (ω π : Type) where
  | done (scene : Scene ω π)
  | left (scene : Scene ω π)
  | restarted (scene : Scene ω π)
  | failed (failure : Failure) (scene : Scene ω π)
  | starved

/-- The frame of an activation in a scene, with neither a run list nor open loops. -/
def Frame.alone (frame : Frame) (pc : Nat) (scene : Scene ω π) : Frame :=
  { frame with pc, ops := [], begins := [], locals := scene.locals, pending := scene.pending }

namespace Ending

/-- What comes after a part that came to its end. -/
def andThen : Ending ω π → (Scene ω π → Ending ω π) → Ending ω π
  | done scene, rest => rest scene
  | other, _ => other

/-- A loop: its body again and again, until it is left. -/
def iterate (body : Scene ω π → Ending ω π) : Nat → Scene ω π → Ending ω π
  | 0, _ => starved
  | fuel + 1, scene =>
    match body scene with
    | done scene => iterate body fuel scene
    | left scene => done scene
    | other => other

/-- A whole list: from its start again, as often as it asks for it. -/
def restart (body : Scene ω π → Ending ω π) : Nat → Scene ω π → Ending ω π
  | 0, _ => starved
  | fuel + 1, scene =>
    match body scene with
    | restarted scene => restart body fuel scene
    | other => other

end Ending

namespace Scene

/-- The scene that an activation is in. -/
def of (frame : Frame) (machine : Machine ω π) : Scene ω π :=
  ⟨frame.locals, frame.pending, machine⟩

/-- Takes up a literal or an op that is no control word. -/
def plain (host : Host ω π) (fuel : Nat) (frame : Frame) (pc : Nat) (op : Value)
    (scene : Scene ω π) : Ending ω π :=
  match (frame.alone pc scene).takeUp host (Frame.run host fuel) op scene.machine with
  | .ended => .done scene
  | .next frame machine => .done (of frame machine)
  | .stop (.failed failure) frame machine => .failed failure (of frame machine)
  | .stop .starved _ _ => .starved

/-- Takes up a control word, which refuses pending parameters. -/
def word (frame : Frame) (pc : Nat) (op : Builtin) (scene : Scene ω π) : Ending ω π :=
  let taken : Scene ω π :=
    ⟨scene.locals, [], scene.machine.traceStep (frame.alone pc scene) op.name⟩
  match scene.pending with
  | [] => .done taken
  | (key, _) :: _ =>
    .failed ⟨.invalidParams op.name (.unexpected key), [⟨frame.name, pc⟩]⟩ taken

/-- Takes up a control word that pops a condition. -/
def test (frame : Frame) (pc : Nat) (op : Builtin) (yes no : Scene ω π → Ending ω π)
    (scene : Scene ω π) : Ending ω π :=
  (scene.word frame pc op).andThen fun scene =>
    match scene.machine.stack with
    | [] => .failed ⟨.stackUnderflow 1 0, [⟨frame.name, pc⟩]⟩ scene
    | top :: rest =>
      let scene := { scene with machine := { scene.machine with stack := rest } }
      if top.truthy then yes scene else no scene

end Scene

namespace Structured

/-- The meaning of a part of a program whose first op has index `pc`. -/
def eval (host : Host ω π) (fuel : Nat) (frame : Frame) {inLoop : Bool} :
    Structured inLoop → Nat → Scene ω π → Ending ω π
  | skip, _, scene => .done scene
  | plain op _, pc, scene => scene.plain host fuel frame pc op
  | seq first second, pc, scene =>
    (first.eval host fuel frame pc scene).andThen (second.eval host fuel frame (pc + first.length))
  | cond body, pc, scene =>
    scene.test frame pc .openIf
      (fun scene => (body.eval host fuel frame (pc + 1) scene).andThen
        (Scene.word frame (pc + 1 + body.length) .closeIf))
      .done
  | choice yes no, pc, scene =>
    scene.test frame pc .openIf
      (fun scene => (yes.eval host fuel frame (pc + 1) scene).andThen
        (Scene.word frame (pc + 1 + yes.length) .otherwise))
      (fun scene => (no.eval host fuel frame (pc + 1 + yes.length + 1) scene).andThen
        (Scene.word frame (pc + 1 + yes.length + 1 + no.length) .closeIf))
  | loop body, pc, scene =>
    (scene.word frame pc .openLoop).andThen (Ending.iterate (fun scene =>
      (body.eval host fuel frame (pc + 1) scene).andThen
        (Scene.word frame (pc + 1 + body.length) .closeLoop)) fuel)
  | leave, pc, scene => (scene.word frame pc .leaveLoop).andThen .left
  | leaveUnless, pc, scene => scene.test frame pc .continueIf .done .left
  | recurse, pc, scene => (scene.word frame pc .recurse).andThen .restarted

/-- The meaning of a whole program in an activation. -/
def exec (host : Host ω π) (fuel : Nat) (program : Structured false) (frame : Frame)
    (machine : Machine ω π) : Ending ω π :=
  Ending.restart (program.eval host fuel frame 0) fuel (.of frame machine)

end Structured

/-- How the run of a whole program ends. -/
def Run.ending (run : Run ω π) : Ending ω π :=
  match run.outcome with
  | .ok _ => .done (.of run.frame run.machine)
  | .error (.failed failure) => .failed failure (.of run.frame run.machine)
  | .error .starved => .starved

end DocMachine
