import DocMachine.Builtin

/-!
# Running

`Frame.run` takes up the ops of a frame one after the other until the program counter leaves the
run list. A literal is pushed; an op is looked up and run with its parameters, which are the
pending ones overlaid by its own. A procedure runs in a frame of its own on the same stack.

A run may go on for ever, so it gets a budget of steps. One whose budget ran out is `starved`,
which is neither success nor failure.

* `Frame.turn` takes up one op, given what running a callee comes to.
* `Frame.run` takes turns.
-/

namespace DocMachine

/-- Why something did not come to an end of its own. -/
inductive Stop where
  | failed (failure : Failure)
  | starved

/-- A run: its outcome, and what it left. -/
structure Run (ω π : Type) where
  outcome : Except Stop Unit
  frame : Frame
  machine : Machine ω π

/-- What comes of taking up the next op of an activation: there is none, the activation goes on, or
it stops. -/
inductive Turn (ω π : Type) where
  | ended
  | next (frame : Frame) (machine : Machine ω π)
  | stop (stop : Stop) (frame : Frame) (machine : Machine ω π)

namespace Frame

variable {ω π : Type}

/-- The turn of a fault at the op that the activation has taken up and at which it was left. -/
def fail (left : Frame) (fault : Fault) (machine : Machine ω π) : Turn ω π :=
  .stop (.failed (.raised fault left.taken)) left machine

/-- Runs a handler of the host and pushes its answer. -/
def perform (act : Act ω π (List Value)) (name : String) (frame : Frame) (machine : Machine ω π) :
    Turn ω π :=
  -- The pending parameters are spent first, so that the handler may set others.
  match act.run.run ⟨machine, frame.spent, name⟩ with
  | (.ok values, call) => .next call.frame (call.machine.pushAll values)
  | (.error fault, call) => call.frame.fail fault call.machine

/-- Runs a callee in the frame `child`, called from `frame`. -/
def enter (callee : Frame → Machine ω π → Run ω π) (frame child : Frame) (machine : Machine ω π) :
    Turn ω π :=
  -- A call that would be too deep fails before it is announced.
  if machine.maxDepth < child.depth then
    frame.spent.fail (.stackOverflow machine.maxDepth) machine
  else
    let inner := callee child (machine.emit (.enter child.name child.depth))
    match inner.outcome with
    | .ok _ => .next frame.spent (inner.machine.emit (.exit child.name child.depth))
    | .error (.failed failure) =>
      .stop (.failed (failure.through frame.spent.taken)) frame.spent inner.machine
    | .error .starved => .stop .starved frame.spent inner.machine

/-- Runs an op by its handler. -/
def dispatch (host : Host ω π) (callee : Frame → Machine ω π → Run ω π) (name : String)
    (bound : Scope) (handler : Handler π) (frame : Frame) (machine : Machine ω π) : Turn ω π :=
  match handler with
  | .builtin op => frame.perform (op.act host bound) name machine
  | .foreign plug => frame.perform (host.op plug bound) name machine
  | .procedure procedure => frame.enter callee (frame.child name procedure bound) machine

/-- Takes up an element of a run list. -/
def takeUp (host : Host ω π) (callee : Frame → Machine ω π → Run ω π) (value : Value)
    (frame : Frame) (machine : Machine ω π) : Turn ω π :=
  match Op.classify value with
  | .error fault => frame.advance.fail (.invalidProcedure fault) machine
  | .ok (.literal value) =>
    let machine := machine.traceStep frame (Op.literal value).traceName
    .next frame.advance (machine.pushAll [value])
  | .ok (.invoke name params) =>
    let machine := machine.traceStep frame (Op.invoke name params).traceName
    match machine.registry.op name with
    -- An op that is unknown does not spend the pending parameters.
    | .error fault => frame.advance.fail fault machine
    | .ok handler =>
      frame.dispatch host callee name (frame.pending.extend (Op.bindings params)) handler machine

/-- Takes up the op at the frame's program counter. -/
def turn (host : Host ω π) (callee : Frame → Machine ω π → Run ω π) (frame : Frame)
    (machine : Machine ω π) : Turn ω π :=
  match frame.ops[frame.pc]? with
  | none => .ended
  | some value => frame.takeUp host callee value machine

/-- Runs the ops of a frame from its program counter on. -/
def run (host : Host ω π) : Nat → Frame → Machine ω π → Run ω π
  | 0, frame, machine => ⟨.error .starved, frame, machine⟩
  | fuel + 1, frame, machine =>
    match frame.turn host (run host fuel) machine with
    | .ended => ⟨.ok (), frame, machine⟩
    | .next frame machine => run host fuel frame machine
    | .stop stop frame machine => ⟨.error stop, frame, machine⟩

end Frame

end DocMachine
