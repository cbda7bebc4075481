import DocMachine.Registry
import DocMachine.Trace

/-!
# Machines

A machine is what all activations share: the stack, the global variables and the registry. A frame
is one activation of a run list, with its own local variables. Frames do not see each other: a
callee starts from a copy of its caller's locals.
-/

namespace DocMachine

/-- One activation of a run list.

* `pc` is the index of the op that comes next.
* `begins` holds, for each open loop, the index of the first op of its body, innermost first.
* `pending` holds parameters for the next op invocation. -/
structure Frame where
  name : String
  depth : Nat := 0
  locals : Scope := []
  ops : List Value := []
  pc : Nat := 0
  begins : List Nat := []
  pending : Scope := []

namespace Frame

/-- The frame of a machine's own run lists. -/
def root : Frame := { name := "root" }

/-- The frame set to the start of `ops`, with no open loop. -/
def start (frame : Frame) (ops : List Value) : Frame :=
  { frame with ops := ops, pc := 0, begins := [] }

/-- The frame of a procedure called from `frame`: it copies the caller's locals, then the
procedure's own settings and then the bindings of the call. -/
def child (frame : Frame) (name : String) (procedure : Procedure) (bindings : Scope) : Frame :=
  { name, depth := frame.depth + 1, ops := procedure.run,
    locals := (frame.locals.extend procedure.set).extend bindings }

/-- The place of the op that `frame` is about to run. -/
def site (frame : Frame) : Site := ⟨frame.name, frame.pc⟩

/-- The place of the op that `frame` has taken up. -/
def taken (frame : Frame) : Site := ⟨frame.name, (frame.pc : Int) - 1⟩

/-- The frame after its next op has been taken up. -/
def advance (frame : Frame) : Frame := { frame with pc := frame.pc + 1 }

/-- The frame after its next op has been taken up with the pending parameters. -/
def spent (frame : Frame) : Frame := { frame.advance with pending := [] }

end Frame

/-- What all activations share.

* `stack` lists the values from the top down.
* `console` lets steps write a line, and `observed` records events.
* `lines` and `events` hold what was written and recorded so far.
* `elapsed` is the time since the start in milliseconds, when the host last looked at its clock.
* `world` is whatever foreign handlers act on. -/
structure Machine (ω π : Type) where
  stack : List Value := []
  globals : Scope := []
  registry : Registry π
  console : Bool := true
  observed : Bool := false
  maxDepth : Nat := 256
  lines : Array String := #[]
  events : Array Event := #[]
  elapsed : Int := 0
  world : ω

namespace Machine

variable {ω π : Type}

/-- Pushes values in order, so the last one becomes the top. -/
def pushAll (machine : Machine ω π) (values : List Value) : Machine ω π :=
  { machine with stack := values.foldl (fun stack v => v :: stack) machine.stack }

/-- The stack from the bottom up. -/
def values (machine : Machine ω π) : List Value :=
  machine.stack.reverse

/-- Records an event, if anyone observes. -/
def emit (machine : Machine ω π) (event : Event) : Machine ω π :=
  if machine.observed then { machine with events := machine.events.push event } else machine

/-- Whether the steps of `frame` are written: the console is on, and a local named `logging` does
not turn it off. -/
def consoleEnabled (machine : Machine ω π) (frame : Frame) : Bool :=
  machine.console && ((frame.locals.get? "logging").map Value.truthy).getD true

/-- The event of taking up the next op of `frame`. -/
def stepEvent (machine : Machine ω π) (frame : Frame) (op : String) : Event :=
  .step frame.name frame.depth frame.pc machine.stack.length op

/-- Writes a line for a step, if the console is enabled. -/
def writeStep (machine : Machine ω π) (frame : Frame) (op : String) : Machine ω π :=
  if machine.consoleEnabled frame then
    match (machine.stepEvent frame op).line? machine.elapsed with
    | some line => { machine with lines := machine.lines.push line }
    | none => machine
  else machine

/-- Reports the op that `frame` is about to run. -/
def traceStep (machine : Machine ω π) (frame : Frame) (op : String) : Machine ω π :=
  (machine.writeStep frame op).emit (machine.stepEvent frame op)

end Machine

end DocMachine
