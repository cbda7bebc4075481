import DocMachine.Act

/-!
# Control words

Loops and conditionals are not nested data: a run list is flat, and control words look for their
partner further on. Each search walks the ops that come next and counts the blocks opened on the
way. It answers with the number of ops up to and including the partner.

The words themselves move the program counter of the calling frame, which stands after the op being
run.
-/

namespace DocMachine.Flow

/-- The way to the `repeat` of the loop around, with `nested` inner loops open. -/
def loopEnd? (nested : Nat) : List Value → Option Nat
  | [] => none
  | op :: rest =>
    match Op.name? op, nested with
    | some "begin", _ => (loopEnd? (nested + 1) rest).map (· + 1)
    | some "repeat", 0 => some 1
    | some "repeat", inner + 1 => (loopEnd? inner rest).map (· + 1)
    | _, _ => (loopEnd? nested rest).map (· + 1)

/-- The way from an `if` to its `else` or, if it has none, to its `endif`, with `nested` inner
conditionals open. -/
def branchEnd? (nested : Nat) : List Value → Option Nat
  | [] => none
  | op :: rest =>
    match Op.name? op, nested with
    | some "if", _ => (branchEnd? (nested + 1) rest).map (· + 1)
    | some "else", 0 => some 1
    | some "endif", 0 => some 1
    | some "endif", inner + 1 => (branchEnd? inner rest).map (· + 1)
    | _, _ => (branchEnd? nested rest).map (· + 1)

/-- The way from an `else` to its `endif`, with `nested` inner conditionals open. Another `else`
must not come first. -/
def blockEnd (nested : Nat) : List Value → Except Fault Nat
  | [] => .error (.unterminated .conditional)
  | op :: rest =>
    match Op.name? op, nested with
    | some "if", _ => (blockEnd (nested + 1) rest).map (· + 1)
    | some "else", 0 => .error .unboundElse
    | some "endif", 0 => .ok 1
    | some "endif", inner + 1 => (blockEnd inner rest).map (· + 1)
    | _, _ => (blockEnd nested rest).map (· + 1)

/-! ## The words -/

variable {ω π : Type}

/-- Moves on by a number of ops. -/
def skip (count : Nat) : Act ω π Unit :=
  Act.onFrame fun frame => { frame with pc := frame.pc + count }

/-- The ops after the one being run. -/
def upcoming : Act ω π (List Value) := do
  let frame := (← get).frame
  return frame.ops.drop frame.pc

/-- Opens a loop. -/
def openLoop : Act ω π Unit :=
  Act.onFrame fun frame => { frame with begins := frame.pc :: frame.begins }

/-- Goes back to the body of the innermost loop. -/
def closeLoop : Act ω π Unit := do
  match (← get).frame.begins with
  | body :: _ => Act.onFrame fun frame => { frame with pc := body }
  | [] => throw .repeatWithoutBegin

/-- Leaves the innermost loop. -/
def leaveLoop : Act ω π Unit := do
  match loopEnd? 0 (← upcoming) with
  | some count =>
    skip count
    Act.onFrame fun frame => { frame with begins := frame.begins.tail }
  | none => throw (.unterminated .loop)

/-- Leaves the innermost loop unless the top is true. -/
def continueIf : Act ω π Unit := do
  if (← Act.pop).truthy then pure () else leaveLoop

/-- Skips the branch that follows unless the top is true. -/
def openIf : Act ω π Unit := do
  if (← Act.pop).truthy then pure ()
  else
    match branchEnd? 0 (← upcoming) with
    | some count => skip count
    | none => throw (.unterminated .conditional)

/-- Skips the second branch. -/
def otherwise : Act ω π Unit := do
  skip (← Act.ofExcept (blockEnd 0 (← upcoming)))

/-- Starts the run list over, with no open loop. -/
def recurse : Act ω π Unit :=
  Act.onFrame fun frame => { frame with pc := 0, begins := [] }

end DocMachine.Flow
