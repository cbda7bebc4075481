import DocMachine.Machine

/-!
# Acts

What the handler of an op may do: work on the machine and on the frame that called it, and fail. A
fault leaves the changes made before it in place.

* Values are popped from and pushed to the shared stack.
* `Act.readVariable`, `Act.writeVariable` and `Act.removeVariable` serve both reaches of variables.
* `Plugins` gives foreign handlers their meaning.
-/

namespace DocMachine

/-- The op being run, and what it may touch. -/
structure Call (ω π : Type) where
  machine : Machine ω π
  frame : Frame
  op : String

/-- What a handler does. -/
abbrev Act (ω π : Type) := ExceptT Fault (StateM (Call ω π))

namespace Act

variable {ω π : Type}

/-- Changes the machine. -/
def onMachine (change : Machine ω π → Machine ω π) : Act ω π Unit :=
  modify fun call => { call with machine := change call.machine }

/-- Changes the calling frame. -/
def onFrame (change : Frame → Frame) : Act ω π Unit :=
  modify fun call => { call with frame := change call.frame }

/-- Changes the world. -/
def onWorld (change : ω → ω) : Act ω π Unit :=
  onMachine fun machine => { machine with world := change machine.world }

/-- A computation that may fail. -/
def ofExcept {α : Type} : Except Fault α → Act ω π α
  | .ok a => pure a
  | .error fault => throw fault

/-! ## The stack -/

/-- The stack from the top down. -/
def stack : Act ω π (List Value) := do
  return (← get).machine.stack

/-- Replaces the stack. -/
def setStack (values : List Value) : Act ω π Unit :=
  onMachine fun machine => { machine with stack := values }

/-- Pushes a value. -/
def push (value : Value) : Act ω π Unit :=
  onMachine fun machine => machine.pushAll [value]

/-- Pops the top. -/
def pop : Act ω π Value := do
  match ← stack with
  | top :: rest =>
    setStack rest
    return top
  | [] => throw (.stackUnderflow 1 0)

/-- Pops `n` values; the old top comes last. -/
def popMany (n : Nat) : Act ω π (List Value) := do
  let values ← stack
  if values.length < n then throw (.stackUnderflow n values.length)
  setStack (values.drop n)
  return (values.take n).reverse

/-- Pops the operands of a binary op; the second one is the old top. -/
def popPair : Act ω π (Value × Value) := do
  match ← stack with
  | y :: x :: rest =>
    setStack rest
    return (x, y)
  | short => throw (.stackUnderflow 2 short.length)

/-- The greatest count. Counts are words of 64 bits. -/
def maxCount : Nat := 0xFFFFFFFFFFFFFFFF

/-- The value `offset` places below the top. -/
def peek (offset : Nat) : Act ω π Value := do
  -- No stack has a value at the greatest offset, and no word counts how many it takes to have one.
  if maxCount ≤ offset then throw .countOverflow
  let values ← stack
  match values[offset]? with
  | some value => return value
  | none => throw (.stackUnderflow (offset + 1) values.length)

/-! ## Variables -/

/-- The variables of a reach. -/
def scope : Reach → Act ω π Scope
  | .locals => do return (← get).frame.locals
  | .globals => do return (← get).machine.globals

/-- Replaces the variables of a reach. -/
def setScope : Reach → Scope → Act ω π Unit
  | .locals, scope => onFrame fun frame => { frame with locals := scope }
  | .globals, scope => onMachine fun machine => { machine with globals := scope }

/-- The value of a variable, which has to be there. -/
def readVariable (reach : Reach) (key : String) : Act ω π Value := do
  match (← scope reach).get? key with
  | some value => return value
  | none => throw (.missingVariable reach key)

/-- Writes a variable. -/
def writeVariable (reach : Reach) (key : String) (value : Value) : Act ω π Unit := do
  setScope reach ((← scope reach).insert key value)

/-- Removes a variable, which has to be there, and gives its value. -/
def removeVariable (reach : Reach) (key : String) : Act ω π Value := do
  let value ← readVariable reach key
  setScope reach ((← scope reach).erase key)
  return value

/-! ## Parameters -/

/-- Blames the parameters of the op being run. -/
def blame {α : Type} (fault : ParamFault) : Act ω π α := do
  throw (.invalidParams (← get).op fault)

/-- Reads parameters. -/
def params {α : Type} : Param.Read α → Act ω π α
  | .ok a => pure a
  | .error fault => blame fault

/-- Refuses parameters of any name. -/
def noParams : Scope → Act ω π Unit
  | [] => pure ()
  | (key, _) :: _ => blame (.unexpected key)

end Act

/-- The meaning of foreign handlers of type `γ` in a machine whose foreign handlers have type
`π`. -/
structure Plugins (ω π γ : Type) where
  /-- Runs an op and gives the values to push, in order. -/
  op : γ → Scope → Act ω π (List Value)
  /-- Reads what a URI names. -/
  get : γ → String → Scope → Act ω π Value
  /-- Writes to what a URI names. -/
  put : γ → Value → String → Scope → Act ω π Unit
  /-- Removes what a URI names. -/
  delete : γ → String → Scope → Act ω π Unit
  /-- Copies a value, deeply or not. -/
  copy : γ → Value → Bool → Value
  /-- Installs a module. -/
  install : γ → ExceptT Fault (StateM (Registry π)) Unit

/-- The meaning of all foreign handlers of a machine. -/
abbrev Host (ω π : Type) := Plugins ω π π

end DocMachine
