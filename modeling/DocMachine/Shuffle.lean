import DocMachine.Act

/-!
# Stack ops

The ops that move values: copying one from further down, reordering the top, and turning values into
a composite and back. Offsets count from the top.
-/

namespace DocMachine.Shuffle

variable {ω π : Type}

/-- The parameters of `dup`. -/
structure DupParams where
  deep : Bool := false
  offset : Nat := 0

/-- Reads one parameter of `dup`. -/
def DupParams.field (params : DupParams) (key : String) (v : Value) : Param.Read DupParams :=
  match key with
  | "deep" => do return { params with deep := ← Param.boolean v }
  | "offset" => do return { params with offset := ← Param.count v }
  | _ => .error (.unknown key ["deep", "offset"])

/-- A copy of a value, by the copier of its kind if there is one. -/
def copied (host : Host ω π) (registry : Registry π) (value : Value) (deep : Bool) : Value :=
  match registry.copiers.get? value.kind with
  | some plug => host.copy plug value deep
  | none => value

/-- Copies the value at an offset, by the copier of its kind if there is one. -/
def dup (host : Host ω π) (scope : Scope) : Act ω π (List Value) := do
  let params ← Act.params (Param.record {} DupParams.field scope)
  let value ← Act.peek params.offset
  return [copied host (← get).machine.registry value params.deep]

/-- Reads the parameter of `swap`: for each place from the top, the offset of the value that goes
there. -/
def orderField (_ : List Nat) (key : String) (v : Value) : Param.Read (List Nat) :=
  match key with
  | "order" => Param.sequence Param.count v
  | _ => .error (.unknown key ["order"])

/-- Values chosen by offset from those at the top; the first offset gives the new top, and so the
last value to push. -/
def reorder (order : List Nat) (items : List Value) : List Value :=
  let fromTop := items.reverse
  (order.map fun offset => fromTop.getD offset .null).reverse

/-- Reorders as many values at the top as there are offsets. -/
def swap (scope : Scope) : Act ω π (List Value) := do
  let order ← Act.params (Param.record [1, 0] orderField scope)
  match order.find? fun offset => decide (order.length ≤ offset) with
  | some offset => Act.blame (.offsetOutside offset order.length)
  | none =>
    let items ← Act.popMany order.length
    return reorder order items

/-- Drops the top. -/
def discard (scope : Scope) : Act ω π (List Value) := do
  Act.noParams scope
  let _ ← Act.pop
  return []

/-- The height of the stack. -/
def size (scope : Scope) : Act ω π (List Value) := do
  Act.noParams scope
  return [.int (Int.ofNat (← Act.stack).length)]

/-- The parameters of `pack`. -/
structure PackParams where
  count : Option Nat := none
  forward : Bool := true
  keys : Option (List String) := none

/-- Reads a list of keys, or nothing. -/
def keyList : Value → Param.Read (Option (List String)) :=
  Param.optional (Param.sequence Param.string)

/-- Reads one parameter of `pack`. -/
def PackParams.field (params : PackParams) (key : String) (v : Value) : Param.Read PackParams :=
  match key with
  | "n" => do return { params with count := some (← Param.count v) }
  | "forward" => do return { params with forward := ← Param.boolean v }
  | "keys" => do return { params with keys := ← keyList v }
  | _ => .error (.unknown key ["n", "forward", "keys"])

/-- The composite of values: an array, or an object whose first key takes the last value. -/
def composite (keys : Option (List String)) (items : List Value) : Value :=
  match keys with
  | some keys => .obj (Table.ofEntries (keys.zip items.reverse))
  | none => .arr items

/-- Packs values at the top into one composite. -/
def pack (scope : Scope) : Act ω π (List Value) := do
  let params ← Act.params (Param.record {} PackParams.field scope)
  let count ← Act.params (Param.required "n" params.count)
  match params.keys with
  | some keys => if keys.length ≠ count then Act.blame (.keyCount keys.length count)
  | none => pure ()
  let items ← Act.popMany count
  return [composite params.keys (if params.forward then items else items.reverse)]

/-- Reads the parameter of `unpack`. -/
def unpackField (_ : Option (List String)) (key : String) (v : Value) :
    Param.Read (Option (List String)) :=
  match key with
  | "keys" => keyList v
  | _ => .error (.unknown key ["keys"])

/-- The values of an object under keys, each of which is taken out when it is met. -/
def takeOut : List (String × Value) → List String → Except ParamFault (List Value)
  | _, [] => .ok []
  | fields, key :: keys =>
    match Table.get? fields key with
    | some value => (takeOut (Table.erase fields key) keys).map (value :: ·)
    | none => .error (.absentKey key)

/-- Unpacks a composite: an array to its items, an object to its keys or, given keys, to the values
under them, the first key's value on top. -/
def unpack (scope : Scope) : Act ω π (List Value) := do
  let keys ← Act.params (Param.record none unpackField scope)
  match keys, ← Act.pop with
  | none, .arr items => return items
  | none, .obj fields => return fields.map fun entry => .str entry.1
  | none, other => throw (.type (.unpackWithoutKeys other.typeName))
  | some keys, .obj fields => Act.params (takeOut fields keys.reverse)
  | some _, other => throw (.type (.unpackWithKeys other.typeName))

/-- Takes an object from the stack as parameters for the next op of the frame. -/
def nextParams (scope : Scope) : Act ω π (List Value) := do
  Act.noParams scope
  match ← Act.pop with
  | .obj fields =>
    Act.onFrame fun frame => { frame with pending := fields }
    return []
  | other => throw (.type (.nextParams other.typeName))

end DocMachine.Shuffle
