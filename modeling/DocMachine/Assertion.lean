import DocMachine.Act

/-!
# Assertions

The op that stops a program unless the top of the stack is true.
-/

namespace DocMachine.Assertion

variable {ω π : Type}

/-- The parameters of `assert`. -/
structure Params where
  error : Option String := none
  negate : Bool := false

/-- Reads one parameter of `assert`. -/
def Params.field (params : Params) (key : String) (v : Value) :
    Param.Read Params :=
  match key with
  | "error" => do return { params with error := ← Param.optional Param.string v }
  | "negate" => do return { params with negate := ← Param.boolean v }
  | _ => .error (.unknown key ["error", "negate"])

/-- Fails unless the top is true or, negated, false. -/
def require (scope : Scope) : Act ω π (List Value) := do
  let params ← Act.params (Param.record {} Params.field scope)
  let value ← Act.pop
  if value.truthy = params.negate then
    let expected := if params.negate then "falsy" else "truthy"
    throw (.assertionFailed (params.error.getD
      ("expected a " ++ expected ++ " value, got " ++ Json.compact value)))
  return []

end DocMachine.Assertion
