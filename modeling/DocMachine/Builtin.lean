import DocMachine.Arith
import DocMachine.Assertion
import DocMachine.Flow
import DocMachine.Format.Fill
import DocMachine.Resource
import DocMachine.Shuffle

/-!
# The built-in ops

`Builtin.act` gives each built-in op its meaning: it takes the parameters, works on the machine and
the calling frame, and answers with the values to push. Control words move the frame's program
counter.
-/

namespace DocMachine.Builtin

variable {ω π : Type}

/-- An op without parameters that replaces the top. -/
def unary (f : Value → Except Fault Value) (scope : Scope) : Act ω π (List Value) := do
  Act.noParams scope
  let value ← Act.pop
  return [← Act.ofExcept (f value)]

/-- An op without parameters that replaces the two values at the top. -/
def binary (f : Value → Value → Except Fault Value) (scope : Scope) : Act ω π (List Value) := do
  Act.noParams scope
  let (x, y) ← Act.popPair
  return [← Act.ofExcept (f x y)]

/-- A binary op that answers yes or no. -/
def predicate (f : Value → Value → Bool) : Scope → Act ω π (List Value) :=
  binary fun x y => .ok (.bool (f x y))

/-- A binary op that answers by the order of its operands. -/
def ordered (f : Ordering → Bool) : Scope → Act ω π (List Value) :=
  binary fun x y => (x.compare y).map fun order => .bool (f order)

/-- A control word: it takes no parameters and pushes nothing. -/
def control (word : Act ω π Unit) (scope : Scope) : Act ω π (List Value) := do
  Act.noParams scope
  word
  return []

/-- The meaning of a built-in op. -/
def act (host : Host ω π) : Builtin → Scope → Act ω π (List Value)
  | .add => binary Arith.add
  | .subtract => binary Arith.subtract
  | .multiply => binary Arith.multiply
  | .divide => binary Arith.divide
  | .modulo => binary Arith.modulo
  | .asBool => unary fun v => .ok (.bool v.truthy)
  | .asInt => unary Arith.toInt
  | .asFloat => unary Arith.toFloat
  | .both => predicate fun x y => x.truthy && y.truthy
  | .either => predicate fun x y => x.truthy || y.truthy
  | .differ => predicate fun x y => x.truthy != y.truthy
  | .negation => unary fun v => .ok (.bool !v.truthy)
  | .equal => predicate Value.same
  | .unequal => predicate fun x y => !x.same y
  | .greater => ordered (· == .gt)
  | .atLeast => ordered (· != .lt)
  | .less => ordered (· == .lt)
  | .atMost => ordered (· != .gt)
  | .dup => Shuffle.dup host
  | .swap => Shuffle.swap
  | .discard => Shuffle.discard
  | .size => Shuffle.size
  | .pack => Shuffle.pack
  | .unpack => Shuffle.unpack
  | .nextParams => Shuffle.nextParams
  | .openLoop => control Flow.openLoop
  | .closeLoop => control Flow.closeLoop
  | .leaveLoop => control Flow.leaveLoop
  | .continueIf => control Flow.continueIf
  | .openIf => control Flow.openIf
  | .otherwise => control Flow.otherwise
  | .closeIf => control (pure ())
  | .recurse => control Flow.recurse
  | .fetch => Resource.fetch host
  | .store => Resource.store host
  | .remove => Resource.remove host
  | .format => Format.fill
  | .require => Assertion.require

end DocMachine.Builtin
