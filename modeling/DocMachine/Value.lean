import DocMachine.Table

/-!
# Values

The data of the machine: what lies on the stack, what scopes hold and what documents are made of.
Numbers are integers, or floats when a fraction or an exponent was written.

* `Value.truthy` is the reading as a condition.
* `Value.number?` is the reading as a number, in which booleans count as 0 and 1.
* `Value.same` is equality with numbers taken by value, so 1 is the same as 1.0 and as `true`.
-/

namespace DocMachine

/-- A number as documents write it. -/
inductive Number where
  | int (value : Int)
  | float (value : Float)

namespace Number

/-- The least integer that arithmetic yields. -/
def leastInt : Int := -0x8000000000000000

/-- The greatest integer that arithmetic yields. -/
def greatestInt : Int := 0x7fffffffffffffff

/-- The greatest integer that a document may hold. -/
def greatestNat : Int := 0xffffffffffffffff

/-- Whether arithmetic may yield `i`. -/
def isWord (i : Int) : Bool :=
  decide (leastInt ≤ i) && decide (i ≤ greatestInt)

/-- The nearest float. -/
def toFloat : Number → Float
  | int i => Float.ofInt i
  | float x => x

end Number

/-- A document value. The keys of an object are distinct and keep their order. -/
inductive Value where
  | null
  | bool (b : Bool)
  | num (n : Number)
  | str (s : String)
  | arr (items : List Value)
  | obj (fields : List (String × Value))

/-- Named parameters and variable scopes. -/
abbrev Scope := Table String Value

/-- The shape of a value. -/
inductive Kind where
  | null
  | bool
  | number
  | string
  | array
  | object
  deriving DecidableEq

namespace Kind

/-- The kind's name in reports. -/
def name : Kind → String
  | null => "null"
  | bool => "bool"
  | number => "number"
  | string => "string"
  | array => "array"
  | object => "object"

end Kind

namespace Value

instance : Inhabited Value := ⟨null⟩

/-- The integer `i`. -/
def int (i : Int) : Value := num (.int i)

/-- The float `x`. -/
def float (x : Float) : Value := num (.float x)

/-- The shape of a value. -/
def kind : Value → Kind
  | null => .null
  | bool _ => .bool
  | num _ => .number
  | str _ => .string
  | arr _ => .array
  | obj _ => .object

/-- The type's name in error messages: numbers split into `int` and `float`. -/
def typeName : Value → String
  | num (.int _) => "int"
  | num (.float _) => "float"
  | other => other.kind.name

/-- The reading as a condition: zero and everything empty is false. -/
def truthy : Value → Bool
  | null => false
  | bool b => b
  | num (.int i) => decide (i ≠ 0)
  | num (.float x) => x != 0.0
  | str s => !s.isEmpty
  | arr items => !items.isEmpty
  | obj fields => !fields.isEmpty

/-- The reading as a number. Booleans count as 0 and 1, and an integer that arithmetic cannot yield
is read as the nearest float. -/
def number? : Value → Option Number
  | bool b => some (.int (if b then 1 else 0))
  | num (.int i) => some (if Number.isWord i then .int i else .float (Float.ofInt i))
  | num (.float x) => some (.float x)
  | _ => none

end Value

namespace Number

/-- Equality by value: exact between integers, else between the nearest floats. -/
def same : Number → Number → Bool
  | int a, int b => decide (a = b)
  | a, b => a.toFloat == b.toFloat

end Number

namespace Value

/-- Equality of two values of which at most one is a container. -/
def sameScalar : Value → Value → Bool
  | null, null => true
  | bool a, bool b => a == b
  | str a, str b => a == b
  | num a, num b => sameNumber (num a) (num b)
  | num a, bool b => sameNumber (num a) (bool b)
  | bool a, num b => sameNumber (bool a) (num b)
  | _, _ => false
where
  sameNumber (a b : Value) : Bool :=
    match a.number?, b.number? with
    | some x, some y => x.same y
    | _, _ => false

mutual

/-- Equality with numbers taken by value and objects taken as maps. -/
def same : Value → Value → Bool
  | arr xs, arr ys => sameItems xs ys
  | obj xs, obj ys => xs.length == ys.length && sameFields xs ys
  | a, b => a.sameScalar b

/-- Equality of sequences, item by item. -/
def sameItems : List Value → List Value → Bool
  | [], [] => true
  | x :: xs, y :: ys => x.same y && sameItems xs ys
  | _, _ => false

/-- Whether every entry of the first object has an equal one in the second. -/
def sameFields : List (String × Value) → List (String × Value) → Bool
  | [], _ => true
  | (key, x) :: rest, ys =>
    (match Table.get? ys key with
      | some y => x.same y
      | none => false) && sameFields rest ys

end

end Value

end DocMachine
