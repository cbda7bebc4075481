import DocMachine.Decimal.Reader
import DocMachine.Decimal.Remainder
import DocMachine.Text.Blank
import DocMachine.Value.Order

/-!
# Arithmetic

The binary ops on numbers, which also join and repeat strings and arrays, and the conversions to
numbers. Integers are words of 64 bits: what leaves their range is an overflow. Two integers give an
integer, except that a quotient is always a float; in every other case floats are used.
-/

namespace DocMachine.Arith

/-- The two operands as numbers. -/
def operands (symbol : String) (x y : Value) : Except Fault (Number × Number) :=
  match x.number?, y.number? with
  | some a, some b => .ok (a, b)
  | _, _ => .error (.type (.operands symbol x.typeName y.typeName))

/-- An integer result, which has to be a word. -/
def ofInt (i : Int) : Except Fault Value :=
  if Number.isWord i then .ok (.int i) else .error .arithmeticOverflow

/-- An op on numbers, by its meaning on integers and on floats. -/
def onNumbers (symbol : String) (ints : Int → Int → Int) (floats : Float → Float → Float)
    (x y : Value) : Except Fault Value := do
  match ← operands symbol x y with
  | (.int a, .int b) => ofInt (ints a b)
  | (a, b) => Value.ofFloat (floats a.toFloat b.toFloat)

/-- The sum, or two strings or two arrays joined. -/
def add : Value → Value → Except Fault Value
  | .str a, .str b => .ok (.str (a ++ b))
  | .arr a, .arr b => .ok (.arr (a ++ b))
  | x, y => onNumbers "+" (· + ·) (· + ·) x y

/-- The difference. -/
def subtract (x y : Value) : Except Fault Value :=
  onNumbers "-" (· - ·) (· - ·) x y

/-- The greatest length of a repeated string, in bytes, and of a repeated array. -/
def maxRepeated : Nat := 0x10000000

/-- A string `count` times over. -/
def repeatText (s : String) (count : Nat) : String :=
  if s.isEmpty then s else Nat.repeat (· ++ s) count ""

/-- A list `count` times over. -/
def repeatItems (items : List Value) (count : Nat) : List Value :=
  if items.isEmpty then items else (List.replicate count items).flatten

/-- Whether a sequence of the given length may be repeated `count` times. -/
def mayRepeat (length count : Nat) : Bool :=
  decide (length * count ≤ maxRepeated)

/-- A string repeated; a negative count is taken as zero. -/
def multiplyText (s : String) (count : Int) : Except Fault Value :=
  if mayRepeat s.utf8ByteSize count.toNat then .ok (.str (repeatText s count.toNat))
  else .error .arithmeticOverflow

/-- An array repeated; a negative count is taken as zero. -/
def multiplyItems (items : List Value) (count : Int) : Except Fault Value :=
  if mayRepeat items.length count.toNat then .ok (.arr (repeatItems items count.toNat))
  else .error .arithmeticOverflow

/-- The product, or a string or an array repeated, with the count on either side. -/
def multiply (x y : Value) : Except Fault Value :=
  match x, y.number?, y, x.number? with
  | .str s, some (.int count), _, _ => multiplyText s count
  | .arr items, some (.int count), _, _ => multiplyItems items count
  | _, _, .str s, some (.int count) => multiplyText s count
  | _, _, .arr items, some (.int count) => multiplyItems items count
  | _, _, _, _ => onNumbers "*" (· * ·) (· * ·) x y

/-- The quotient, always a float. -/
def divide (x y : Value) : Except Fault Value := do
  let (a, b) ← operands "/" x y
  if b.toFloat == 0.0 then throw .divisionByZero
  Value.ofFloat (a.toFloat / b.toFloat)

/-- The remainder of integers with the sign of the divisor. -/
def flooredRemainder (a b : Int) : Int :=
  let r := Int.tmod a b
  if r ≠ 0 ∧ decide (r < 0) ≠ decide (b < 0) then r + b else r

/-- The remainder of floats with the sign of the divisor. -/
def flooredFloatRemainder (a b : Float) : Float :=
  let r := floatRemainder a b
  if r != 0.0 && (r < 0.0) != (b < 0.0) then r + b else r

/-- The remainder with the sign of the divisor. -/
def modulo (x y : Value) : Except Fault Value := do
  match ← operands "%" x y with
  | (.int a, .int b) =>
    if b = 0 then throw .divisionByZero
    return .int (flooredRemainder a b)
  | (a, b) =>
    if b.toFloat == 0.0 then throw .divisionByZero
    Value.ofFloat (flooredFloatRemainder a.toFloat b.toFloat)

/-! ## Conversions -/

/-- The integer that a text denotes, apart from blanks around it. -/
def intOfText (s : String) : Except Fault Value :=
  match int? (Text.trim s).toList with
  | some i => if Number.isWord i then .ok (.int i) else .error (.type (.badIntText s))
  | none => .error (.type (.badIntText s))

/-- The integer part of a finite float. -/
def truncate (x : Float) : Int :=
  let (num, den) := (Binary.ofFloat x).ratio
  let magnitude := Int.ofNat (num / den)
  if signBit x then -magnitude else magnitude

/-- The integer of a value: texts are read, and floats lose their fraction. -/
def toInt : Value → Except Fault Value
  | .str s => intOfText s
  | other =>
    match other.number? with
    | some (.int i) => .ok (.int i)
    | some (.float x) =>
      if x.isNaN || x.isInf then .error (.type (.noInt other.typeName)) else ofInt (truncate x)
    | none => .error (.type (.noInt other.typeName))

/-- The float that a text denotes, apart from blanks around it. -/
def floatOfText (s : String) : Except Fault Value :=
  match float? (Text.trim s).toList with
  | some x => Value.ofFloat x
  | none => .error (.type (.badFloatText s))

/-- The float of a value: texts are read. -/
def toFloat : Value → Except Fault Value
  | .str s => floatOfText s
  | other =>
    match other.number? with
    | some n => Value.ofFloat n.toFloat
    | none => .error (.type (.noFloat other.typeName))

end DocMachine.Arith
