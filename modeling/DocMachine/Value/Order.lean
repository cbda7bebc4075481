import DocMachine.Fault

/-!
# The order of values

Numbers are ordered by value, strings by code point and arrays item by item; nothing else is
ordered.
-/

namespace DocMachine

namespace Number

/-- The order of two numbers: exact between integers, else between the nearest floats. -/
def compare : Number → Number → Except Fault Ordering
  | int a, int b => .ok (Ord.compare a b)
  | a, b =>
    let x := a.toFloat
    let y := b.toFloat
    if x < y then .ok .lt
    else if y < x then .ok .gt
    else if x == y then .ok .eq
    else .error (.type .undefinedOrdering)

end Number

namespace Value

/-- A float that an op yields: it must be finite. -/
def ofFloat (x : Float) : Except Fault Value :=
  if x.isNaN || x.isInf then .error (.type (.nonFinite x)) else .ok (.float x)

/-- The order of two values that are neither two strings nor two arrays. -/
def compareNumbers (a b : Value) : Except Fault Ordering :=
  match a.number?, b.number? with
  | some x, some y => x.compare y
  | _, _ => .error (.type (.ordering a.typeName b.typeName))

mutual

/-- The order of two values. -/
def compare : Value → Value → Except Fault Ordering
  | .str a, .str b => .ok (Ord.compare a b)
  | .arr xs, .arr ys => compareItems xs ys
  | a, b => compareNumbers a b

/-- The order of two sequences: that of the first items that differ, else that of the lengths. -/
def compareItems : List Value → List Value → Except Fault Ordering
  | [], [] => .ok .eq
  | [], _ :: _ => .ok .lt
  | _ :: _, [] => .ok .gt
  | x :: xs, y :: ys => if x.same y then compareItems xs ys else compare x y

end

end Value

end DocMachine
