import DocMachine.Decimal.Binary

/-!
# Numbers from free text

Integers and floats as a person types them. Both readers take the whole text: an integer is an
optional sign and digits, a float may also have a point with digits on at least one side, an
exponent, or be named.
-/

namespace DocMachine

/-- The number that a sequence of decimal digits denotes. -/
def natOfDigits (digits : List Char) : Nat :=
  digits.foldl (fun n c => 10 * n + (c.toNat - '0'.toNat)) 0

/-- Digits ahead and the characters after them. -/
def spanDigits (chars : List Char) : List Char × List Char :=
  chars.span Char.isDigit

/-- Whether a sign ahead is a minus, and the characters after it. -/
def readSign : List Char → Bool × List Char
  | '-' :: rest => (true, rest)
  | '+' :: rest => (false, rest)
  | chars => (false, chars)

/-- A natural number: one digit or more. -/
def nat? (chars : List Char) : Option Nat :=
  if chars.isEmpty || !chars.all Char.isDigit then none else some (natOfDigits chars)

/-- An integer: an optional sign, then digits. -/
def int? (chars : List Char) : Option Int :=
  let (negative, digits) := readSign chars
  (nat? digits).map fun n => if negative then -Int.ofNat n else Int.ofNat n

/-- An exponent after its letter: an optional sign, then digits to the end. -/
def exponent? : List Char → Option Int
  | [] => none
  | chars => int? chars

/-- An unsigned float: digits, a point and digits, of which one side may be missing, an exponent. -/
def unsignedFloat? (negative : Bool) (chars : List Char) : Option Float :=
  let (whole, rest) := spanDigits chars
  let (fraction, rest) :=
    match rest with
    | '.' :: rest => spanDigits rest
    | _ => ([], rest)
  if whole.isEmpty && fraction.isEmpty then none
  else
    let exponent :=
      match rest with
      | [] => some 0
      | 'e' :: rest => exponent? rest
      | 'E' :: rest => exponent? rest
      | _ => none
    exponent.map fun e =>
      floatOfDecimal negative (natOfDigits (whole ++ fraction)) (e - Int.ofNat fraction.length)

/-- A float: an optional sign, then a numeral or, in any case, `inf`, `infinity` or `nan`. -/
def float? (chars : List Char) : Option Float :=
  let (negative, rest) := readSign chars
  let name := String.ofList (rest.map Char.toLower)
  if name = "inf" || name = "infinity" then some (floatOfBits negative infinityBits)
  else if name = "nan" then some (floatOfBits negative nanBits)
  else unsignedFloat? negative rest

end DocMachine
