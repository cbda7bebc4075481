import DocMachine.Text.Utf8

/-!
# Percent escapes

A byte that may not stand for itself is written as a percent sign and two hexadecimal digits.
`percentEncode` writes escapes, with upper-case digits, for the characters outside a class;
`percentDecode` reads every well-formed escape and leaves the others as they are.
-/

namespace DocMachine.Text

/-- The value of a hexadecimal digit of either case. -/
def hexValue? (c : Char) : Option Nat :=
  if '0' ≤ c && c ≤ '9' then some (c.toNat - '0'.toNat)
  else if 'a' ≤ c && c ≤ 'f' then some (c.toNat - 'a'.toNat + 10)
  else if 'A' ≤ c && c ≤ 'F' then some (c.toNat - 'A'.toNat + 10)
  else none

private def upperHex (n : Nat) : Char :=
  if n < 10 then Char.ofNat ('0'.toNat + n) else Char.ofNat ('A'.toNat + (n - 10))

/-- The escape of one byte. -/
def escapeByte (b : UInt8) : List Char :=
  ['%', upperHex (b.toNat / 16), upperHex (b.toNat % 16)]

/-- The escapes of the bytes of one character. -/
def escapeChar (c : Char) : List Char :=
  (toUtf8 c.toString).flatMap escapeByte

/-- Escapes every character outside the class `stays`. -/
def percentEncode (stays : Char → Bool) (chars : List Char) : List Char :=
  chars.flatMap fun c => if stays c then [c] else escapeChar c

/-- The bytes of a text, every well-formed escape standing for one byte. -/
def percentBytes : List Char → List UInt8
  | [] => []
  | '%' :: a :: b :: rest =>
    match hexValue? a, hexValue? b with
    | some high, some low => (high * 16 + low).toUInt8 :: percentBytes rest
    | _, _ => (toUtf8 "%") ++ percentBytes (a :: b :: rest)
  | c :: rest => toUtf8 c.toString ++ percentBytes rest

/-- The text with its escapes read. -/
def percentDecode (s : String) : Except Utf8Fault String :=
  ofUtf8 (percentBytes s.toList)

/-- The characters that stand for themselves in every part of a URI. -/
def isUnreserved (c : Char) : Bool :=
  c.isAlphanum || c = '-' || c = '_' || c = '.' || c = '~'

end DocMachine.Text
