import DocMachine.Value
import DocMachine.Decimal.Reader
import DocMachine.Text.Percent

/-!
# Read JSON

A strict reader: no comments, no trailing commas, no control characters in strings, at most 127
nested containers. Of a repeated key the last value counts, at the place of the first.

Every reader takes the characters ahead and gives back what it read and the characters after it.
-/

namespace DocMachine.Json

/-- The blanks between tokens. -/
def isSpace (c : Char) : Bool :=
  c = ' ' || c = '\n' || c = '\r' || c = '\t'

/-- The characters from the next token on. -/
def skipSpace (chars : List Char) : List Char :=
  chars.dropWhile isSpace

/-- The number that four hexadecimal digits denote. -/
def hexFour? (a b c d : Char) : Option Nat := do
  let a ← Text.hexValue? a
  let b ← Text.hexValue? b
  let c ← Text.hexValue? c
  let d ← Text.hexValue? d
  return ((a * 16 + b) * 16 + c) * 16 + d

/-- The character of a one-letter escape. -/
def escape? : Char → Option Char
  | '"' => some '"'
  | '\\' => some '\\'
  | '/' => some '/'
  | 'b' => some '\x08'
  | 'f' => some '\x0c'
  | 'n' => some '\n'
  | 'r' => some '\r'
  | 't' => some '\t'
  | _ => none

/-- The first half of a pair of code units. -/
def isHighUnit (n : Nat) : Bool := decide (0xd800 ≤ n) && decide (n ≤ 0xdbff)

/-- The second half of a pair of code units. -/
def isLowUnit (n : Nat) : Bool := decide (0xdc00 ≤ n) && decide (n ≤ 0xdfff)

/-- The rest of a string after its opening quote. `read` holds its characters so far, last first. -/
def readString : List Char → List Char → Option (String × List Char)
  | [], _ => none
  | '"' :: rest, read => some (String.ofList read.reverse, rest)
  | '\\' :: 'u' :: a :: b :: c :: d :: rest, read =>
    match hexFour? a b c d with
    | none => none
    | some unit =>
      if isHighUnit unit then
        match rest with
        | '\\' :: 'u' :: e :: f :: g :: h :: rest =>
          match hexFour? e f g h with
          | none => none
          | some low =>
            if isLowUnit low then
              readString rest
                (Char.ofNat (0x10000 + (unit - 0xd800) * 0x400 + (low - 0xdc00)) :: read)
            else none
        | _ => none
      else if isLowUnit unit then none
      else readString rest (Char.ofNat unit :: read)
  | '\\' :: c :: rest, read =>
    match escape? c with
    | some e => readString rest (e :: read)
    | none => none
  | c :: rest, read => if c = '\\' || c.toNat < 0x20 then none else readString rest (c :: read)

/-- A numeral in its parts. `fraction` and `exponent` are there if they were written. -/
structure Numeral where
  negative : Bool
  whole : List Char
  fraction : Option (List Char)
  exponent : Option Int

namespace Numeral

/-- The float nearest to the numeral. -/
def toFloat (n : Numeral) : Float :=
  let fraction := n.fraction.getD []
  floatOfDecimal n.negative (natOfDigits (n.whole ++ fraction))
    (n.exponent.getD 0 - Int.ofNat fraction.length)

/-- The number of a document's numeral: an integer if neither fraction nor exponent was written and
documents can hold it, else a float, unless that is beyond all floats. -/
def toNumber? (n : Numeral) : Option Number :=
  let float :=
    let x := n.toFloat
    if x.isInf then none else some (Number.float x)
  match n.fraction, n.exponent with
  | none, none =>
    let magnitude := natOfDigits n.whole
    if n.negative then
      if magnitude = 0 then float
      else if Number.leastInt ≤ -Int.ofNat magnitude then some (.int (-Int.ofNat magnitude))
      else float
    else if Int.ofNat magnitude ≤ Number.greatestNat then some (.int (Int.ofNat magnitude))
    else float
  | _, _ => float

end Numeral

/-- The part of a numeral after `e`: an optional sign and at least one digit. -/
def readExponent (chars : List Char) : Option (Int × List Char) :=
  let (negative, chars) := readSign chars
  match spanDigits chars with
  | ([], _) => none
  | (digits, rest) =>
    let n := Int.ofNat (natOfDigits digits)
    some (if negative then -n else n, rest)

/-- The parts of a numeral after its whole digits. -/
def readFraction (negative : Bool) (whole chars : List Char) : Option (Numeral × List Char) := do
  let (fraction, chars) ←
    match chars with
    | '.' :: rest =>
      match spanDigits rest with
      | ([], _) => none
      | (digits, rest) => some (some digits, rest)
    | _ => some (none, chars)
  let (exponent, chars) ←
    match chars with
    | 'e' :: rest => (readExponent rest).map fun (e, rest) => (some e, rest)
    | 'E' :: rest => (readExponent rest).map fun (e, rest) => (some e, rest)
    | _ => some (none, chars)
  return (⟨negative, whole, fraction, exponent⟩, chars)

/-- A numeral: no plus sign, no zeros before other digits, digits on both sides of a point. -/
def readNumeral (chars : List Char) : Option (Numeral × List Char) :=
  let (negative, chars) :=
    match chars with
    | '-' :: rest => (true, rest)
    | _ => (false, chars)
  match spanDigits chars with
  | ([], _) => none
  | ('0' :: _ :: _, _) => none
  | (whole, rest) => readFraction negative whole rest

mutual

/-- A value. The fuel bounds the number of calls, `depth` the containers that may still open. -/
def readValue : Nat → Nat → List Char → Option (Value × List Char)
  | 0, _, _ => none
  | fuel + 1, depth, chars =>
    match skipSpace chars with
    | 'n' :: 'u' :: 'l' :: 'l' :: rest => some (.null, rest)
    | 't' :: 'r' :: 'u' :: 'e' :: rest => some (.bool true, rest)
    | 'f' :: 'a' :: 'l' :: 's' :: 'e' :: rest => some (.bool false, rest)
    | '"' :: rest => (readString rest []).map fun (s, rest) => (.str s, rest)
    | '[' :: rest =>
      match depth with
      | 0 => none
      | depth + 1 =>
        match skipSpace rest with
        | ']' :: rest => some (.arr [], rest)
        | _ => readItems fuel depth rest []
    | '{' :: rest =>
      match depth with
      | 0 => none
      | depth + 1 =>
        match skipSpace rest with
        | '}' :: rest => some (.obj [], rest)
        | _ => readFields fuel depth rest []
    | ahead =>
      match readNumeral ahead with
      | none => none
      | some (numeral, rest) => numeral.toNumber?.map fun n => (.num n, rest)

/-- The items of an array from the next one on. `read` holds the earlier ones, last first. -/
def readItems : Nat → Nat → List Char → List Value → Option (Value × List Char)
  | 0, _, _, _ => none
  | fuel + 1, depth, chars, read =>
    match readValue fuel depth chars with
    | none => none
    | some (v, rest) =>
      match skipSpace rest with
      | ',' :: rest => readItems fuel depth rest (v :: read)
      | ']' :: rest => some (.arr (v :: read).reverse, rest)
      | _ => none

/-- The entries of an object from the next one on. `read` holds the earlier ones, last first. -/
def readFields : Nat → Nat → List Char → List (String × Value) → Option (Value × List Char)
  | 0, _, _, _ => none
  | fuel + 1, depth, chars, read =>
    match skipSpace chars with
    | '"' :: rest =>
      match readString rest [] with
      | none => none
      | some (key, rest) =>
        match skipSpace rest with
        | ':' :: rest =>
          match readValue fuel depth rest with
          | none => none
          | some (v, rest) =>
            match skipSpace rest with
            | ',' :: rest => readFields fuel depth rest ((key, v) :: read)
            | '}' :: rest => some (.obj (Table.ofEntries ((key, v) :: read).reverse), rest)
            | _ => none
        | _ => none
    | _ => none

end

/-- How many containers may be open at once. -/
def maxDepth : Nat := 127

/-- The value that a text denotes. -/
def parse? (text : String) : Option Value :=
  let chars := text.toList
  match readValue (2 * chars.length + 2) maxDepth chars with
  | some (v, rest) => if (skipSpace rest).isEmpty then some v else none
  | none => none

end DocMachine.Json
