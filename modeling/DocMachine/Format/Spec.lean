import DocMachine.Decimal.Fixed
import DocMachine.Decimal.Reader
import DocMachine.Fault

/-!
# Format specifiers

How a value is laid out in a field: `[[fill]align][sign][0][width][,][.precision][type]`.

* `Spec.parse` reads a specifier.
* `Spec.apply` lays a value out.
-/

namespace DocMachine.Format

/-- Where a text stands in a wider field. -/
inductive Align where
  | left
  | right
  | center
  /-- The fill goes between sign and digits. -/
  | inside
  deriving DecidableEq

/-- What stands before a number that is not negative. -/
inductive Sign where
  | plus
  | minus
  | space
  deriving DecidableEq

/-- A format specifier. -/
structure Spec where
  fill : Option Char := none
  align : Option Align := none
  sign : Option Sign := none
  zero : Bool := false
  width : Nat := 0
  grouping : Bool := false
  precision : Option Nat := none
  kind : Option Char := none
  deriving DecidableEq

/-- A count below 2 ^ 64. -/
def word? (digits : List Char) : Option Nat :=
  let n := natOfDigits digits
  if n < 0x10000000000000000 then some n else none

namespace Align

/-- The alignment that a character stands for. -/
def ofChar? : Char → Option Align
  | '<' => some left
  | '>' => some right
  | '^' => some center
  | '=' => some inside
  | _ => none

end Align

namespace Sign

/-- The sign that a character stands for. -/
def ofChar? : Char → Option Sign
  | '+' => some plus
  | '-' => some minus
  | ' ' => some space
  | _ => none

end Sign

namespace Spec

/-! ## Reading -/

/-- Fill and alignment ahead. A character before an alignment is the fill, whatever it is. -/
def readAlign (spec : Spec) : List Char → Spec × List Char
  | first :: second :: rest =>
    match Align.ofChar? second, Align.ofChar? first with
    | some align, _ => ({ spec with fill := some first, align := some align }, rest)
    | none, some align => ({ spec with align := some align }, second :: rest)
    | none, none => (spec, first :: second :: rest)
  | [first] =>
    match Align.ofChar? first with
    | some align => ({ spec with align := some align }, [])
    | none => (spec, [first])
  | [] => (spec, [])

/-- A sign ahead. -/
def readSign (spec : Spec) : List Char → Spec × List Char
  | first :: rest =>
    match Sign.ofChar? first with
    | some sign => ({ spec with sign := some sign }, rest)
    | none => (spec, first :: rest)
  | [] => (spec, [])

/-- A zero ahead, which asks for zeros as fill. -/
def readZero (spec : Spec) : List Char → Spec × List Char
  | '0' :: rest => ({ spec with zero := true }, rest)
  | chars => (spec, chars)

/-- A width ahead. One that is too large counts as none. -/
def readWidth (spec : Spec) (chars : List Char) : Spec × List Char :=
  let (digits, rest) := spanDigits chars
  ({ spec with width := (word? digits).getD 0 }, rest)

/-- A comma ahead, which asks for groups of digits. -/
def readGrouping (spec : Spec) : List Char → Spec × List Char
  | ',' :: rest => ({ spec with grouping := true }, rest)
  | chars => (spec, chars)

/-- A precision ahead: a point and digits. One that is too large counts as none. -/
def readPrecision (spec : Spec) : List Char → Except TemplateFault (Spec × List Char)
  | '.' :: chars =>
    let (digits, rest) := spanDigits chars
    if digits.isEmpty then .error .missingPrecision
    else .ok ({ spec with precision := word? digits }, rest)
  | chars => .ok (spec, chars)

/-- A specifier from its characters. -/
def parse (chars : List Char) : Except TemplateFault Spec := do
  let (spec, rest) := readAlign {} chars
  let (spec, rest) := readSign spec rest
  let (spec, rest) := readZero spec rest
  let (spec, rest) := readWidth spec rest
  let (spec, rest) := readGrouping spec rest
  let (spec, rest) ← readPrecision spec rest
  match rest with
  | [] => return spec
  | [kind] => return { spec with kind := some kind }
  | _ => throw (.badSpec (String.ofList chars))

/-! ## Layout -/

/-- The greatest number of bytes in a text. -/
def maxBytes : Nat := 0x7fffffffffffffff

/-- The character that fills a field. -/
def filler (spec : Spec) : Char := spec.fill.getD ' '

/-- The blanks, or other fill, in a field, if a text can hold so many. -/
def filling (spec : Spec) (count : Nat) : Except TemplateFault String :=
  if maxBytes < count * spec.filler.utf8Size then .error .capacity
  else .ok (String.ofList (List.replicate count spec.filler))

/-- A text in a field, at `align` unless the specifier says otherwise. -/
def pad (spec : Spec) (align : Align) (text : String) : Except TemplateFault String := do
  let total := spec.width - text.length
  match spec.align.getD align with
  | .left => return text ++ (← spec.filling total)
  | .center => return (← spec.filling (total / 2)) ++ text ++ (← spec.filling (total - total / 2))
  | .right => return (← spec.filling total) ++ text
  | .inside => return (← spec.filling total) ++ text

/-- Digits in groups of three, from the right; the argument is reversed. -/
def groupReversed : List Char → List Char
  | a :: b :: c :: d :: rest => a :: b :: c :: ',' :: groupReversed (d :: rest)
  | few => few

/-- The digits before a point in groups of three. -/
def group (spec : Spec) (text : String) : String :=
  if spec.grouping then
    let (whole, rest) := text.toList.span (· ≠ '.')
    String.ofList ((groupReversed whole.reverse).reverse ++ rest)
  else text

/-- A natural number in a base up to sixteen. -/
def inBase (base n : Nat) : String :=
  String.ofList (Nat.toDigits base n)

/-- The places after the point when none are asked for. -/
def defaultPlaces : Nat := 6

/-- The greatest number of places, and of digits with zeros before them, that can be asked for. -/
def maxDigits : Nat := 0xffff

/-- A number of digits, if it can be asked for. -/
def digitCount (count : Nat) : Except TemplateFault Nat :=
  if maxDigits < count then .error .digitCount else .ok count

/-- The magnitude of an integer under a type, if the type is for integers. -/
def intDigits? (spec : Spec) (i : Int) : Option String :=
  match spec.kind with
  | some 'd' => some (spec.group (toString i.natAbs))
  | some 'x' => some (inBase 16 i.natAbs)
  | some 'X' => some (inBase 16 i.natAbs).toUpper
  | some 'o' => some (inBase 8 i.natAbs)
  | some 'b' => some (inBase 2 i.natAbs)
  | none => if spec.precision.isNone then some (spec.group (toString i.natAbs)) else none
  | some _ => none

/-- The magnitude of any number under a type. -/
def floatDigits (spec : Spec) (value : Value) (x : Float) : Except TemplateFault String :=
  let places := digitCount (spec.precision.getD defaultPlaces)
  match spec.kind, spec.precision with
  | some 'f', _ => places.map fun places => spec.group (fixedText x places)
  | some 'F', _ => places.map fun places => spec.group (fixedText x places)
  | some 'e', _ => places.map fun places => scientificText x places
  | some 'E', _ => places.map fun places => (scientificText x places).toUpper
  | some '%', _ => places.map fun places => fixedText (x * 100.0) places ++ "%"
  | none, some _ => places.map fun places => fixedText x places
  | none, none => .ok (String.ofList (value.display.toList.dropWhile (· = '-')))
  | some letter, _ => .error (.unknownNumberCode letter)

/-- A number's value as a word, if it is one; booleans count. -/
def word (value : Value) : Option Int :=
  match value.number? with
  | some (.int i) => some i
  | _ => none

/-- Whether a number is negative, and its magnitude. -/
def magnitude (spec : Spec) (value : Value) : Except TemplateFault (Bool × String) :=
  let x := (value.number?.map Number.toFloat).getD 0.0
  let integral := (word value).bind fun i =>
    (spec.intDigits? i).map fun digits => (decide (i < 0), digits)
  match integral with
  | some result => .ok result
  | none => (spec.floatDigits value x).map fun digits => (x < 0.0, digits)

/-- The sign of a number. -/
def signText (spec : Spec) (negative : Bool) : String :=
  if negative then "-"
  else
    match spec.sign with
    | some .plus => "+"
    | some .space => " "
    | _ => ""

/-- A number with its sign and the fill that goes between sign and digits. -/
def number (spec : Spec) (value : Value) : Except TemplateFault String := do
  let (negative, digits) ← spec.magnitude value
  let sign := spec.signText negative
  let room := spec.width - sign.length
  if spec.zero && spec.align.isNone && spec.fill.isNone then
    return sign ++ zeroFill digits (← digitCount room)
  if spec.align = some .inside then
    return sign ++ (← spec.filling (room - digits.length)) ++ digits
  return sign ++ digits

/-- Whether a value is laid out as a number. -/
def isNumeric : Value → Bool
  | .num _ => true
  | .bool _ => true
  | _ => false

/-- A text cut to the precision. -/
def cut (spec : Spec) (text : String) : String :=
  match spec.precision with
  | some count => String.ofList (text.toList.take count)
  | none => text

/-- Lays out a value whose text is `rendered`. Texts stand left and are cut to the precision,
numbers stand right, and any other value takes no type but `s`. -/
def apply (spec : Spec) (value : Value) (rendered : String) : Except TemplateFault String :=
  match spec.kind, value with
  | some 's', _ => spec.pad .left (spec.cut rendered)
  | none, .str _ => spec.pad .left (spec.cut rendered)
  | kind, value =>
    if isNumeric value then spec.number value >>= spec.pad .right
    else
      match kind with
      | none => spec.pad .left rendered
      | some letter => .error (.unknownCode letter value.typeName)

end Spec

end DocMachine.Format
