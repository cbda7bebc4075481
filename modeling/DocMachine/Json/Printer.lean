import DocMachine.Value
import DocMachine.Decimal.Shortest
import DocMachine.Text.Quoted

/-!
# Written JSON

A value is written without blanks (`compact`) or over several lines (`pretty`). Both keep the order
of keys, and a float always shows a point or an exponent, so that it does not read back as an
integer.

The compact writer is shared with the relaxed dialect, which differs in the text of floats and in
the set of escaped characters (`Style`).
-/

namespace DocMachine.Json

/-- The choices in which the written dialects differ. -/
structure Style where
  float : Float → List Char
  escape : Char → List Char

/-- An escaped character: a backslash and a letter that stands for it. -/
def backslash (c : Char) : List Char := ['\\', c]

/-- Four lower-case hexadecimal digits. -/
def hexFour (n : Nat) : List Char :=
  let digits := Nat.toDigits 16 n
  List.replicate (4 - digits.length) '0' ++ digits

/-- Quotes, backslashes and controls are escaped, everything else stands for itself. -/
def escapeStrict (c : Char) : List Char :=
  if c = '"' then backslash '"'
  else if c = '\\' then backslash '\\'
  else if c = '\n' then backslash 'n'
  else if c = '\r' then backslash 'r'
  else if c = '\t' then backslash 't'
  else if c = '\x08' then backslash 'b'
  else if c = '\x0c' then backslash 'f'
  else if c.toNat < 0x20 then backslash 'u' ++ hexFour c.toNat
  else [c]

/-- The style of documents. -/
def strict : Style :=
  ⟨fun x => (FloatStyle.document.render x).toList, escapeStrict⟩

/-- A quoted string. -/
def writeString (style : Style) (s : String) : List Char :=
  '"' :: (s.toList.flatMap style.escape ++ ['"'])

/-- A number. -/
def writeNumber (style : Style) : Number → List Char
  | .int i => (toString i).toList
  | .float x => style.float x

mutual

/-- A value without blanks. -/
def write (style : Style) : Value → List Char
  | .null => "null".toList
  | .bool true => "true".toList
  | .bool false => "false".toList
  | .num n => writeNumber style n
  | .str s => writeString style s
  | .arr items => '[' :: (writeItems style items ++ [']'])
  | .obj fields => '{' :: (writeFields style fields ++ ['}'])

/-- Items with commas between them. -/
def writeItems (style : Style) : List Value → List Char
  | [] => []
  | [v] => write style v
  | v :: w :: rest => write style v ++ ',' :: writeItems style (w :: rest)

/-- Entries with commas between them. -/
def writeFields (style : Style) : List (String × Value) → List Char
  | [] => []
  | [(key, v)] => writeString style key ++ ':' :: write style v
  | (key, v) :: entry :: rest =>
    writeString style key ++ ':' :: (write style v ++ ',' :: writeFields style (entry :: rest))

end

/-- The compact text of a value. -/
def compact (v : Value) : String :=
  String.ofList (write strict v)

/-- A line break and the indentation of the given depth. -/
def newline (depth : Nat) : List Char :=
  '\n' :: List.replicate (2 * depth) ' '

mutual

/-- A value over several lines, at the given depth. -/
def writePretty (depth : Nat) : Value → List Char
  | .arr [] => "[]".toList
  | .arr (v :: rest) =>
    '[' :: (newline (depth + 1) ++ writePretty (depth + 1) v ++
      prettyItems (depth + 1) rest ++ newline depth ++ [']'])
  | .obj [] => ['{', '}']
  | .obj ((key, v) :: rest) =>
    '{' :: (newline (depth + 1) ++ writeString strict key ++ ':' :: ' ' ::
      (writePretty (depth + 1) v ++ prettyFields (depth + 1) rest ++ newline depth ++ ['}']))
  | .null => "null".toList
  | .bool true => "true".toList
  | .bool false => "false".toList
  | .num n => writeNumber strict n
  | .str s => writeString strict s

/-- The items after the first, each on a line of its own. -/
def prettyItems (depth : Nat) : List Value → List Char
  | [] => []
  | v :: rest => ',' :: (newline depth ++ writePretty depth v ++ prettyItems depth rest)

/-- The entries after the first, each on a line of its own. -/
def prettyFields (depth : Nat) : List (String × Value) → List Char
  | [] => []
  | (key, v) :: rest =>
    ',' :: (newline depth ++ writeString strict key ++ ':' :: ' ' ::
      (writePretty depth v ++ prettyFields depth rest))

end

/-- The text of a value over several lines, indented by two blanks. -/
def pretty (v : Value) : String :=
  String.ofList (writePretty 0 v)

end DocMachine.Json

namespace DocMachine.Value

/-- The value inside other text: a string as it is, everything else as compact JSON. -/
def display : Value → String
  | .str s => s
  | other => Json.compact other

end DocMachine.Value
