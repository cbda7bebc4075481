import DocMachine.Json.Parser
import DocMachine.Text.Blank
import DocMachine.Text.Age
import DocMachine.Text.Property

/-!
# Read relaxed JSON

The dialect for hand-written documents: comments, either kind of quotes, bare names as keys, one
comma after the last entry, and more ways to write numbers. Integers are 64-bit words; the names for
infinities and the undefined number read as null.
-/

namespace DocMachine.Json5

open Text

/-- The characters that end a line. -/
def isLineEnd (c : Char) : Bool :=
  c = '\n' || c = '\r' || c.toNat = 0x2028 || c.toNat = 0x2029

/-- The blanks between tokens. -/
def isSpace (c : Char) : Bool :=
  c = '\t' || c = '\x0b' || c = '\x0c' || c.toNat = 0xfeff || isLineEnd c ||
    Text.isSpaceSeparator c

/-- What the skipped text ahead is. -/
inductive Skipping where
  | blanks
  | line
  | block

/-- The characters from the next token on, past blanks and comments. A comment that does not end has
no characters after it. -/
def skipFrom : Skipping → List Char → Option (List Char)
  | .blanks, [] => some []
  | .blanks, '/' :: '/' :: rest => skipFrom .line rest
  | .blanks, '/' :: '*' :: rest => skipFrom .block rest
  | .blanks, c :: rest => if isSpace c then skipFrom .blanks rest else some (c :: rest)
  | .line, [] => some []
  | .line, c :: rest => if isLineEnd c then skipFrom .blanks rest else skipFrom .line rest
  | .block, [] => none
  | .block, '*' :: '/' :: rest => skipFrom .blanks rest
  | .block, _ :: rest => skipFrom .block rest

/-- The characters from the next token on. -/
def skip (chars : List Char) : Option (List Char) :=
  skipFrom .blanks chars

/-- A part of a string: a character, or a code unit that was written by number. -/
inductive Piece where
  | char (c : Char)
  | unit (n : Nat)

/-- The text of a sequence of parts. The two units of a pair are joined bit by bit. -/
def assemble : List Piece → Option (List Char)
  | [] => some []
  | .char c :: rest => (assemble rest).map (c :: ·)
  | .unit high :: .unit low :: rest =>
    if Json.isHighUnit high then
      if Json.isLowUnit low then
        (assemble rest).map
          (Char.ofNat (((high - 0xd800) <<< 10) ||| ((low - 0xdc00) + 0x10000)) :: ·)
      else none
    else if Json.isLowUnit high then none
    else (assemble (.unit low :: rest)).map (Char.ofNat high :: ·)
  | .unit n :: rest =>
    if Json.isHighUnit n || Json.isLowUnit n then none
    else (assemble rest).map (Char.ofNat n :: ·)

/-- The character that an escape letter stands for. Digits from 1 on stand for nothing. -/
def escape? (c : Char) : Option Char :=
  if c = 'b' then some '\x08'
  else if c = 'f' then some '\x0c'
  else if c = 'n' then some '\n'
  else if c = 'r' then some '\r'
  else if c = 't' then some '\t'
  else if c = 'v' then some '\x0b'
  else if c = '0' then some '\x00'
  else if c.isDigit || c = 'x' || c = 'u' then none
  else some c

/-- The rest of a string after its opening quote. `read` holds its parts so far, last first. -/
def readPieces (quote : Char) : List Char → List Piece → Option (List Piece × List Char)
  | [], _ => none
  | '\\' :: 'x' :: a :: b :: rest, read =>
    match Text.hexValue? a, Text.hexValue? b with
    | some high, some low => readPieces quote rest (.char (Char.ofNat (high * 16 + low)) :: read)
    | _, _ => none
  | '\\' :: 'u' :: a :: b :: c :: d :: rest, read =>
    match Json.hexFour? a b c d with
    | some n => readPieces quote rest (.unit n :: read)
    | none => none
  | '\\' :: '\r' :: '\n' :: rest, read => readPieces quote rest read
  | '\\' :: c :: rest, read =>
    if isLineEnd c then readPieces quote rest read
    else
      match escape? c with
      | some e => readPieces quote rest (.char e :: read)
      | none => none
  | c :: rest, read =>
    if c = quote then some (read.reverse, rest)
    else if c = '\\' || isLineEnd c then none
    else readPieces quote rest (.char c :: read)

/-- The rest of a string after its opening quote. -/
def readString (quote : Char) (chars : List Char) : Option (String × List Char) :=
  match readPieces quote chars [] with
  | none => none
  | some (pieces, rest) => (assemble pieces).map fun text => (String.ofList text, rest)

/-- The version of the Unicode standard whose characters bare names may have. -/
def nameVersion : CodeSet := (Age.upTo? "15.0").getD CodeSet.empty

/-- Letters and letter numbers. -/
def nameLetters : CodeSet :=
  (Category.codesOf (.letterNumber :: Category.letters)).inter nameVersion

/-- What a bare name may have besides letters: marks without a place of their own, diacritics,
digits, connectors and the two join controls. The caret and the backtick are diacritics. -/
def nameExtras : CodeSet :=
  (((Category.codesOf [.nonspacingMark, .decimalNumber, .connectorPunctuation]).union
      Property.diacritic).inter
    nameVersion).union (CodeSet.ofText "200c-200d")

/-- The characters that may start a bare name. -/
def startsName (c : Char) : Bool :=
  c = '$' || c = '_' || c.isAlpha || (decide (0x80 ≤ c.toNat) && nameLetters.contains c)

/-- The characters that may continue a bare name. -/
def continuesName (c : Char) : Bool :=
  startsName c || nameExtras.contains c

/-- The parts of a bare name, from the next one on. -/
def readNamePieces : List Char → List Piece → List Piece × List Char
  | '\\' :: 'u' :: a :: b :: c :: d :: rest, read =>
    match Json.hexFour? a b c d with
    | some n => readNamePieces rest (.unit n :: read)
    | none => (read.reverse, '\\' :: 'u' :: a :: b :: c :: d :: rest)
  | c :: rest, read =>
    if (if read.isEmpty then startsName c else continuesName c) then
      readNamePieces rest (.char c :: read)
    else (read.reverse, c :: rest)
  | [], read => (read.reverse, [])

/-- A bare name. -/
def readName (chars : List Char) : Option (String × List Char) :=
  match readNamePieces chars [] with
  | ([], _) => none
  | (pieces, rest) => (assemble pieces).map fun text => (String.ofList text, rest)

/-- The digits before a point: a zero alone, or digits that do not start with one. -/
def readWhole : List Char → Option (List Char × List Char)
  | '0' :: rest => some (['0'], rest)
  | chars =>
    match spanDigits chars with
    | ([], _) => none
    | found => some found

/-- An exponent, if one is complete ahead. -/
def readExponent (chars : List Char) : Option Int × List Char :=
  match chars with
  | c :: rest =>
    if c = 'e' || c = 'E' then
      match Json.readExponent rest with
      | some (e, rest) => (some e, rest)
      | none => (none, chars)
    else (none, chars)
  | [] => (none, [])

/-- A decimal numeral, with digits on at least one side of a point. -/
def readDecimal (negative : Bool) (chars : List Char) : Option (Json.Numeral × List Char) :=
  match readWhole chars with
  | some (whole, '.' :: rest) =>
    let (fraction, rest) := spanDigits rest
    let (exponent, rest) := readExponent rest
    some (⟨negative, whole, some fraction, exponent⟩, rest)
  | some (whole, rest) =>
    let (exponent, rest) := readExponent rest
    some (⟨negative, whole, none, exponent⟩, rest)
  | none =>
    match chars with
    | '.' :: rest =>
      match spanDigits rest with
      | ([], _) => none
      | (fraction, rest) =>
        let (exponent, rest) := readExponent rest
        some (⟨negative, [], some fraction, exponent⟩, rest)
    | _ => none

/-- The number of a numeral: a word if neither point nor exponent was written, else a finite
float. -/
def numberOf? (n : Json.Numeral) : Option Number :=
  match n.fraction, n.exponent with
  | none, none =>
    let magnitude := Int.ofNat (natOfDigits n.whole)
    let i := if n.negative then -magnitude else magnitude
    if Number.isWord i then some (.int i) else none
  | _, _ =>
    let x := n.toFloat
    if x.isInf then none else some (.float x)

/-- A hexadecimal numeral of at most 32 bits, after its `0x`. -/
def readHex (chars : List Char) : Option (Value × List Char) :=
  match chars.span fun c => (Text.hexValue? c).isSome with
  | ([], _) => none
  | (digits, rest) =>
    let n := digits.foldl (fun n c => 16 * n + (Text.hexValue? c).getD 0) 0
    if n < 0x100000000 then some (.int (Int.ofNat n), rest) else none

/-- A number without its sign. Names allow no plus sign and hexadecimal numerals no sign at all. -/
def readUnsigned (sign : Option Char) (chars : List Char) : Option (Value × List Char) :=
  match chars with
  | 'I' :: 'n' :: 'f' :: 'i' :: 'n' :: 'i' :: 't' :: 'y' :: rest =>
    if sign = some '+' then none else some (.null, rest)
  | 'N' :: 'a' :: 'N' :: rest => if sign = some '+' then none else some (.null, rest)
  | '0' :: 'x' :: rest => if sign.isSome then none else readHex rest
  | '0' :: 'X' :: rest => if sign.isSome then none else readHex rest
  | _ =>
    match readDecimal (sign = some '-') chars with
    | none => none
    | some (numeral, rest) => (numberOf? numeral).map fun n => (.num n, rest)

/-- A number. -/
def readNumber : List Char → Option (Value × List Char)
  | '+' :: rest => readUnsigned (some '+') rest
  | '-' :: rest => readUnsigned (some '-') rest
  | chars => readUnsigned none chars

/-- A key: a string or a bare name. -/
def readKey : List Char → Option (String × List Char)
  | '"' :: rest => readString '"' rest
  | '\'' :: rest => readString '\'' rest
  | chars => readName chars

mutual

/-- A value. The fuel bounds the number of calls. -/
def readValue : Nat → List Char → Option (Value × List Char)
  | 0, _ => none
  | fuel + 1, chars =>
    match skip chars with
    | none => none
    | some ('n' :: 'u' :: 'l' :: 'l' :: rest) => some (.null, rest)
    | some ('t' :: 'r' :: 'u' :: 'e' :: rest) => some (.bool true, rest)
    | some ('f' :: 'a' :: 'l' :: 's' :: 'e' :: rest) => some (.bool false, rest)
    | some ('"' :: rest) => (readString '"' rest).map fun (s, rest) => (.str s, rest)
    | some ('\'' :: rest) => (readString '\'' rest).map fun (s, rest) => (.str s, rest)
    | some ('[' :: rest) =>
      match skip rest with
      | some (']' :: rest) => some (.arr [], rest)
      | _ => readItems fuel rest []
    | some ('{' :: rest) =>
      match skip rest with
      | some ('}' :: rest) => some (.obj [], rest)
      | _ => readFields fuel rest []
    | some ahead => readNumber ahead

/-- The items of an array from the next one on. `read` holds the earlier ones, last first. -/
def readItems : Nat → List Char → List Value → Option (Value × List Char)
  | 0, _, _ => none
  | fuel + 1, chars, read =>
    match readValue fuel chars with
    | none => none
    | some (v, rest) =>
      match skip rest with
      | some (']' :: rest) => some (.arr (v :: read).reverse, rest)
      | some (',' :: rest) =>
        match skip rest with
        | some (']' :: rest) => some (.arr (v :: read).reverse, rest)
        | _ => readItems fuel rest (v :: read)
      | _ => none

/-- The entries of an object from the next one on. `read` holds the earlier ones, last first. -/
def readFields : Nat → List Char → List (String × Value) → Option (Value × List Char)
  | 0, _, _ => none
  | fuel + 1, chars, read =>
    match (skip chars).bind readKey with
    | none => none
    | some (key, rest) =>
      match skip rest with
      | some (':' :: rest) =>
        match readValue fuel rest with
        | none => none
        | some (v, rest) =>
          match skip rest with
          | some ('}' :: rest) => some (.obj (Table.ofEntries ((key, v) :: read).reverse), rest)
          | some (',' :: rest) =>
            match skip rest with
            | some ('}' :: rest) => some (.obj (Table.ofEntries ((key, v) :: read).reverse), rest)
            | _ => readFields fuel rest ((key, v) :: read)
          | _ => none
      | _ => none

end

/-- The value that a text denotes. -/
def parse? (text : String) : Option Value :=
  let chars := text.toList
  match readValue (2 * chars.length + 2) chars with
  | some (v, rest) => if skip rest = some [] then some v else none
  | none => none

end DocMachine.Json5
