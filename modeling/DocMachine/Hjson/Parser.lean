import DocMachine.Json.Parser
import DocMachine.Text.Blank

/-!
# Read line-oriented JSON

The dialect for people: commas are optional, keys and strings need no quotes, a string without
quotes runs to the end of its line, and a string in triple quotes spans several lines.

Readers take the whole text besides the characters ahead, because the indentation of a string in
triple quotes is counted from the start of the line on which it opens.
-/

namespace DocMachine.Hjson

/-- What the skipped text ahead is. After a slash it may be a comment, and after a star in a comment
its end. -/
inductive Skipping where
  | blanks
  | slash
  | line
  | block
  | star

/-- The blanks that are skipped between tokens. -/
def isSpace (c : Char) : Bool :=
  c = ' ' || c = '\t' || c = '\x0c' || c = '\r' || c = '\n'

/-- The characters from the next token on, past blanks and comments. Stars are skipped as well, and
so is a slash, unless a token follows at once: it belongs to that token. A comment that does not end
has no characters after it; the star that opens one may also close it. With `wide`, blanks of every
kind are skipped; with `comma`, one comma. -/
def skipFrom (wide : Bool) : Skipping → Bool → List Char → Option (List Char)
  | .block, _, [] => none
  | .star, _, [] => none
  | _, _, [] => some []
  | .line, comma, c :: rest => skipFrom wide (if c = '\n' then .blanks else .line) comma rest
  | .block, comma, c :: rest => skipFrom wide (if c = '*' then .star else .block) comma rest
  | .star, comma, c :: rest =>
    skipFrom wide (if c = '/' then .blanks else if c = '*' then .star else .block) comma rest
  | .slash, comma, c :: rest =>
    if c = '/' || c = '#' then skipFrom wide .line comma rest
    else if c = '*' then skipFrom wide .star comma rest
    else if isSpace c || (wide && Text.isBlank c) then skipFrom wide .blanks comma rest
    else if comma && c = ',' then skipFrom wide .blanks false rest
    else some ('/' :: c :: rest)
  | .blanks, comma, c :: rest =>
    if c = '/' then skipFrom wide .slash comma rest
    else if c = '#' then skipFrom wide .line comma rest
    else if c = '*' || isSpace c || (wide && Text.isBlank c) then
      skipFrom wide .blanks comma rest
    else if comma && c = ',' then skipFrom wide .blanks false rest
    else some (c :: rest)

/-- The characters from the next token on. -/
def skip (chars : List Char) : Option (List Char) :=
  skipFrom false .blanks false chars

/-- The characters from the next token on, past blanks of every kind and at most one comma. -/
def skipSeparator (chars : List Char) : Option (List Char) :=
  skipFrom true .blanks true chars

/-- The character of a one-letter escape. -/
def escape? (c : Char) : Option Char :=
  if c = '\'' then some c else Json.escape? c

/-- The rest of a string after its opening quote. `read` holds its characters so far, last first. -/
def readQuoted (quote : Char) : List Char → List Char → Option (String × List Char)
  | [], _ => none
  | '\\' :: 'u' :: a :: b :: c :: d :: rest, read =>
    match Json.hexFour? a b c d with
    | some n =>
      if Json.isHighUnit n || Json.isLowUnit n then none
      else readQuoted quote rest (Char.ofNat n :: read)
    | none => none
  | '\\' :: c :: rest, read =>
    match escape? c with
    | some e => readQuoted quote rest (e :: read)
    | none => none
  | c :: rest, read =>
    if c = quote then some (String.ofList read.reverse, rest)
    else if c = '\\' then none
    else readQuoted quote rest (c :: read)

/-- The blanks that indent a line. -/
def isIndent (c : Char) : Bool :=
  c = ' ' || c = '\t' || c = '\x0c'

/-- How far the lines of a string are indented that opens at `ahead`: one less than the bytes from
the preceding line break, or from the start of the text. -/
def indentAt (source ahead : List Char) : Nat :=
  let before := source.take (source.length - ahead.length)
  let line := before.reverse.takeWhile fun c => !(c = '\n' || c = '\r')
  let bytes := line.foldl (fun n c => n + c.utf8Size) 0
  if line.length = before.length then bytes - 1 else bytes

/-- The lines of a string in triple quotes. `left` blanks may still be dropped on this line. -/
def readLines (indent : Nat) : Nat → List Char → List Char → Option (String × List Char)
  | _, [], _ => none
  | _, '\'' :: '\'' :: '\'' :: rest, read =>
    some (String.ofList (read.dropWhile (· = '\n')).reverse, rest)
  | left, c :: rest, read =>
    if c = '\r' then readLines indent left rest read
    else if c = '\n' then readLines indent indent rest (c :: read)
    else if isIndent c && decide (0 < left) then readLines indent (left - 1) rest read
    else readLines indent 0 rest (c :: read)

/-- A string in triple quotes, after them. Blanks before the first line break go, and so does it. -/
def readMultiline (indent : Nat) (chars : List Char) : Option (String × List Char) :=
  match chars.dropWhile fun c => isIndent c || c = '\r' with
  | '\n' :: rest => readLines indent indent rest []
  | rest => readLines indent 0 rest []

/-- A string between quotes of any kind, if one opens ahead. -/
def readString (source ahead : List Char) : Option (Option (String × List Char)) :=
  match ahead with
  | '\'' :: '\'' :: '\'' :: rest => some (readMultiline (indentAt source ahead) rest)
  | '"' :: rest => some (readQuoted '"' rest [])
  | '\'' :: rest => some (readQuoted '\'' rest [])
  | _ => none

/-- The characters that neither start a value nor a key. -/
def isMark (c : Char) : Bool :=
  c = ',' || c = ':' || c = ']' || c = '}'

/-- A string without quotes: the rest of the line, less the blanks at its end. -/
def readBare (chars : List Char) : String × List Char :=
  let (line, rest) := chars.span fun c => c ≠ '\n' && c ≠ '\r'
  (String.ofList (line.reverse.dropWhile Text.isBlank).reverse, rest.drop 1)

/-- A bare key: up to a mark, a bracket or a line end, or past a blank. -/
def readBareKey (chars : List Char) : String × List Char :=
  let stops (c : Char) : Bool :=
    isMark c || c = '[' || c = '{' || c = '\r' || c = '\n' || c = ' ' || c = '\t'
  let (key, rest) := chars.span fun c => !stops c
  match rest with
  | ' ' :: rest => (String.ofList key, rest)
  | '\t' :: rest => (String.ofList key, rest)
  | _ => (String.ofList key, rest)

/-- A key. -/
def readKey (source ahead : List Char) : Option (String × List Char) :=
  match readString source ahead with
  | some found => found
  | none =>
    match ahead with
    | [] => none
    | c :: _ => if isMark c || c = '[' || c = '{' then none else some (readBareKey ahead)

/-- A number: a float if a point, a plus or an exponent was written, an infinite one being null. -/
def readNumber (chars : List Char) : Option (Value × List Char) :=
  let (lexeme, rest) := chars.span fun c =>
    c.isDigit || c = '-' || c = '+' || c = '.' || c = 'e' || c = 'E'
  if lexeme.any fun c => c = '+' || c = '.' || c = 'e' || c = 'E' then
    (float? lexeme).map fun x => (if x.isInf then .null else .float x, rest)
  else
    match int? lexeme with
    | some i =>
      if (if lexeme.head? = some '-' then Number.leastInt ≤ i else i ≤ Number.greatestNat) then
        some (.int i, rest)
      else none
    | none => none

mutual

/-- A value. The fuel bounds the number of calls. -/
def readValue (source : List Char) : Nat → List Char → Option (Value × List Char)
  | 0, _ => none
  | fuel + 1, chars =>
    match skip chars with
    | none => none
    | some [] => none
    | some ('[' :: rest) => readItems source fuel rest []
    | some ('{' :: rest) => readFields source fuel rest []
    | some ('n' :: 'u' :: 'l' :: 'l' :: rest) => some (.null, rest)
    | some ('t' :: 'r' :: 'u' :: 'e' :: rest) => some (.bool true, rest)
    | some ('f' :: 'a' :: 'l' :: 's' :: 'e' :: rest) => some (.bool false, rest)
    | some (c :: rest) =>
      match readString source (c :: rest) with
      | some found => found.map fun (s, rest) => (.str s, rest)
      | none =>
        if isMark c then none
        else if c.isDigit || (c = '-' && (rest.head?.map Char.isDigit).getD false) then
          readNumber (c :: rest)
        else
          let (s, rest) := readBare (c :: rest)
          some (.str s, rest)

/-- The items of an array from the next one on. `read` holds the earlier ones, last first. -/
def readItems (source : List Char) :
    Nat → List Char → List Value → Option (Value × List Char)
  | 0, _, _ => none
  | fuel + 1, chars, read =>
    match skip chars with
    | some (']' :: rest) => some (.arr read.reverse, rest)
    | some ahead =>
      match readValue source fuel ahead with
      | none => none
      | some (v, rest) =>
        match skipSeparator rest with
        | some rest => readItems source fuel rest (v :: read)
        | none => none
    | none => none

/-- The entries of an object from the next one on. `read` holds the earlier ones, last first. -/
def readFields (source : List Char) :
    Nat → List Char → List (String × Value) → Option (Value × List Char)
  | 0, _, _ => none
  | fuel + 1, chars, read =>
    match skipSeparator chars with
    | some ('}' :: rest) => some (.obj (Table.ofEntries read.reverse), rest)
    | some ahead =>
      match readKey source ahead with
      | none => none
      | some (key, rest) =>
        match skip rest with
        | some (':' :: rest) =>
          match readValue source fuel rest with
          | none => none
          | some (v, rest) =>
            match skipSeparator rest with
            | some rest => readFields source fuel rest ((key, v) :: read)
            | none => none
        | _ => none
    | none => none

end

/-- The value that a text denotes. -/
def parse? (text : String) : Option Value :=
  let chars := text.toList
  match readValue chars (2 * chars.length + 2) chars with
  | some (v, rest) => if skip rest = some [] then some v else none
  | none => none

end DocMachine.Hjson
