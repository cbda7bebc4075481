import DocMachine.Decimal.Reader
import DocMachine.Text.Percent
import DocMachine.Value

/-!
# TOML: strings, numbers and times

The values of a settings file that hold no other values. Anything malformed is refused as a whole,
so readers answer with an option.
-/

namespace DocMachine.Toml

/-- A reader of settings text. -/
abbrev Reader := StateT (List Char) Option

/-- Refuses the text unless a condition holds. -/
def ensure (condition : Bool) : Reader Unit :=
  if condition then pure () else failure

/-- Takes the characters of a class. -/
def takeWhile (accepts : Char → Bool) : Reader (List Char) := do
  let (taken, rest) := (← get).span accepts
  set rest
  return taken

/-- Takes one given character. -/
def expect (c : Char) : Reader Unit := do
  match ← get with
  | first :: rest =>
    ensure (first = c)
    set rest
  | [] => failure

/-- Takes a given text, if it comes next. -/
def accept (text : String) : Reader Bool := do
  let chars := text.toList
  let rest ← get
  if chars.isPrefixOf rest then
    set (rest.drop chars.length)
    return true
  return false

/-- Skips blanks within a line. -/
def skipBlanks : Reader Unit := do
  let _ ← takeWhile fun c => c = ' ' || c = '\t'

/-- Whether a character may stand in a comment or, quotes apart, in a string on one line. -/
def isPrintable (c : Char) : Bool :=
  c = '\t' || (decide (32 ≤ c.toNat) && c.toNat ≠ 127)

/-- Skips a comment. -/
def skipComment : Reader Unit := do
  if ← accept "#" then
    let _ ← takeWhile isPrintable

/-- Takes the end of a line, if it comes next. -/
def acceptNewline : Reader Bool := do
  if ← accept "\n" then return true
  accept "\r\n"

/-- Skips blanks, ends of lines and comments. The fuel bounds their count. -/
def skipLines : Nat → Reader Unit
  | 0 => pure ()
  | fuel + 1 => do
    skipBlanks
    skipComment
    if ← acceptNewline then skipLines fuel

/-! ## Strings -/

/-- A character by its number in hexadecimal digits. -/
def unicodeEscape (width : Nat) : Reader Char := do
  let rest ← get
  let digits := rest.take width
  ensure (digits.length = width)
  set (rest.drop width)
  match digits.foldlM (fun n c => (Text.hexValue? c).map (16 * n + ·)) 0 with
  | some n =>
    ensure (decide n.isValidChar)
    return Char.ofNat n
  | none => failure

/-- The character that an escape stands for. -/
def escape : Reader Char := do
  match ← get with
  | c :: rest =>
    set rest
    match c with
    | 'b' => return Char.ofNat 8
    | 't' => return '\t'
    | 'n' => return '\n'
    | 'f' => return Char.ofNat 12
    | 'r' => return '\r'
    | '"' => return '"'
    | '\\' => return '\\'
    | 'u' => unicodeEscape 4
    | 'U' => unicodeEscape 8
    | _ => failure
  | [] => failure

/-- The rest of a string on one line. Escapes count unless the quotes are single. -/
def lineString (quote : Char) : Nat → List Char → Reader String
  | 0, _ => failure
  | fuel + 1, done => do
    match ← get with
    | [] => failure
    | c :: rest =>
      set rest
      if c = quote then return String.ofList done.reverse
      else if c = '\\' && quote = '"' then lineString quote fuel ((← escape) :: done)
      else
        ensure (isPrintable c)
        lineString quote fuel (c :: done)

/-- Whether a backslash ends the line. -/
def endsLine (rest : List Char) : Bool :=
  match rest.dropWhile fun c => c = ' ' || c = '\t' with
  | '\n' :: _ => true
  | '\r' :: '\n' :: _ => true
  | _ => false

/-- What follows blanks and ends of lines. -/
def afterLines : List Char → List Char
  | ' ' :: rest => afterLines rest
  | '\t' :: rest => afterLines rest
  | '\n' :: rest => afterLines rest
  | '\r' :: '\n' :: rest => afterLines rest
  | rest => rest

/-- The rest of a string over several lines. Up to two quotes may stand before the closing ones. -/
def blockString (quote : Char) : Nat → List Char → Reader String
  | 0, _ => failure
  | fuel + 1, done => do
    match ← get with
    | [] => failure
    | '\r' :: '\n' :: rest =>
      set rest
      blockString quote fuel ('\n' :: done)
    | c :: rest =>
      if c = quote then
        let quotes := (c :: rest).takeWhile (· = quote)
        let count := quotes.length
        set ((c :: rest).drop (min count 5))
        if count < 3 then blockString quote fuel (quotes ++ done)
        else return String.ofList (quotes.drop (3 + (count - min count 5)) ++ done).reverse
      else
        set rest
        if c = '\\' && quote = '"' then
          if endsLine rest then
            set (afterLines rest)
            blockString quote fuel done
          else blockString quote fuel ((← escape) :: done)
        else
          ensure (isPrintable c || c = '\n')
          blockString quote fuel (c :: done)

/-- A string of any form. -/
def string : Reader String := do
  let fuel := (← get).length + 1
  if ← accept "\"\"\"" then
    let _ ← acceptNewline
    blockString '"' fuel []
  else if ← accept "'''" then
    let _ ← acceptNewline
    blockString '\'' fuel []
  else
    match ← get with
    | '"' :: rest =>
      set rest
      lineString '"' fuel []
    | '\'' :: rest =>
      set rest
      lineString '\'' fuel []
    | _ => failure

/-! ## Numbers -/

/-- Whether underscores stand between digits only. -/
def underscoresFit : List Char → Bool
  | [] => true
  | ['_'] => false
  | '_' :: '_' :: _ => false
  | _ :: rest => underscoresFit rest

/-- Digits of a class, which underscores may set apart. -/
def digitRun (accepts : Char → Bool) : Reader (List Char) := do
  let taken ← takeWhile fun c => accepts c || c = '_'
  ensure (!taken.isEmpty && taken.head? ≠ some '_' && underscoresFit taken)
  return taken.filter (· ≠ '_')

/-- The number that digits denote in a base. -/
def ofDigits (base : Nat) (digits : List Char) : Nat :=
  digits.foldl (fun n c => base * n + (Text.hexValue? c).getD 0) 0

/-- An integer, which has to be a word of 64 bits. -/
def word (i : Int) : Reader Value := do
  ensure (Number.isWord i)
  return .int i

/-- Whether a sign comes next, and whether it is a minus. -/
def sign : Reader (Option Bool) := do
  if ← accept "-" then return some true
  if ← accept "+" then return some false
  return none

/-- Decimal digits without a zero ahead of others. -/
def wholePart : Reader (List Char) := do
  match ← get with
  | '0' :: rest =>
    set rest
    return ['0']
  | _ => digitRun Char.isDigit

/-- An exponent, if one comes next. -/
def exponent : Reader (Option Int) := do
  match ← get with
  | c :: rest =>
    if c = 'e' || c = 'E' then
      set rest
      let negative := (← sign) = some true
      let n := Int.ofNat (natOfDigits (← digitRun Char.isDigit))
      return some (if negative then -n else n)
    return none
  | [] => return none

/-- A decimal number: an integer, or a float if it has a fraction or an exponent. A float that is
too great is refused; one that is too small to be held is infinite. -/
def decimal : Reader Value := do
  let negative := (← sign) = some true
  if ← accept "inf" then return .float (floatOfBits negative infinityBits)
  if ← accept "nan" then return .float (floatOfBits negative nanBits)
  let whole ← wholePart
  let fraction ← if ← accept "." then some <$> digitRun Char.isDigit else pure none
  let power ← exponent
  match fraction, power with
  | none, none =>
    let n := Int.ofNat (natOfDigits whole)
    word (if negative then -n else n)
  | _, _ =>
    let places := fraction.getD []
    let x := floatOfDecimal negative (natOfDigits (whole ++ places))
      (power.getD 0 - Int.ofNat places.length)
    ensure (negative || !x.isInf)
    return .float x

/-- A number: in a base other than ten it has no sign. -/
def number : Reader Value := do
  if ← accept "0x" then word (ofDigits 16 (← digitRun fun c => (Text.hexValue? c).isSome))
  else if ← accept "0o" then word (ofDigits 8 (← digitRun fun c => '0' ≤ c && c ≤ '7'))
  else if ← accept "0b" then word (ofDigits 2 (← digitRun fun c => c = '0' || c = '1'))
  else decimal

/-! ## Times -/

/-- A number of exactly `width` digits within bounds. -/
def fixed (width low high : Nat) : Reader Nat := do
  let rest ← get
  match nat? (rest.take width) with
  | some n =>
    ensure ((rest.take width).length = width && low ≤ n && n ≤ high)
    set (rest.drop width)
    return n
  | none => failure

/-- The number of days in a month. -/
def daysIn (year month : Nat) : Nat :=
  if month = 2 then
    if year % 4 = 0 && (year % 100 ≠ 0 || year % 400 = 0) then 29 else 28
  else if month = 4 || month = 6 || month = 9 || month = 11 then 30
  else 31

/-- A date. -/
def date : Reader Unit := do
  let year ← fixed 4 0 9999
  expect '-'
  let month ← fixed 2 1 12
  expect '-'
  let _ ← fixed 2 1 (daysIn year month)

/-- A time of day. -/
def time : Reader Unit := do
  let _ ← fixed 2 0 23
  expect ':'
  let _ ← fixed 2 0 59
  expect ':'
  let _ ← fixed 2 0 60
  if ← accept "." then
    let digits ← takeWhile Char.isDigit
    ensure (!digits.isEmpty)

/-- An offset from universal time, if one comes next. -/
def offset : Reader Unit := do
  match ← get with
  | c :: rest =>
    if c = 'Z' || c = 'z' then set rest
    else if c = '+' || c = '-' then
      set rest
      let _ ← fixed 2 0 23
      expect ':'
      let _ ← fixed 2 0 59
  | [] => pure ()

/-- A reader that may fail without taking anything. -/
def attempt (reader : Reader Unit) : Reader Bool := fun chars =>
  match reader chars with
  | some (_, rest) => some (true, rest)
  | none => some (false, chars)

/-- The key under which a time stands for itself. -/
def timeKey : String := "$__toml_private_datetime"

/-- A date, a time of day, or both. -/
def moment? : Reader (Option Value) := do
  let start ← get
  let found ←
    if ← attempt date then
      if ← attempt (do
        match ← get with
        | c :: rest =>
          ensure (c = 'T' || c = 't' || c = ' ')
          set rest
          time
        | [] => failure) then offset
      pure true
    else attempt time
  if !found then return none
  let text := start.take (start.length - (← get).length)
  return some (.obj [(timeKey, .str (String.ofList text))])

end DocMachine.Toml
