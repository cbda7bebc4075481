import DocMachine.Pattern.Property
import DocMachine.Pattern.Size
import DocMachine.Text.Blank
import DocMachine.Text.Case
import DocMachine.Text.Percent

/-!
# The notation of patterns: characters

Patterns are written in the usual notation. This module reads its smallest parts: escapes and
classes in brackets. Anything malformed is refused as a whole, so readers answer with an option.
-/

namespace DocMachine.Pattern

open Text

/-- The switches that a pattern may set for parts of itself. -/
structure Switches where
  insensitive : Bool := false
  multiline : Bool := false
  dotAll : Bool := false
  returns : Bool := false
  unicode : Bool := true
  verbose : Bool := false

/-- What is left to read, the switches in force, and the names of groups so far. -/
structure Cursor where
  rest : List Char
  switches : Switches := {}
  names : List String := []

/-- A reader of pattern notation. -/
abbrev Reader := StateT Cursor Option

/-- The characters left to read. -/
def rest : Reader (List Char) := do return (← get).rest

/-- Goes on at `chars`. -/
def resume (chars : List Char) : Reader Unit :=
  modify fun cursor => { cursor with rest := chars }

/-- The switches in force. -/
def switches : Reader Switches := do return (← get).switches

/-- Refuses the pattern unless a condition holds. -/
def ensure (condition : Bool) : Reader Unit :=
  if condition then pure () else failure

/-- Takes one character. -/
def take : Reader Char := do
  match ← rest with
  | c :: after =>
    resume after
    return c
  | [] => failure

/-! ## Blanks and comments -/

/-- What follows blanks and comments. -/
def afterSpace : Bool → List Char → List Char
  | _, [] => []
  | true, c :: after => afterSpace (c ≠ '\n') after
  | false, c :: after =>
    if Text.isBlank c then afterSpace false after
    else if c = '#' then afterSpace true after
    else c :: after

/-- Skips blanks and comments where they do not count. -/
def skipSpace : Reader Unit := do
  if (← switches).verbose then resume (afterSpace false (← rest))

/-- Goes on at `chars`, past blanks and comments where they do not count. -/
def resumePast (chars : List Char) : Reader Unit := do
  resume chars
  skipSpace

/-- The characters that count, each with what follows it. -/
def counting (verbose : Bool) : Bool → List Char → List (Char × List Char)
  | _, [] => []
  | true, c :: after => counting verbose (c ≠ '\n') after
  | false, c :: after =>
    if verbose && Text.isBlank c then counting verbose false after
    else if verbose && c = '#' then counting verbose true after
    else (c, after) :: counting verbose false after

/-- The characters ahead that count, each with what follows it. -/
def ahead : Reader (List (Char × List Char)) := do
  return counting (← switches).verbose false (← rest)

/-- The character that decides whether a hyphen makes a range: the first one that is no blank. The
start of a comment is passed over, but not its text. -/
def pastHyphen (verbose : Bool) (after : List Char) : Option Char :=
  if verbose then
    match search false after with
    | some c => some c
    | none => after.head?
  else after.head?
where
  /-- Searches from a place inside or outside a comment. -/
  search : Bool → List Char → Option Char
    | _, [] => none
    | inComment, c :: after =>
      if Text.isBlank c then search inComment after
      else if !inComment && c = '#' then search true after
      else some c

/-! ## Classes of characters -/

/-- A set under the switches: where case does not count, all variants of a member are members. -/
def folded (switches : Switches) (codes : CodeSet) : CodeSet :=
  if switches.insensitive then
    if switches.unicode then Text.withCaseVariants codes else Text.withAsciiVariants codes
  else codes

/-- The characters that are blank. -/
def blankCodes (unicode : Bool) : CodeSet :=
  if unicode then Property.whiteSpace else CodeSet.ofText "9-d 20"

/-- The decimal digits. -/
def digitCodes (unicode : Bool) : CodeSet :=
  if unicode then Category.decimalNumber.codes else CodeSet.ofText "30-39"

/-- The complement of a set. Bytes on their own have none. -/
def complement (codes : CodeSet) : Reader CodeSet := do
  ensure (← switches).unicode
  return codes.complement

/-- A set or its complement, after case has been dealt with. -/
def foldedOrNot (negated : Bool) (codes : CodeSet) : Reader CodeSet := do
  let codes := folded (← switches) codes
  if negated then complement codes else return codes

/-- The named classes of ASCII characters. -/
def asciiClass? : String → Option CodeSet
  | "alnum" => some (CodeSet.ofText "30-39 41-5a 61-7a")
  | "alpha" => some (CodeSet.ofText "41-5a 61-7a")
  | "ascii" => some (CodeSet.ofText "0-7f")
  | "blank" => some (CodeSet.ofText "9 20")
  | "cntrl" => some (CodeSet.ofText "0-1f 7f")
  | "digit" => some (CodeSet.ofText "30-39")
  | "graph" => some (CodeSet.ofText "21-7e")
  | "lower" => some (CodeSet.ofText "61-7a")
  | "print" => some (CodeSet.ofText "20-7e")
  | "punct" => some (CodeSet.ofText "21-2f 3a-40 5b-60 7b-7e")
  | "space" => some (CodeSet.ofText "9-d 20")
  | "upper" => some (CodeSet.ofText "41-5a")
  | "word" => some (CodeSet.ofText "30-39 41-5a 5f 61-7a")
  | "xdigit" => some (CodeSet.ofText "30-39 41-46 61-66")
  | _ => none

/-! ## Escapes -/

/-- What an escape or a plain character stands for. -/
inductive Atom where
  | literal (c : Char)
  | set (codes : CodeSet)
  | anchor (anchor : Anchor)

/-- The characters with a meaning of their own, which an escape takes away. -/
def isMeta (c : Char) : Bool :=
  "\\.+*?()|[]\x7b\x7d^$#&-~".toList.contains c

/-- Whether an escaped character stands for itself. -/
def isEscapable (c : Char) : Bool :=
  isMeta c || (decide (c.toNat < 128) && !c.isAlphanum && c ≠ '<' && c ≠ '>')

/-- The character whose number hexadecimal digits denote. -/
def ofDigits (digits : List Char) : Reader Atom := do
  ensure (!digits.isEmpty)
  match digits.foldlM (fun n c => (Text.hexValue? c).map (16 * n + ·)) 0 with
  | some n =>
    ensure (decide n.isValidChar)
    return .literal (Char.ofNat n)
  | none => failure

/-- A character by its number in `width` digits or in braces. Two digits denote a byte, and beyond
ASCII a byte is no character. -/
def hexEscape (width : Nat) : Reader Atom := do
  match ← ahead with
  | ('\x7b', _) :: entries =>
    match entries.span fun entry => entry.1 ≠ '\x7d' with
    | (digits, (_, after) :: _) =>
      resumePast after
      ofDigits (digits.map Prod.fst)
    | _ => failure
  | entries =>
    let digits := entries.take width
    ensure (digits.length = width)
    resumePast ((digits.getLast?.map Prod.snd).getD [])
    let atom ← ofDigits (digits.map Prod.fst)
    match atom with
    | .literal c => ensure ((← switches).unicode || width ≠ 2 || decide (c.toNat < 128))
    | _ => pure ()
    return atom

/-- The place where one text first occurs in another. -/
def splitAtFirst (mark text : List Char) : List Char → Option (List Char × List Char)
  | [] => none
  | c :: rest =>
    if mark.isPrefixOf (c :: rest) then some (text.reverse, (c :: rest).drop mark.length)
    else splitAtFirst mark (c :: text) rest

/-- The question that a name in braces asks, and whether its answer is negated. -/
def queryOf (name : List Char) : Query × Bool :=
  let value (found : List Char × List Char) : Query :=
    .value (String.ofList found.1) (String.ofList found.2)
  match splitAtFirst ['!', '='] [] name with
  | some found => (value found, true)
  | none =>
    match splitAtFirst [':'] [] name <|> splitAtFirst ['='] [] name with
    | some found => (value found, false)
    | none => (.name (String.ofList name), false)

/-- The characters with a property, which is a letter or stands in braces. -/
def propertyEscape (negated : Bool) : Reader Atom := do
  ensure (← switches).unicode
  let (query, inverted) ← do
    match ← ahead with
    | ('\x7b', _) :: entries =>
      match entries.span fun entry => entry.1 ≠ '\x7d' with
      | (name, (_, after) :: _) =>
        resume after
        pure (queryOf (name.map Prod.fst))
      | _ => failure
    | (letter, after) :: _ =>
      ensure (letter ≠ '\\')
      resume after
      pure (.name letter.toString, false)
    | [] => failure
  match query.codes? with
  | some codes => return .set (← foldedOrNot (negated != inverted) codes)
  | none => failure

/-- A word boundary, or one of its halves named in braces. -/
def boundaryEscape : Reader Atom := do
  match ← rest with
  | '\x7b' :: after =>
    let isLetter (entry : Char × List Char) : Bool := entry.1.isAlpha || entry.1 = '-'
    match (counting (← switches).verbose false after).span isLetter with
    | ([], []) => failure
    | ([], _) => return .anchor .wordBoundary
    | (name, ('\x7d', after) :: _) =>
      resume after
      match String.ofList (name.map Prod.fst) with
      | "start" => return .anchor .wordStart
      | "end" => return .anchor .wordEnd
      | "start-half" => return .anchor .noWordBefore
      | "end-half" => return .anchor .noWordAfter
      | _ => failure
    | _ => failure
  | _ => return .anchor .wordBoundary

/-- What the characters after a backslash stand for. -/
def escape : Reader Atom := do
  let unicode := (← switches).unicode
  match ← take with
  | 'd' => return .set (digitCodes unicode)
  | 's' => return .set (blankCodes unicode)
  | 'w' => return .set (wordCodes unicode)
  | 'D' => return .set (← complement (digitCodes unicode))
  | 'S' => return .set (← complement (blankCodes unicode))
  | 'W' => return .set (← complement (wordCodes unicode))
  | 'x' => hexEscape 2
  | 'u' => hexEscape 4
  | 'U' => hexEscape 8
  | 'p' => propertyEscape false
  | 'P' => propertyEscape true
  | 'a' => return .literal (Char.ofNat 7)
  | 'f' => return .literal (Char.ofNat 12)
  | 't' => return .literal '\t'
  | 'n' => return .literal '\n'
  | 'r' => return .literal '\r'
  | 'v' => return .literal (Char.ofNat 11)
  | 'A' => return .anchor .textStart
  | 'z' => return .anchor .textEnd
  | 'b' => boundaryEscape
  | 'B' => return .anchor .noWordBoundary
  | '<' => return .anchor .wordStart
  | '>' => return .anchor .wordEnd
  | c =>
    ensure (isEscapable c)
    return .literal c

/-! ## Brackets -/

/-- A class that is being read: its members so far, how many items were read, and how deeply they
nest. -/
structure ClassPart where
  codes : CodeSet := CodeSet.empty
  items : Nat := 0
  depth : Nat := 0

namespace ClassPart

/-- Adds an item. -/
def add (part : ClassPart) (codes : CodeSet) (depth : Nat) : ClassPart :=
  { codes := part.codes.union codes, items := part.items + 1, depth := max part.depth depth }

/-- How deeply the items nest as one: two or more of them form a union. -/
def nesting (part : ClassPart) : Nat :=
  if 2 ≤ part.items then part.depth + 1 else part.depth

end ClassPart

/-- One item of a class: a character or an escape. -/
def classItem : Reader Atom := do
  match ← take with
  | '\\' => escape
  | c => return .literal c

/-- An item as a set. Places are no characters. -/
def itemCodes : Atom → Reader CodeSet
  | .literal c => do
    ensure ((← switches).unicode || decide (c.toNat < 128))
    return CodeSet.singleton c
  | .set codes => return codes
  | .anchor _ => failure

/-- One item of a class or a range between two characters. -/
def classRange : Reader CodeSet := do
  let first ← classItem
  skipSpace
  match ← rest with
  | [] => failure
  | '-' :: after =>
    let next := pastHyphen (← switches).verbose after
    if next = some ']' || next = some '-' then itemCodes first
    else
      resumePast after
      let last ← classItem
      let _ ← itemCodes last
      match first, last with
      | .literal low, .literal high =>
        ensure (decide (low ≤ high))
        return CodeSet.range low.toNat high.toNat
      | _, _ => failure
  | _ => itemCodes first

/-- A named class of ASCII characters ahead, whether it is negated, and what follows it. -/
def namedClass? (chars : List Char) : Option (CodeSet × Bool × List Char) :=
  match chars with
  | '[' :: ':' :: after =>
    let (negated, after) := match after with
      | '^' :: after => (true, after)
      | after => (false, after)
    match after.span (· ≠ ':') with
    | (name, ':' :: ']' :: after) =>
      (asciiClass? (String.ofList name)).map fun codes => (codes, negated, after)
    | _ => none
  | _ => none

/-- The hyphens ahead, which stand for themselves at the start of a class. -/
def leadingHyphens : Nat → ClassPart → Reader ClassPart
  | 0, part => return part
  | fuel + 1, part => do
    match ← rest with
    | '-' :: after =>
      resumePast after
      leadingHyphens fuel (part.add (CodeSet.singleton '-') 0)
    | _ => return part

mutual

/-- A class after its opening bracket, and how deeply it nests. -/
def bracket : Nat → Reader (CodeSet × Nat)
  | 0 => failure
  | fuel + 1 => do
    skipSpace
    let negated := (← rest).head? == some '^'
    if negated then
      let _ ← take
      skipSpace
    let hyphens ← leadingHyphens fuel {}
    let first : ClassPart ← do
      match ← rest with
      | ']' :: after =>
        if hyphens.items = 0 then
          resumePast after
          pure (hyphens.add (CodeSet.singleton ']') 0)
        else pure hyphens
      | _ => pure hyphens
    let part ← items fuel first
    let (codes, depth) ← operators fuel part.codes part.nesting
    return (← foldedOrNot negated codes, depth + 1)

/-- The items of a class up to its end or to an operator. -/
def items : Nat → ClassPart → Reader ClassPart
  | 0, _ => failure
  | fuel + 1, part => do
    skipSpace
    match ← rest with
    | [] => failure
    | ']' :: _ => return part
    | '&' :: '&' :: _ => return part
    | '-' :: '-' :: _ => return part
    | '~' :: '~' :: _ => return part
    | '[' :: after =>
      match namedClass? ('[' :: after) with
      | some (codes, negated, after) =>
        resume after
        items fuel (part.add (← foldedOrNot negated codes) 0)
      | none =>
        resume after
        let (codes, depth) ← bracket fuel
        items fuel (part.add codes depth)
    | _ => items fuel (part.add (← classRange) 0)

/-- The operators of a class and its closing bracket. Operators go from left to right. -/
def operators : Nat → CodeSet → Nat → Reader (CodeSet × Nat)
  | 0, _, _ => failure
  | fuel + 1, left, depth => do
    let switches ← switches
    match ← rest with
    | ']' :: after =>
      resume after
      return (left, depth)
    | first :: _ :: after =>
      resume after
      let part ← items fuel {}
      let right := folded switches part.codes
      let left := folded switches left
      let codes := match first with
        | '&' => left.inter right
        | '-' => left.diff right
        | _ => left.symmDiff right
      operators fuel codes (max depth part.nesting + 1)
    | _ => failure

end

end DocMachine.Pattern
