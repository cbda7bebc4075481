import DocMachine.Decimal.Reader
import DocMachine.Pattern.Class

/-!
# The notation of patterns: structure

Groups, alternatives and repetitions. `Pattern.parse?` reads a whole pattern, and
`Pattern.startingWith?` one that has to match at the start of a text. Patterns that nest too deeply
or whose automaton would be too large are refused.
-/

namespace DocMachine.Pattern

open Text

/-! ## Parts -/

/-- A part of a sequence: its pattern, how deeply it nests, and whether it may be repeated, as all
may but the setting of switches. -/
structure Part where
  pattern : Pattern
  depth : Nat := 0
  repeats : Bool := true

/-- One pattern after another; an empty one adds nothing. -/
def followedBy : Pattern → Pattern → Pattern
  | .empty, after => after
  | first, .empty => first
  | first, after => .seq first after

/-- The sequence of parts, which are listed from the last to the first. Two or more of them nest one
level deeper. -/
def sequenceOf (parts : List Part) : Part :=
  let depth := parts.foldl (fun n part => max n part.depth) 0
  { pattern := parts.foldl (fun after part => followedBy part.pattern after) .empty
    depth := if 2 ≤ parts.length then depth + 1 else depth }

/-- One set for alternatives that are sets all of them. -/
def setOf? : List Part → Option CodeSet
  | [] => some CodeSet.empty
  | { pattern := .one codes, .. } :: rest => (setOf? rest).map codes.union
  | _ => none

/-- The choice between alternatives. Two or more of them nest one level deeper. -/
def choiceOf : List Part → Part
  | [] => { pattern := .empty }
  | [part] => part
  | first :: rest =>
    let depth := rest.foldl (fun n part => max n part.depth) first.depth
    let pattern :=
      match setOf? (first :: rest) with
      | some codes => .one codes
      | none => chain first.pattern rest
    { pattern, depth := depth + 1 }
where
  /-- The alternatives from `first` on. -/
  chain (first : Pattern) : List Part → Pattern
    | [] => first
    | next :: rest => .alt first (chain next.pattern rest)

/-- A repetition. What matches empty pieces only is not worth more than one, and what is there once
is not repeated. -/
def repetition (body : Pattern) (least : Nat) (most : Option Nat) : Pattern :=
  let (least, most) :=
    if body.isEmptyOnly then (min least 1, some ((most.map (min · 1)).getD 1)) else (least, most)
  if most = some 0 then .empty
  else if least = 1 && most = some 1 then body
  else .times body least most

/-- The pattern of an atom under the switches. -/
def ofAtom : Atom → Reader Pattern
  | .literal c => return .one (folded (← switches) (CodeSet.singleton c))
  | .set codes => return .one codes
  | .anchor anchor => return .place (← switches).unicode anchor

/-- A full stop: any character but the ends of lines. -/
def dot : Reader Pattern := do
  let switches ← switches
  ensure switches.unicode
  if switches.dotAll then return .one CodeSet.all
  let ends := if switches.returns then "a d" else "a"
  return .one (CodeSet.ofText ends).complement

/-- A character that stands alone, or an escape. -/
def primitive : Reader Pattern := do
  let switches ← switches
  match ← take with
  | '\\' => ofAtom (← escape)
  | '.' => dot
  | '^' =>
    ofAtom (.anchor (if switches.multiline then .lineStart switches.returns else .textStart))
  | '$' => ofAtom (.anchor (if switches.multiline then .lineEnd switches.returns else .textEnd))
  | c => ofAtom (.literal c)

/-! ## Repetitions -/

/-- A count with blanks around it. -/
def count : Reader Nat := do
  resume ((← rest).dropWhile Text.isBlank)
  let digits := (← ahead).takeWhile fun entry => entry.1.isDigit
  match digits.getLast? with
  | some (_, after) =>
    resumePast after
    resume ((← rest).dropWhile Text.isBlank)
    let n := natOfDigits (digits.map Prod.fst)
    ensure (n < 0x100000000)
    return n
  | none => failure

/-- The bounds in braces after the opening one. -/
def bounds : Reader (Nat × Option Nat) := do
  skipSpace
  let least ← count
  match ← rest with
  | ',' :: after =>
    resumePast after
    match ← rest with
    | '\x7d' :: _ => return (least, none)
    | _ => return (least, some (← count))
  | _ => return (least, some least)

/-- The bounds in braces with the closing one. -/
def closedBounds : Reader (Nat × Option Nat) := do
  let (least, most) ← bounds
  ensure ((← take) = '\x7d' && most.all (least ≤ ·))
  skipSpace
  return (least, most)

/-- Passes over the mark that makes a repetition lazy. -/
def skipLazy : Reader Unit := do
  match ← rest with
  | '?' :: after => resume after
  | _ => pure ()

/-- Repeats the last part of a sequence. -/
def repeated (parts : List Part) (least : Nat) (most : Option Nat) : Reader (List Part) := do
  match parts with
  | part :: before =>
    ensure part.repeats
    skipLazy
    return { pattern := repetition part.pattern least most, depth := part.depth + 1 } :: before
  | [] => failure

/-! ## Groups -/

/-- Turns one switch on or off. -/
def setSwitch (switches : Switches) (on : Bool) : Char → Option Switches
  | 'i' => some { switches with insensitive := on }
  | 'm' => some { switches with multiline := on }
  | 's' => some { switches with dotAll := on }
  | 'U' => some switches
  | 'u' => some { switches with unicode := on }
  | 'R' => some { switches with returns := on }
  | 'x' => some { switches with verbose := on }
  | _ => none

/-- Switches up to a colon or a closing parenthesis. Each letter stands at most once, and letters
after a hyphen turn switches off. -/
def readSwitches (seen : List Char) (on : Bool) (switches : Switches) :
    List Char → Option (Switches × List Char × List Char)
  | [] => none
  | ':' :: after => if seen.head? = some '-' then none else some (switches, seen, ':' :: after)
  | ')' :: after => if seen.head? = some '-' then none else some (switches, seen, ')' :: after)
  | '-' :: after =>
    if seen.contains '-' then none else readSwitches ('-' :: seen) false switches after
  | c :: after =>
    if seen.contains c then none
    else (setSwitch switches on c).bind fun switches => readSwitches (c :: seen) on switches after

/-- The characters that may start the name of a group: the low line and alphabetic characters. -/
def nameStart : CodeSet :=
  CodeSet.unions [CodeSet.singleton '_', Property.alphabetic, CodeSet.ofText addedAlphabeticText]

/-- The characters that may continue the name of a group: numbers, full stops and brackets too. -/
def nameContinue : CodeSet :=
  CodeSet.unions
    [nameStart, Category.codesOf Category.numbers, CodeSet.ofText addedNumberText,
      CodeSet.ofText "2e 5b 5d"]

/-- The name of a group up to its closing angle. Names differ. -/
def groupName : Reader Unit := do
  match (← rest).span (· ≠ '>') with
  | (first :: others, _ :: after) =>
    let name := String.ofList (first :: others)
    ensure (nameStart.contains first && others.all nameContinue.contains)
    ensure (!(← get).names.contains name)
    modify fun cursor => { cursor with rest := after, names := name :: cursor.names }
  | _ => failure

mutual

/-- Alternatives up to the end of a group or of the pattern; `read` lists earlier ones, the last
first. -/
def alternatives : Nat → List Part → Reader Part
  | 0, _ => failure
  | fuel + 1, read => do
    let read := (← sequence fuel []) :: read
    match ← rest with
    | '|' :: after =>
      resume after
      alternatives fuel read
    | _ => return choiceOf read.reverse

/-- A sequence up to the end of an alternative; `parts` lists what was read, the last first. -/
def sequence : Nat → List Part → Reader Part
  | 0, _ => failure
  | fuel + 1, parts => do
    skipSpace
    match ← rest with
    | [] => return sequenceOf parts
    | '|' :: _ => return sequenceOf parts
    | ')' :: _ => return sequenceOf parts
    | '(' :: after =>
      resumePast after
      sequence fuel ((← parenthesized fuel) :: parts)
    | '[' :: after =>
      resume after
      let (codes, depth) ← bracket fuel
      sequence fuel ({ pattern := .one codes, depth } :: parts)
    | '?' :: after =>
      resume after
      sequence fuel (← repeated parts 0 (some 1))
    | '*' :: after =>
      resume after
      sequence fuel (← repeated parts 0 none)
    | '+' :: after =>
      resume after
      sequence fuel (← repeated parts 1 none)
    | '\x7b' :: after =>
      resume after
      let (least, most) ← closedBounds
      sequence fuel (← repeated parts least most)
    | _ => sequence fuel ({ pattern := ← primitive } :: parts)

/-- A group after its opening parenthesis. -/
def parenthesized : Nat → Reader Part
  | 0 => failure
  | fuel + 1 => do
    let outer ← switches
    let close (wrap : Pattern → Pattern) : Reader Part := do
      let body ← alternatives fuel []
      ensure ((← take) = ')')
      modify fun cursor => { cursor with switches := outer }
      return { pattern := wrap body.pattern, depth := body.depth + 1 }
    match ← rest with
    | '?' :: '=' :: _ => failure
    | '?' :: '!' :: _ => failure
    | '?' :: '<' :: '=' :: _ => failure
    | '?' :: '<' :: '!' :: _ => failure
    | '?' :: 'P' :: '<' :: after =>
      resume after
      groupName
      close Pattern.group
    | '?' :: '<' :: after =>
      resume after
      groupName
      close Pattern.group
    | '?' :: after =>
      match readSwitches [] true outer after with
      | some (switches, _, ':' :: after) =>
        modify fun cursor => { cursor with rest := after, switches }
        close id
      | some (switches, seen, ')' :: after) =>
        ensure (!seen.isEmpty)
        modify fun cursor => { cursor with rest := after, switches }
        return { pattern := .empty, repeats := false }
      | _ => failure
    | _ => close Pattern.group

end

/-- How deeply a pattern may nest. -/
def greatestDepth : Nat := 250

/-- A whole pattern. -/
def parse? (text : String) : Option Pattern := do
  let chars := text.toList
  let (part, cursor) ← (alternatives (3 * chars.length + 3) []).run { rest := chars }
  if cursor.rest.isEmpty && part.depth ≤ greatestDepth && part.pattern.isSmall then
    some part.pattern
  else none

/-- The pattern whose matches begin at the start of a text. -/
def startingWith? (text : String) : Option Pattern :=
  parse? ("^(?:" ++ text ++ ")")

end DocMachine.Pattern
