import DocMachine.Text.Property

/-!
# Text patterns

A pattern describes pieces of text. `Pattern.ends` lists the places at which a match that begins at
a given place may end, and `Pattern.occursIn` asks for a match anywhere. Only whether there is a
match is asked for, so alternatives have no preference and repetitions are neither greedy nor lazy.
-/

namespace DocMachine

open Text

/-- A condition on a place between characters. -/
inductive Anchor where
  | textStart
  | textEnd
  /-- After a line feed; if carriage returns end lines too, after either or both. -/
  | lineStart (returns : Bool)
  /-- Before a line feed; if carriage returns end lines too, before either or both. -/
  | lineEnd (returns : Bool)
  | wordBoundary
  | noWordBoundary
  | wordStart
  | wordEnd
  | noWordBefore
  | noWordAfter
  deriving DecidableEq

namespace Anchor

/-- Whether the condition holds between two characters; at an end of the text one is missing. -/
def holds (isWord : Char → Bool) (before after : Option Char) : Anchor → Bool
  | textStart => before.isNone
  | textEnd => after.isNone
  | lineStart false => before.isNone || before = some '\n'
  | lineStart true =>
    before.isNone || before = some '\n' || (before = some '\r' && after ≠ some '\n')
  | lineEnd false => after.isNone || after = some '\n'
  | lineEnd true =>
    after.isNone || after = some '\r' || (after = some '\n' && before ≠ some '\r')
  | wordBoundary => before.any isWord != after.any isWord
  | noWordBoundary => before.any isWord == after.any isWord
  | wordStart => !before.any isWord && after.any isWord
  | wordEnd => before.any isWord && !after.any isWord
  | noWordBefore => !before.any isWord
  | noWordAfter => !after.any isWord

end Anchor

/-- A description of pieces of text. -/
inductive Pattern where
  | empty
  /-- One character of a set. -/
  | one (codes : CodeSet)
  /-- A place; `unicode` says whether words have letters beyond ASCII. -/
  | place (unicode : Bool) (anchor : Anchor)
  | seq (first second : Pattern)
  | alt (first second : Pattern)
  /-- At least `least` times over and, if there is a bound, at most that often. -/
  | times (body : Pattern) (least : Nat) (most : Option Nat)
  /-- A part whose match is remembered. -/
  | group (body : Pattern)

namespace Pattern

/-- The characters that words are made of. -/
def wordCodes (unicode : Bool) : CodeSet :=
  if unicode then Property.word else CodeSet.ofText "30-39 41-5a 5f 61-7a"

/-- Adds places that are not there yet. -/
def union (places others : List Nat) : List Nat :=
  others.foldl (fun acc place => if acc.contains place then acc else acc ++ [place]) places

/-- The places reached by one more step from any of `places`. -/
def advance (step : Nat → List Nat) (places : List Nat) : List Nat :=
  places.foldl (fun acc place => union acc (step place)) []

/-- The places reached by exactly `count` steps. -/
def exactly (step : Nat → List Nat) : Nat → List Nat → List Nat
  | 0, places => places
  | _ + 1, [] => []
  | count + 1, places => exactly step count (advance step places)

/-- The places reached by at most `count` steps. -/
def upTo (step : Nat → List Nat) : Nat → List Nat → List Nat
  | 0, places => places
  | count + 1, places =>
    let further := union places (advance step places)
    if further.length = places.length then places else upTo step count further

/-- The places at which a match from `start` may end. -/
def ends (text : Array Char) : Pattern → Nat → List Nat
  | empty, start => [start]
  | one codes, start => if text[start]?.any codes.contains then [start + 1] else []
  | place unicode anchor, start =>
    let before := if start = 0 then none else text[start - 1]?
    if anchor.holds (wordCodes unicode).contains before text[start]? then [start] else []
  | seq first second, start => advance (ends text second) (ends text first start)
  | alt first second, start => union (ends text first start) (ends text second start)
  | times body least most, start =>
    let further := match most with
      | some bound => bound - least
      | none => text.size + 1
    upTo (ends text body) further (exactly (ends text body) least [start])
  | group body, start => ends text body start

/-- Whether there is a match anywhere in a text. -/
def occursIn (pattern : Pattern) (text : String) : Bool :=
  let chars := text.toList.toArray
  (List.range (chars.size + 1)).any fun start => !(pattern.ends chars start).isEmpty

end Pattern

end DocMachine
