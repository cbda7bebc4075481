import DocMachine.Pattern

/-!
# The size of patterns

A pattern is refused if the automaton that would search for it is too large. Automata read bytes, so
a set of characters becomes a set of byte sequences: `byteSequences` divides a range of code points
into products of byte ranges. The automaton exists twice, for reading forwards and for reading
backwards, and each of them has to stay within `Pattern.greatestSize` bytes.

* Forwards, the sequences of a set share their ends as well as their beginnings.
* Backwards, they only share their beginnings.
-/

namespace DocMachine

open Text

namespace Pattern

/-- The range of values of one byte. -/
abbrev ByteRange := Nat × Nat

/-! ## Byte sequences -/

/-- The bytes of a code point in UTF-8. -/
def codeBytes (code : Nat) : List Nat :=
  if code < 0x80 then [code]
  else if code < 0x800 then [0xc0 + code / 64, 0x80 + code % 64]
  else if code < 0x10000 then [0xe0 + code / 4096, 0x80 + code / 64 % 64, 0x80 + code % 64]
  else
    [0xf0 + code / 262144, 0x80 + code / 4096 % 64, 0x80 + code / 64 % 64, 0x80 + code % 64]

/-- The bounds at which a range of code points is first cut: the ends of the code points of one, two
and three bytes, and the surrogates. -/
def lengthBounds : List Nat := [0x7f, 0x7ff, 0xd7ff, 0xdfff, 0xffff]

/-- Cuts a range after each bound inside it. -/
def cutAfter (bounds : List Nat) (range : Nat × Nat) : List (Nat × Nat) :=
  match bounds with
  | [] => [range]
  | bound :: rest =>
    if range.1 ≤ bound && bound < range.2 then
      (range.1, bound) :: cutAfter rest (bound + 1, range.2)
    else cutAfter rest range

/-- Cuts a range where its ends differ above their low bits, until only whole blocks of that size
lie between them. `size` is the size of a block. -/
def cutBlocks (size : Nat) (range : Nat × Nat) : List (Nat × Nat) :=
  let (low, high) := range
  if low / size = high / size then [range]
  else
    let front := if low % size = 0 then [] else [(low, low / size * size + size - 1)]
    let start := if low % size = 0 then low else low / size * size + size
    let back := if (high + 1) % size = 0 then [] else [(high / size * size, high)]
    let stop := if (high + 1) % size = 0 then high else high / size * size - 1
    front ++ (if start ≤ stop then [(start, stop)] else []) ++ back

/-- The byte sequences of the code points of a range. -/
def byteSequences (range : Nat × Nat) : List (List ByteRange) :=
  let pieces := (cutAfter lengthBounds range).filter fun piece =>
    !(0xd800 ≤ piece.1 && piece.1 ≤ 0xdfff)
  let blocks := pieces.flatMap fun piece =>
    if piece.2 < 0x80 then [piece]
    else ((cutBlocks 64 piece).flatMap (cutBlocks 4096)).flatMap (cutBlocks 262144)
  blocks.map fun block => (codeBytes block.1).zip (codeBytes block.2)

/-- The byte sequences of a set. -/
def sequencesOf (codes : CodeSet) : List (List ByteRange) := codes.ranges.flatMap byteSequences

/-! ## Sets -/

/-- The size of a state. -/
def stateSize : Nat := 32

/-- The size of a way out of a state that has many. -/
def edgeSize : Nat := 8

/-- The size of an alternative of a state. -/
def choiceSize : Nat := 4

/-- How far two sequences agree. -/
def agreement : List ByteRange → List ByteRange → Nat
  | a :: as, b :: bs => if a = b then agreement as bs + 1 else 0
  | _, _ => 0

/-- The number of beginnings that ascending sequences have, each counted once. -/
def beginnings (previous : List ByteRange) : List (List ByteRange) → Nat
  | [] => 0
  | sequence :: rest =>
    (sequence.length - agreement previous sequence) + beginnings sequence rest

/-- Groups ascending sequences by their first range. -/
def byFirst : List (List ByteRange) → List (ByteRange × List (List ByteRange))
  | [] => []
  | [] :: rest => byFirst rest
  | (first :: tail) :: rest =>
    match byFirst rest with
    | (other, tails) :: groups =>
      if first = other then (first, tail :: tails) :: groups
      else (first, [tail]) :: (other, tails) :: groups
    | [] => [(first, [tail])]

/-- The states that read the given sequences to their end, each as the list of its ways out, those
of later bytes first. A state is the same as an earlier one if its ways out are. `depth` bounds the
length of the sequences; the number is that of the state reached at the start. -/
def sharedStates :
    Nat → List (List ByteRange) → List (List (ByteRange × Nat)) →
      Nat × List (List (ByteRange × Nat))
  | 0, _, states => (0, states)
  | depth + 1, sequences, states =>
    if sequences.all List.isEmpty then (0, states)
    else
      let (edges, states) := (byFirst sequences).foldl
        (fun (edges, states) (first, tails) =>
          let (target, states) := sharedStates depth tails states
          (edges ++ [(first, target)], states))
        ([], states)
      match states.findIdx? (· = edges) with
      | some i => (i + 1, states)
      | none => (states.length + 1, states ++ [edges])

/-- The size of the automaton of a set, backwards or forwards. A set within ASCII is one state with
a way out for each range. -/
def setSize (backwards : Bool) (codes : CodeSet) : Nat :=
  match codes.ranges with
  | [(low, high)] =>
    if low = high then stateSize * (codeBytes low).length else rangesSize
  | _ => rangesSize
where
  /-- The size for more than one character. -/
  rangesSize : Nat :=
    if codes.ranges.all fun range => range.2 < 0x80 then
      2 * stateSize + edgeSize * codes.ranges.length
    else
      let sequences := sequencesOf codes
      if backwards then
        2 * stateSize + stateSize * beginnings [] sequences + choiceSize * sequences.length
      else
        let states := (sharedStates 5 sequences []).2
        stateSize + states.foldl (fun n edges => n + stateSize + edgeSize * edges.length) 0

/-! ## Patterns -/

/-- Whether a pattern matches nothing but empty pieces of text. -/
def isEmptyOnly : Pattern → Bool
  | empty => true
  | one _ => false
  | place _ _ => true
  | seq first second => first.isEmptyOnly && second.isEmptyOnly
  | alt first second => first.isEmptyOnly && second.isEmptyOnly
  | times body _ most => body.isEmptyOnly || most = some 0
  | group body => body.isEmptyOnly

/-- Whether a pattern may match an empty piece of text, all conditions on places aside. -/
def mayBeEmpty : Pattern → Bool
  | empty => true
  | one _ => false
  | place _ _ => true
  | seq first second => first.mayBeEmpty && second.mayBeEmpty
  | alt first second => first.mayBeEmpty || second.mayBeEmpty
  | times body least _ => least = 0 || body.mayBeEmpty
  | group body => body.mayBeEmpty

/-- The size of a repetition of a body with the given size. -/
def repeatedSize (body : Nat) (bodyMayBeEmpty : Bool) (least : Nat) : Option Nat → Nat
  | none =>
    if least = 0 && bodyMayBeEmpty then body + 3 * stateSize + 4 * choiceSize
    else max least 1 * body + stateSize + 2 * choiceSize
  | some most =>
    if least = most then if least = 0 then stateSize else least * body
    else if most = 1 then body + 2 * stateSize + 2 * choiceSize
    else
      (if least = 0 then stateSize else least * body) + stateSize +
        (most - least) * (body + stateSize + 2 * choiceSize)

/-- The size of the automaton of a pattern, and the size as an alternative among others. -/
def sizes (backwards : Bool) : Pattern → Nat × Nat
  | empty => alone stateSize
  | one codes => alone (setSize backwards codes)
  | place _ _ => alone stateSize
  | seq first second => alone ((sizes backwards first).1 + (sizes backwards second).1)
  | alt first second =>
    let together := (sizes backwards first).2 + (sizes backwards second).2
    (together + 2 * stateSize, together)
  | times body least most =>
    alone (repeatedSize (sizes backwards body).1 body.mayBeEmpty least most)
  | group body =>
    alone ((sizes backwards body).1 + if backwards then 0 else 2 * stateSize)
where
  /-- The sizes of a pattern that is no choice. -/
  alone (size : Nat) : Nat × Nat := (size, size + choiceSize)

/-- The greatest size of an automaton: ten mebibytes. -/
def greatestSize : Nat := 10485760

/-- Whether both automata of a pattern stay within the limit. Besides the pattern itself an
automaton has a few states that start and end the search. -/
def isSmall (pattern : Pattern) : Bool :=
  (pattern.sizes false).1 + 4 * stateSize ≤ greatestSize &&
    (pattern.sizes true).1 + 4 * stateSize + 2 * choiceSize + edgeSize ≤ greatestSize

end Pattern

end DocMachine
