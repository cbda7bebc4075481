/-!
# Sets of code points

A set of code points is a list of ranges, ascending and apart from each other. All operations go
through `CodeSet.ofRanges`, which brings any list of ranges into that form.

`CodeSet.ofText` reads the tables of this library: code points in hexadecimal with blanks or line
ends between entries, `a-b` for a range and `a-b/2` for every second code point of one.
-/

namespace DocMachine.Text

/-- A set of code points, as ascending ranges with gaps between them. -/
structure CodeSet where
  ranges : List (Nat × Nat)
  deriving DecidableEq

namespace CodeSet

/-- The greatest code point. -/
def greatest : Nat := 0x10ffff

/-- The set without members. -/
def empty : CodeSet := ⟨[]⟩

/-- The set of all code points. -/
def all : CodeSet := ⟨[(0, greatest)]⟩

/-- Whether a code point lies in one of the ascending ranges. -/
def inRanges (code : Nat) : List (Nat × Nat) → Bool
  | [] => false
  | (low, high) :: rest =>
    if code < low then false else if code ≤ high then true else inRanges code rest

/-- Whether a code point belongs to the set. -/
def holds (set : CodeSet) (code : Nat) : Bool := inRanges code set.ranges

/-- Whether a character belongs to the set. -/
def contains (set : CodeSet) (c : Char) : Bool := set.holds c.toNat

/-- Joins ranges, sorted by their first code points, where they overlap or touch. -/
def joinRanges : List (Nat × Nat) → List (Nat × Nat)
  | [] => []
  | (low, high) :: rest => joinFrom low high rest
where
  /-- Goes on with the range from `low` to `high` still open. -/
  joinFrom (low high : Nat) : List (Nat × Nat) → List (Nat × Nat)
    | [] => [(low, high)]
    | (first, last) :: rest =>
      if first ≤ high + 1 then joinFrom low (max high last) rest
      else (low, high) :: joinFrom first last rest

/-- The set of all code points in the given ranges. -/
def ofRanges (ranges : List (Nat × Nat)) : CodeSet :=
  ⟨joinRanges (ranges.mergeSort fun a b => decide (a.1 ≤ b.1))⟩

/-- The set of the code points from `low` to `high`. -/
def range (low high : Nat) : CodeSet := ⟨if low ≤ high then [(low, high)] else []⟩

/-- The set of one character. -/
def singleton (c : Char) : CodeSet := ⟨[(c.toNat, c.toNat)]⟩

/-- The set of the given code points. -/
def ofCodes (codes : List Nat) : CodeSet := ofRanges (codes.map fun code => (code, code))

/-- The members of either set. -/
def union (a b : CodeSet) : CodeSet :=
  match a.ranges, b.ranges with
  | [], _ => b
  | _, [] => a
  | first, second => ofRanges (first ++ second)

/-- The members of any of the sets. -/
def unions (sets : List CodeSet) : CodeSet := ofRanges (sets.flatMap ranges)

/-- The gaps between ascending ranges, from `start` on. -/
def gaps (start : Nat) : List (Nat × Nat) → List (Nat × Nat)
  | [] => if start ≤ greatest then [(start, greatest)] else []
  | (low, high) :: rest =>
    if start < low then (start, low - 1) :: gaps (high + 1) rest else gaps (high + 1) rest

/-- The code points outside the set. -/
def complement (set : CodeSet) : CodeSet := ⟨gaps 0 set.ranges⟩

/-- The members of both sets. -/
def inter (a b : CodeSet) : CodeSet := (a.complement.union b.complement).complement

/-- The members of the first set that are not in the second. -/
def diff (a b : CodeSet) : CodeSet := (a.complement.union b).complement

/-- The members of exactly one of the sets. -/
def symmDiff (a b : CodeSet) : CodeSet := (a.diff b).union (b.diff a)

/-! ## Tables -/

/-- The words of a table, between blanks and line ends. `word` is the one being read, last character
first. -/
def wordsOf (word : List Char) : List Char → List (List Char)
  | [] => if word.isEmpty then [] else [word.reverse]
  | c :: rest =>
    if c = ' ' || c = '\n' then
      if word.isEmpty then wordsOf [] rest else word.reverse :: wordsOf [] rest
    else wordsOf (c :: word) rest

/-- The number that hexadecimal digits in lower case denote. -/
def hexNumber (digits : List Char) : Nat :=
  digits.foldl (fun n c =>
    16 * n + (if c.isDigit then c.toNat - '0'.toNat else c.toNat - 'a'.toNat + 10)) 0

/-- Every second code point from `low` to `high`. -/
def everySecond (low high : Nat) : List (Nat × Nat) :=
  (List.range ((high - low) / 2 + 1)).map fun i => (low + 2 * i, low + 2 * i)

/-- The ranges of one entry of a table. -/
def entryRanges (entry : List Char) : List (Nat × Nat) :=
  match entry.span (· ≠ '-') with
  | (low, _ :: high) =>
    match high.span (· ≠ '/') with
    | (high, _ :: _) => everySecond (hexNumber low) (hexNumber high)
    | (high, []) => [(hexNumber low, hexNumber high)]
  | (code, []) => [(hexNumber code, hexNumber code)]

/-- The set that a table lists. -/
def ofText (text : String) : CodeSet := ofRanges ((wordsOf [] text.toList).flatMap entryRanges)

end CodeSet

end DocMachine.Text
