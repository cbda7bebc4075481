import DocMachine.Text.CodeSet

/-!
# Tables of code points

A table gives numbers to code points. Its entries are written like those of a set, each followed by
a colon and the numbers with dots between them, all in hexadecimal: `300-314:e6`, `e0:61.300`.
-/

namespace DocMachine.Text

/-- One entry of a table: the numbers given to the code points from `first` to `last`. -/
structure CodeEntry where
  first : Nat
  last : Nat
  numbers : List Nat

namespace CodeEntry

/-- Whether an entry says something of a code point. -/
def holds (entry : CodeEntry) (code : Nat) : Bool :=
  decide (entry.first ≤ code) && decide (code ≤ entry.last)

/-- The numbers between dots. -/
def numbersOf (digits : List Char) : List Nat :=
  (CodeSet.wordsOf [] (digits.map fun c => if c = '.' then ' ' else c)).map CodeSet.hexNumber

/-- Reads one entry. -/
def ofWord (word : List Char) : CodeEntry :=
  let (codes, rest) := word.span (· ≠ ':')
  let numbers := numbersOf (rest.drop 1)
  match codes.span (· ≠ '-') with
  | (low, _ :: high) => ⟨CodeSet.hexNumber low, CodeSet.hexNumber high, numbers⟩
  | (code, []) => ⟨CodeSet.hexNumber code, CodeSet.hexNumber code, numbers⟩

end CodeEntry

namespace CodeTable

/-- The entries of a table. -/
def ofText (text : String) : List CodeEntry :=
  (CodeSet.wordsOf [] text.toList).map CodeEntry.ofWord

/-- The entry of a code point. -/
def find? (table : List CodeEntry) (code : Nat) : Option CodeEntry :=
  table.find? (·.holds code)

end CodeTable

end DocMachine.Text
