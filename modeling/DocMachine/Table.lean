/-!
# Insertion-ordered tables

Objects, variable scopes, parameter lists and the registry are all finite maps whose order can be
seen: they are printed and walked in the order in which their keys arrived.

* A key that is written again keeps its place.
* A removed entry leaves its place to the last entry of the table.
-/

namespace DocMachine

/-- A finite map in the order in which its keys arrived. -/
abbrev Table (κ α : Type) := List (κ × α)

namespace Table

variable {κ α : Type}

/-- The keys, in table order. -/
def keys (table : Table κ α) : List κ :=
  table.map Prod.fst

/-- The values, in table order. -/
def values (table : Table κ α) : List α :=
  table.map Prod.snd

variable [DecidableEq κ]

/-- The value under `key`. -/
def get? : Table κ α → κ → Option α
  | [], _ => none
  | (k, v) :: rest, key => if k = key then some v else get? rest key

/-- Whether `key` has a value. -/
def contains (table : Table κ α) (key : κ) : Bool :=
  (table.get? key).isSome

/-- Writes `value` under `key`: in place when the key is there, else at the end. -/
def insert : Table κ α → κ → α → Table κ α
  | [], key, value => [(key, value)]
  | (k, v) :: rest, key, value =>
    if k = key then (k, value) :: rest else (k, v) :: insert rest key value

/-- Removes `key`. The last entry moves into the place that falls free. -/
def erase : Table κ α → κ → Table κ α
  | [], _ => []
  | (k, v) :: rest, key =>
    if k = key then
      match rest.getLast? with
      | none => []
      | some last => last :: rest.dropLast
    else (k, v) :: erase rest key

/-- Writes every entry of `overlay`, in its order; entries of `overlay` win. -/
def extend (table overlay : Table κ α) : Table κ α :=
  overlay.foldl (fun acc entry => acc.insert entry.1 entry.2) table

/-- The table of a list of entries: the last value of a repeated key stands at its first place. -/
def ofEntries (entries : List (κ × α)) : Table κ α :=
  extend [] entries

end Table

end DocMachine
