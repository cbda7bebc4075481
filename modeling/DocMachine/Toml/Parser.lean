import DocMachine.Toml.Scalar

/-!
# TOML: tables

A settings file is a list of tables. `Toml.parse?` reads one to the object of its entries. A key is
written once: tables are not opened twice, and what was written as a value is not added to later.
-/

namespace DocMachine.Toml

/-- What stands under a key while a file is read.

* A value is closed: nothing can be added to it.
* A table is `implicit` until a header names it, and `dotted` if dotted keys made it.
* Rows are the tables of an array that headers fill. -/
inductive Item where
  | value (value : Value)
  | table (implicit dotted : Bool) (entries : List (String × Item))
  | rows (rows : List (List (String × Item)))

/-- The entries of a table. -/
abbrev Entries := List (String × Item)

mutual

/-- The value of an item. -/
def Item.toValue : Item → Value
  | .value v => v
  | .table _ _ entries => .obj (entriesToFields entries)
  | .rows rows => .arr (rowsToItems rows)

/-- The fields of a table. -/
def entriesToFields : List (String × Item) → List (String × Value)
  | [] => []
  | (key, item) :: rest => (key, item.toValue) :: entriesToFields rest

/-- The values of the tables of an array. -/
def rowsToItems : List (List (String × Item)) → List Value
  | [] => []
  | entries :: rest => .obj (entriesToFields entries) :: rowsToItems rest

end

/-- A table under construction. -/
structure Section where
  implicit : Bool := false
  dotted : Bool := false
  entries : Entries := []

/-- The table as an item. -/
def Section.item (table : Section) : Item :=
  .table table.implicit table.dotted table.entries

/-- The table with an item under a key. -/
def Section.set (table : Section) (key : String) (item : Item) : Section :=
  { table with entries := Table.insert table.entries key item }

/-- Changes the table at the end of a path, making those that are missing. Dotted keys do not go
through tables that a header named. -/
def descend (dotted : Bool) (change : Section → Option Section) :
    List String → Section → Option Section
  | [], table => change table
  | key :: path, table =>
    match Table.get? table.entries key with
    | none =>
      (descend dotted change path { implicit := true, dotted }).map fun child =>
        table.set key child.item
    | some (.value _) => none
    | some (.table implicit isDotted entries) =>
      if dotted && !implicit then none
      else
        (descend dotted change path ⟨implicit, isDotted, entries⟩).map fun child =>
          table.set key child.item
    | some (.rows rows) =>
      match rows.reverse with
      | [] => none
      | last :: before =>
        (descend dotted change path { entries := last }).map fun child =>
          table.set key (.rows (before.reverse ++ [child.entries]))

/-- Adds a value under a key, which is dotted if the path before it is not empty. -/
def addValue (path : List String) (key : String) (item : Item) (table : Section) :
    Option Section :=
  descend true (fun inner =>
    if inner.dotted == path.isEmpty then none
    else if Table.contains inner.entries key then none
    else some (inner.set key item)) path table

/-! ## Values -/

/-- Whether a character may stand in a key without quotes. -/
def isBare (c : Char) : Bool :=
  c.isAlphanum || c = '_' || c = '-'

/-- One part of a key. -/
def simpleKey : Reader String := do
  match ← get with
  | '"' :: rest =>
    ensure (!"\"\"".toList.isPrefixOf rest)
    string
  | '\'' :: rest =>
    ensure (!"''".toList.isPrefixOf rest)
    string
  | _ =>
    let name ← takeWhile isBare
    ensure (!name.isEmpty)
    return String.ofList name

/-- The parts of a key after the first. The fuel bounds their count. -/
def keyTail : Nat → List String → Reader (List String)
  | 0, _ => failure
  | fuel + 1, done => do
    skipBlanks
    if ← accept "." then
      skipBlanks
      keyTail fuel ((← simpleKey) :: done)
    else return done.reverse

/-- The most arrays and tables inside each other, and the most parts of a key. -/
def deepest : Nat := 79

/-- A key: its parts but the last, and the last. -/
def key : Reader (List String × String) := do
  skipBlanks
  let first ← simpleKey
  let parts ← keyTail ((← get).length + 1) [first]
  ensure (parts.length ≤ deepest)
  match parts.reverse with
  | last :: before => return (before.reverse, last)
  | [] => failure

/-- A date or a number. -/
def momentOrNumber : Reader Value := do
  match ← moment? with
  | some v => return v
  | none => number

mutual

/-- A value. `room` is how many arrays and tables may still be opened inside each other. -/
def value : Nat → (room : Nat) → Reader Item
  | 0, _ => failure
  | fuel + 1, room => do
    match ← get with
    | '"' :: _ => return .value (.str (← string))
    | '\'' :: _ => return .value (.str (← string))
    | '[' :: rest =>
      set rest
      ensure (room ≠ 0)
      return .value (.arr (← array fuel (room - 1) []))
    | '\x7b' :: rest =>
      set rest
      ensure (room ≠ 0)
      skipBlanks
      if ← accept "\x7d" then return .value (.obj [])
      let table ← inline fuel (room - 1) {}
      return .value table.item.toValue
    | 't' :: _ =>
      ensure (← accept "true")
      return .value (.bool true)
    | 'f' :: _ =>
      ensure (← accept "false")
      return .value (.bool false)
    | _ => return .value (← momentOrNumber)

/-- The items of an array up to its closing bracket. -/
def array : Nat → (room : Nat) → List Value → Reader (List Value)
  | 0, _, _ => failure
  | fuel + 1, room, done => do
    skipLines fuel
    if ← accept "]" then return done.reverse
    let item ← value fuel room
    let done := item.toValue :: done
    skipLines fuel
    if ← accept "," then array fuel room done
    else
      expect ']'
      return done.reverse

/-- The entries of a table on one line up to its closing brace. -/
def inline : Nat → (room : Nat) → Section → Reader Section
  | 0, _, _ => failure
  | fuel + 1, room, table => do
    let (path, name) ← key
    skipBlanks
    expect '='
    skipBlanks
    match addValue path name (← value fuel room) table with
    | none => failure
    | some table =>
      skipBlanks
      if ← accept "," then inline fuel room table
      else
        expect '\x7d'
        return table

end

/-! ## Files -/

/-- The table whose entries are being read, and where it belongs. -/
structure Place where
  path : List String := []
  isRow : Bool := false
  table : Section := {}

/-- Puts the table that was read in its place. -/
def close (place : Place) (root : Section) : Option Section :=
  match place.path.reverse with
  | [] => some place.table
  | last :: before =>
    descend false (fun parent =>
      if place.isRow then
        match Table.get? parent.entries last with
        | some (.rows rows) => some (parent.set last (.rows (rows ++ [place.table.entries])))
        | none => some (parent.set last (.rows [place.table.entries]))
        | _ => none
      else some (parent.set last place.table.item)) before.reverse root

/-- Opens the table that a header names. One that exists may only be implicit. -/
def openTable (path : List String) (last : String) (root : Section) : Option (Place × Section) := do
  let full := path ++ [last]
  let mark (parent : Section) : Option Section :=
    match Table.get? parent.entries last with
    | none => some parent
    | some (.table true false _) => some parent
    | _ => none
  let root ← descend false mark path root
  some ({ path := full, table := { entries := existing full root.entries } }, root)
where
  /-- The entries of the table at a path, if there is one. -/
  existing : List String → Entries → Entries
    | [], entries => entries
    | key :: rest, entries =>
      match Table.get? entries key with
      | some (.table _ _ inner) => existing rest inner
      | some (.rows rows) => existing rest (rows.getLast?.getD [])
      | _ => []

/-- Opens a new row of the array that a header names. -/
def openRow (path : List String) (last : String) (root : Section) : Option (Place × Section) := do
  let mark (parent : Section) : Option Section :=
    match Table.get? parent.entries last with
    | none => some (parent.set last (.rows []))
    | some (.rows _) => some parent
    | _ => none
  let root ← descend false mark path root
  some ({ path := path ++ [last], isRow := true }, root)

/-- The rest of a line after its content. -/
def endLine : Reader Unit := do
  skipBlanks
  skipComment
  if (← get).isEmpty then pure ()
  else ensure (← acceptNewline)

/-- A header, after its first bracket. -/
def header (place : Place) (root : Section) : Reader (Place × Section) := do
  let isRow ← accept "["
  let (path, last) ← key
  skipBlanks
  ensure (← accept (if isRow then "]]" else "]"))
  endLine
  let opened := (close place root).bind fun root =>
    if isRow then openRow path last root else openTable path last root
  match opened with
  | some result => return result
  | none => failure

/-- The lines of a file. The fuel bounds their count. -/
def lines : Nat → Place → Section → Reader Section
  | 0, _, _ => failure
  | fuel + 1, place, root => do
    skipLines fuel
    match ← get with
    | [] =>
      match close place root with
      | some root => return root
      | none => failure
    | '[' :: rest =>
      set rest
      let (place, root) ← header place root
      lines fuel place root
    | _ =>
      let (path, name) ← key
      skipBlanks
      expect '='
      skipBlanks
      let item ← value fuel deepest
      endLine
      match addValue path name item place.table with
      | some table => lines fuel { place with table } root
      | none => failure

/-- The object that a settings text denotes. -/
def parse? (text : String) : Option Value := do
  let chars := match text.toList with
    | c :: rest => if c.toNat = 0xfeff then rest else c :: rest
    | [] => []
  let (root, _) ← (lines (2 * chars.length + 2) {} {}).run chars
  some root.item.toValue

end DocMachine.Toml
