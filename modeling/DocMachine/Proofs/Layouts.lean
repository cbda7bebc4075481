import DocMachine.Media
import DocMachine.Proofs.Written

/-!
# Written JSON reads back

Values are written on one line or over several, and the blanks between their tokens do not count when they
are read. So a value that documents can hold is read back from either form.

* `Json.Layout`: the blanks that a writer puts between tokens.
* `Json.Layout.write`: the text of a value in a layout. The two writers follow two layouts.

Results:
1. `Json.write_dense` and `Json.write_indented`: the layouts of the two writers.
2. `Json.Layout.readValue_write`: in any layout, a value reads back.
3. `Media.decode?_encode`: what is encoded as JSON, densely or indented, is decoded again.
-/

namespace DocMachine

namespace Json

/-- The blanks that a writer puts between tokens: at each depth before a value and before a closing bracket,
and after a colon. -/
structure Layout where
  gap : Nat → List Char
  space : List Char
  gap_blank : ∀ depth, ∀ c ∈ gap depth, isSpace c = true
  space_blank : ∀ c ∈ space, isSpace c = true

namespace Layout

variable (layout : Layout)

mutual

/-- The text of a value, at the given depth. -/
def write (depth : Nat) : Value → List Char
  | .arr [] => ['[', ']']
  | .arr (v :: rest) =>
    '[' :: (layout.gap (depth + 1) ++ (write (depth + 1) v ++ (writeItems (depth + 1) rest ++
      (layout.gap depth ++ [']']))))
  | .obj [] => ['{', '}']
  | .obj ((key, v) :: rest) =>
    '{' :: (layout.gap (depth + 1) ++ (writeString strict key ++ ':' :: (layout.space ++
      (write (depth + 1) v ++ (writeFields (depth + 1) rest ++ (layout.gap depth ++ ['}']))))))
  | scalar => Json.write strict scalar

/-- The items after the first. -/
def writeItems (depth : Nat) : List Value → List Char
  | [] => []
  | v :: rest => ',' :: (layout.gap depth ++ (write depth v ++ writeItems depth rest))

/-- The entries after the first. -/
def writeFields (depth : Nat) : List (String × Value) → List Char
  | [] => []
  | (key, v) :: rest =>
    ',' :: (layout.gap depth ++ (writeString strict key ++ ':' :: (layout.space ++
      (write depth v ++ writeFields depth rest))))

end

end Layout

/-- No blanks. -/
def Layout.dense : Layout := ⟨fun _ => [], [], fun _ => nofun, nofun⟩

/-- A line for each value, indented by the depth. -/
def Layout.indented : Layout where
  gap := newline
  space := [' ']
  gap_blank depth c among := by
    rcases List.mem_cons.mp among with rfl | among
    · rfl
    · rw [List.eq_of_mem_replicate among]
      rfl
  space_blank c among := by
    rw [List.mem_singleton.mp among]
    rfl

mutual

/-- The one writer leaves no blanks. -/
theorem write_dense (depth : Nat) : ∀ v, Layout.dense.write depth v = write strict v
  | .null | .bool true | .bool false | .num _ | .str _ | .arr [] | .obj [] => rfl
  | .arr (v :: rest) => by
    have first := write_dense (depth + 1) v
    have others := writeItems_dense (depth + 1) rest v
    rw [Layout.write, write, others, first, List.append_assoc]
    rfl
  | .obj ((key, v) :: rest) => by
    have first := write_dense (depth + 1) v
    have others := writeFields_dense (depth + 1) rest key v
    rw [Layout.write, write, others, first, List.append_assoc, List.cons_append, List.append_assoc]
    rfl

/-- What comes after the first item does not depend on it. -/
theorem writeItems_dense (depth : Nat) : ∀ rest v,
    writeItems strict (v :: rest) = write strict v ++ Layout.dense.writeItems depth rest
  | [], v => by rw [writeItems, Layout.writeItems, List.append_nil]
  | w :: rest, v => by
    have next := write_dense depth w
    have others := writeItems_dense depth rest w
    rw [writeItems, others, Layout.writeItems, next]
    rfl

theorem writeFields_dense (depth : Nat) : ∀ rest key v, writeFields strict ((key, v) :: rest) =
    writeString strict key ++ ':' :: (write strict v ++ Layout.dense.writeFields depth rest)
  | [], key, v => by rw [writeFields, Layout.writeFields, List.append_nil]
  | (name, w) :: rest, key, v => by
    have next := write_dense depth w
    have others := writeFields_dense depth rest name w
    rw [writeFields, others, Layout.writeFields, next]
    rfl

end

mutual

/-- The other writer gives each value a line of its own. -/
theorem write_indented (depth : Nat) : ∀ v, Layout.indented.write depth v = writePretty depth v
  | .null | .bool true | .bool false | .num _ | .str _ | .arr [] | .obj [] => rfl
  | .arr (v :: rest) => by
    have first := write_indented (depth + 1) v
    have others := writeItems_indented (depth + 1) rest
    rw [Layout.write, writePretty, first, others]
    simp [Layout.indented]
  | .obj ((key, v) :: rest) => by
    have first := write_indented (depth + 1) v
    have others := writeFields_indented (depth + 1) rest
    rw [Layout.write, writePretty, first, others]
    simp [Layout.indented]

theorem writeItems_indented (depth : Nat) : ∀ rest,
    Layout.indented.writeItems depth rest = prettyItems depth rest
  | [] => rfl
  | v :: rest => by
    have first := write_indented depth v
    have others := writeItems_indented depth rest
    rw [Layout.writeItems, prettyItems, first, others, List.append_assoc]
    rfl

theorem writeFields_indented (depth : Nat) : ∀ rest,
    Layout.indented.writeFields depth rest = prettyFields depth rest
  | [] => rfl
  | (key, v) :: rest => by
    have first := write_indented depth v
    have others := writeFields_indented depth rest
    rw [Layout.writeFields, prettyFields, first, others]
    simp [Layout.indented]

end

/-! ## Blanks -/

theorem skipSpace_blank {blank : List Char} (blanks : ∀ c ∈ blank, isSpace c = true) (rest : List Char) :
    skipSpace (blank ++ rest) = skipSpace rest :=
  List.dropWhile_append_of_pos blanks

/-- What comes after blanks and is none is ahead. -/
theorem skipSpace_mark {blank : List Char} (blanks : ∀ c ∈ blank, isSpace c = true) {c : Char}
    (shown : isSpace c = false) (rest : List Char) : skipSpace (blank ++ c :: rest) = c :: rest := by
  rw [skipSpace_blank blanks, skipSpace, List.dropWhile_cons, shown]
  rfl

theorem follows_blank {blank : List Char} (blanks : ∀ c ∈ blank, isSpace c = true) {c : Char}
    (ends : c ∈ enders) (rest : List Char) : Follows (blank ++ c :: rest) := by
  cases blank with
  | nil => exact follows_cons ends rest
  | cons b blank =>
    have blank := blanks b List.mem_cons_self
    refine follows_cons ?_ _
    simp only [isSpace, Bool.or_eq_true, decide_eq_true_eq] at blank
    rcases blank with ((rfl | rfl) | rfl) | rfl <;> decide

/-- Blanks before a value do not count. -/
theorem readValue_blank {blank : List Char} (blanks : ∀ c ∈ blank, isSpace c = true) (fuel depth : Nat)
    (rest : List Char) : readValue fuel depth (blank ++ rest) = readValue fuel depth rest := by
  cases fuel with
  | zero => rfl
  | succ fuel => rw [readValue, readValue, skipSpace_blank blanks]

/-! ## Reading -/

namespace Layout

variable {layout : Layout}

/-- In any layout a value starts with a character of its own. -/
theorem write_opens {depth : Nat} {v : Value} (fits : Fits depth v) (indent : Nat) :
    ∃ c rest, layout.write indent v = c :: rest ∧ c ∈ openers := by
  cases fits with
  | null depth => exact Json.write_opens (.null depth)
  | bool depth b => cases b <;> exact Json.write_opens (.bool depth _)
  | int depth least greatest => exact Json.write_opens (.int depth least greatest)
  | str depth s => exact Json.write_opens (.str depth s)
  | @arr _ items _ => cases items <;> exact ⟨'[', _, rfl, by decide⟩
  | @obj _ fields _ _ => cases fields <;> exact ⟨'{', _, rfl, by decide⟩

/-- Reading gives back a value as it is laid out, if there is fuel for twice its characters: a value inside
of a container takes one unit for itself and one for its place in the list. -/
def ReadsBack (layout : Layout) (depth : Nat) (v : Value) : Prop :=
  ∀ indent fuel rest, 2 * (layout.write indent v).length ≤ fuel → Follows rest →
    readValue fuel depth (layout.write indent v ++ rest) = some (v, rest)

theorem fuel_succ {depth indent fuel : Nat} {v : Value} (fits : Fits depth v)
    (enough : 2 * (layout.write indent v).length ≤ fuel) : ∃ less, fuel = less + 1 := by
  obtain ⟨c, rest, written, -⟩ := write_opens fits indent
  rw [written, List.length_cons] at enough
  exact ⟨fuel - 1, by omega⟩

/-- Items that are laid out are read as they were, if each one is. -/
theorem readItems_write {depth indent : Nat} {item : Value} {items : List Value}
    (each : ∀ v ∈ item :: items, layout.ReadsBack depth v) {fuel : Nat}
    (enough : 2 * (layout.write indent item ++ layout.writeItems indent items).length < fuel)
    {blank : List Char} (blanks : ∀ c ∈ blank, isSpace c = true) (outer : Nat) (rest : List Char)
    (read : List Value) :
    readItems fuel depth (blank ++ (layout.write indent item ++ (layout.writeItems indent items ++
      (layout.gap outer ++ ']' :: rest)))) read = some (.arr (read.reverse ++ item :: items), rest) := by
  -- Each item uses up the fuel of its own characters, and is followed by blanks, a comma or a bracket.
  induction items generalizing item fuel blank read with
  | nil =>
    obtain ⟨fuel, rfl⟩ : ∃ less, fuel = less + 1 := ⟨fuel - 1, by omega⟩
    have first := each item List.mem_cons_self
    have closes := layout.gap_blank outer
    rw [writeItems, List.append_nil] at enough
    rw [readItems, readValue_blank blanks, writeItems, List.nil_append,
      first indent fuel _ (by omega) (follows_blank closes (by decide) rest)]
    simp only [skipSpace_mark closes (show isSpace ']' = false from rfl), List.reverse_cons]
  | cons next items ih =>
    obtain ⟨fuel, rfl⟩ : ∃ less, fuel = less + 1 := ⟨fuel - 1, by omega⟩
    have first := each item List.mem_cons_self
    rw [writeItems, List.length_append, List.length_cons, List.length_append] at enough
    rw [readItems, readValue_blank blanks, writeItems, List.cons_append,
      first indent fuel _ (by omega) (follows_cons (by decide) _)]
    have comma : ∀ rest, skipSpace (',' :: rest) = ',' :: rest := fun _ => rfl
    have enough' : 2 * (layout.write indent next ++ layout.writeItems indent items).length < fuel := by
      omega
    have others := ih (fun v listed => each v (List.mem_cons_of_mem _ listed)) enough'
      (layout.gap_blank indent) (item :: read)
    simp only [comma, List.append_assoc]
    rw [others, List.reverse_cons, List.append_assoc, List.singleton_append]

/-- Entries that are laid out are read as they were, if their values are. -/
theorem readFields_write {depth indent : Nat} {key : String} {v : Value} {fields : List (String × Value)}
    (each : ∀ entry ∈ (key, v) :: fields, layout.ReadsBack depth entry.2) {fuel : Nat}
    (enough : 2 * (layout.write indent v ++ layout.writeFields indent fields).length < fuel)
    {blank : List Char} (blanks : ∀ c ∈ blank, isSpace c = true) (outer : Nat) (rest : List Char)
    (read : List (String × Value)) :
    readFields fuel depth (blank ++ (writeString strict key ++ ':' :: (layout.space ++
      (layout.write indent v ++ (layout.writeFields indent fields ++ (layout.gap outer ++ '}' :: rest))))))
      read = some (.obj (Table.ofEntries (read.reverse ++ (key, v) :: fields)), rest) := by
  have colon : ∀ rest, skipSpace (':' :: rest) = ':' :: rest := fun _ => rfl
  have keyRead : ∀ (key : String) rest,
      readString (key.toList.flatMap strict.escape ++ '"' :: rest) [] = some (key, rest) := by
    intro key rest
    rw [readString_write, List.reverse_nil, List.nil_append, String.ofList_toList]
  induction fields generalizing key v fuel blank read with
  | nil =>
    obtain ⟨fuel, rfl⟩ : ∃ less, fuel = less + 1 := ⟨fuel - 1, by omega⟩
    have first : layout.ReadsBack depth v := each (key, v) List.mem_cons_self
    have closes := layout.gap_blank outer
    rw [writeFields, List.append_nil] at enough
    rw [readFields, writeString, List.cons_append, skipSpace_mark blanks rfl]
    simp only [List.append_assoc, List.singleton_append, keyRead, colon]
    rw [readValue_blank layout.space_blank, writeFields, List.nil_append,
      first indent fuel _ (by omega) (follows_blank closes (by decide) rest)]
    simp only [skipSpace_mark closes (show isSpace '}' = false from rfl), List.reverse_cons]
  | cons next fields ih =>
    obtain ⟨name, w⟩ := next
    obtain ⟨fuel, rfl⟩ : ∃ less, fuel = less + 1 := ⟨fuel - 1, by omega⟩
    have first : layout.ReadsBack depth v := each (key, v) List.mem_cons_self
    simp only [writeFields, List.length_append, List.length_cons] at enough
    rw [readFields, writeString, List.cons_append, skipSpace_mark blanks rfl]
    simp only [List.append_assoc, List.singleton_append, keyRead, colon]
    rw [readValue_blank layout.space_blank, writeFields, List.cons_append,
      first indent fuel _ (by omega) (follows_cons (by decide) _)]
    have comma : ∀ rest, skipSpace (',' :: rest) = ',' :: rest := fun _ => rfl
    have enough' : 2 * (layout.write indent w ++ layout.writeFields indent fields).length < fuel := by
      rw [List.length_append]
      omega
    have others := ih (fun entry listed => each entry (List.mem_cons_of_mem _ listed)) enough'
      (layout.gap_blank indent) ((key, v) :: read)
    simp only [comma, List.append_assoc, List.cons_append]
    rw [others, List.reverse_cons, List.append_assoc, List.singleton_append]

/-- An array that is not empty is read by its items. -/
theorem readValue_items {blank : List Char} (blanks : ∀ c ∈ blank, isSpace c = true) {depth fuel : Nat}
    {c : Char} (opens : c ∈ openers) (rest : List Char) :
    readValue (fuel + 1) (depth + 1) ('[' :: (blank ++ c :: rest)) =
      readItems fuel depth (blank ++ c :: rest) [] := by
  have shown : ∀ c ∈ openers, isSpace c = false := by decide
  have notClose : ∀ c ∈ openers, c ≠ ']' := by decide
  have opened : ∀ rest, skipSpace ('[' :: rest) = '[' :: rest := fun _ => rfl
  rw [readValue]
  simp only [opened, skipSpace_mark blanks (shown c opens)]
  split
  · next same => exact absurd (List.cons.inj same).1 (notClose c opens)
  · rfl

/-- An object that is not empty is read by its entries. -/
theorem readValue_fields {blank : List Char} (blanks : ∀ c ∈ blank, isSpace c = true) (depth fuel : Nat)
    (rest : List Char) : readValue (fuel + 1) (depth + 1) ('{' :: (blank ++ '"' :: rest)) =
      readFields fuel depth (blank ++ '"' :: rest) [] := by
  have opened : ∀ rest, skipSpace ('{' :: rest) = '{' :: rest := fun _ => rfl
  rw [readValue]
  simp only [opened, skipSpace_mark blanks (show isSpace '"' = false from rfl)]
  rfl

/-- In any layout, a value that documents can hold is read as it was written. -/
theorem readValue_write {depth : Nat} {v : Value} (fits : Fits depth v) : layout.ReadsBack depth v := by
  induction fits with
  | null depth =>
    intro indent fuel rest enough follows
    obtain ⟨fuel, rfl⟩ := fuel_succ (.null depth) enough
    rfl
  | bool depth b =>
    intro indent fuel rest enough follows
    obtain ⟨fuel, rfl⟩ := fuel_succ (.bool depth b) enough
    cases b <;> rfl
  | int depth least greatest =>
    intro indent fuel rest enough follows
    obtain ⟨fuel, rfl⟩ := fuel_succ (.int depth least greatest) enough
    exact readValue_int least greatest follows
  | str depth s =>
    intro indent fuel rest enough follows
    obtain ⟨fuel, rfl⟩ := fuel_succ (.str depth s) enough
    show readValue (fuel + 1) depth (writeString strict s ++ rest) = _
    rw [writeString, List.cons_append, List.append_assoc, List.singleton_append]
    show (readString _ []).map _ = _
    rw [readString_write, List.reverse_nil, List.nil_append, String.ofList_toList, Option.map_some]
  | @arr depth items each ih =>
    intro indent fuel rest enough follows
    obtain ⟨fuel, rfl⟩ := fuel_succ (Fits.arr each) enough
    -- An array without items is written without blanks, in any layout.
    cases items with
    | nil => rfl
    | cons item items =>
      simp only [write, List.length_cons, List.length_append, List.length_nil] at enough
      have enough' : 2 * (layout.write (indent + 1) item ++ layout.writeItems (indent + 1) items).length <
          fuel := by
        rw [List.length_append]
        omega
      have body := readItems_write ih enough' (layout.gap_blank (indent + 1)) indent rest []
      obtain ⟨c, tail, written, opens⟩ : ∃ c tail, layout.write (indent + 1) item = c :: tail ∧ c ∈ openers :=
        write_opens (each item List.mem_cons_self) (indent + 1)
      simp only [write, List.cons_append, List.append_assoc]
      rw [written, List.cons_append] at body ⊢
      rw [readValue_items (layout.gap_blank (indent + 1)) opens]
      exact body
  | @obj depth fields apart each ih =>
    intro indent fuel rest enough follows
    obtain ⟨fuel, rfl⟩ := fuel_succ (Fits.obj apart each) enough
    cases fields with
    | nil => rfl
    | cons entry fields =>
      obtain ⟨key, v⟩ := entry
      simp only [write, List.length_cons, List.length_append, List.length_nil] at enough
      have enough' : 2 * (layout.write (indent + 1) v ++ layout.writeFields (indent + 1) fields).length <
          fuel := by
        rw [List.length_append]
        omega
      have body := readFields_write ih enough' (layout.gap_blank (indent + 1)) indent rest []
      rw [List.reverse_nil, List.nil_append, Table.ofEntries_eq apart, writeString, List.cons_append] at body
      simp only [write, writeString, List.cons_append, List.append_assoc] at body ⊢
      rw [readValue_fields (layout.gap_blank (indent + 1))]
      exact body

/-- The text of a value that documents can hold denotes it, in any layout. -/
theorem parse?_write {v : Value} (fits : Fits maxDepth v) (layout : Layout) :
    parse? (String.ofList (layout.write 0 v)) = some v := by
  have readsBack : layout.ReadsBack maxDepth v := readValue_write fits
  have read := readsBack 0 (2 * (layout.write 0 v).length + 2) [] (Nat.le_add_right _ 2) (by rintro c ⟨⟩)
  rw [List.append_nil] at read
  simp only [parse?, String.toList_ofList, read]
  rfl

end Layout

/-- The compact text of a value that documents can hold denotes it. -/
theorem parse?_compact {v : Value} (fits : Fits maxDepth v) : parse? (compact v) = some v := by
  rw [compact, ← write_dense 0]
  exact Layout.parse?_write fits .dense

/-- So does its text over several lines. -/
theorem parse?_pretty {v : Value} (fits : Fits maxDepth v) : parse? (pretty v) = some v := by
  rw [pretty, ← write_indented 0]
  exact Layout.parse?_write fits .indented

end Json

/-! ## Media types -/

/-- A value that documents can hold is decoded from its JSON, written on one line or over several, and is
what its line denotes as a literal. -/
theorem Media.decode?_encode {v : Value} (fits : Json.Fits 127 v) :
    Media.json.decode? (Media.json.encode v) = some v ∧
      parseLiteral? (Media.json.encode v) = some v ∧
      Media.json.decode? (Media.hjson.encode v) = some v := by
  have dense : Media.json.decode? (Media.json.encode v) = some v := Json.parse?_compact fits
  refine ⟨dense, ?_, Json.parse?_pretty fits⟩
  rw [parseLiteral?, show Json.parse? (Media.json.encode v) = some v from dense]

/-- The greatest and the least integer, under keys that are out of order and beside each other in a list; a
string of characters that are escaped, by letter and by code, and of others that are not. -/
theorem Media.decode?_encode_escaped :
    let v : Value := .obj [
      ("z", .arr [.num (.int 0xffffffffffffffff), .num (.int (-0x8000000000000000)), .arr []]),
      ("\"\\\n\x01\x7fé😀", .obj [("a", .obj []), ("", .null)])]
    Json.Fits 127 v ∧ Media.json.decode? (Media.json.encode v) = some v ∧
      parseLiteral? (Media.json.encode v) = some v ∧ Media.json.decode? (Media.hjson.encode v) = some v := by
  intro v
  have numbers : ∀ item ∈
      [.num (.int 0xffffffffffffffff), .num (.int (-0x8000000000000000)), .arr []], Json.Fits 125 item :=
    List.forall_mem_cons.mpr ⟨.int _ (by decide) (by decide),
      List.forall_mem_cons.mpr ⟨.int _ (by decide) (by decide),
        List.forall_mem_singleton.mpr (.arr nofun)⟩⟩
  have inner : ∀ entry ∈ [("a", .obj []), ("", .null)], Json.Fits 125 entry.2 :=
    List.forall_mem_cons.mpr ⟨.obj List.nodup_nil nofun, List.forall_mem_singleton.mpr (.null _)⟩
  have fits : Json.Fits 127 v :=
    .obj (by decide) (List.forall_mem_cons.mpr ⟨.arr numbers,
      List.forall_mem_singleton.mpr (.obj (by decide) inner)⟩)
  exact ⟨fits, Media.decode?_encode fits⟩

end DocMachine
