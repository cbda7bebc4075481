import DocMachine.Proofs.Interpolation

/-!
# Keys in brackets

A field may lead into its argument by keys in brackets. But a bracket does not keep a key together: the
first colon of the field begins the specifier and the first exclamation mark the conversion, in whatever
key they stand, and then what is left before them breaks off within a bracket.

* `Format.Key`: a key that a bracket may hold.
* `Format.brackets`: keys, each in brackets.
* `Format.BreaksOff`: keys in brackets, and a bracket that is not closed.
* `Format.nest`: a value, and objects around it with a key each.

Results:
1. `Format.Field.parse_brackets`: keys without marks are read one by one.
2. `Format.Field.parse_breaksOff`: what breaks off is refused.
3. `Frame.format_reaches`: the op shows the value that the keys lead to, unless a mark stands in one of
   them.
-/

namespace DocMachine

namespace Format

/-- A key has none of the characters that close a bracket or a field, or open another field. -/
abbrev Key := { key : String // ∀ c ∈ key.toList, c ∉ [']', '\x7b', '\x7d'] }

namespace Key

/-- The key in brackets. -/
def bracket (key : Key) : List Char :=
  '[' :: (key.val.toList ++ [']'])

/-- None of the marks that begin another part of the field stands in the key. -/
def IsWhole (key : Key) : Prop :=
  ':' ∉ key.val.toList ∧ '!' ∉ key.val.toList

theorem not_close (key : Key) : ']' ∉ key.val.toList :=
  fun among => key.property _ among (by decide)

end Key

/-- The keys, each in brackets. -/
def brackets (keys : List Key) : List Char :=
  keys.flatMap Key.bracket

/-- Keys in brackets, after which one more bracket is opened and not closed. -/
def BreaksOff (chars : List Char) : Prop :=
  ∃ (keys : List Key) (rest : List Char), ']' ∉ rest ∧ chars = brackets keys ++ '[' :: rest

/-- The format string with one field: a parameter, and keys in brackets that lead into it. -/
def leading (name : Name) (keys : List Key) : String :=
  String.ofList ('\x7b' :: (name.val.toList ++ brackets keys ++ ['\x7d']))

/-- The value in objects, one for each key. -/
def nest : List Key → Value → Value
  | [], value => value
  | key :: keys, value => .obj [(key.val, nest keys value)]

theorem brackets_cons (key : Key) (keys : List Key) :
    brackets (key :: keys) = key.bracket ++ brackets keys :=
  List.flatMap_cons

theorem brackets_head {rest : List Char} (ends : ∀ c ∈ rest.head?, c = '[') (keys : List Key) :
    ∀ c ∈ (brackets keys ++ rest).head?, c = '[' := by
  cases keys with
  | nil => exact ends
  | cons key keys =>
    rintro c ⟨⟩
    rfl

/-! ## Marks -/

section

variable {mark : Char} (other : mark ≠ '[' ∧ mark ≠ ']')
include other

theorem Key.not_mem_bracket {key : Key} (free : mark ∉ key.val.toList) : mark ∉ key.bracket := by
  intro among
  rcases List.mem_cons.mp among with isOpen | among
  · exact other.1 isOpen
  · rcases List.mem_append.mp among with inside | isClose
    · exact free inside
    · exact other.2 (List.mem_singleton.mp isClose)

theorem not_mem_brackets {keys : List Key} (free : ∀ key ∈ keys, mark ∉ key.val.toList) :
    mark ∉ brackets keys := by
  intro among
  obtain ⟨key, given, inside⟩ := List.mem_flatMap.mp among
  exact key.not_mem_bracket other (free key given) inside

/-- A bracket with the mark breaks off. -/
theorem breaksOff_takeWhile {keys : List Key} (marked : ∃ key ∈ keys, mark ∈ key.val.toList)
    (rest : List Char) : BreaksOff ((brackets keys ++ rest).takeWhile (· ≠ mark)) := by
  induction keys with
  | nil => exact absurd marked (by simp)
  | cons key keys ih =>
    rw [brackets_cons, List.append_assoc]
    by_cases free : mark ∉ key.val.toList
    · obtain ⟨key', among, inside⟩ := marked
      have later : key' ∈ keys := by
        rcases List.mem_cons.mp among with rfl | later
        · exact absurd inside free
        · exact later
      obtain ⟨before, front, open', same⟩ := ih ⟨key', later, inside⟩
      refine ⟨key :: before, front, open', ?_⟩
      rw [takeWhile_append_free (key.not_mem_bracket other free), same, brackets_cons, List.append_assoc]
    · obtain ⟨front, back, split, first⟩ := List.eq_append_cons_of_mem (Classical.not_not.mp free)
      have inside : ']' ∉ front := fun among =>
        key.not_close (split ▸ List.mem_append_left _ among)
      have passed : mark ∉ '[' :: front := List.not_mem_cons_of_ne_of_not_mem other.1 first
      refine ⟨[], front, inside, ?_⟩
      rw [Key.bracket, split, List.cons_append, List.append_assoc, List.append_assoc, ← List.cons_append]
      exact takeWhile_append_mark passed

/-- What breaks off does so still after a mark. -/
theorem BreaksOff.takeWhile {chars : List Char} (breaks : BreaksOff chars) :
    BreaksOff (chars.takeWhile (· ≠ mark)) := by
  obtain ⟨keys, rest, isOpen, rfl⟩ := breaks
  by_cases marked : ∃ key ∈ keys, mark ∈ key.val.toList
  · exact breaksOff_takeWhile other marked _
  · have free : ∀ key ∈ keys, mark ∉ key.val.toList :=
      fun key among inside => marked ⟨key, among, inside⟩
    have front : rest.takeWhile (· ≠ mark) <+: rest := List.takeWhile_prefix _
    refine ⟨keys, _, fun among => isOpen (front.subset among), ?_⟩
    rw [takeWhile_append_free (not_mem_brackets other free), List.takeWhile_cons_of_pos]
    exact decide_eq_true other.1.symm

end

/-- With a mark in a key, what is left before the conversion and the specifier breaks off. -/
theorem breaksOff_marked {keys : List Key} (marked : ∃ key ∈ keys, ¬ key.IsWhole) :
    BreaksOff (((brackets keys).takeWhile (· ≠ ':')).takeWhile (· ≠ '!')) := by
  rw [← List.append_nil (brackets keys)]
  by_cases colon : ∃ key ∈ keys, ':' ∈ key.val.toList
  · exact (breaksOff_takeWhile (by decide) colon []).takeWhile (by decide)
  · have free : ∀ key ∈ keys, ':' ∉ key.val.toList :=
      fun key among inside => colon ⟨key, among, inside⟩
    obtain ⟨key, among, notWhole⟩ := marked
    have inside : '!' ∈ key.val.toList :=
      Classical.byContradiction fun outside => notWhole ⟨free key among, outside⟩
    rw [takeWhile_append_free (not_mem_brackets (by decide) free)]
    exact breaksOff_takeWhile (by decide) ⟨key, among, inside⟩ []

/-! ## Reading -/

namespace Field

theorem accessors_bracket (fuel : Nat) (key : Key) (rest : List Char) :
    accessors (fuel + 1) (key.bracket ++ rest) = (accessors fuel rest).map (key.val :: ·) := by
  have closed : (key.val.toList ++ ']' :: rest).span (· ≠ ']') = (key.val.toList, ']' :: rest) :=
    span_append_mark key.not_close
  have whole : key.bracket ++ rest = '[' :: (key.val.toList ++ ']' :: rest) := by simp [Key.bracket]
  rw [whole, accessors, closed]
  simp only [String.ofList_toList]

/-- Keys in brackets are read one by one, whatever comes after them. -/
theorem accessors_brackets (fuel : Nat) (keys : List Key) (rest : List Char) :
    accessors (keys.length + fuel) (brackets keys ++ rest) =
      (accessors fuel rest).map (keys.map (·.val) ++ ·) := by
  induction keys with
  | nil =>
    show accessors (0 + fuel) rest = _
    rw [Nat.zero_add]
    cases accessors fuel rest <;> rfl
  | cons key keys ih =>
    rw [brackets_cons, List.append_assoc, List.length_cons, Nat.add_right_comm, accessors_bracket, ih]
    cases accessors fuel rest <;> rfl

theorem length_le_brackets (keys : List Key) : keys.length ≤ (brackets keys).length := by
  induction keys with
  | nil => exact Nat.le_refl 0
  | cons key keys ih =>
    rw [brackets_cons, List.length_append, List.length_cons, Nat.add_comm]
    exact Nat.add_le_add (Nat.succ_pos _) ih

theorem accessors_whole (keys : List Key) :
    accessors (brackets keys).length (brackets keys) = .ok (keys.map (·.val)) := by
  obtain ⟨left, enough⟩ := Nat.exists_eq_add_of_le (length_le_brackets keys)
  have read := accessors_brackets left keys []
  rw [List.append_nil, ← enough] at read
  rw [read]
  cases left <;> simp [accessors, Except.map]

/-- A bracket that is not closed is refused, after the ones before it were read. -/
theorem accessors_breaksOff {chars : List Char} (breaks : BreaksOff chars) :
    accessors chars.length chars = .error .unclosedIndex := by
  obtain ⟨keys, rest, isOpen, rfl⟩ := breaks
  obtain ⟨left, enough⟩ := Nat.exists_eq_add_of_le (length_le_brackets keys)
  have fuel : (brackets keys ++ '[' :: rest).length = keys.length + (left + rest.length + 1) := by
    rw [List.length_append, List.length_cons, enough, Nat.add_assoc, Nat.add_assoc]
  have unclosed : rest.span (· ≠ ']') = (rest, []) := span_free isOpen
  rw [fuel, accessors_brackets, accessors, unclosed]
  rfl

/-- The conversion is one character, or the field is refused. -/
theorem conversionOf_cases (chars : List Char) : conversionOf chars = .error .badConversion ∨
    ∃ letter, conversionOf chars = .ok (chars.takeWhile (· ≠ '!'), letter) := by
  rw [conversionOf, List.span_eq_takeWhile_dropWhile]
  split
  · next same =>
    obtain ⟨rfl, -⟩ := Prod.mk.inj same
    exact .inr ⟨_, rfl⟩
  · next same =>
    obtain ⟨rfl, -⟩ := Prod.mk.inj same
    exact .inr ⟨_, rfl⟩
  · exact .inl rfl

section

variable {name : List Char} (clear : ∀ c ∈ name, c ≠ ':' ∧ c ≠ '!' ∧ isAccessor c = false)
include clear

theorem span_accessor {rest : List Char} (ends : ∀ c ∈ rest.head?, c = '[') (keys : List Key) :
    (name ++ (brackets keys ++ rest)).span (!isAccessor ·) = (name, brackets keys ++ rest) := by
  refine span_append (fun c among => by simp [(clear c among).2.2]) fun c ahead => ?_
  rw [brackets_head ends keys c ahead]
  rfl

/-- A name with keys in brackets is read as it is, if no mark stands in a key. -/
theorem parse_brackets {keys : List Key} (whole : ∀ key ∈ keys, key.IsWhole) :
    Field.parse (name ++ brackets keys) =
      .ok ⟨argOf (String.ofList name), keys.map (·.val), none, ""⟩ := by
  have noColon : ':' ∉ name ++ brackets keys :=
    List.not_mem_append (fun among => (clear _ among).1 rfl)
      (not_mem_brackets (by decide) fun key given => (whole key given).1)
  have noMark : '!' ∉ name ++ brackets keys :=
    List.not_mem_append (fun among => (clear _ among).2.1 rfl)
      (not_mem_brackets (by decide) fun key given => (whole key given).2)
  have specifier : (name ++ brackets keys).span (· ≠ ':') = (name ++ brackets keys, []) :=
    span_free noColon
  have conversion : (name ++ brackets keys).span (· ≠ '!') = (name ++ brackets keys, []) :=
    span_free noMark
  have ends : ∀ c ∈ ([] : List Char).head?, c = '[' := nofun
  have accessor := span_accessor clear ends keys
  rw [List.append_nil] at accessor
  rw [Field.parse, specifier]
  dsimp only
  rw [conversionOf, conversion]
  dsimp only [bind, Except.bind]
  rw [accessor]
  dsimp only
  rw [accessors_whole]
  rfl

/-- What breaks off before a mark is refused. -/
theorem parse_breaksOff {tail : List Char}
    (breaks : BreaksOff ((tail.takeWhile (· ≠ ':')).takeWhile (· ≠ '!'))) :
    ∃ fault ∈ [TemplateFault.unclosedIndex, .badConversion],
      Field.parse (name ++ tail) = .error fault := by
  have noColon : ':' ∉ name := fun among => (clear _ among).1 rfl
  have noMark : '!' ∉ name := fun among => (clear _ among).2.1 rfl
  rw [Field.parse, List.span_eq_takeWhile_dropWhile, takeWhile_append_free noColon]
  dsimp only
  rcases conversionOf_cases (name ++ tail.takeWhile (· ≠ ':')) with failed | ⟨letter, converted⟩
  · exact ⟨.badConversion, by simp, by rw [failed]; rfl⟩
  · rw [takeWhile_append_free noMark] at converted
    refine ⟨.unclosedIndex, by simp, ?_⟩
    rw [converted]
    dsimp only [bind, Except.bind]
    generalize (tail.takeWhile (· ≠ ':')).takeWhile (· ≠ '!') = cut at breaks
    have refused := accessors_breaksOff breaks
    obtain ⟨keys, rest, -, rfl⟩ := breaks
    have ends : ∀ c ∈ ('[' :: rest).head?, c = '[' := by simp
    rw [span_accessor clear ends]
    dsimp only
    rw [refused]

end

end Field

namespace Template

/-- The keys lead to the value. -/
theorem path_nest (keys : List Key) (value : Value) :
    (keys.map (·.val)).foldlM entry (nest keys value) = .ok value := by
  induction keys with
  | nil => rfl
  | cons key keys ih =>
    have found : entry (nest (key :: keys) value) key.val = .ok (nest keys value) := by
      simp [entry, nest, Table.get?]
    rw [List.map_cons, List.foldlM_cons, found]
    exact ih

theorem renderField_nest (arg : Arg) (keys : List Key) (value : Value) :
    renderField ⟨arg, keys.map (·.val), none, ""⟩ (nest keys value) = .ok value.display := by
  rw [renderField, path_nest]
  rfl

end Template

/-- A format string with one field is read as the field is. -/
theorem parse_leading (name : Name) (keys : List Key) :
    Template.parse (leading name keys) =
      (Field.parse (name.val.toList ++ brackets keys)).map fun field => [.field field] := by
  have noOpen : '\x7b' ∉ brackets keys :=
    not_mem_brackets (by decide) fun key _ inside => key.property _ inside (by decide)
  have noClose : '\x7d' ∉ brackets keys :=
    not_mem_brackets (by decide) fun key _ inside => key.property _ inside (by decide)
  have clear : ∀ c ∈ name.val.toList ++ brackets keys, c ≠ '\x7b' ∧ c ≠ '\x7d' := by
    intro c among
    rcases List.mem_append.mp among with inName | inKeys
    · exact (Hole.named name).unbraced c inName
    · exact ⟨ne_of_mem_of_not_mem inKeys noOpen, ne_of_mem_of_not_mem inKeys noClose⟩
  rw [Template.parse, leading, String.toList_ofList, List.length_cons, Template.pieces_body clear]
  cases Field.parse (name.val.toList ++ brackets keys) with
  | error fault => rfl
  | ok field =>
    cases (name.val.toList ++ brackets keys ++ ['\x7d']).length <;> rfl

end Format

namespace Frame

open Format

variable {ω π : Type}

/-- A field with keys in brackets shows the value that they lead to, if neither a colon nor an exclamation
mark stands in a key. Otherwise it is refused, even though the keys lead to a value. -/
theorem format_reaches (host : Host ω π) (callee : Frame → Machine ω π → Run ω π) (name : String)
    (frame : Frame) (machine : Machine ω π) {scope : Scope} (apart : scope.keys.Nodup) (param : Name)
    (keys : List Key) (value : Value) (format : scope.get? "fmt" = some (.str (leading param keys)))
    (given : scope.get? param.val = some (nest keys value)) :
    ((∀ key ∈ keys, key.IsWhole) →
      frame.dispatch host callee name scope (.builtin .format) machine =
        .next frame.spent { machine with stack := .str value.display :: machine.stack }) ∧
    ((∃ key ∈ keys, ¬ key.IsWhole) →
      ∃ fault ∈ [TemplateFault.unclosedIndex, .badConversion],
        frame.dispatch host callee name scope (.builtin .format) machine =
          frame.stops (.type (.template fault)) frame.spent machine) := by
  have clear : ∀ c ∈ param.val.toList, c ≠ ':' ∧ c ≠ '!' ∧ Field.isAccessor c = false :=
    (Hole.named param).inside
  have parsed := parse_leading param keys
  constructor
  · intro whole
    have named : Field.argOf param.val = .name param.val := (Hole.named param).argOf_body
    rw [Field.parse_brackets clear whole, String.ofList_toList, named] at parsed
    have erased : (scope.erase "fmt").get? param.val = some (nest keys value) := by
      rw [Table.get?_erase apart, if_neg (Ne.symm param.property.notFormat), given]
    have rendered : Template.render [.field ⟨.name param.val, keys.map (·.val), none, ""⟩] []
        (scope.erase "fmt") = .ok value.display := by
      have taken : Template.argument [] (scope.erase "fmt") .unset (.name param.val) =
          .ok (nest keys value, .unset) := by rw [Template.argument, erased]
      rw [Template.render, Template.renderFrom, taken]
      simp only [bind, Except.bind, Template.renderField_nest, Template.renderFrom, pure, Except.pure,
        String.append_empty]
    exact dispatch_format_filled host callee name frame machine format parsed rfl rfl rendered
  · intro marked
    obtain ⟨fault, among, failed⟩ := Field.parse_breaksOff clear (breaksOff_marked marked)
    rw [failed] at parsed
    exact ⟨fault, among, dispatch_format_malformed host callee name frame machine format parsed⟩

/-- An empty key, and a key with characters that would begin an accessor elsewhere. -/
theorem format_reaches_nested :
    let param : Name := ⟨"p", by decide, by simp, by cbv, by decide⟩
    let keys : List Key := [⟨"", by simp⟩, ⟨".x[y", by simp⟩]
    let scope : Scope := [("fmt", .str "\x7bp[][.x[y]\x7d"), ("p", .obj [("", .obj [(".x[y", .null)])])]
    let machine : Machine (World Unit) (Plug Empty) :=
      { registry := Registry.builtins, world := { guest := () } }
    (scope.keys.Nodup ∧ scope.get? "fmt" = some (.str (leading param keys)) ∧
      scope.get? param.val = some (nest keys .null)) ∧ (∀ key ∈ keys, key.IsWhole) ∧
      Frame.root.dispatch (Standard.host Standard.noGuests)
        (fun frame machine => ⟨.ok (), frame, machine⟩) "fstring" scope (.builtin .format) machine =
        .next Frame.root.spent { machine with stack := [.str "null"] } := by
  intro param keys scope machine
  have apart : scope.keys.Nodup := by decide
  have format : scope.get? "fmt" = some (.str (leading param keys)) := by cbv
  have given : scope.get? param.val = some (nest keys .null) := rfl
  have whole : ∀ key ∈ keys, key.IsWhole := by simp [keys, Key.IsWhole]
  exact ⟨⟨apart, format, given⟩, whole, (format_reaches (Standard.host Standard.noGuests)
    (fun frame machine => ⟨.ok (), frame, machine⟩) "fstring" .root machine apart param keys .null format
    given).1 whole⟩

/-- A colon in a key begins the specifier, and leaves the bracket before it open. -/
theorem format_reaches_colon :
    let param : Name := ⟨"p", by decide, by simp, by cbv, by decide⟩
    let key : Key := ⟨"a:b", by simp⟩
    let scope : Scope := [("fmt", .str (leading param [key])), ("p", nest [key] (.int 1))]
    let machine : Machine (World Unit) (Plug Empty) :=
      { registry := Registry.builtins, world := { guest := () } }
    let turn := Frame.root.dispatch (Standard.host Standard.noGuests)
      (fun frame machine => ⟨.ok (), frame, machine⟩) "fstring" scope (.builtin .format) machine
    leading param [key] = "\x7bp[a:b]\x7d" ∧
      turn = Frame.root.stops (.type (.template .unclosedIndex)) Frame.root.spent machine ∧
      turn ≠ .next Frame.root.spent { machine with stack := [.str (Value.display (.int 1))] } := by
  intro param key scope machine turn
  have written : leading param [key] = "\x7bp[a:b]\x7d" := by cbv
  have failed : Template.parse (leading param [key]) = .error .unclosedIndex := by
    rw [written]
    cbv
  have refused : turn = Frame.root.stops (.type (.template .unclosedIndex)) Frame.root.spent machine :=
    dispatch_format_malformed _ _ _ _ _ rfl failed
  exact ⟨written, refused, fun same => by cases refused.symm.trans same⟩

end Frame

end DocMachine
