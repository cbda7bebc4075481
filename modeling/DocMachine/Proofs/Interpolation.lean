import DocMachine.Proofs.Templates

/-!
# Interpolation

A format string with plain fields, which only say whether the next value of the stack or the parameter
of a name goes there, comes to its text with the values in it.

* `Format.Name`: a name that a plain field may have.
* `Format.Hole`: a plain field.
* `Format.Binds`: the values that holes get, from the arguments and from the parameters.

Results:
1. `Format.Layout.ofHoles`: a format string with plain fields is read as such.
2. `Format.Template.renderFrom_holes`: filling it, given the arguments.
3. `Frame.format_interpolates`: what the op does, for any text and any stack.
-/

namespace DocMachine

namespace Format

/-- The name has nothing in it that means something in a field, does not count as an index, and is not
that of the format string itself. -/
structure IsPlain (name : String) : Prop where
  nonempty : name ≠ ""
  clear : ∀ c ∈ name.toList, c ∉ ['\x7b', '\x7d', ':', '!', '.', '[']
  notIndex : index? name = none
  notFormat : name ≠ "fmt"

/-- The name of a plain field. -/
abbrev Name := { name : String // IsPlain name }

/-- A plain field: it takes the next argument, or the parameter of a name. -/
inductive Hole where
  | next
  | named (name : Name)

namespace Hole

/-- The field as it is written between its braces. -/
def body : Hole → String
  | next => ""
  | named name => name.val

/-- Whether the field takes an argument. -/
def isNext : Hole → Bool
  | next => true
  | named _ => false

/-- The argument that the field takes. -/
def arg : Hole → Arg
  | next => .next
  | named name => .name name.val

theorem clear (hole : Hole) :
    ∀ c ∈ hole.body.toList, c ∉ ['\x7b', '\x7d', ':', '!', '.', '['] := by
  cases hole with
  | next => exact fun c among => absurd among List.not_mem_nil
  | named name => exact name.property.clear

theorem argOf_body (hole : Hole) : Field.argOf hole.body = hole.arg := by
  cases hole with
  | next => rfl
  | named name =>
    have filled : name.val.isEmpty = false := by simpa using name.property.nonempty
    simp [Field.argOf, body, filled, name.property.notIndex, arg]

/-- Nothing in the field ends its name. -/
theorem inside (hole : Hole) :
    ∀ c ∈ hole.body.toList, c ≠ ':' ∧ c ≠ '!' ∧ Field.isAccessor c = false := by
  intro c among
  have outside := hole.clear c among
  simp only [List.mem_cons, List.not_mem_nil, or_false, not_or] at outside
  obtain ⟨-, -, colon, mark, point, bracket⟩ := outside
  exact ⟨colon, mark, by simp [Field.isAccessor, point, bracket]⟩

/-- Nothing in the field ends the field. -/
theorem unbraced (hole : Hole) : ∀ c ∈ hole.body.toList, c ≠ '\x7b' ∧ c ≠ '\x7d' := by
  intro c among
  have outside := hole.clear c among
  simp only [List.mem_cons, not_or] at outside
  exact ⟨outside.1, outside.2.1⟩

theorem reads (hole : Hole) : Field.parse hole.body.toList = .ok ⟨hole.arg, [], none, ""⟩ := by
  have ends : ∀ c ∈ ([] : List Char).head?, c = ':' := by simp
  have parsed := Field.parse_append hole.inside ends
  rw [List.append_nil, String.ofList_toList, argOf_body] at parsed
  exact parsed

/-- The field with the text after it. -/
def slot (hole : Hole) (after : String) : Slot where
  body := hole.body.toList
  field := ⟨hole.arg, [], none, ""⟩
  after := after
  clear := hole.unbraced
  reads := hole.reads

end Hole

/-- Text with plain fields in it, each with the text after it. -/
def Layout.ofHoles (before : String) (holes : List (Hole × String)) : Layout :=
  ⟨before, holes.map fun entry => entry.1.slot entry.2⟩

/-- The number of fields that take an argument. -/
def nextCount (holes : List (Hole × String)) : Nat :=
  holes.countP fun entry => entry.1.isNext

/-- The fields get these values: the arguments in their order, and the parameters by name. -/
inductive Binds (scope : Scope) : List (Hole × String) → List Value → List Value → Prop
  | nil : Binds scope [] [] []
  | next {holes : List (Hole × String)} {args values : List Value} (after : String) (value : Value) :
      Binds scope holes args values →
      Binds scope ((.next, after) :: holes) (value :: args) (value :: values)
  | named {holes : List (Hole × String)} {args values : List Value} {name : Name} {value : Value}
      (after : String) : scope.get? name.val = some value → Binds scope holes args values →
      Binds scope ((.named name, after) :: holes) args (value :: values)

/-- The values of the fields, each with the text after it. -/
def filled : List (Hole × String) → List Value → String
  | (_, after) :: holes, value :: values => value.display ++ after ++ filled holes values
  | _, _ => ""

variable {scope : Scope} {holes : List (Hole × String)}

theorem Layout.ofHoles_count (before : String) (holes : List (Hole × String)) :
    (Layout.ofHoles before holes).template.positionalCount = nextCount holes := by
  rw [Layout.positionalCount_template, Layout.ofHoles, nextCount, List.countP_map]
  congr 1
  funext entry
  obtain ⟨hole, after⟩ := entry
  cases hole <;> rfl

/-- With as many arguments as there are fields for them, the fields get values. -/
theorem Binds.of_given {args : List Value}
    (given : ∀ name after, (Hole.named name, after) ∈ holes → scope.get? name.val ≠ none)
    (enough : args.length = nextCount holes) : ∃ values, Binds scope holes args values := by
  induction holes generalizing args with
  | nil =>
    obtain rfl := List.eq_nil_of_length_eq_zero enough
    exact ⟨[], .nil⟩
  | cons entry holes ih =>
    obtain ⟨hole, after⟩ := entry
    have given' : ∀ name after, (Hole.named name, after) ∈ holes → scope.get? name.val ≠ none :=
      fun name after among => given name after (List.mem_cons_of_mem _ among)
    cases hole with
    | next =>
      cases args with
      | nil => simp [nextCount, Hole.isNext] at enough
      | cons value args =>
        have enough' : args.length = nextCount holes := by
          simpa [nextCount, Hole.isNext] using enough
        obtain ⟨values, binds⟩ := ih given' enough'
        exact ⟨value :: values, .next after value binds⟩
    | named name =>
      obtain ⟨value, found⟩ := Option.ne_none_iff_exists'.mp (given name after List.mem_cons_self)
      have enough' : args.length = nextCount holes := by
        simpa [nextCount, Hole.isNext] using enough
      obtain ⟨values, binds⟩ := ih given' enough'
      exact ⟨value :: values, .named after found binds⟩

/-! ## Filling -/

/-- So many arguments were taken by position, and none by an index. -/
def Template.Numbering.HasTaken (numbering : Numbering) (count : Nat) : Prop :=
  numbering = .unset ∧ count = 0 ∨ numbering = .automatic count

namespace Template

theorem argument_next {taken : List Value} {numbering : Numbering}
    (counts : numbering.HasTaken taken.length) (args : List Value) (value : Value) (named : Scope) :
    ∃ after : Numbering, after.HasTaken (taken ++ [value]).length ∧
      argument (taken ++ value :: args) named numbering .next = .ok (value, after) := by
  refine ⟨.automatic (taken.length + 1), .inr (by simp), ?_⟩
  rcases counts with ⟨rfl, none⟩ | rfl
  · obtain rfl := List.eq_nil_of_length_eq_zero none
    rfl
  · simp [argument, positional, Except.map]

/-- Each field is filled with its value, when the arguments before it are `taken`. -/
theorem renderFrom_holes {named : Scope} {args values : List Value} (binds : Binds scope holes args values)
    (same : ∀ name : Name, named.get? name.val = scope.get? name.val) {taken : List Value}
    {numbering : Numbering} (counts : numbering.HasTaken taken.length) :
    renderFrom (taken ++ args) named numbering
      ((holes.map fun entry => entry.1.slot entry.2).flatMap Slot.pieces) =
      .ok (filled holes values) := by
  have plain : ∀ (hole : Hole) (after : String) (value : Value),
      renderField (hole.slot after).field value = .ok value.display := fun _ _ _ => rfl
  induction binds generalizing taken numbering with
  | nil => rfl
  | @next holes args values after value binds ih =>
    obtain ⟨numbering', counts', taking⟩ := argument_next counts args value named
    have rest := ih counts'
    rw [List.append_assoc, List.singleton_append] at rest
    rw [List.map_cons, List.flatMap_cons, renderFrom_slot taking (plain .next after value), rest]
    rfl
  | @named holes args values name value after found binds ih =>
    have taking : argument (taken ++ args) named numbering (.name name.val) =
        .ok (value, numbering) := by
      rw [argument, same name, found]
    rw [List.map_cons, List.flatMap_cons, renderFrom_slot taking (plain (.named name) after value),
      ih counts]
    rfl

end Template

end Format

namespace Frame

open Format

variable {ω π : Type}

/-- Filling a format string with plain fields fails only if there are too few values for the fields
that take one, and then leaves the stack as it is. Else it takes as many as there are such fields, the
deepest for the first one, and pushes the text with the values in it. -/
theorem format_interpolates (host : Host ω π) (callee : Frame → Machine ω π → Run ω π) (name : String)
    (frame : Frame) (machine : Machine ω π) {scope : Scope} (apart : scope.keys.Nodup)
    {before : String} {holes : List (Hole × String)}
    (format : scope.get? "fmt" = some (.str (Layout.ofHoles before holes).text))
    (given : ∀ name after, (Hole.named name, after) ∈ holes → scope.get? name.val ≠ none) :
    (machine.values.length < nextCount holes →
      frame.dispatch host callee name scope (.builtin .format) machine =
        frame.stops (.stackUnderflow (nextCount holes) machine.values.length) frame.spent machine) ∧
    ∀ under args, machine.values = under ++ args → args.length = nextCount holes →
      ∃ values, Binds scope holes args values ∧
        frame.dispatch host callee name scope (.builtin .format) machine =
          .next frame.spent
            { machine with stack := (under ++ [Value.str (before ++ filled holes values)]).reverse } := by
  have count := Layout.ofHoles_count before holes
  constructor
  · intro few
    rw [Machine.values, List.length_reverse] at few ⊢
    rw [dispatch_format host callee name frame machine format (Layout.parse_text _), count, if_pos few]
  · intro under args splits enough
    obtain ⟨values, binds⟩ := Binds.of_given given enough
    refine ⟨values, binds, ?_⟩
    have stack : machine.stack = args.reverse ++ under.reverse := by
      rw [← List.reverse_append, ← splits, Machine.values, List.reverse_reverse]
    have erased : ∀ name : Name, (scope.erase "fmt").get? name.val = scope.get? name.val := fun name => by
      rw [Table.get?_erase apart, if_neg (Ne.symm name.property.notFormat)]
    have rendered : (Layout.ofHoles before holes).template.render args (scope.erase "fmt") =
        .ok (before ++ filled holes values) := by
      have rest : Template.renderFrom ([] ++ args) (scope.erase "fmt") .unset _ = _ :=
        Template.renderFrom_holes binds erased (.inl ⟨rfl, rfl⟩)
      rw [List.nil_append] at rest
      rw [Template.render, Layout.template, Template.renderFrom_text, Layout.ofHoles, rest]
      simp [Except.map]
    rw [List.reverse_append]
    exact dispatch_format_filled host callee name frame machine format (Layout.parse_text _) stack
      (enough.trans count.symm) rendered

/-- Braces of the text touch a field on either side, and the field takes the value at the top only. -/
theorem format_interpolates_braces :
    let holes : List (Hole × String) :=
      [(.next, "\x7d "), (.named ⟨"x", by decide, by simp, by cbv, by decide⟩, "")]
    let scope : Scope := [("fmt", .str "\x7b\x7b\x7b\x7d\x7d\x7d \x7bx\x7d"), ("x", .str "y")]
    let machine : Machine (World Unit) (Plug Empty) :=
      { registry := Registry.builtins, stack := [.int 7, .null], world := { guest := () } }
    scope.keys.Nodup ∧ scope.get? "fmt" = some (.str (Layout.ofHoles "\x7b" holes).text) ∧
      (∀ name after, (Hole.named name, after) ∈ holes → scope.get? name.val ≠ none) ∧
      Frame.root.dispatch (Standard.host Standard.noGuests)
        (fun frame machine => ⟨.ok (), frame, machine⟩) "fstring" scope (.builtin .format) machine =
        .next Frame.root.spent { machine with stack := [.str "\x7b7\x7d y", .null] } := by
  intro holes scope machine
  have apart : scope.keys.Nodup := by decide
  have format : scope.get? "fmt" = some (.str (Layout.ofHoles "\x7b" holes).text) := by cbv
  have given : ∀ name after, (Hole.named name, after) ∈ holes → scope.get? name.val ≠ none := by
    simp [holes, scope, Table.get?]
  refine ⟨apart, format, given, ?_⟩
  obtain ⟨values, binds, done⟩ := (format_interpolates (Standard.host Standard.noGuests)
    (fun frame machine => ⟨.ok (), frame, machine⟩) "fstring" .root machine apart format given).2
    [.null] [.int 7] rfl rfl
  simp only [holes] at binds
  cases binds with
  | next _ _ binds =>
    cases binds with
    | named _ found binds =>
      cases binds
      cases found
      have text : "\x7b" ++ filled holes [.int 7, .str "y"] = "\x7b7\x7d y" := by cbv
      rw [text] at done
      exact done

end Frame

end DocMachine
