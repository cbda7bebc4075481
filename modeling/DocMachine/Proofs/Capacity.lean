import DocMachine.Proofs.Padding
import DocMachine.Proofs.Templates

/-!
# Fills that no text can hold

A width is read from any number of digits, and no text can hold as much fill as the greatest widths ask
for. Filling a format string ends the program there.

* `Format.Safe`: a result that asks for no such fill.
* `Format.Field.Overfills`: a field asks for too much fill, when it is filled with a value.
* `Format.Template.Meets`: filling a template comes to a field, with a value for it.
* `Turn.Overflows`: taking up an op ends the program because of such a fill.

Results:
1. `Format.Template.parse_safe` and `Format.Spec.parse_safe`: reading is safe.
2. `Format.Template.renderField_capacity` and `Format.Template.renderFrom_capacity`: what filling comes
   to when it is not.
3. `Frame.format_overflows`: the op ends the program exactly when it comes to such a field.
-/

namespace DocMachine

namespace Format

/-- The result is not that a text cannot hold some fill. -/
def Safe {α : Type} (result : Except TemplateFault α) : Prop :=
  result ≠ .error .capacity

namespace Safe

variable {α β : Type}

theorem ok (a : α) : Safe (.ok a) := nofun

theorem error {fault : TemplateFault} (other : fault ≠ .capacity) :
    Safe (.error fault : Except TemplateFault α) :=
  fun same => other (Except.error.inj same)

theorem bind {result : Except TemplateFault α} {rest : α → Except TemplateFault β}
    (first : Safe result) (second : ∀ a, Safe (rest a)) : Safe (result >>= rest) := by
  cases result with
  | error fault => exact fun same => first (congrArg Except.error (Except.error.inj same))
  | ok a => exact second a

theorem map {result : Except TemplateFault α} (safe : Safe result) (f : α → β) :
    Safe (result.map f) := by
  cases result with
  | error fault => exact fun same => safe (congrArg Except.error (Except.error.inj same))
  | ok a => exact .ok (f a)

/-- What is safe is done, if something after it is not. -/
theorem past {result : Except TemplateFault α} {rest : α → Except TemplateFault β}
    (safe : Safe result) (failed : (result >>= rest) = .error .capacity) :
    ∃ a, result = .ok a ∧ rest a = .error .capacity := by
  cases result with
  | error fault => exact absurd (congrArg Except.error (Except.error.inj failed)) safe
  | ok a => exact ⟨a, rfl, failed⟩

end Safe

/-! ## Reading -/

namespace Field

theorem accessors_safe (fuel : Nat) (chars : List Char) : Safe (accessors fuel chars) := by
  fun_induction accessors fuel chars with
  | case1 | case2 => exact .ok _
  | case3 _ _ _ _ _ ih => exact ih.map _
  | case4 _ _ _ _ _ ih => exact ih.map _
  | case5 | case6 => exact .error nofun

theorem conversionOf_safe (chars : List Char) : Safe (conversionOf chars) := by
  unfold conversionOf
  split
  · exact .ok _
  · exact .ok _
  · exact .error nofun

theorem parse_safe (chars : List Char) : Safe (Field.parse chars) := by
  refine .bind (conversionOf_safe _) fun split => .bind (accessors_safe _ _) fun path => .ok _

end Field

namespace Template

theorem fieldBody_safe (chars : List Char) : Safe (fieldBody chars) := by
  fun_induction fieldBody chars with
  | case1 => exact .error nofun
  | case2 => exact .ok _
  | case3 => exact .error nofun
  | case4 _ _ _ _ ih => exact ih.map _

theorem pieces_safe (fuel : Nat) (chars : List Char) : Safe (pieces fuel chars) := by
  fun_induction pieces fuel chars with
  | case1 | case2 => exact .ok _
  | case3 _ _ ih => exact ih.map _
  | case4 _ _ ih => exact ih.map _
  | case5 => exact .error nofun
  | case6 _ rest _ ih =>
    exact (fieldBody_safe rest).bind fun split => (Field.parse_safe _).bind fun field => (ih _).map _
  | case7 _ _ _ _ _ _ _ ih => exact ih.map _

theorem parse_safe (text : String) : Safe (Template.parse text) :=
  pieces_safe _ _

theorem entry_safe (value : Value) (key : String) : Safe (entry value key) := by
  unfold entry
  dsimp only
  split
  · exact .ok _
  · exact .error nofun

theorem path_safe (path : List String) (base : Value) : Safe (path.foldlM entry base) := by
  induction path generalizing base with
  | nil => exact .ok base
  | cons key path ih =>
    rw [List.foldlM_cons]
    exact (entry_safe base key).bind ih

theorem convert_safe (value : Value) (conversion : Option Char) : Safe (convert value conversion) := by
  unfold convert
  split
  · exact .ok _
  · exact .ok _
  · exact .ok _
  · exact .error nofun

theorem positional_safe (args : List Value) (i : Nat) : Safe (positional args i) := by
  unfold positional
  split
  · exact .ok _
  · exact .error nofun

theorem argument_safe (args : List Value) (named : Scope) (numbering : Numbering) (arg : Arg) :
    Safe (argument args named numbering arg) := by
  unfold argument
  cases arg with
  | next =>
    cases numbering with
    | unset | automatic _ => exact (positional_safe args _).map _
    | manual => exact .error nofun
  | index i =>
    cases numbering with
    | unset | manual => exact (positional_safe args i).map _
    | automatic _ => exact .error nofun
  | name name =>
    dsimp only
    split
    · exact .ok _
    · exact .error nofun

end Template

namespace Spec

theorem readPrecision_safe (spec : Spec) (chars : List Char) : Safe (readPrecision spec chars) := by
  unfold readPrecision
  split
  · dsimp only
    split
    · exact .error nofun
    · exact .ok _
  · exact .ok _

theorem parse_safe (chars : List Char) : Safe (Spec.parse chars) := by
  refine .bind (readPrecision_safe _ _) fun read => ?_
  dsimp only
  split
  · exact .ok _
  · exact .ok _
  · exact .error nofun

end Spec

/-! ## Filling -/

/-- The field is laid out with too much fill, when it is filled with the value. -/
def Field.Overfills (field : Field) (base : Value) : Prop :=
  ∃ spec value rendered text, field.spec ≠ "" ∧ Spec.parse field.spec.toList = .ok spec ∧
    field.path.foldlM Template.entry base = .ok value ∧
    Template.convert value field.conversion = .ok rendered ∧
    (spec.withWidth 0).apply value rendered = .ok text ∧ spec.Overfills value text

namespace Template

/-- Filling a template comes to a field, with a value for it.

* `here`: the template starts with the field.
* `text`: text does not stop it.
* `past`: neither does a field that can be filled. -/
inductive Meets (args : List Value) (named : Scope) :
    Numbering → Template → Field → Value → Prop
  | here {numbering after : Numbering} {field : Field} {base : Value} (rest : Template) :
      argument args named numbering field.arg = .ok (base, after) →
      Meets args named numbering (.field field :: rest) field base
  | text {numbering : Numbering} {rest : Template} {field : Field} {base : Value} (c : Char) :
      Meets args named numbering rest field base →
      Meets args named numbering (.text c :: rest) field base
  | past {numbering after : Numbering} {rest : Template} {before field : Field} {held base : Value}
      {filled : String} : argument args named numbering before.arg = .ok (held, after) →
      renderField before held = .ok filled → Meets args named after rest field base →
      Meets args named numbering (.field before :: rest) field base

variable {args : List Value} {named : Scope} {numbering : Numbering} {template : Template}
  {field : Field} {base : Value}

theorem Meets.mem (meets : Meets args named numbering template field base) :
    .field field ∈ template := by
  induction meets with
  | here rest _ => exact List.mem_cons_self
  | text c _ ih => exact List.mem_cons_of_mem _ ih
  | past _ _ _ ih => exact List.mem_cons_of_mem _ ih

/-- Only the layout may ask for too much. -/
theorem renderField_capacity : renderField field base = .error .capacity ↔ field.Overfills base := by
  constructor
  · intro failed
    obtain ⟨value, found, failed⟩ := (path_safe field.path base).past failed
    obtain ⟨rendered, converted, failed⟩ := (convert_safe value field.conversion).past failed
    by_cases said : field.spec = ""
    · simp [said, pure, Except.pure] at failed
    · have filled : field.spec.isEmpty = false := by simpa using said
      simp only [filled] at failed
      obtain ⟨spec, accepted, failed⟩ := (Spec.parse_safe field.spec.toList).past failed
      cases bare : (spec.withWidth 0).apply value rendered with
      | error fault =>
        obtain ⟨other, layout⟩ := Spec.apply_error bare
        exact absurd (Except.error.inj (layout.symm.trans failed)) other
      | ok text =>
        refine ⟨spec, value, rendered, text, said, accepted, found, converted, bare, ?_⟩
        refine Classical.byContradiction fun fits => ?_
        by_cases many : spec.Overcounts value
        · cases (Spec.apply_overcounts bare many).symm.trans failed
        · obtain ⟨wide, layout, -⟩ := Spec.apply_fits bare fits many
          cases layout.symm.trans failed
  · rintro ⟨spec, value, rendered, text, said, accepted, found, converted, bare, overfills⟩
    rw [renderField_said said accepted, layOut, found]
    simp only [bind, Except.bind, converted]
    exact Spec.apply_exceeds bare overfills

/-- Filling is unsafe where it comes to a field that asks for too much. -/
theorem renderFrom_capacity : renderFrom args named numbering template = .error .capacity ↔
    ∃ field base, Meets args named numbering template field base ∧ field.Overfills base := by
  constructor
  · intro failed
    induction template generalizing numbering with
    | nil => cases failed
    | cons piece rest ih =>
      cases piece with
      | text c =>
        have later : renderFrom args named numbering rest = .error .capacity := by
          refine Classical.byContradiction fun safe => ?_
          exact Safe.bind safe (fun _ => .ok _) failed
        obtain ⟨field, base, meets, overfills⟩ := ih later
        exact ⟨field, base, .text c meets, overfills⟩
      | field field =>
        obtain ⟨⟨base, after⟩, taken, failed⟩ := (argument_safe args named numbering _).past failed
        cases shown : renderField field base with
        | error fault =>
          dsimp only at failed
          rw [shown] at failed
          obtain rfl : fault = .capacity := Except.error.inj failed
          exact ⟨field, base, .here rest taken, renderField_capacity.mp shown⟩
        | ok filled =>
          dsimp only at failed
          rw [shown] at failed
          have later : renderFrom args named after rest = .error .capacity := by
            refine Classical.byContradiction fun safe => ?_
            exact Safe.bind safe (fun _ => .ok _) failed
          obtain ⟨field', base', meets, overfills⟩ := ih later
          exact ⟨field', base', .past taken shown meets, overfills⟩
  · rintro ⟨field, base, meets, overfills⟩
    induction meets with
    | here rest taken =>
      rw [renderFrom, taken]
      simp only [bind, Except.bind, renderField_capacity.mpr overfills]
    | text c _ ih =>
      rw [renderFrom, ih overfills]
      rfl
    | past taken shown _ ih =>
      rw [renderFrom, taken]
      simp only [bind, Except.bind, shown, ih overfills]

/-- Nothing is unsafe if the widths that the template asks for are not too large for its fills. -/
theorem not_overfills_of_narrow
    (narrow : ∀ field spec, .field field ∈ template → Spec.parse field.spec.toList = .ok spec →
      spec.width * spec.filler.utf8Size ≤ Spec.maxBytes)
    (meets : Meets args named numbering template field base) : ¬ field.Overfills base := by
  rintro ⟨spec, value, rendered, text, -, accepted, -, -, -, overfills⟩
  exact Spec.not_overfills (narrow field spec meets.mem accepted) value text overfills

end Template

end Format

variable {ω π : Type}

/-- Taking up the op ends the program, as no text can hold what it fills in. -/
def Turn.Overflows (turn : Turn ω π) : Prop :=
  ∃ failure frame machine, turn = .stop (.failed failure) frame machine ∧
    failure.fault = .type (.template .capacity)

namespace Frame

open Format

theorem stops_overflows {frame left : Frame} {fault : Fault} {machine : Machine ω π} :
    (frame.stops fault left machine).Overflows ↔ fault = .type (.template .capacity) := by
  constructor
  · rintro ⟨failure, frame', machine', same, overflow⟩
    cases same
    exact overflow
  · exact fun overflow => ⟨_, _, _, rfl, overflow⟩

/-- The op needs a format string. -/
theorem dispatch_format_unread (host : Host ω π) (callee : Frame → Machine ω π → Run ω π)
    (name : String) (frame : Frame) (machine : Machine ω π) {scope : Scope}
    (unread : ∀ text template, scope.get? "fmt" = some (.str text) →
      Template.parse text ≠ .ok template) :
    ∃ fault, fault ≠ .type (.template .capacity) ∧
      frame.dispatch host callee name scope (.builtin .format) machine =
        frame.stops fault frame.spent machine := by
  cases given : scope.get? "fmt" with
  | some value =>
    cases value with
    | str text =>
      cases parsed : Template.parse text with
      | ok template => exact absurd parsed (unread text template given)
      | error fault =>
        refine ⟨.type (.template fault), ?_,
          dispatch_format_malformed host callee name frame machine given parsed⟩
        rintro ⟨⟩
        exact Template.parse_safe text parsed
    | null | bool _ | num _ | arr _ | obj _ =>
      refine ⟨.invalidParams name .formatNotText, by simp, ?_⟩
      show frame.perform (Format.fill scope) name machine = _
      rw [Format.fill, given, ← spent_fail rfl]
      rfl
  | none =>
    refine ⟨.invalidParams name (.missing "fmt"), by simp, ?_⟩
    show frame.perform (Format.fill scope) name machine = _
    rw [Format.fill, given, ← spent_fail rfl]
    rfl

/-- The op ends the program where filling the format string does. -/
theorem dispatch_format_overflows (host : Host ω π) (callee : Frame → Machine ω π → Run ω π)
    (name : String) (frame : Frame) (machine : Machine ω π) {scope : Scope} {text : String}
    {template : Template} (given : scope.get? "fmt" = some (.str text))
    (parsed : Template.parse text = .ok template) :
    (frame.dispatch host callee name scope (.builtin .format) machine).Overflows ↔
      template.positionalCount ≤ machine.stack.length ∧
      template.render (machine.stack.take template.positionalCount).reverse (scope.erase "fmt") =
        .error .capacity := by
  rw [dispatch_format host callee name frame machine given parsed]
  by_cases few : machine.stack.length < template.positionalCount
  · rw [if_pos few, stops_overflows]
    exact ⟨nofun, fun enough => absurd few (Nat.not_lt.mpr enough.1)⟩
  · rw [if_neg few]
    cases rendered : template.render (machine.stack.take template.positionalCount).reverse
      (scope.erase "fmt") with
    | ok filled =>
      dsimp only
      exact ⟨fun ⟨_, _, _, same, _⟩ => (by cases same), nofun⟩
    | error fault =>
      dsimp only
      rw [stops_overflows]
      constructor
      · rintro ⟨⟩
        exact ⟨Nat.not_lt.mp few, rfl⟩
      · rintro ⟨-, ⟨⟩⟩
        rfl

/-- Filling a format string ends the program exactly when it comes to a field that asks for more bytes of
fill at once than a text can have. So it does not, if all widths fit their fills. -/
theorem format_overflows (host : Host ω π) (callee : Frame → Machine ω π → Run ω π) (name : String)
    (frame : Frame) (machine : Machine ω π) (scope : Scope) :
    let turn := frame.dispatch host callee name scope (.builtin .format) machine
    (turn.Overflows ↔ ∃ text template, scope.get? "fmt" = some (.str text) ∧
      Template.parse text = .ok template ∧ template.positionalCount ≤ machine.stack.length ∧
      ∃ field base, Template.Meets (machine.stack.take template.positionalCount).reverse
        (scope.erase "fmt") .unset template field base ∧ field.Overfills base) ∧
    ((∀ text template, scope.get? "fmt" = some (.str text) → Template.parse text = .ok template →
      ∀ field spec, .field field ∈ template → Spec.parse field.spec.toList = .ok spec →
        spec.width * spec.filler.utf8Size ≤ Spec.maxBytes) → ¬ turn.Overflows) := by
  intro turn
  have exactly : turn.Overflows ↔ ∃ text template, scope.get? "fmt" = some (.str text) ∧
      Template.parse text = .ok template ∧ template.positionalCount ≤ machine.stack.length ∧
      ∃ field base, Template.Meets (machine.stack.take template.positionalCount).reverse
        (scope.erase "fmt") .unset template field base ∧ field.Overfills base := by
    constructor
    · intro overflows
      by_cases read : ∃ text template, scope.get? "fmt" = some (.str text) ∧
        Template.parse text = .ok template
      · obtain ⟨text, template, given, parsed⟩ := read
        have ⟨enough, failed⟩ :=
          (dispatch_format_overflows host callee name frame machine given parsed).mp overflows
        exact ⟨text, template, given, parsed, enough, Template.renderFrom_capacity.mp failed⟩
      · obtain ⟨fault, other, turns⟩ := dispatch_format_unread host callee name frame machine
          fun text template given parsed => read ⟨text, template, given, parsed⟩
        rw [show turn = frame.stops fault frame.spent machine from turns] at overflows
        exact absurd (stops_overflows.mp overflows) other
    · rintro ⟨text, template, given, parsed, enough, meets⟩
      exact (dispatch_format_overflows host callee name frame machine given parsed).mpr
        ⟨enough, Template.renderFrom_capacity.mpr meets⟩
  refine ⟨exactly, fun narrow overflows => ?_⟩
  obtain ⟨text, template, given, parsed, -, field, base, meets, overfills⟩ := exactly.mp overflows
  exact Template.not_overfills_of_narrow (narrow text template given parsed) meets overfills

/-- The greatest width there is asks for too many blanks. -/
theorem format_overflows_widest :
    let scope : Scope := [("fmt", .str "\x7bx:18446744073709551615\x7d"), ("x", .int 1)]
    let machine : Machine (World Unit) (Plug Empty) :=
      { registry := Registry.builtins, world := { guest := () } }
    (Frame.root.dispatch (Standard.host Standard.noGuests)
      (fun frame machine => ⟨.ok (), frame, machine⟩) "fstring" scope (.builtin .format)
      machine).Overflows := by
  intro scope machine
  have given : scope.get? "fmt" = some (.str "\x7bx:18446744073709551615\x7d") := rfl
  let field : Field := ⟨.name "x", [], none, "18446744073709551615"⟩
  have parsed : Template.parse "\x7bx:18446744073709551615\x7d" = .ok [.field field] := by cbv
  have overfills : field.Overfills (.int 1) := by
    refine ⟨{ width := 18446744073709551615 }, .int 1, "1", "1", by decide, by cbv, rfl, by cbv, by cbv,
      rfl, ?_⟩
    show Spec.maxBytes < (18446744073709551615 - 1) * 1
    decide
  have taken : Template.argument [] (scope.erase "fmt") .unset field.arg = .ok (.int 1, .unset) := rfl
  exact (dispatch_format_overflows _ _ _ _ _ given parsed).mpr
    ⟨Nat.le_refl 0, Template.renderFrom_capacity.mpr ⟨field, .int 1, .here [] taken, overfills⟩⟩

end Frame

end DocMachine
