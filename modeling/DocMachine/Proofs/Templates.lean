import DocMachine.Proofs.Locality
import DocMachine.Proofs.Spans

/-!
# Reading and filling format strings

A format string is text with fields in it. In the text every brace is doubled, and a field has braces
only at its ends, so each part is read off by itself, whatever stands next to it.

* `Format.escape`: text as it is written in a format string.
* `Format.Slot`: a field as it is written and as it is read, with the text after it.
* `Format.Layout`: text and slots, as a format string and as a template.

Results:
1. `Format.Field.parse_append`, `Format.Template.pieces_body` and `Format.Template.pieces_escape`: how
   a field is read, and the text around it.
2. `Format.Layout.parse_text`: a format string is read as the parts that it was written from.
3. `Format.Template.renderFrom_text` and `Format.Template.renderFrom_slot`: how they are filled.
4. `Frame.dispatch_format_malformed`, `Frame.dispatch_format` and `Frame.dispatch_format_filled`: what the
   op does, without a template and given one.
-/

namespace DocMachine

namespace Format

/-- A character of text in a format string: a brace is doubled. -/
def escapeChar (c : Char) : List Char :=
  if c = '\x7b' ∨ c = '\x7d' then [c, c] else [c]

/-- Text in a format string. -/
def escape (text : List Char) : List Char :=
  text.flatMap escapeChar

/-- A field as it is written between its braces, how it is read, and the text after it. -/
structure Slot where
  body : List Char
  field : Field
  after : String
  clear : ∀ c ∈ body, c ≠ '\x7b' ∧ c ≠ '\x7d'
  reads : Field.parse body = .ok field

namespace Slot

/-- The field in braces, and the text after it. -/
def text (slot : Slot) : List Char :=
  '\x7b' :: (slot.body ++ '\x7d' :: escape slot.after.toList)

/-- The field and the characters after it. -/
def pieces (slot : Slot) : Template :=
  .field slot.field :: slot.after.toList.map .text

end Slot

/-- Text, and the fields in it. -/
structure Layout where
  before : String
  slots : List Slot

namespace Layout

/-- The format string. -/
def text (layout : Layout) : String :=
  String.ofList (escape layout.before.toList ++ layout.slots.flatMap Slot.text)

/-- The parts of the format string. -/
def template (layout : Layout) : Template :=
  layout.before.toList.map .text ++ layout.slots.flatMap Slot.pieces

end Layout

/-! ## Reading -/

/-- A name that nothing follows but a specifier is read as it is. -/
theorem Field.parse_append {chars tail : List Char}
    (clear : ∀ c ∈ chars, c ≠ ':' ∧ c ≠ '!' ∧ isAccessor c = false)
    (ends : ∀ c ∈ tail.head?, c = ':') :
    Field.parse (chars ++ tail) =
      .ok ⟨argOf (String.ofList chars), [], none, String.ofList tail.tail⟩ := by
  have specifier : (chars ++ tail).span (· ≠ ':') = (chars, tail) :=
    span_append (fun c among => decide_eq_true (clear c among).1) fun c ahead => by simp [ends c ahead]
  have conversion : chars.span (· ≠ '!') = (chars, []) :=
    span_free fun among => (clear _ among).2.1 rfl
  have accessor : chars.span (!isAccessor ·) = (chars, []) :=
    span_all fun c among => by simp [(clear c among).2.2]
  rw [Field.parse, specifier]
  dsimp only
  rw [conversionOf, conversion]
  dsimp only [bind, Except.bind]
  rw [accessor]
  rfl

namespace Template

variable {fuel : Nat} {body rest : List Char}

theorem fieldBody_append (clear : ∀ c ∈ body, c ≠ '\x7b' ∧ c ≠ '\x7d') :
    fieldBody (body ++ '\x7d' :: rest) = .ok (body, rest) := by
  induction body with
  | nil => rfl
  | cons c body ih =>
    obtain ⟨notOpen, notClose⟩ := clear c List.mem_cons_self
    rw [List.cons_append, fieldBody, ih fun c among => clear c (List.mem_cons_of_mem _ among)]
    · rfl
    · exact notClose
    · exact notOpen

/-- A field is read up to its closing brace. The brace that opens it is not doubled, as none follows. -/
theorem pieces_body (clear : ∀ c ∈ body, c ≠ '\x7b' ∧ c ≠ '\x7d') :
    pieces (fuel + 1) ('\x7b' :: (body ++ '\x7d' :: rest)) =
      Field.parse body >>= fun field => (pieces fuel rest).map (.field field :: ·) := by
  have single : ∀ more, body ++ '\x7d' :: rest ≠ '\x7b' :: more := by
    intro more same
    cases body with
    | nil => simp at same
    | cons c body =>
      obtain ⟨rfl, -⟩ := List.cons.inj same
      exact (clear _ List.mem_cons_self).1 rfl
  rw [pieces]
  · rw [fieldBody_append clear]
    rfl
  · exact single

theorem pieces_field (clear : ∀ c ∈ body, c ≠ '\x7b' ∧ c ≠ '\x7d') {field : Field}
    (reads : Field.parse body = .ok field) :
    pieces (fuel + 1) ('\x7b' :: (body ++ '\x7d' :: rest)) =
      (pieces fuel rest).map (.field field :: ·) := by
  rw [pieces_body clear, reads]
  rfl

theorem pieces_char {c : Char} :
    pieces (fuel + 1) (escapeChar c ++ rest) = (pieces fuel rest).map (.text c :: ·) := by
  unfold escapeChar
  by_cases isOpen : c = '\x7b'
  · subst isOpen
    rfl
  · by_cases isClose : c = '\x7d'
    · subst isClose
      rfl
    · rw [if_neg (by simp [isOpen, isClose]), List.singleton_append, pieces]
      all_goals simp [isOpen, isClose]

/-- Text is read a character at a time, whatever comes after it. -/
theorem pieces_escape (text : List Char) :
    pieces (text.length + fuel) (escape text ++ rest) =
      (pieces fuel rest).map (text.map .text ++ ·) := by
  induction text with
  | nil =>
    show pieces (0 + fuel) rest = _
    rw [Nat.zero_add]
    cases pieces fuel rest <;> rfl
  | cons c text ih =>
    have first : escape (c :: text) ++ rest = escapeChar c ++ (escape text ++ rest) := by
      rw [escape, List.flatMap_cons, List.append_assoc]
      rfl
    rw [first, List.length_cons, Nat.add_right_comm, pieces_char, ih]
    cases pieces fuel rest <;> rfl

theorem length_le_escape (text : List Char) : text.length ≤ (escape text).length := by
  induction text with
  | nil => exact Nat.le_refl 0
  | cons c text ih =>
    have doubled : 1 ≤ (escapeChar c).length := by
      unfold escapeChar
      split <;> simp
    rw [escape, List.flatMap_cons, List.length_append, List.length_cons]
    exact Nat.add_comm 1 text.length ▸ Nat.add_le_add doubled ih

theorem pieces_slots {slots : List Slot} (enough : (slots.flatMap Slot.text).length ≤ fuel) :
    pieces fuel (slots.flatMap Slot.text) = .ok (slots.flatMap Slot.pieces) := by
  induction slots generalizing fuel with
  | nil => cases fuel <;> rfl
  | cons slot slots ih =>
    have long := length_le_escape slot.after.toList
    have all : (slot :: slots).flatMap Slot.text =
        '\x7b' :: (slot.body ++ '\x7d' :: (escape slot.after.toList ++ slots.flatMap Slot.text)) := by
      simp [Slot.text]
    rw [all] at enough ⊢
    simp only [List.length_cons, List.length_append] at enough
    obtain ⟨left, rfl⟩ : ∃ left, fuel = slot.after.toList.length + left + 1 :=
      ⟨fuel - 1 - slot.after.toList.length, by omega⟩
    rw [pieces_field slot.clear slot.reads, pieces_escape, ih (by omega)]
    simp [Slot.pieces, Except.map]

end Template

/-- A format string is read as the parts that it was written from. -/
theorem Layout.parse_text (layout : Layout) : Template.parse layout.text = .ok layout.template := by
  have long := Template.length_le_escape layout.before.toList
  obtain ⟨fuel, enough⟩ : ∃ fuel, layout.text.toList.length = layout.before.toList.length + fuel :=
    ⟨_, (Nat.add_sub_cancel' (by
      rw [Layout.text, String.toList_ofList, List.length_append]
      omega)).symm⟩
  rw [Template.parse, enough]
  rw [Layout.text, String.toList_ofList, List.length_append] at enough
  rw [Layout.text, String.toList_ofList, Template.pieces_escape, Template.pieces_slots (by omega)]
  rfl

/-! ## Filling -/

namespace Template

variable {args : List Value} {named : Scope} {numbering : Numbering}

theorem renderFrom_text (text : List Char) (rest : Template) :
    renderFrom args named numbering (text.map .text ++ rest) =
      (renderFrom args named numbering rest).map (String.ofList text ++ ·) := by
  induction text with
  | nil =>
    show renderFrom args named numbering rest = _
    cases renderFrom args named numbering rest with
    | error fault => rfl
    | ok filled => simp [Except.map]
  | cons c text ih =>
    rw [List.map_cons, List.cons_append, renderFrom, ih]
    cases renderFrom args named numbering rest with
    | error fault => rfl
    | ok filled =>
      show Except.ok (c.toString ++ (String.ofList text ++ filled)) =
        Except.ok (String.ofList (c :: text) ++ filled)
      have joined : c.toString ++ String.ofList text = String.ofList (c :: text) := by
        rw [← String.toList_inj]
        simp
      rw [← String.append_assoc, joined]

/-- A field is filled with its argument, and the text after it stays. -/
theorem renderFrom_slot {slot : Slot} {rest : Template} {base : Value} {after : Numbering}
    {text : String} (taking : argument args named numbering slot.field.arg = .ok (base, after))
    (shown : renderField slot.field base = .ok text) :
    renderFrom args named numbering (slot.pieces ++ rest) =
      (renderFrom args named after rest).map (text ++ slot.after ++ ·) := by
  rw [Slot.pieces, List.cons_append, renderFrom, taking]
  simp only [bind, Except.bind, shown, renderFrom_text]
  cases renderFrom args named after rest with
  | error fault => rfl
  | ok filled =>
    simp only [Except.map, String.ofList_toList, String.append_assoc]
    rfl

end Template

theorem Layout.positionalCount_template (layout : Layout) : layout.template.positionalCount =
    layout.slots.countP fun slot => Template.isPositional (.field slot.field) := by
  have plain : ∀ text : List Char, (text.map Piece.text).countP Template.isPositional = 0 := by
    intro text
    rw [List.countP_eq_zero]
    rintro piece among
    obtain ⟨c, -, rfl⟩ := List.mem_map.mp among
    exact Bool.false_ne_true
  rw [Template.positionalCount, template, List.countP_append, plain, Nat.zero_add]
  induction layout.slots with
  | nil => rfl
  | cons slot slots ih =>
    rw [List.flatMap_cons, List.countP_append, ih, Slot.pieces, List.countP_cons, plain,
      List.countP_cons, Nat.zero_add, Nat.add_comm]

end Format

namespace Frame

variable {ω π : Type}

/-- What cannot be read as a format string leaves the stack alone. -/
theorem dispatch_format_malformed (host : Host ω π) (callee : Frame → Machine ω π → Run ω π)
    (name : String) (frame : Frame) (machine : Machine ω π) {scope : Scope} {text : String}
    {fault : TemplateFault} (given : scope.get? "fmt" = some (.str text))
    (failed : Format.Template.parse text = .error fault) :
    frame.dispatch host callee name scope (.builtin .format) machine =
      frame.stops (.type (.template fault)) frame.spent machine := by
  have act : (Format.fill scope : Act ω π (List Value)).run.run ⟨machine, frame.spent, name⟩ =
      (.error (.type (.template fault)), ⟨machine, frame.spent, name⟩) := by
    rw [Format.fill, given]
    dsimp only
    rw [failed]
    rfl
  show frame.perform (Format.fill scope) name machine = _
  rw [perform, act]
  exact spent_fail rfl machine

/-- Filling a format string takes its arguments off the stack, and puts the text in their place. -/
theorem dispatch_format (host : Host ω π) (callee : Frame → Machine ω π → Run ω π) (name : String)
    (frame : Frame) (machine : Machine ω π) {scope : Scope} {text : String}
    {template : Format.Template} (given : scope.get? "fmt" = some (.str text))
    (parsed : Format.Template.parse text = .ok template) :
    frame.dispatch host callee name scope (.builtin .format) machine =
      if machine.stack.length < template.positionalCount then
        frame.stops (.stackUnderflow template.positionalCount machine.stack.length) frame.spent machine
      else
        let left := { machine with stack := machine.stack.drop template.positionalCount }
        match template.render (machine.stack.take template.positionalCount).reverse
          (scope.erase "fmt") with
        | .ok filled => .next frame.spent (left.pushAll [.str filled])
        | .error fault => frame.stops (.type (.template fault)) frame.spent left := by
  have act : ((Format.fill scope : Act ω π (List Value)).run.run ⟨machine, frame.spent, name⟩) =
      (Act.popMany template.positionalCount >>= fun args => do
        return [.str (← Format.formatting (template.render args (scope.erase "fmt")))] :
          Act ω π (List Value)).run.run ⟨machine, frame.spent, name⟩ := by
    rw [Format.fill, given]
    dsimp only
    rw [parsed]
    rfl
  show frame.perform (Format.fill scope) name machine = _
  rw [perform, act, run_bind, Act.IsLocal.popMany_run]
  dsimp only
  by_cases few : machine.stack.length < template.positionalCount
  · rw [if_pos few, if_pos few]
    exact spent_fail rfl machine
  · rw [if_neg few, if_neg few]
    dsimp only
    cases template.render (machine.stack.take template.positionalCount).reverse (scope.erase "fmt") with
    | ok filled => rfl
    | error fault => exact spent_fail rfl _

/-- With enough values at the top, the text takes their place. -/
theorem dispatch_format_filled (host : Host ω π) (callee : Frame → Machine ω π → Run ω π)
    (name : String) (frame : Frame) (machine : Machine ω π) {scope : Scope} {text filled : String}
    {template : Format.Template} {args below : List Value} (given : scope.get? "fmt" = some (.str text))
    (parsed : Format.Template.parse text = .ok template)
    (stack : machine.stack = args.reverse ++ below) (enough : args.length = template.positionalCount)
    (rendered : template.render args (scope.erase "fmt") = .ok filled) :
    frame.dispatch host callee name scope (.builtin .format) machine =
      .next frame.spent { machine with stack := .str filled :: below } := by
  have count : template.positionalCount = args.reverse.length := by
    rw [List.length_reverse, enough]
  have left : ¬ machine.stack.length < template.positionalCount := by
    rw [stack, count, List.length_append]
    exact Nat.not_lt.mpr (Nat.le_add_right _ _)
  rw [dispatch_format host callee name frame machine given parsed, if_neg left, stack, count,
    List.take_left, List.drop_left, List.reverse_reverse, rendered]
  rfl

end Frame

end DocMachine
