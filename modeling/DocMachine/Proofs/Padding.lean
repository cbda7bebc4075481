import DocMachine.Format.Template
import Mathlib

/-!
# Widths

A width asks for fill: around the text, between sign and digits, or as zeros before the digits. However
it is shared out, the field gets as wide as asked for, and nothing of the text is lost.

* `Format.Padded`: a text with characters put in.
* `Format.Spec.withWidth`: a specifier with another width; zero is none.
* `Format.Spec.Widens`: a text is as wide as the specifier asks for, and otherwise another one.
* `Format.Spec.Overfills`: one of the fills takes more bytes than a text can have.
* `Format.Spec.Overcounts`: the zeros before a number make it longer than can be asked for.

Results:
1. `Format.Spec.pad_fits` and `Format.Spec.pad_exceeds`: the fill around a text.
2. `Format.Spec.number_zeros` and `Format.Spec.number_overcounts`, `Format.Spec.number_fits` and
   `Format.Spec.number_exceeds`: the fill of a number, with zeros and without.
3. `Format.Spec.apply_fits`, `Format.Spec.apply_overcounts`, `Format.Spec.apply_exceeds` and
   `Format.Spec.apply_error`: the layout of any value, compared with the layout without the width.
4. `Format.Template.renderField_widens`: a field gets as wide as its specifier asks for.
-/

namespace DocMachine.Format

/-- The second text is the first one with characters put in, all of which may be put in. -/
inductive Padded (mayFill : Char → Prop) : List Char → List Char → Prop
  | nil : Padded mayFill [] []
  | kept {text wide : List Char} (c : Char) :
      Padded mayFill text wide → Padded mayFill (c :: text) (c :: wide)
  | filled {text wide : List Char} {c : Char} :
      mayFill c → Padded mayFill text wide → Padded mayFill text (c :: wide)

namespace Padded

variable {mayFill : Char → Prop} {text wide : List Char}

theorem refl (text : List Char) : Padded mayFill text text := by
  induction text with
  | nil => exact .nil
  | cons c text ih => exact .kept c ih

theorem append {text' wide' : List Char} (first : Padded mayFill text wide)
    (second : Padded mayFill text' wide') : Padded mayFill (text ++ text') (wide ++ wide') := by
  induction first with
  | nil => exact second
  | kept c _ ih => exact .kept c ih
  | filled may _ ih => exact .filled may ih

theorem fill {c : Char} (may : mayFill c) (count : Nat) :
    Padded mayFill [] (List.replicate count c) := by
  induction count with
  | zero => exact .nil
  | succ count ih => exact .filled may ih

end Padded

/-- The room before and after a text, of so much room. -/
def Align.split : Align → Nat → Nat × Nat
  | left, room => (0, room)
  | center, room => (room / 2, room - room / 2)
  | right, room => (room, 0)
  | inside, room => (room, 0)

/-- The most that is filled in at once, of so much room. -/
def Align.share : Align → Nat → Nat
  | center, room => room - room / 2
  | _, room => room

/-- The parts of the room are all of it, and the greater of them is filled in at once. -/
structure Align.Parts (align : Align) (room : Nat) : Prop where
  sum : (align.split room).1 + (align.split room).2 = room
  before_le : (align.split room).1 ≤ align.share room
  after_le : (align.split room).2 ≤ align.share room
  greater : align.share room = (align.split room).1 ∨ align.share room = (align.split room).2

theorem Align.share_le (align : Align) (room : Nat) : align.share room ≤ room := by
  cases align <;> simp [share]

theorem Align.split_share (align : Align) (room : Nat) : align.Parts room := by
  cases align with
  | left => exact ⟨Nat.zero_add room, Nat.zero_le room, Nat.le_refl room, .inr rfl⟩
  | right | inside => exact ⟨Nat.add_zero room, Nat.le_refl room, Nat.zero_le room, .inl rfl⟩
  | center =>
    refine ⟨Nat.add_sub_cancel' (Nat.div_le_self room 2), ?_, Nat.le_refl _, .inr rfl⟩
    simp only [split, share]
    omega

namespace Spec

/-- The specifier with another width. -/
def withWidth (spec : Spec) (width : Nat) : Spec := { spec with width }

/-- The characters that the specifier puts in: its fill and, if it asks for them, zeros. -/
def MayFill (spec : Spec) (c : Char) : Prop :=
  c = spec.filler ∨ spec.zero = true ∧ c = '0'

/-- A text is as wide as the specifier asks for or as another text, whichever is wider, and is that
other text but for what was filled in. -/
structure Widens (spec : Spec) (text wide : String) : Prop where
  length : wide.length = max spec.width text.length
  padded : Padded spec.MayFill text.toList wide.toList

/-- Whether numbers are filled with zeros. -/
def asksZeros (spec : Spec) : Bool := spec.zero && spec.align.isNone && spec.fill.isNone

/-- Whether the field of a value is filled with zeros. -/
def fillsZeros (spec : Spec) (value : Value) : Bool :=
  isNumeric value && spec.kind != some 's' && spec.asksZeros

/-- A text has to be filled up with more bytes at once than a text can have. -/
def Exceeds (spec : Spec) (text : String) : Prop :=
  maxBytes < (spec.align.getD .left).share (spec.width - text.length) * spec.filler.utf8Size

/-- The layout of a value, which without the width is `text`, takes too much fill at once. -/
def Overfills (spec : Spec) (value : Value) (text : String) : Prop :=
  spec.fillsZeros value = false ∧ spec.Exceeds text

/-- The layout of a value asks for too many digits, as there are zeros before them. -/
def Overcounts (spec : Spec) (value : Value) : Prop :=
  spec.fillsZeros value = true ∧ ∃ negative digits, spec.magnitude value = .ok (negative, digits) ∧
    maxDigits < spec.width - (spec.signText negative).length

variable {spec : Spec} {value : Value}

/-! ## Fill -/

theorem filling_fits {count : Nat} (fits : count * spec.filler.utf8Size ≤ maxBytes) :
    spec.filling count = .ok (String.ofList (List.replicate count spec.filler)) :=
  if_neg (Nat.not_lt.mpr fits)

theorem filling_exceeds {count : Nat} (exceeds : maxBytes < count * spec.filler.utf8Size) :
    spec.filling count = .error .capacity :=
  if_pos exceeds

@[simp] theorem filling_zero : spec.filling 0 = .ok "" :=
  filling_fits (by simp)

/-- Fill on both sides widens a text. -/
theorem widens_around {text : String} {before after : Nat}
    (room : before + after = spec.width - text.length) :
    spec.Widens text (String.ofList (List.replicate before spec.filler) ++ text ++
      String.ofList (List.replicate after spec.filler)) where
  length := by
    simp only [String.length_append, String.length_ofList, List.length_replicate]
    omega
  padded := by
    have front : Padded spec.MayFill [] (List.replicate before spec.filler) := .fill (.inl rfl) before
    have back : Padded spec.MayFill [] (List.replicate after spec.filler) := .fill (.inl rfl) after
    simpa using (front.append (.refl text.toList)).append back

/-- At whichever side a text stands, the fill is in one piece. -/
theorem share_side {align : Align} (side : align = .left ∨ align = .right) (room : Nat) :
    (spec.align.getD align).share room = (spec.align.getD .left).share room := by
  cases spec.align with
  | some _ => rfl
  | none => rcases side with rfl | rfl <;> rfl

/-- A text that is wide enough stays as it is. -/
theorem pad_wide {text : String} (wide : spec.width ≤ text.length) (align : Align) :
    spec.pad align text = .ok text := by
  have none : spec.width - text.length = 0 := Nat.sub_eq_zero_of_le wide
  unfold pad
  cases spec.align.getD align <;> simp [none, bind, Except.bind, pure, Except.pure]

/-- The fill before a text comes first, then the fill after it. -/
theorem pad_eq (align : Align) (text : String) :
    let room := (spec.align.getD align).split (spec.width - text.length)
    spec.pad align text = (do
      let before ← spec.filling room.1
      let after ← spec.filling room.2
      return before ++ text ++ after) := by
  unfold pad
  cases spec.align.getD align with
  | left => simp [Align.split, bind, Except.bind, pure, Except.pure]
  | center => rfl
  | right => simp [Align.split, bind, Except.bind, pure, Except.pure]
  | inside => simp [Align.split, bind, Except.bind, pure, Except.pure]

theorem pad_fits {align : Align} (side : align = .left ∨ align = .right) {text : String}
    (fits : ¬ spec.Exceeds text) :
    ∃ wide, spec.pad align text = .ok wide ∧ spec.Widens text wide := by
  rw [Exceeds, ← share_side side, Nat.not_lt] at fits
  have parts := (spec.align.getD align).split_share (spec.width - text.length)
  have first := filling_fits (Nat.le_trans (Nat.mul_le_mul_right _ parts.before_le) fits)
  have second := filling_fits (Nat.le_trans (Nat.mul_le_mul_right _ parts.after_le) fits)
  refine ⟨_, ?_, widens_around parts.sum⟩
  rw [pad_eq, first, second]
  rfl

theorem pad_exceeds {align : Align} (side : align = .left ∨ align = .right) {text : String}
    (exceeds : spec.Exceeds text) : spec.pad align text = .error .capacity := by
  rw [Exceeds, ← share_side side] at exceeds
  have parts := (spec.align.getD align).split_share (spec.width - text.length)
  rw [pad_eq]
  by_cases first : maxBytes < ((spec.align.getD align).split (spec.width - text.length)).1 *
      spec.filler.utf8Size
  · rw [filling_exceeds first]
    rfl
  · -- What fits before the text is not the greater part.
    rcases parts.greater with before | after
    · exact absurd (before ▸ exceeds) first
    · rw [filling_fits (Nat.not_lt.mp first), filling_exceeds (after ▸ exceeds)]
      rfl

/-! ## Numbers -/

section

variable {negative : Bool} {digits : String}

theorem number_error {fault : TemplateFault} (failed : spec.magnitude value = .error fault) :
    spec.number value = .error fault := by
  simp only [number, failed, bind, Except.bind]

theorem digitCount_fits {count : Nat} (fits : count ≤ maxDigits) : digitCount count = .ok count :=
  if_neg (Nat.not_lt.mpr fits)

theorem digitCount_map {α : Type} (count : Nat) (f : Nat → α) :
    (digitCount count).map f ≠ .error .capacity := by
  unfold digitCount
  split <;> exact nofun

/-- Only the type or the precision may not suit a number. -/
theorem floatDigits_safe (x : Float) : spec.floatDigits value x ≠ .error .capacity := by
  unfold floatDigits
  split <;> first | exact digitCount_map _ _ | exact nofun

theorem magnitude_error {fault : TemplateFault} (failed : spec.magnitude value = .error fault) :
    fault ≠ .capacity := by
  rintro rfl
  unfold magnitude at failed
  dsimp only at failed
  split at failed
  · cases failed
  · cases read : spec.floatDigits value ((value.number?.map Number.toFloat).getD 0.0) with
    | ok digits =>
      rw [read] at failed
      cases failed
    | error fault =>
      rw [read] at failed
      obtain rfl : fault = .capacity := Except.error.inj failed
      exact floatDigits_safe _ read

theorem withWidth_pad (align : Align) (text : String) : (spec.withWidth 0).pad align text = .ok text :=
  pad_wide (Nat.zero_le _) align

/-- A number with its zeros, or with the fill after its sign, or with neither. -/
theorem number_eq (known : spec.magnitude value = .ok (negative, digits)) :
    let sign := spec.signText negative
    spec.number value =
      if spec.asksZeros = true then
        (digitCount (spec.width - sign.length)).map (sign ++ zeroFill digits ·)
      else if spec.align = some .inside then
        (spec.filling (spec.width - sign.length - digits.length)).map (sign ++ · ++ digits)
      else .ok (sign ++ digits) := by
  simp only [number, known, bind, Except.bind, pure, Except.pure]
  rfl

/-- Without a width a number is its sign and its digits. -/
theorem withWidth_number (known : spec.magnitude value = .ok (negative, digits)) :
    ((spec.withWidth 0).number value >>= (spec.withWidth 0).pad .right) =
      .ok (spec.signText negative ++ digits) := by
  have bare : (spec.withWidth 0).number value = .ok (spec.signText negative ++ digits) := by
    have none : ∀ n, (spec.withWidth 0).width - n = 0 := fun n => Nat.zero_sub n
    have known' : (spec.withWidth 0).magnitude value = .ok (negative, digits) := known
    rw [number_eq known']
    simp only [none, Nat.zero_sub, filling_zero, Except.map, String.append_empty]
    split
    · have few : digitCount 0 = .ok 0 := rfl
      simp [zeroFill, signText, withWidth, few]
    · split <;> rfl
  rw [bare]
  exact withWidth_pad .right _

/-- Zeros after the sign widen a number. -/
theorem widens_zeros (zero : spec.zero = true) (sign digits : String) :
    spec.Widens (sign ++ digits) (sign ++ zeroFill digits (spec.width - sign.length)) where
  length := by
    simp only [zeroFill, String.length_append, String.length_ofList, List.length_replicate]
    omega
  padded := by
    have zeros : Padded spec.MayFill []
        (List.replicate (spec.width - sign.length - digits.length) '0') := .fill (.inr ⟨zero, rfl⟩) _
    simpa [zeroFill] using (Padded.refl sign.toList).append (zeros.append (.refl digits.toList))

/-- So does fill after the sign. -/
theorem widens_inside (spec : Spec) (sign digits : String) :
    spec.Widens (sign ++ digits) (sign ++ String.ofList
      (List.replicate (spec.width - sign.length - digits.length) spec.filler) ++ digits) where
  length := by
    simp only [String.length_append, String.length_ofList, List.length_replicate]
    omega
  padded := by
    have fill : Padded spec.MayFill []
        (List.replicate (spec.width - sign.length - digits.length) spec.filler) := .fill (.inl rfl) _
    simpa using ((Padded.refl sign.toList).append fill).append (.refl digits.toList)

theorem exceeds_inside (inside : spec.align = some .inside) (sign digits : String) :
    spec.Exceeds (sign ++ digits) ↔
      maxBytes < (spec.width - sign.length - digits.length) * spec.filler.utf8Size := by
  rw [Exceeds, inside, String.length_append, ← Nat.sub_sub]
  rfl

theorem Widens.pad {text wide : String} (widens : spec.Widens text wide) (align : Align) :
    spec.pad align wide = .ok wide :=
  pad_wide (widens.length ▸ Nat.le_max_left _ _) align

/-- With zeros, a number gets as wide as asked for, unless it has too many digits then. -/
theorem number_zeros (known : spec.magnitude value = .ok (negative, digits)) (zeros : spec.asksZeros = true)
    (fits : spec.width - (spec.signText negative).length ≤ maxDigits) :
    ∃ wide, (spec.number value >>= spec.pad .right) = .ok wide ∧
      spec.Widens (spec.signText negative ++ digits) wide := by
  have zero : spec.zero = true := by
    simp only [asksZeros, Bool.and_eq_true] at zeros
    exact zeros.1.1
  have widens := widens_zeros zero (spec.signText negative) digits
  refine ⟨_, ?_, widens⟩
  rw [number_eq known, if_pos zeros, digitCount_fits fits]
  exact widens.pad .right

theorem number_overcounts (known : spec.magnitude value = .ok (negative, digits))
    (zeros : spec.asksZeros = true) (many : maxDigits < spec.width - (spec.signText negative).length) :
    (spec.number value >>= spec.pad .right) = .error .digitCount := by
  rw [number_eq known, if_pos zeros, digitCount, if_pos many]
  rfl

/-- Without them, it does unless no text can hold the fill. -/
theorem number_fits (known : spec.magnitude value = .ok (negative, digits))
    (zeros : ¬ spec.asksZeros = true) (fits : ¬ spec.Exceeds (spec.signText negative ++ digits)) :
    ∃ wide, (spec.number value >>= spec.pad .right) = .ok wide ∧
      spec.Widens (spec.signText negative ++ digits) wide := by
  rw [number_eq known, if_neg zeros]
  by_cases inside : spec.align = some .inside
  · have widens := spec.widens_inside (spec.signText negative) digits
    refine ⟨_, ?_, widens⟩
    have room := Nat.not_lt.mp fun exceeds => fits ((exceeds_inside inside _ _).mpr exceeds)
    rw [if_pos inside, filling_fits room]
    exact widens.pad .right
  · rw [if_neg inside]
    exact pad_fits (.inr rfl) fits

theorem number_exceeds (known : spec.magnitude value = .ok (negative, digits))
    (zeros : ¬ spec.asksZeros = true) (exceeds : spec.Exceeds (spec.signText negative ++ digits)) :
    (spec.number value >>= spec.pad .right) = .error .capacity := by
  rw [number_eq known, if_neg zeros]
  by_cases inside : spec.align = some .inside
  · rw [if_pos inside, filling_exceeds ((exceeds_inside inside _ _).mp exceeds)]
    rfl
  · rw [if_neg inside]
    exact pad_exceeds (.inr rfl) exceeds

end

/-! ## All values -/

/-- How a value is laid out, whatever the width.

* `text`: as a text that stands left.
* `number`: as a number, with fill after its sign or around it.
* `refused`: not at all. -/
inductive Shape (spec : Spec) (value : Value) (rendered : String) : Prop
  | text (text : String) (unfilled : spec.fillsZeros value = false)
      (layout : ∀ width, (spec.withWidth width).apply value rendered =
        (spec.withWidth width).pad .left text)
  | number (negative : Bool) (digits : String) (known : spec.magnitude value = .ok (negative, digits))
      (zeros : spec.fillsZeros value = spec.asksZeros)
      (layout : ∀ width, (spec.withWidth width).apply value rendered =
        (spec.withWidth width).number value >>= (spec.withWidth width).pad .right)
  | refused (fault : TemplateFault) (other : fault ≠ .capacity)
      (layout : ∀ width, (spec.withWidth width).apply value rendered = .error fault)

theorem shape_number {rendered : String} (numeric : isNumeric value = true)
    (other : spec.kind ≠ some 's') : spec.Shape value rendered := by
  have layout : ∀ width, (spec.withWidth width).apply value rendered =
      (spec.withWidth width).number value >>= (spec.withWidth width).pad .right := by
    intro width
    cases value <;> simp_all [apply, isNumeric, withWidth]
  cases known : spec.magnitude value with
  | ok result =>
    have zeros : spec.fillsZeros value = spec.asksZeros := by
      simp [fillsZeros, numeric, other]
    exact .number result.1 result.2 known zeros layout
  | error fault =>
    refine .refused fault (magnitude_error known) fun width => ?_
    have known' : (spec.withWidth width).magnitude value = .error fault := known
    rw [layout width, number_error known']
    rfl

theorem shape (spec : Spec) (value : Value) (rendered : String) : spec.Shape value rendered := by
  by_cases isText : spec.kind = some 's'
  · refine .text (spec.cut rendered) (by simp [fillsZeros, isText]) fun width => ?_
    simp only [apply, withWidth, isText]
    rfl
  · cases numeric : isNumeric value with
    | true => exact shape_number numeric isText
    | false =>
      have unfilled : spec.fillsZeros value = false := by simp [fillsZeros, numeric]
      cases kind : spec.kind with
      | none =>
        cases value with
        | str s =>
          refine .text (spec.cut rendered) unfilled fun width => ?_
          simp only [apply, withWidth, kind]
          rfl
        | null | arr _ | obj _ =>
          refine .text rendered unfilled fun width => ?_
          simp only [apply, withWidth, kind]
          rfl
        | bool _ | num _ => cases numeric
      | some letter =>
        refine .refused (.unknownCode letter value.typeName) nofun fun width => ?_
        rw [kind] at isText
        cases value <;> simp_all [apply, isNumeric, withWidth]

section

variable {rendered text : String}

theorem apply_fits (bare : (spec.withWidth 0).apply value rendered = .ok text)
    (fits : ¬ spec.Overfills value text) (few : ¬ spec.Overcounts value) :
    ∃ wide, spec.apply value rendered = .ok wide ∧ spec.Widens text wide := by
  cases spec.shape value rendered with
  | text text' unfilled layout =>
    obtain rfl := Except.ok.inj ((withWidth_pad .left text').symm.trans ((layout 0).symm.trans bare))
    obtain ⟨wide, laid, widens⟩ := pad_fits (.inl rfl) fun exceeds => fits ⟨unfilled, exceeds⟩
    exact ⟨wide, (layout spec.width).trans laid, widens⟩
  | number negative digits known zeros layout =>
    obtain rfl := Except.ok.inj ((withWidth_number known).symm.trans ((layout 0).symm.trans bare))
    have laid : ∃ wide, (spec.number value >>= spec.pad .right) = .ok wide ∧
        spec.Widens (spec.signText negative ++ digits) wide := by
      by_cases filled : spec.asksZeros = true
      · exact number_zeros known filled (Nat.not_lt.mp fun many =>
          few ⟨zeros.trans filled, negative, digits, known, many⟩)
      · exact number_fits known filled fun exceeds =>
          fits ⟨zeros.trans (Bool.eq_false_iff.mpr filled), exceeds⟩
    obtain ⟨wide, laid, widens⟩ := laid
    exact ⟨wide, (layout spec.width).trans laid, widens⟩
  | refused fault _ layout => cases (layout 0).symm.trans bare

theorem apply_overcounts (bare : (spec.withWidth 0).apply value rendered = .ok text)
    (many : spec.Overcounts value) : spec.apply value rendered = .error .digitCount := by
  obtain ⟨filled, negative, digits, known, many⟩ := many
  cases spec.shape value rendered with
  | text _ unfilled _ => exact absurd (filled.symm.trans unfilled) nofun
  | number _ _ _ zeros layout =>
    exact (layout spec.width).trans (number_overcounts known (zeros.symm.trans filled) many)
  | refused fault _ layout => cases (layout 0).symm.trans bare

theorem apply_exceeds (bare : (spec.withWidth 0).apply value rendered = .ok text)
    (exceeds : spec.Overfills value text) : spec.apply value rendered = .error .capacity := by
  obtain ⟨unfilled, exceeds⟩ := exceeds
  cases spec.shape value rendered with
  | text text' _ layout =>
    obtain rfl := Except.ok.inj ((withWidth_pad .left text').symm.trans ((layout 0).symm.trans bare))
    exact (layout spec.width).trans (pad_exceeds (.inl rfl) exceeds)
  | number negative digits known zeros layout =>
    obtain rfl := Except.ok.inj ((withWidth_number known).symm.trans ((layout 0).symm.trans bare))
    rw [zeros] at unfilled
    exact (layout spec.width).trans (number_exceeds known (Bool.eq_false_iff.mp unfilled) exceeds)
  | refused fault _ layout => cases (layout 0).symm.trans bare

/-- What cannot be laid out without a width cannot be laid out with one either, for the same reason. -/
theorem apply_error {fault : TemplateFault}
    (bare : (spec.withWidth 0).apply value rendered = .error fault) :
    fault ≠ .capacity ∧ spec.apply value rendered = .error fault := by
  cases spec.shape value rendered with
  | text text' _ layout => cases (withWidth_pad .left text').symm.trans ((layout 0).symm.trans bare)
  | number negative digits known _ layout =>
    cases (withWidth_number known).symm.trans ((layout 0).symm.trans bare)
  | refused fault' other layout =>
    cases (layout 0).symm.trans bare
    exact ⟨other, layout spec.width⟩

end

/-- A width is no trouble if that many fill characters fit into a text. -/
theorem not_overfills (narrow : spec.width * spec.filler.utf8Size ≤ maxBytes) (value : Value)
    (text : String) : ¬ spec.Overfills value text := by
  rintro ⟨-, exceeds⟩
  refine Nat.not_lt.mpr (Nat.le_trans (Nat.mul_le_mul_right _ ?_) narrow) exceeds
  exact Nat.le_trans (Align.share_le _ _) (Nat.sub_le _ _)

/-- So is none of two bytes. -/
theorem not_overfills_word (narrow : spec.width < 0x10000) (value : Value) (text : String) :
    ¬ spec.Overfills value text := by
  refine not_overfills ?_ value text
  calc spec.width * spec.filler.utf8Size
      ≤ 0x10000 * 4 := Nat.mul_le_mul (Nat.le_of_lt narrow) (Char.utf8Size_le_four _)
    _ ≤ maxBytes := by decide

theorem not_overcounts (narrow : spec.width < 0x10000) (value : Value) : ¬ spec.Overcounts value := by
  rintro ⟨-, negative, digits, -, many⟩
  have room : spec.width - (spec.signText negative).length ≤ maxDigits :=
    Nat.le_trans (Nat.sub_le _ _) (Nat.le_of_lt_succ narrow)
  exact Nat.not_lt.mpr room many

end Spec

/-! ## Fields -/

namespace Template

/-- The text of a field that is filled with a value and laid out as a specifier says. -/
def layOut (spec : Spec) (field : Field) (base : Value) : Except TemplateFault String := do
  let value ← field.path.foldlM entry base
  spec.apply value (← convert value field.conversion)

variable {spec : Spec} {field : Field} {base : Value}

theorem renderField_said (said : field.spec ≠ "") (accepted : Spec.parse field.spec.toList = .ok spec) :
    renderField field base = layOut spec field base := by
  have filled : field.spec.isEmpty = false := by simpa using said
  unfold renderField layOut
  cases field.path.foldlM entry base with
  | error fault => rfl
  | ok value =>
    simp only [bind, Except.bind]
    cases convert value field.conversion with
    | error fault => rfl
    | ok rendered => simp [filled, accepted]

/-- A field gets as wide as its specifier asks for, if its text is not wider: it is the text that it has
without the width, with fill put in. It fails just as it does without the width. -/
theorem renderField_widens (said : field.spec ≠ "")
    (accepted : Spec.parse field.spec.toList = .ok spec) (narrow : spec.width < 0x10000)
    (base : Value) :
    (∀ text, layOut (spec.withWidth 0) field base = .ok text →
      ∃ wide, renderField field base = .ok wide ∧ spec.Widens text wide) ∧
    ∀ fault, layOut (spec.withWidth 0) field base = .error fault ↔
      renderField field base = .error fault := by
  rw [renderField_said said accepted]
  unfold layOut
  cases field.path.foldlM entry base with
  | error fault => exact ⟨nofun, fun _ => .rfl⟩
  | ok value =>
    simp only [bind, Except.bind]
    cases convert value field.conversion with
    | error fault => exact ⟨nofun, fun _ => .rfl⟩
    | ok rendered =>
      simp only
      cases bare : (spec.withWidth 0).apply value rendered with
      | ok text =>
        obtain ⟨wide, laid, widens⟩ :=
          Spec.apply_fits bare (Spec.not_overfills_word narrow value text)
            (Spec.not_overcounts narrow value)
        rw [laid]
        refine ⟨?_, fun _ => ⟨nofun, nofun⟩⟩
        rintro _ ⟨⟩
        exact ⟨wide, rfl, widens⟩
      | error fault =>
        rw [(Spec.apply_error bare).2]
        exact ⟨nofun, fun _ => .rfl⟩

/-- A fill character of two bytes, of which one more stands behind the number than before it. -/
theorem renderField_widens_center :
    let spec : Spec := ⟨some 'é', some .center, some .plus, false, 8, false, none, some 'x'⟩
    let field : Field := ⟨.next, [], none, "é^+8x"⟩
    (field.spec ≠ "" ∧ Spec.parse field.spec.toList = .ok spec ∧ spec.width < 0x10000) ∧
      layOut (spec.withWidth 0) field (.int 255) = .ok "+ff" ∧
      renderField field (.int 255) = .ok "éé+ffééé" ∧ spec.Widens "+ff" "éé+ffééé" := by
  intro spec field
  have said : field.spec ≠ "" := by decide
  have accepted : Spec.parse field.spec.toList = .ok spec := by cbv
  have narrow : spec.width < 0x10000 := by decide
  have bare : layOut (spec.withWidth 0) field (.int 255) = .ok "+ff" := by cbv
  obtain ⟨wide, rendered, widens⟩ := (renderField_widens said accepted narrow _).1 _ bare
  have known : renderField field (.int 255) = .ok "éé+ffééé" := by cbv
  obtain rfl := Except.ok.inj (rendered.symm.trans known)
  exact ⟨⟨said, accepted, narrow⟩, bare, known, widens⟩

end Template

end DocMachine.Format
