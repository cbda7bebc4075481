import DocMachine.Format.Spec
import DocMachine.Proofs.Written

/-!
# Reading specifiers

A specifier is written as its parts in their order, those that say nothing being left out. Each part is
read off by how it starts, so what matters is that nothing after it starts in the same way.

* `Format.Spec.text`: a specifier as it is written.
* `Format.Spec.IsWritten`: a specifier that can be written.
* `Format.Parts`: the parts of a specifier as one may choose them, and their text.

Results:
1. `Format.Spec.readAlign_part` to `Format.Spec.readPrecision_part`: the parts, one by one.
2. `Format.Spec.parse_text`: a specifier is read as it was written.
3. `Format.Parts.parse_chosen`: whatever parts are chosen, these are read.
-/

namespace DocMachine.Format

/-- How an alignment is written. -/
def Align.char : Align → Char
  | left => '<'
  | right => '>'
  | center => '^'
  | inside => '='

@[simp] theorem Align.ofChar?_char (align : Align) : Align.ofChar? align.char = some align := by
  cases align <;> rfl

/-- How a sign is written. -/
def Sign.char : Sign → Char
  | plus => '+'
  | minus => '-'
  | space => ' '

@[simp] theorem Sign.ofChar?_char (sign : Sign) : Sign.ofChar? sign.char = some sign := by
  cases sign <;> rfl

namespace Spec

/-- A letter of the alphabet or a percent sign, as types are written. -/
def IsKind (c : Char) : Prop := c.isAlpha = true ∨ c = '%'

/-- The specifier can be written: a fill comes with an alignment, and the rest is within bounds. -/
structure IsWritten (spec : Spec) : Prop where
  aligned : spec.fill.isSome = true → spec.align.isSome = true
  width : spec.width < 0x10000000000000000
  precision : ∀ places ∈ spec.precision, places < 0x10000000000000000
  kind : ∀ c ∈ spec.kind, IsKind c

section

variable (spec : Spec)

/-- The fill and the alignment. -/
def alignPart : List Char := spec.fill.toList ++ spec.align.toList.map Align.char

/-- The sign. -/
def signPart : List Char := spec.sign.toList.map Sign.char

/-- The zero that asks for zeros as fill. -/
def zeroPart : List Char := if spec.zero then ['0'] else []

/-- The width. -/
def widthPart : List Char := if spec.width = 0 then [] else Nat.toDigits 10 spec.width

/-- The comma. -/
def groupingPart : List Char := if spec.grouping then [','] else []

/-- The point and the precision. -/
def precisionPart : List Char :=
  match spec.precision with
  | some places => '.' :: Nat.toDigits 10 places
  | none => []

/-- What comes after the width. -/
def lastParts : List Char := spec.groupingPart ++ (spec.precisionPart ++ spec.kind.toList)

/-- The specifier as it is written. -/
def text : List Char :=
  spec.alignPart ++ (spec.signPart ++ (spec.zeroPart ++ (spec.widthPart ++ spec.lastParts)))

end

/-! ## How parts start -/

/-- A text starts like its first part, or like the rest of it. -/
theorem head_append {p : Char → Prop} {first rest : List Char} (starts : ∀ c ∈ first.head?, p c)
    (others : ∀ c ∈ rest.head?, p c) : ∀ c ∈ (first ++ rest).head?, p c := by
  cases first with
  | nil => exact others
  | cons c first => exact starts

theorem isDigit_toDigits {n : Nat} {c : Char} (among : c ∈ Nat.toDigits 10 n) : c.isDigit = true :=
  Nat.isDigit_of_mem_toDigits (by decide) (by decide) among

/-- The characters of what comes after the sign. -/
def IsInner (c : Char) : Prop := c.isDigit = true ∨ c = ',' ∨ c = '.' ∨ IsKind c

theorem IsKind.not_digit {c : Char} (kind : IsKind c) : c.isDigit = false := by
  cases digit : c.isDigit with
  | false => rfl
  | true =>
    have among := Json.numeral_of_isDigit digit
    have numerals : ∀ c ∈ Json.numerals, ¬ IsKind c := by unfold IsKind; decide
    exact absurd kind (numerals c among)

theorem spanDigits_append {digits rest : List Char} (all : ∀ c ∈ digits, c.isDigit = true)
    (others : ∀ c ∈ rest.head?, c.isDigit = false) : spanDigits (digits ++ rest) = (digits, rest) :=
  span_append all others

theorem word?_toDigits {n : Nat} (small : n < 0x10000000000000000) :
    word? (Nat.toDigits 10 n) = some n := by
  rw [word?, Json.natOfDigits_toDigits]
  exact if_pos small

variable {spec : Spec}

theorem kind_head (written : spec.IsWritten) : ∀ c ∈ spec.kind.toList.head?, IsKind c := by
  intro c starts
  cases given : spec.kind with
  | none => simp [given] at starts
  | some letter =>
    obtain rfl : letter = c := by simpa [given] using starts
    exact written.kind letter given

theorem precision_head (written : spec.IsWritten) :
    ∀ c ∈ (spec.precisionPart ++ spec.kind.toList).head?, c = '.' ∨ IsKind c := by
  refine head_append ?_ fun c starts => .inr (kind_head written c starts)
  unfold precisionPart
  split
  · rintro c ⟨⟩
    exact .inl rfl
  · rintro c ⟨⟩

theorem lastParts_head (written : spec.IsWritten) :
    ∀ c ∈ spec.lastParts.head?, c = ',' ∨ c = '.' ∨ IsKind c := by
  refine head_append ?_ fun c starts => .inr (precision_head written c starts)
  unfold groupingPart
  split
  · rintro c ⟨⟩
    exact .inl rfl
  · rintro c ⟨⟩

theorem width_head (written : spec.IsWritten) :
    ∀ c ∈ (spec.widthPart ++ spec.lastParts).head?, c ≠ '0' := by
  refine head_append ?_ fun c starts => ?_
  · unfold widthPart
    split
    · rintro c ⟨⟩
    · next positive =>
      rintro c starts rfl
      exact Json.toDigits_head (Nat.pos_of_ne_zero positive) starts
  · rintro rfl
    rcases lastParts_head written _ starts with comma | point | alpha | percent
    · exact absurd comma (by decide)
    · exact absurd point (by decide)
    · exact absurd alpha (by decide)
    · exact absurd percent (by decide)

theorem inner_chars (written : spec.IsWritten) :
    ∀ c ∈ spec.zeroPart ++ (spec.widthPart ++ spec.lastParts), IsInner c := by
  intro c among
  simp only [lastParts, List.mem_append] at among
  rcases among with zero | width | grouping | precision | kind
  · unfold zeroPart at zero
    split at zero
    · obtain rfl := List.mem_singleton.mp zero
      exact .inl (by decide)
    · cases zero
  · unfold widthPart at width
    split at width
    · cases width
    · exact .inl (isDigit_toDigits width)
  · unfold groupingPart at grouping
    split at grouping
    · exact .inr (.inl (List.mem_singleton.mp grouping))
    · cases grouping
  · unfold precisionPart at precision
    split at precision
    · rcases List.mem_cons.mp precision with point | digit
      · exact .inr (.inr (.inl point))
      · exact .inl (isDigit_toDigits digit)
    · cases precision
  · exact .inr (.inr (.inr (written.kind c (Option.mem_toList.mp kind))))

theorem IsInner.not_sign {c : Char} (inner : IsInner c) : Sign.ofChar? c = none := by
  cases reads : Sign.ofChar? c with
  | none => rfl
  | some sign =>
    have among : c = '+' ∨ c = '-' ∨ c = ' ' := by
      unfold Sign.ofChar? at reads
      split at reads <;> simp_all
    rcases among with rfl | rfl | rfl <;> exact absurd inner (by unfold IsInner IsKind; decide)

theorem IsInner.not_align {c : Char} (inner : IsInner c) : Align.ofChar? c = none := by
  cases reads : Align.ofChar? c with
  | none => rfl
  | some align =>
    have among : c = '<' ∨ c = '>' ∨ c = '^' ∨ c = '=' := by
      unfold Align.ofChar? at reads
      split at reads <;> simp_all
    rcases among with rfl | rfl | rfl | rfl <;> exact absurd inner (by unfold IsInner IsKind; decide)

/-- Nothing after the alignment is written like one. -/
theorem sign_chars (written : spec.IsWritten) :
    ∀ c ∈ spec.signPart ++ (spec.zeroPart ++ (spec.widthPart ++ spec.lastParts)),
      Align.ofChar? c = none := by
  intro c among
  rcases List.mem_append.mp among with marked | inner
  · obtain ⟨sign, -, rfl⟩ := List.mem_map.mp marked
    cases sign <;> rfl
  · exact (inner_chars written c inner).not_align

/-! ## Reading the parts -/

section

variable {rest : List Char} (before : Spec)

theorem readAlign_part (aligned : spec.fill.isSome = true → spec.align.isSome = true)
    (others : ∀ c ∈ rest, Align.ofChar? c = none) :
    readAlign {} (spec.alignPart ++ rest) = ({ fill := spec.fill, align := spec.align }, rest) := by
  cases filled : spec.fill with
  | some fill =>
    obtain ⟨align, given⟩ := Option.isSome_iff_exists.mp (aligned (by rw [filled]; rfl))
    simp [alignPart, filled, given, readAlign]
  | none =>
    cases given : spec.align with
    | some align =>
      cases rest with
      | nil => simp [alignPart, filled, given, readAlign]
      | cons c rest => simp [alignPart, filled, given, readAlign, others c List.mem_cons_self]
    | none =>
      match rest with
      | [] => simp [alignPart, filled, given, readAlign]
      | [c] => simp [alignPart, filled, given, readAlign, others c List.mem_cons_self]
      | c :: d :: rest =>
        simp [alignPart, filled, given, readAlign, others c List.mem_cons_self,
          others d (List.mem_cons_of_mem c List.mem_cons_self)]

theorem readSign_part (others : ∀ c ∈ rest.head?, Sign.ofChar? c = none) :
    readSign before (spec.signPart ++ rest) =
      ({ before with sign := spec.sign.or before.sign }, rest) := by
  cases given : spec.sign with
  | some sign => simp [signPart, given, readSign]
  | none =>
    cases rest with
    | nil => simp [signPart, given, readSign]
    | cons c rest => simp [signPart, given, readSign, others c rfl]

theorem readZero_part (others : ∀ c ∈ rest.head?, c ≠ '0') :
    readZero before (spec.zeroPart ++ rest) =
      ({ before with zero := spec.zero || before.zero }, rest) := by
  cases given : spec.zero with
  | true => simp [zeroPart, given, readZero]
  | false =>
    have plain : readZero before rest = (before, rest) := by
      unfold readZero
      split
      · exact absurd rfl (others _ rfl)
      · rfl
    simp [zeroPart, given, plain]

theorem readWidth_part (small : spec.width < 0x10000000000000000)
    (others : ∀ c ∈ rest.head?, c.isDigit = false) :
    readWidth before (spec.widthPart ++ rest) = ({ before with width := spec.width }, rest) := by
  by_cases none : spec.width = 0
  · have noDigits : ∀ c ∈ ([] : List Char), c.isDigit = true := by simp
    have read := spanDigits_append noDigits others
    rw [List.nil_append] at read
    simp [readWidth, widthPart, none, read, word?, natOfDigits]
  · have read := spanDigits_append (fun _ => isDigit_toDigits (n := spec.width)) others
    simp [readWidth, widthPart, none, read, word?_toDigits small]

theorem readGrouping_part (others : ∀ c ∈ rest.head?, c ≠ ',') :
    readGrouping before (spec.groupingPart ++ rest) =
      ({ before with grouping := spec.grouping || before.grouping }, rest) := by
  cases given : spec.grouping with
  | true => simp [groupingPart, given, readGrouping]
  | false =>
    have plain : readGrouping before rest = (before, rest) := by
      unfold readGrouping
      split
      · exact absurd rfl (others _ rfl)
      · rfl
    simp [groupingPart, given, plain]

theorem readPrecision_part (small : ∀ places ∈ spec.precision, places < 0x10000000000000000)
    (others : ∀ c ∈ rest.head?, IsKind c) :
    readPrecision before (spec.precisionPart ++ rest) =
      .ok ({ before with precision := spec.precision.or before.precision }, rest) := by
  cases given : spec.precision with
  | some places =>
    have notDigit : ∀ c ∈ rest.head?, c.isDigit = false := fun c starts => (others c starts).not_digit
    have read := spanDigits_append (fun _ => isDigit_toDigits (n := places)) notDigit
    simp [precisionPart, given, readPrecision, read, Nat.toDigits_ne_nil,
      word?_toDigits (small places given)]
  | none =>
    have plain : readPrecision before rest = .ok (before, rest) := by
      unfold readPrecision
      split
      · exact absurd (others _ rfl) (by unfold IsKind; decide)
      · rfl
    simp [precisionPart, given, plain]

end

/-- A specifier is read as it was written. -/
theorem parse_text (written : spec.IsWritten) : parse spec.text = .ok spec := by
  have notDigit : ∀ c ∈ spec.lastParts.head?, c.isDigit = false := by
    intro c starts
    rcases lastParts_head written c starts with rfl | rfl | kind
    · rfl
    · rfl
    · exact kind.not_digit
  have notComma : ∀ c ∈ (spec.precisionPart ++ spec.kind.toList).head?, c ≠ ',' := by
    rintro c starts rfl
    rcases precision_head written _ starts with point | kind
    · exact absurd point (by decide)
    · exact absurd kind (by unfold IsKind; decide)
  have notSign : ∀ c ∈ (spec.zeroPart ++ (spec.widthPart ++ spec.lastParts)).head?,
      Sign.ofChar? c = none :=
    fun c starts => (inner_chars written c (List.mem_of_mem_head? starts)).not_sign
  rw [parse, text, readAlign_part written.aligned (sign_chars written)]
  dsimp only
  rw [readSign_part _ notSign]
  dsimp only
  rw [readZero_part _ (width_head written)]
  dsimp only
  rw [readWidth_part _ written.width notDigit]
  dsimp only
  rw [lastParts, readGrouping_part _ notComma]
  dsimp only
  rw [readPrecision_part _ written.precision (kind_head written)]
  obtain ⟨fill, align, sign, zero, width, grouping, precision, kind⟩ := spec
  cases kind <;> simp [bind, Except.bind, pure, Except.pure]

end Spec

/-! ## Choosing the parts -/

/-- What is said about where a text stands in its field. A fill is not said without an alignment. -/
inductive Placing where
  | unsaid
  | plain (align : Align)
  | filled (fill : Char) (align : Align)

namespace Placing

/-- How it is written: `[[fill]align]`. -/
def text : Placing → List Char
  | unsaid => []
  | plain align => [align.char]
  | filled fill align => [fill, align.char]

/-- The fill, if one is said. -/
def fill? : Placing → Option Char
  | filled fill _ => some fill
  | _ => none

/-- The alignment, if one is said. -/
def align? : Placing → Option Align
  | unsaid => none
  | plain align => some align
  | filled _ align => some align

theorem ext {first second : Placing} (fill : first.fill? = second.fill?)
    (align : first.align? = second.align?) : first = second := by
  cases first <;> cases second <;> simp_all [fill?, align?]

end Placing

/-- A choice of the parts of a specifier. Counts are words. -/
structure Parts where
  placing : Placing := .unsaid
  sign : Option Sign := none
  zero : Bool := false
  width : UInt64 := 0
  grouping : Bool := false
  precision : Option UInt64 := none
  kind : Option { c : Char // Spec.IsKind c } := none

namespace Parts

/-- The parts one after the other: `[[fill]align][sign][0][width][,][.precision][type]`. What is not chosen
is left out, and so is a width of zero. -/
def text (parts : Parts) : List Char :=
  parts.placing.text ++ parts.sign.toList.map Sign.char ++ (if parts.zero then ['0'] else []) ++
    (if parts.width = 0 then [] else Nat.toDigits 10 parts.width.toNat) ++
    (if parts.grouping then [','] else []) ++
    (parts.precision.elim [] fun places => '.' :: Nat.toDigits 10 places.toNat) ++
    parts.kind.toList.map Subtype.val

/-- The specifier that says what was chosen. -/
def spec (parts : Parts) : Spec where
  fill := parts.placing.fill?
  align := parts.placing.align?
  sign := parts.sign
  zero := parts.zero
  width := parts.width.toNat
  grouping := parts.grouping
  precision := parts.precision.map UInt64.toNat
  kind := parts.kind.map Subtype.val

theorem spec_injective : Function.Injective spec := by
  intro first second same
  obtain ⟨fill, align, sign, zero, width, grouping, precision, kind⟩ := Spec.mk.inj same
  have words : Function.Injective UInt64.toNat := fun _ _ => UInt64.toNat.inj
  cases first
  cases second
  congr 1
  · exact Placing.ext fill align
  · exact words width
  · exact Option.map_injective words precision
  · exact Option.map_injective (fun _ _ => Subtype.ext) kind

theorem isWritten (parts : Parts) : parts.spec.IsWritten where
  aligned := by
    rw [spec]
    cases parts.placing with
    | unsaid => exact nofun
    | plain align => exact nofun
    | filled fill align => exact fun _ => rfl
  width := parts.width.toNat_lt
  precision := by
    intro places given
    obtain ⟨word, -, rfl⟩ := Option.map_eq_some_iff.mp given
    exact word.toNat_lt
  kind := by
    intro c given
    obtain ⟨letter, -, rfl⟩ := Option.map_eq_some_iff.mp given
    exact letter.property

theorem text_spec (parts : Parts) : parts.spec.text = parts.text := by
  have placed : parts.spec.alignPart = parts.placing.text := by
    rw [Spec.alignPart, spec]
    cases parts.placing <;> rfl
  have wide : parts.spec.widthPart = if parts.width = 0 then [] else Nat.toDigits 10 parts.width.toNat := by
    have none : parts.width.toNat = 0 ↔ parts.width = 0 := by
      rw [← UInt64.toNat_inj]
      rfl
    exact if_congr none rfl rfl
  have exactly : parts.spec.precisionPart =
      parts.precision.elim [] fun places => '.' :: Nat.toDigits 10 places.toNat := by
    rw [Spec.precisionPart, spec]
    cases parts.precision <;> rfl
  have typed : parts.spec.kind.toList = parts.kind.toList.map Subtype.val := by
    rw [spec]
    cases parts.kind <;> rfl
  rw [Spec.text, Spec.lastParts, placed, wide, exactly, typed]
  simp only [text, List.append_assoc]
  rfl

/-- Whatever parts are chosen, their text is read as these parts and no others. -/
theorem parse_chosen : (∀ parts : Parts, Spec.parse parts.text = .ok parts.spec) ∧
    Function.Injective text := by
  have read : ∀ parts : Parts, Spec.parse parts.text = .ok parts.spec := by
    intro parts
    rw [← parts.text_spec]
    exact Spec.parse_text parts.isWritten
  refine ⟨read, fun first second same => spec_injective ?_⟩
  have agree : (.ok first.spec : Except TemplateFault Spec) = .ok second.spec := by
    rw [← read first, ← read second, same]
  exact Except.ok.inj agree

/-- A zero may be a fill, ask for zeros and stand in the width. -/
example : ({ placing := .filled '0' .right, zero := true, width := 20 } : Parts).text = "0>020".toList ∧
    Spec.parse "0>020".toList =
      .ok { fill := some '0', align := some .right, zero := true, width := 20 } :=
  ⟨rfl, rfl⟩

end Parts

end DocMachine.Format
