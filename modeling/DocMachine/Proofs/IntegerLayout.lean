import DocMachine.Proofs.Interpolation
import DocMachine.Proofs.Padding
import DocMachine.Proofs.Specifiers

/-!
# Integers in format strings

Whatever sign, zeros, width, commas and type a specifier asks for, the integer can be read from its
text again.

* `Format.IntSpec`: a specifier for integers, without fill, alignment and precision.
* `Format.natural?` and `Format.integer?`: what digits of some radix denote.
* `Format.InGroups`: digits in groups of three.
* `Format.IntSpec.Shows`: a text shows an integer as a specifier asks for it.

Results:
1. `Format.natural?_toDigits`: digits denote the number they were made from.
2. `Format.groupReversed_grouped`: the groups that commas make.
3. `Format.IntSpec.renderField_int`: how an integer is laid out.
4. `Frame.format_integer`: what the op pushes shows the integer.
-/

namespace DocMachine

namespace Format

/-- The types that are for integers. -/
inductive IntKind where
  | plain
  | decimal
  | hex
  | upperHex
  | octal
  | binary

namespace IntKind

/-- How the type is written, if it is. -/
def letter : IntKind → Option Char
  | plain => none
  | decimal => some 'd'
  | hex => some 'x'
  | upperHex => some 'X'
  | octal => some 'o'
  | binary => some 'b'

/-- The base of the digits. -/
def radix : IntKind → Nat
  | plain => 10
  | decimal => 10
  | hex => 16
  | upperHex => 16
  | octal => 8
  | binary => 2

/-- The case of the digits. -/
def recase : IntKind → Char → Char
  | upperHex => Char.toUpper
  | _ => id

end IntKind

/-- A specifier for integers: a sign, a zero, a width, a comma and a type. A comma is for decimal
digits. -/
structure IntSpec where
  sign : Option Sign
  zero : Bool
  width : Nat
  grouping : Bool
  kind : IntKind
  narrow : width < 0x10000
  decimal : grouping = true → kind.radix = 10

/-- The specifier among all others. -/
def IntSpec.toSpec (spec : IntSpec) : Spec where
  sign := spec.sign
  zero := spec.zero
  width := spec.width
  grouping := spec.grouping
  kind := spec.kind.letter

/-! ## What digits denote -/

/-- The value of a digit. -/
def digit? (radix : Nat) (c : Char) : Option Nat :=
  (Text.hexValue? c).filter (· < radix)

/-- The number that digits denote, if they are digits and there is one. -/
def natural? (radix : Nat) (digits : List Char) : Option Nat :=
  if digits = [] then none
  else digits.foldlM (fun n c => (digit? radix c).map (radix * n + ·)) 0

/-- The integer that digits denote, after an optional minus. -/
def integer? (radix : Nat) : List Char → Option Int
  | '-' :: digits => (natural? radix digits).map fun n : Nat => -(n : Int)
  | digits => (natural? radix digits).map Int.ofNat

/-- Groups of three with another one ahead, which is not empty and may be shorter. -/
structure InGroups where
  first : List Char
  others : List (List Char)
  nonempty : first ≠ []
  short : first.length ≤ 3
  three : ∀ group ∈ others, group.length = 3

namespace InGroups

/-- The groups, with nothing between them. -/
def plain (groups : InGroups) : List Char :=
  groups.first ++ groups.others.flatten

/-- The groups, with commas between them. -/
def text (groups : InGroups) : List Char :=
  groups.first ++ groups.others.flatMap (',' :: ·)

end InGroups

namespace IntSpec

/-- The sign before the digits. -/
def signOf (spec : IntSpec) (v : Int) : List Char :=
  if v < 0 then ['-']
  else
    match spec.sign with
    | some .plus => ['+']
    | some .space => [' ']
    | _ => []

/-- The text shows the integer: it is blanks, the sign and digits, the digits denote the integer when
all else is taken out, and commas group them. -/
structure Shows (spec : IntSpec) (v : Int) (text : List Char) : Prop where
  laidOut : ∃ blanks digits, text = List.replicate blanks ' ' ++ spec.signOf v ++ digits ∧
    digits ≠ [] ∧
    (∀ c ∈ digits, (digit? spec.kind.radix c).isSome = true ∨ spec.grouping = true ∧ c = ',') ∧
    (spec.grouping = true → spec.zero = false →
      ∃ groups : InGroups, digits = groups.text ∧ ',' ∉ groups.plain)
  denotes : integer? spec.kind.radix (text.filter (· ∉ [' ', '+', ','])) = some v

end IntSpec

/-! ## Digits -/

/-- A digit in the case that the type has is a digit of its value. -/
theorem digit?_digitChar (kind : IntKind) {d : Nat} (small : d < kind.radix) :
    digit? kind.radix (kind.recase d.digitChar) = some d := by
  have plain : ∀ radix ≤ 16, ∀ d < radix, digit? radix d.digitChar = some d := by decide
  have upper : ∀ d < 16, digit? 16 d.digitChar.toUpper = some d := by decide
  cases kind with
  | upperHex => exact upper d small
  | plain => exact plain 10 (by decide) d small
  | decimal => exact plain 10 (by decide) d small
  | hex => exact plain 16 (by decide) d small
  | octal => exact plain 8 (by decide) d small
  | binary => exact plain 2 (by decide) d small

/-- What is no digit in any base. -/
theorem digit?_outside {c : Char} (outside : c ∈ ['-', ' ', '+', ',', '.']) (radix : Nat) :
    digit? radix c = none := by
  have none : ∀ c ∈ ['-', ' ', '+', ',', '.'], Text.hexValue? c = none := by decide
  rw [digit?, none c outside, Option.filter_none]

namespace IntKind

theorem one_lt_radix (kind : IntKind) : 1 < kind.radix := by
  cases kind <;> decide

/-- The digits of a number. -/
def digits (kind : IntKind) (n : Nat) : List Char :=
  (Nat.toDigits kind.radix n).map kind.recase

theorem digits_ne_nil (kind : IntKind) (n : Nat) : kind.digits n ≠ [] := by
  simp [digits, Nat.toDigits_ne_nil]

/-- The last digit is the remainder, and the others are those of the quotient. -/
theorem digits_eq (kind : IntKind) (n : Nat) : kind.digits n =
    (if n < kind.radix then [] else kind.digits (n / kind.radix)) ++
      [kind.recase (n % kind.radix).digitChar] := by
  rw [digits, Nat.toDigits_eq_if kind.one_lt_radix]
  split
  · next small => simp [Nat.mod_eq_of_lt small]
  · next large => simp [digits]

theorem isSome_digits (kind : IntKind) {n : Nat} {c : Char} (among : c ∈ kind.digits n) :
    (digit? kind.radix c).isSome = true := by
  induction n using Nat.strongRecOn with
  | ind n ih =>
    have base := kind.one_lt_radix
    rw [digits_eq, List.mem_append, List.mem_singleton] at among
    rcases among with before | rfl
    · split at before
      · cases before
      · next large => exact ih _ (Nat.div_lt_self (by omega) base) before
    · rw [digit?_digitChar kind (Nat.mod_lt n (by omega))]
      rfl

/-- Signs, blanks and marks are no digits. -/
theorem not_mem_digits (kind : IntKind) {c : Char} (outside : c ∈ ['-', ' ', '+', ',', '.'])
    (n : Nat) : c ∉ kind.digits n := by
  intro among
  have digit := kind.isSome_digits among
  rw [digit?_outside outside] at digit
  cases digit

theorem foldlM_digits (kind : IntKind) (n : Nat) :
    (kind.digits n).foldlM (fun n c => (digit? kind.radix c).map (kind.radix * n + ·)) 0 =
      some n := by
  induction n using Nat.strongRecOn with
  | ind n ih =>
    have base := kind.one_lt_radix
    have last := digit?_digitChar kind (Nat.mod_lt n (by omega))
    rw [digits_eq]
    split
    · next small =>
      rw [Nat.mod_eq_of_lt small] at last ⊢
      simp [last]
    · next large =>
      rw [List.foldlM_append, ih _ (Nat.div_lt_self (by omega) base)]
      simp [last, Nat.div_add_mod]

/-- Digits denote the number that they were made from, whatever zeros are before them. -/
theorem natural?_digits (kind : IntKind) (zeros n : Nat) :
    natural? kind.radix (List.replicate zeros '0' ++ kind.digits n) = some n := by
  rw [natural?, if_neg (by simp [kind.digits_ne_nil])]
  induction zeros with
  | zero => exact kind.foldlM_digits n
  | succ zeros ih =>
    have zero : digit? kind.radix '0' = some 0 := by cases kind <;> decide
    rw [List.replicate_succ, List.cons_append, List.foldlM_cons, zero]
    simpa using ih

end IntKind

/-! ## Groups -/

/-- Groups of three are split off from the right, and nothing else changes. -/
theorem groupReversed_inGroups {digits : List Char} (nonempty : digits ≠ []) :
    ∃ groups : InGroups,
      (Spec.groupReversed digits).reverse = groups.text ∧ groups.plain = digits.reverse := by
  induction digits using Spec.groupReversed.induct with
  | case1 a b c d rest ih =>
    obtain ⟨groups, written, whole⟩ := ih (List.cons_ne_nil d rest)
    refine ⟨⟨groups.first, groups.others ++ [[c, b, a]], groups.nonempty, groups.short, ?_⟩, ?_, ?_⟩
    · intro group among
      rcases List.mem_append.mp among with before | last
      · exact groups.three group before
      · rw [List.mem_singleton.mp last]
        rfl
    · rw [InGroups.text] at written
      simp [Spec.groupReversed, written, InGroups.text]
    · rw [InGroups.plain] at whole
      simp [InGroups.plain, ← whole]
  | case2 few notMore =>
    refine ⟨⟨few.reverse, [], by simpa using nonempty, ?_, nofun⟩, ?_, ?_⟩
    · rw [List.length_reverse]
      match few with
      | [] | [_] | [_, _] | [_, _, _] => simp
      | a :: b :: c :: d :: rest => exact absurd rfl (notMore a b c d rest)
    · rw [Spec.groupReversed.eq_def]
      split
      · next a b c d rest => exact absurd rfl (notMore a b c d rest)
      · simp [InGroups.text]
    · simp [InGroups.plain]

/-- Without the commas, groups are the digits that they were made from. -/
theorem InGroups.filter_text (groups : InGroups) {p : Char → Bool} (comma : p ',' = false) :
    groups.text.filter p = groups.plain.filter p := by
  have others : ∀ others : List (List Char),
      (others.flatMap (',' :: ·)).filter p = others.flatten.filter p := by
    intro others
    induction others with
    | nil => rfl
    | cons group others ih => simp [comma, ih]
  rw [text, plain, List.filter_append, List.filter_append, others]

theorem InGroups.mem_text (groups : InGroups) {c : Char} (among : c ∈ groups.text) :
    c = ',' ∨ c ∈ groups.plain := by
  rcases List.mem_append.mp among with first | others
  · exact .inr (List.mem_append_left _ first)
  · obtain ⟨group, listed, inside⟩ := List.mem_flatMap.mp others
    rcases List.mem_cons.mp inside with comma | inside
    · exact .inl comma
    · exact .inr (List.mem_append_right _ (List.mem_flatten.mpr ⟨group, listed, inside⟩))

/-! ## Layout -/

namespace IntSpec

variable (spec : IntSpec) {v : Int}

/-- The digits of the integer, with commas if the specifier asks for them. -/
def digits (v : Int) : List Char :=
  if spec.grouping then (Spec.groupReversed (spec.kind.digits v.natAbs).reverse).reverse
  else spec.kind.digits v.natAbs

/-- The number of zeros before the digits. -/
def zeros (v : Int) : Nat :=
  if spec.zero then spec.width - (spec.signOf v).length - (spec.digits v).length else 0

/-- The sign, the zeros and the digits. -/
def body (v : Int) : List Char :=
  spec.signOf v ++ (List.replicate (spec.zeros v) '0' ++ spec.digits v)

theorem isWritten : spec.toSpec.IsWritten where
  aligned := nofun
  width := Nat.lt_trans spec.narrow (by decide)
  precision := nofun
  kind := by
    have letters : ∀ kind : IntKind, ∀ c ∈ kind.letter, Spec.IsKind c := by
      intro kind
      cases kind <;> simp [IntKind.letter, Spec.IsKind]
    exact letters spec.kind

theorem group_digits (v : Int) :
    spec.toSpec.group (String.ofList (spec.kind.digits v.natAbs)) = String.ofList (spec.digits v) := by
  have whole : (spec.kind.digits v.natAbs).span (· ≠ '.') = (spec.kind.digits v.natAbs, []) :=
    span_free (spec.kind.not_mem_digits (by decide) v.natAbs)
  unfold Spec.group digits
  show (if spec.grouping then _ else _) = _
  cases spec.grouping with
  | true =>
    rw [String.toList_ofList, whole]
    simp
  | false => rfl

/-- The magnitude of the integer is written with the digits of its type, in groups if asked for. -/
theorem intDigits?_eq (v : Int) : spec.toSpec.intDigits? v = some (String.ofList (spec.digits v)) := by
  rw [← spec.group_digits]
  have decimal : ∀ n : Nat, toString n = String.ofList ((Nat.toDigits 10 n).map id) := by
    intro n
    rw [List.map_id, Nat.toString_eq_ofList_toDigits]
  -- Only decimal digits are grouped.
  have alone : spec.kind.radix ≠ 10 → ∀ text, spec.toSpec.group text = text := by
    intro other text
    have ungrouped : spec.grouping = false := by
      cases grouping : spec.grouping with
      | true => exact absurd (spec.decimal grouping) other
      | false => rfl
    simp [Spec.group, toSpec, ungrouped]
  obtain ⟨sign, zero, width, grouping, kind, narrow, isDecimal⟩ := spec
  cases kind with
  | plain => exact congrArg (fun text => some (Spec.group _ text)) (decimal v.natAbs)
  | decimal => exact congrArg (fun text => some (Spec.group _ text)) (decimal v.natAbs)
  | upperHex =>
    rw [alone (Nat.ne_of_beq_eq_false rfl)]
    refine congrArg some (show String.map Char.toUpper (Spec.inBase 16 v.natAbs) = _ from ?_)
    rw [← String.toList_inj, String.toList_map]
    simp [Spec.inBase, IntKind.digits, IntKind.radix, IntKind.recase]
  | hex | octal | binary =>
    rw [alone (Nat.ne_of_beq_eq_false rfl), IntKind.digits]
    exact congrArg (fun digits => some (String.ofList digits)) (List.map_id _).symm

theorem number_int (word : Number.isWord v = true) :
    spec.toSpec.number (.int v) = .ok (String.ofList (spec.body v)) := by
  have magnitude : spec.toSpec.magnitude (.int v) =
      .ok (decide (v < 0), String.ofList (spec.digits v)) := by
    have given : Spec.word (.int v) = some v := by
      simp [Spec.word, Value.number?, Value.int, word]
    simp [Spec.magnitude, given, spec.intDigits?_eq v]
  have sign : spec.toSpec.signText (decide (v < 0)) = String.ofList (spec.signOf v) := by
    unfold Spec.signText signOf
    by_cases negative : v < 0
    · simp [negative]
    · simp only [negative, decide_false, Bool.false_eq_true, if_false]
      show (match spec.sign with | some .plus => _ | some .space => _ | _ => _) = _
      rcases spec.sign with _ | _ | _ | _ <;> rfl
  have few : Spec.digitCount (spec.width - (spec.signOf v).length) =
      .ok (spec.width - (spec.signOf v).length) :=
    Spec.digitCount_fits (Nat.le_trans (Nat.sub_le _ _) (Nat.le_of_lt_succ spec.narrow))
  simp only [Spec.number, magnitude, bind, Except.bind, sign]
  unfold body zeros
  cases zero : spec.zero with
  | true => simp [toSpec, zero, few, zeroFill, pure, Except.pure]
  | false => simp [toSpec, zero, pure, Except.pure]

theorem apply_int (word : Number.isWord v = true) (rendered : String) :
    ∃ blanks, spec.toSpec.apply (.int v) rendered =
      .ok (String.ofList (List.replicate blanks ' ' ++ spec.body v)) := by
  refine ⟨spec.width - (spec.body v).length, ?_⟩
  have numeric : spec.toSpec.apply (.int v) rendered =
      spec.toSpec.number (.int v) >>= spec.toSpec.pad .right := by
    obtain ⟨sign, zero, width, grouping, kind, narrow, isDecimal⟩ := spec
    cases kind <;> rfl
  have blanks : spec.toSpec.filling (spec.width - (spec.body v).length) =
      .ok (String.ofList (List.replicate (spec.width - (spec.body v).length) ' ')) := by
    refine Spec.filling_fits (Nat.le_trans (Nat.mul_le_mul_right _ ?_) (by decide : 0x10000 * 1 ≤ _))
    exact Nat.le_trans (Nat.sub_le _ _) (Nat.le_of_lt spec.narrow)
  have padded : spec.toSpec.pad .right (String.ofList (spec.body v)) =
      .ok (String.ofList (List.replicate (spec.width - (spec.body v).length) ' ' ++ spec.body v)) := by
    have unaligned : spec.toSpec.align = none := rfl
    have wide : spec.toSpec.width = spec.width := rfl
    rw [Spec.pad_eq, unaligned, wide, String.length_ofList]
    simp only [Option.getD_none, Align.split, blanks, Spec.filling_zero, bind, Except.bind, pure,
      Except.pure, String.append_empty, String.ofList_append]
  rw [numeric, spec.number_int word]
  simp only [bind, Except.bind, padded]

/-- A specifier that says nothing leaves the integer as it is written elsewhere, which is the same. -/
theorem renderField_int (word : Number.isWord v = true) :
    ∃ blanks, Template.renderField ⟨.next, [], none, String.ofList spec.toSpec.text⟩ (.int v) =
      .ok (String.ofList (List.replicate blanks ' ' ++ spec.body v)) := by
  have parsed := Spec.parse_text spec.isWritten
  cases written : spec.toSpec.text with
  | nil =>
    rw [written] at parsed
    have silent : spec.toSpec = {} := (Except.ok.inj parsed).symm
    obtain ⟨sign, zero, width, grouping, kind, narrow, isDecimal⟩ := spec
    simp only [toSpec, Spec.mk.injEq] at silent
    obtain ⟨-, -, rfl, rfl, rfl, rfl, -, noLetter⟩ := silent
    cases kind <;> cases noLetter
    refine ⟨0, ?_⟩
    show Except.ok (String.ofList (Json.writeNumber Json.strict (.int v))) = _
    rw [Json.writeNumber_int]
    by_cases negative : v < 0
    · simp [body, signOf, negative, zeros, digits, IntKind.digits, IntKind.radix, IntKind.recase]
    · simp [body, signOf, negative, zeros, digits, IntKind.digits, IntKind.radix, IntKind.recase]
  | cons c rest =>
    obtain ⟨blanks, laidOut⟩ := spec.apply_int word (Value.display (.int v))
    refine ⟨blanks, ?_⟩
    have said : (String.ofList (c :: rest)).isEmpty = false := by simp
    show (if (String.ofList (c :: rest)).isEmpty then Except.ok (Value.display (.int v))
      else Spec.parse (String.ofList (c :: rest)).toList >>= fun parsed =>
        parsed.apply (.int v) (Value.display (.int v))) = _
    rw [said, String.toList_ofList, ← written, parsed]
    exact laidOut

/-- With commas, the digits are in groups. -/
theorem digits_inGroups (grouping : spec.grouping = true) (v : Int) : ∃ groups : InGroups,
    spec.digits v = groups.text ∧ groups.plain = spec.kind.digits v.natAbs := by
  obtain ⟨groups, written, whole⟩ := groupReversed_inGroups
    (List.reverse_ne_nil_iff.mpr (spec.kind.digits_ne_nil v.natAbs))
  refine ⟨groups, ?_, by rw [whole, List.reverse_reverse]⟩
  rw [digits, if_pos grouping, written]

theorem digits_ne_nil (v : Int) : spec.digits v ≠ [] := by
  cases grouping : spec.grouping with
  | true =>
    obtain ⟨groups, written, -⟩ := spec.digits_inGroups grouping v
    rw [written]
    exact List.append_ne_nil_of_left_ne_nil groups.nonempty _
  | false =>
    rw [digits, grouping]
    exact spec.kind.digits_ne_nil v.natAbs

theorem mem_digits {c : Char} (among : c ∈ spec.digits v) :
    c ∈ spec.kind.digits v.natAbs ∨ spec.grouping = true ∧ c = ',' := by
  cases grouping : spec.grouping with
  | true =>
    obtain ⟨groups, written, whole⟩ := spec.digits_inGroups grouping v
    rw [written] at among
    rcases groups.mem_text among with comma | digit
    · exact .inr ⟨rfl, comma⟩
    · exact .inl (whole ▸ digit)
  | false =>
    rw [digits, grouping] at among
    exact .inl among

/-- Without the commas, the digits are those of the type. -/
theorem filter_digits {p : Char → Bool} (comma : p ',' = false)
    (others : ∀ c, (digit? spec.kind.radix c).isSome = true → p c = true) (v : Int) :
    (spec.digits v).filter p = spec.kind.digits v.natAbs := by
  have kept : (spec.kind.digits v.natAbs).filter p = spec.kind.digits v.natAbs :=
    List.filter_eq_self.mpr fun c among => others c (spec.kind.isSome_digits among)
  cases grouping : spec.grouping with
  | true =>
    obtain ⟨groups, written, whole⟩ := spec.digits_inGroups grouping v
    rw [written, groups.filter_text comma, whole, kept]
  | false =>
    rw [digits, grouping]
    exact kept

/-- What is left of a text without blanks, plus signs and commas. -/
theorem filter_body (blanks : Nat) (v : Int) :
    (List.replicate blanks ' ' ++ spec.body v).filter (· ∉ [' ', '+', ',']) =
      (if v < 0 then ['-'] else []) ++
        (List.replicate (spec.zeros v) '0' ++ spec.kind.digits v.natAbs) := by
  have digits : (spec.digits v).filter (· ∉ [' ', '+', ',']) = spec.kind.digits v.natAbs := by
    refine spec.filter_digits (by decide) (fun c digit => ?_) v
    have outside : ∀ c ∈ [' ', '+', ','], c ∈ ['-', ' ', '+', ',', '.'] := by decide
    have kept : c ∉ [' ', '+', ','] := by
      intro among
      rw [digit?_outside (outside c among)] at digit
      cases digit
    exact decide_eq_true kept
  have sign : (spec.signOf v).filter (· ∉ [' ', '+', ',']) = if v < 0 then ['-'] else [] := by
    unfold signOf
    by_cases negative : v < 0
    · rw [if_pos negative, if_pos negative]
      decide
    · rw [if_neg negative, if_neg negative]
      rcases spec.sign with _ | _ | _ | _ <;> decide
  have blank : (List.replicate blanks ' ').filter (· ∉ [' ', '+', ',']) = [] :=
    List.filter_replicate_of_neg (by decide)
  have zeros : (List.replicate (spec.zeros v) '0').filter (· ∉ [' ', '+', ',']) =
      List.replicate (spec.zeros v) '0' := List.filter_replicate_of_pos (by decide)
  simp only [body, List.filter_append]
  rw [blank, sign, zeros, digits, List.nil_append]

theorem integer?_digits (kind : IntKind) (zeros : Nat) (v : Int) :
    integer? kind.radix ((if v < 0 then ['-'] else []) ++
      (List.replicate zeros '0' ++ kind.digits v.natAbs)) = some v := by
  have read := kind.natural?_digits zeros v.natAbs
  by_cases negative : v < 0
  · have value : -(v.natAbs : Int) = v := by omega
    rw [if_pos negative, List.singleton_append, integer?, read, Option.map_some, value]
  · have value : (v.natAbs : Int) = v := by omega
    rw [if_neg negative, List.nil_append, integer?]
    · rw [read, Option.map_some, Int.ofNat_eq_natCast, value]
    · intro digits same
      -- A minus is no digit.
      have among : '-' ∈ List.replicate zeros '0' ++ kind.digits v.natAbs := same ▸ List.mem_cons_self
      rcases List.mem_append.mp among with zero | digit
      · exact absurd (List.eq_of_mem_replicate zero) (by decide)
      · exact kind.not_mem_digits (by decide) v.natAbs digit

/-- Blanks, sign, zeros and digits show the integer. -/
theorem shows_body (blanks : Nat) (v : Int) :
    spec.Shows v (List.replicate blanks ' ' ++ spec.body v) where
  laidOut := by
    refine ⟨blanks, List.replicate (spec.zeros v) '0' ++ spec.digits v, ?_, ?_, ?_, ?_⟩
    · rw [body, List.append_assoc]
    · exact List.append_ne_nil_of_right_ne_nil _ (spec.digits_ne_nil v)
    · intro c among
      rcases List.mem_append.mp among with zero | digit
      · rw [List.eq_of_mem_replicate zero]
        refine .inl ?_
        cases spec.kind <;> decide
      · exact (spec.mem_digits digit).imp_left spec.kind.isSome_digits
    · intro grouping noZero
      obtain ⟨groups, written, whole⟩ := spec.digits_inGroups grouping v
      refine ⟨groups, ?_, ?_⟩
      · rw [zeros, noZero, written]
        rfl
      · rw [whole]
        exact spec.kind.not_mem_digits (by decide) v.natAbs
  denotes := by
    rw [spec.filter_body]
    exact integer?_digits spec.kind (spec.zeros v) v

/-- The only field of a format string, with the specifier. -/
def slot : Slot where
  body := ':' :: spec.toSpec.text
  field := ⟨.next, [], none, String.ofList spec.toSpec.text⟩
  after := ""
  clear c among := by
    have braces : ∀ c ∈ ['\x7b', '\x7d'], c ≠ ':' ∧ ¬ Spec.IsInner c ∧
        c ∉ ['+', '-', ' '] := by
      unfold Spec.IsInner Spec.IsKind
      decide
    have outside : c ∉ ['\x7b', '\x7d'] := by
      intro brace
      obtain ⟨notColon, notInner, notSign⟩ := braces c brace
      rcases List.mem_cons.mp among with colon | among
      · exact notColon colon
      rcases List.mem_append.mp among with aligned | among
      · cases aligned
      rcases List.mem_append.mp among with signed | inner
      · obtain ⟨sign, -, rfl⟩ := List.mem_map.mp signed
        cases sign <;> simp [Sign.char] at notSign
      · exact notInner (Spec.inner_chars spec.isWritten c inner)
    simpa using outside
  reads := by
    have ends : ∀ c ∈ (':' :: spec.toSpec.text).head?, c = ':' := by simp
    have inside : ∀ c ∈ ([] : List Char), c ≠ ':' ∧ c ≠ '!' ∧ Field.isAccessor c = false := by simp
    exact Field.parse_append inside ends

theorem text_slot : (Layout.mk "" [spec.slot]).text =
    "\x7b:" ++ String.ofList spec.toSpec.text ++ "\x7d" := by
  rw [← String.toList_inj]
  simp [Layout.text, Slot.text, slot, escape]

end IntSpec

end Format

namespace Frame

open Format

variable {ω π : Type}

/-- An integer at the top of the stack is replaced by a text that shows it, whatever the specifier. -/
theorem format_integer (host : Host ω π) (callee : Frame → Machine ω π → Run ω π) (name : String)
    (frame : Frame) (machine : Machine ω π) (rest : List Value) (spec : IntSpec) {v : Int}
    (word : Number.isWord v = true) {scope : Scope}
    (format : scope.get? "fmt" =
      some (.str ("\x7b:" ++ String.ofList spec.toSpec.text ++ "\x7d"))) :
    ∃ text, spec.Shows v text ∧
      frame.dispatch host callee name scope (.builtin .format)
        { machine with stack := .int v :: rest } =
        .next frame.spent { machine with stack := .str (String.ofList text) :: rest } := by
  obtain ⟨blanks, rendered⟩ := spec.renderField_int word
  refine ⟨_, spec.shows_body blanks v, ?_⟩
  rw [← spec.text_slot] at format
  have taking : Template.argument [.int v] (scope.erase "fmt") .unset spec.slot.field.arg =
      .ok (.int v, .automatic 1) := rfl
  have filled : (Layout.mk "" [spec.slot]).template.render [.int v] (scope.erase "fmt") =
      .ok (String.ofList (List.replicate blanks ' ' ++ spec.body v)) := by
    show Template.renderFrom [.int v] (scope.erase "fmt") .unset (spec.slot.pieces ++ []) = _
    rw [Template.renderFrom_slot taking rendered]
    simp [Template.renderFrom, Except.map, IntSpec.slot]
  have enough : [Value.int v].length = (Layout.mk "" [spec.slot]).template.positionalCount := by
    rw [Layout.positionalCount_template]
    rfl
  exact dispatch_format_filled host callee name frame _ format (Layout.parse_text _) rfl enough filled

/-- The least integer, whose magnitude arithmetic does not yield, with commas and blanks. -/
theorem format_integer_least :
    let spec : IntSpec := ⟨some .plus, false, 30, true, .decimal, by decide, by decide⟩
    let scope : Scope := [("fmt", .str "\x7b:+30,d\x7d")]
    let machine : Machine (World Unit) (Plug Empty) :=
      { registry := Registry.builtins, world := { guest := () } }
    Number.isWord Number.leastInt = true ∧ scope.get? "fmt" =
        some (.str ("\x7b:" ++ String.ofList spec.toSpec.text ++ "\x7d")) ∧
      ∃ text, spec.Shows Number.leastInt text ∧
        Frame.root.dispatch (Standard.host Standard.noGuests)
          (fun frame machine => ⟨.ok (), frame, machine⟩) "fstring" scope (.builtin .format)
          { machine with stack := [.int Number.leastInt] } =
          .next Frame.root.spent { machine with stack := [.str (String.ofList text)] } := by
  intro spec scope machine
  have word : Number.isWord Number.leastInt = true := by decide
  have format : scope.get? "fmt" =
      some (.str ("\x7b:" ++ String.ofList spec.toSpec.text ++ "\x7d")) := by cbv
  exact ⟨word, format, format_integer (Standard.host Standard.noGuests)
    (fun frame machine => ⟨.ok (), frame, machine⟩) "fstring" .root machine [] spec word format⟩

end Frame

end DocMachine
