import DocMachine.Proofs.Answers
import DocMachine.Proofs.Blanks
import DocMachine.Proofs.Interpolation
import DocMachine.Proofs.Written
import Mathlib.Data.Nat.Digits.Defs

/-!
# Integers as text

An integer that was put into a text is read from it again, with any blanks around it. What else is read as
an integer are digits after an optional sign, as long as they denote a word.

* `IntNumeral`: an optional sign, and digits.
* `Text.Denotes`: a text is such a numeral, apart from blanks around it.

Results:
1. `int?_eq_some`: the numerals are all that is read as an integer.
2. `Arith.intOfText_eq_ok` and `Arith.intOfText_eq_error`: which texts are converted to words.
3. `Builtin.asInt_restores`: the conversion undoes the interpolation, and takes no other texts.
-/

namespace DocMachine

/-! ## Numerals -/

/-- An integer in decimal: an optional sign, and one digit or more. Zeros may come first. -/
structure IntNumeral where
  sign : List Char
  digits : List (Fin 10)
  signed : sign ∈ [[], ['+'], ['-']]
  filled : digits ≠ []

namespace IntNumeral

variable (numeral : IntNumeral)

/-- The characters of the numeral. -/
def text : List Char :=
  numeral.sign ++ numeral.digits.map fun digit => digit.val.digitChar

/-- The number that the digits denote. -/
def magnitude : Nat :=
  Nat.ofDigits 10 (numeral.digits.reverse.map Fin.val)

/-- The integer that the numeral denotes. -/
def value : Int :=
  if numeral.sign = ['-'] then -numeral.magnitude else numeral.magnitude

end IntNumeral

/-- The integer is what the text denotes, apart from blanks around it. -/
def Text.Denotes (s : String) (i : Int) : Prop :=
  ∃ (numeral : IntNumeral) (front back : List Char), s.toList = front ++ numeral.text ++ back ∧
    (∀ c ∈ front, isBlank c = true) ∧ (∀ c ∈ back, isBlank c = true) ∧ numeral.value = i

theorem natOfDigits_digitChar (digits : List (Fin 10)) :
    natOfDigits (digits.map fun digit => digit.val.digitChar) =
      Nat.ofDigits 10 (digits.reverse.map Fin.val) := by
  -- The reader multiplies what it has read so far, so the induction goes from the last digit back.
  induction digits using List.reverseRecOn with
  | nil => rfl
  | append_singleton digits digit ih =>
    have last : (Nat.digitChar digit).toNat - '0'.toNat = digit.val := by
      rw [Nat.toNat_digitChar_of_lt_ten digit.isLt]
      exact Nat.add_sub_cancel_left 48 digit.val
    rw [natOfDigits] at ih ⊢
    rw [List.map_append, List.foldl_append, ih, List.map_singleton, List.foldl_cons, List.foldl_nil, last,
      List.reverse_append, List.reverse_singleton, List.singleton_append, List.map_cons, Nat.ofDigits_cons,
      Nat.add_comm]

/-- Characters that are digits stand for numbers below ten. -/
theorem exists_digits {chars : List Char} (all : ∀ c ∈ chars, c.isDigit = true) :
    ∃ digits : List (Fin 10), chars = digits.map fun digit => digit.val.digitChar := by
  induction chars with
  | nil => exact ⟨[], rfl⟩
  | cons c rest ih =>
    obtain ⟨first, others⟩ := List.forall_mem_cons.mp all
    obtain ⟨digits, rfl⟩ := ih others
    have each : ∀ digit : Fin 10, digit.val.digitChar = Char.ofNat (48 + digit) := by decide
    obtain ⟨least, greatest⟩ : 48 ≤ c.toNat ∧ c.toNat ≤ 57 := Char.isDigit_iff_toNat.mp first
    refine ⟨⟨c.toNat - 48, by omega⟩ :: digits, ?_⟩
    rw [List.map_cons, each, show 48 + (c.toNat - 48) = c.toNat by omega, Char.ofNat_toNat]

theorem isDigit_digits (digits : List (Fin 10)) :
    ∀ c ∈ digits.map fun digit => digit.val.digitChar, c.isDigit = true := by
  intro c among
  obtain ⟨digit, -, rfl⟩ := List.mem_map.mp among
  rw [Nat.isDigit_digitChar]
  exact decide_eq_true digit.isLt

theorem nat?_eq_some {chars : List Char} {n : Nat} : nat? chars = some n ↔
    ∃ digits : List (Fin 10), digits ≠ [] ∧ (chars = digits.map fun digit => digit.val.digitChar) ∧
      n = Nat.ofDigits 10 (digits.reverse.map Fin.val) := by
  unfold nat?
  constructor
  · intro read
    split at read
    · cases read
    · next isNat =>
      rw [Bool.or_eq_true, not_or, List.isEmpty_iff, Bool.not_eq_true', Bool.not_eq_false,
        List.all_eq_true] at isNat
      obtain ⟨digits, rfl⟩ := exists_digits isNat.2
      cases read
      exact ⟨digits, fun none => isNat.1 (by rw [none]; rfl), rfl, natOfDigits_digitChar digits⟩
  · rintro ⟨digits, filled, rfl, rfl⟩
    rw [if_neg, natOfDigits_digitChar]
    rw [Bool.or_eq_true, not_or, List.isEmpty_iff, Bool.not_eq_true', Bool.not_eq_false, List.all_eq_true]
    exact ⟨fun none => filled (List.map_eq_nil_iff.mp none), isDigit_digits digits⟩

theorem readSign_spec (chars : List Char) : ∃ sign ∈ [[], ['+'], ['-']],
    chars = sign ++ (readSign chars).2 ∧ (readSign chars).1 = decide (sign = ['-']) := by
  unfold readSign
  split
  · exact ⟨['-'], by simp, rfl, by simp⟩
  · exact ⟨['+'], by simp, rfl, by simp⟩
  · exact ⟨[], by simp, rfl, by simp⟩

/-- Before digits, a sign is read as it is. -/
theorem IntNumeral.readSign_text (numeral : IntNumeral) : readSign numeral.text =
    (decide (numeral.sign = ['-']), numeral.digits.map fun digit => digit.val.digitChar) := by
  obtain ⟨sign, digits, signed, filled⟩ := numeral
  simp only [List.mem_cons, List.not_mem_nil, or_false] at signed
  rcases signed with rfl | rfl | rfl
  · -- Without a sign, the first digit must not be taken for one.
    obtain ⟨first, others, rfl⟩ := List.exists_cons_of_ne_nil filled
    have noSign : ∀ digit : Fin 10, digit.val.digitChar ≠ '-' ∧ digit.val.digitChar ≠ '+' := by decide
    show readSign (first.val.digitChar :: _) = _
    unfold readSign
    split
    · next same => exact absurd (List.cons.inj same).1 (noSign first).1
    · next same => exact absurd (List.cons.inj same).1 (noSign first).2
    · rfl
  · rfl
  · rfl

/-- The numerals are all that is read as an integer. -/
theorem int?_eq_some {chars : List Char} {i : Int} :
    int? chars = some i ↔ ∃ numeral : IntNumeral, numeral.text = chars ∧ numeral.value = i := by
  unfold int?
  dsimp only
  rw [Option.map_eq_some_iff]
  constructor
  · rintro ⟨n, read, value⟩
    obtain ⟨digits, filled, chars', magnitude⟩ := nat?_eq_some.mp read
    obtain ⟨sign, signed, whole, negative⟩ := readSign_spec chars
    refine ⟨⟨sign, digits, signed, filled⟩, ?_, ?_⟩
    · rw [IntNumeral.text, ← chars', ← whole]
    · rw [← value, negative, magnitude]
      simp only [IntNumeral.value, IntNumeral.magnitude, decide_eq_true_eq]
      rfl
  · rintro ⟨numeral, rfl, rfl⟩
    refine ⟨numeral.magnitude, nat?_eq_some.mpr ⟨numeral.digits, numeral.filled, ?_, rfl⟩, ?_⟩
    · rw [numeral.readSign_text]
    · rw [numeral.readSign_text]
      simp only [IntNumeral.value, decide_eq_true_eq]
      rfl

/-! ## Blanks -/

/-- A numeral holds no blanks. -/
theorem IntNumeral.text_shown (numeral : IntNumeral) : ∀ c ∈ numeral.text, Text.isBlank c = false := by
  have signs : ∀ sign ∈ [[], ['+'], ['-']], ∀ c ∈ sign, Text.isBlank c = false := by decide
  have digits : ∀ digit : Fin 10, Text.isBlank digit.val.digitChar = false := by decide
  exact List.forall_mem_append.mpr
    ⟨signs numeral.sign numeral.signed, List.forall_mem_map.mpr fun digit _ => digits digit⟩

theorem IntNumeral.text_ne_nil (numeral : IntNumeral) : numeral.text ≠ [] := by
  intro none
  exact numeral.filled (List.map_eq_nil_iff.mp (List.append_eq_nil_iff.mp none).2)

/-- What is read as an integer when the blanks at both ends are taken. -/
theorem Text.denotes_iff {s : String} {i : Int} : Denotes s i ↔ int? (trim s).toList = some i := by
  rw [int?_eq_some, trim, String.toList_ofList]
  constructor
  · rintro ⟨numeral, front, back, whole, blank, blank', value⟩
    have shown := numeral.text_shown
    refine ⟨numeral, ?_, value⟩
    rw [whole, trimChars_around isBlank blank numeral.text_ne_nil
      (fun c first => shown c (List.mem_of_mem_head? first))
      (fun c last => shown c (List.mem_of_getLast? last)) blank']
  · rintro ⟨numeral, trimmed, value⟩
    obtain ⟨front, back, whole, blank, blank'⟩ := trimChars_spec isBlank s.toList
    rw [← trimmed] at whole
    exact ⟨numeral, front, back, whole, blank, blank', value⟩

namespace Arith

/-- The texts that are converted denote words. -/
theorem intOfText_eq_ok {s : String} {v : Value} : intOfText s = .ok v ↔
    ∃ i, Text.Denotes s i ∧ Number.isWord i = true ∧ v = .int i := by
  unfold intOfText
  constructor
  · intro converted
    split at converted
    · next i read =>
      split at converted
      · next word =>
        cases converted
        exact ⟨i, Text.denotes_iff.mpr read, word, rfl⟩
      · cases converted
    · cases converted
  · rintro ⟨i, denotes, word, rfl⟩
    rw [Text.denotes_iff.mp denotes]
    exact if_pos word

/-- The other ones are named in the failure. -/
theorem intOfText_eq_error {s : String} (none : ∀ i, Text.Denotes s i → Number.isWord i = false) :
    intOfText s = .error (.type (.badIntText s)) := by
  unfold intOfText
  split
  · next i read => rw [none i (Text.denotes_iff.mpr read), if_neg Bool.false_ne_true]
  · rfl

end Arith

/-! ## Integers in a text -/

/-- A written integer is a numeral of it. -/
theorem IntNumeral.exists_written (i : Int) :
    ∃ numeral : IntNumeral, numeral.text = Json.writeNumber Json.strict (.int i) ∧ numeral.value = i := by
  have read : nat? (Nat.toDigits 10 i.natAbs) = some i.natAbs := by
    have all : (Nat.toDigits 10 i.natAbs).all Char.isDigit = true := List.all_eq_true.mpr fun c =>
      Nat.isDigit_of_mem_toDigits (by decide) (by decide)
    have filled : (Nat.toDigits 10 i.natAbs).isEmpty = false :=
      List.isEmpty_eq_false_iff.mpr Nat.toDigits_ne_nil
    rw [nat?, filled, all, if_neg (by decide), Json.natOfDigits_toDigits]
  obtain ⟨digits, filled, written, magnitude⟩ := nat?_eq_some.mp read
  rw [Json.writeNumber_int, written]
  by_cases negative : i < 0
  · refine ⟨⟨['-'], digits, by decide, filled⟩, by rw [decide_eq_true negative]; rfl, ?_⟩
    rw [value, if_pos rfl, IntNumeral.magnitude, ← magnitude]
    omega
  · refine ⟨⟨[], digits, by decide, filled⟩, by rw [decide_eq_false negative]; rfl, ?_⟩
    have plain : ([] : List Char) ≠ ['-'] := by decide
    rw [value, if_neg plain, IntNumeral.magnitude, ← magnitude]
    omega

/-- Among blanks, a written integer is what the text denotes. -/
theorem Text.denotes_display (i : Int) {front back : String}
    (blank : ∀ c ∈ front.toList, isBlank c = true) (blank' : ∀ c ∈ back.toList, isBlank c = true) :
    Denotes (front ++ (Value.int i).display ++ back) i := by
  obtain ⟨numeral, text, value⟩ := IntNumeral.exists_written i
  refine ⟨numeral, front.toList, back.toList, ?_, blank, blank', value⟩
  have display : (Value.int i).display.toList = Json.writeNumber Json.strict (.int i) := String.toList_ofList
  rw [text, String.toList_append, String.toList_append, display]

/-- Text without braces is written as it is in a format string. -/
theorem Format.escape_plain {text : List Char} (plain : ∀ c ∈ text, c ≠ '\x7b' ∧ c ≠ '\x7d') :
    escape text = text := by
  induction text with
  | nil => rfl
  | cons c rest ih =>
    obtain ⟨first, others⟩ := List.forall_mem_cons.mp plain
    rw [escape] at ih ⊢
    rw [List.flatMap_cons, ih others, escapeChar, if_neg (not_or.mpr first), List.singleton_append]

namespace Builtin

/-- A format string with one plain field puts the text of the value at the top there. -/
theorem format_answers {front back : String} (plain : ∀ c ∈ front.toList, c ≠ '\x7b' ∧ c ≠ '\x7d')
    (plain' : ∀ c ∈ back.toList, c ≠ '\x7b' ∧ c ≠ '\x7d') {scope : Scope}
    (format : scope.get? "fmt" = some (.str (front ++ "\x7b\x7d" ++ back))) (value : Value) :
    Builtin.format.AnswersWith scope [value] (.ok (.str (front ++ value.display ++ back))) := by
  let holes : List (Format.Hole × String) := [(.next, back)]
  let layout := Format.Layout.ofHoles front holes
  have written : front ++ "\x7b\x7d" ++ back = layout.text := by
    have parts : layout.text.toList =
        Format.escape front.toList ++ ('\x7b' :: '\x7d' :: Format.escape back.toList ++ []) :=
      String.toList_ofList
    rw [← String.toList_inj, parts, Format.escape_plain plain, Format.escape_plain plain', List.append_nil,
      String.toList_append, String.toList_append, List.append_assoc]
    rfl
  have rendered : layout.template.render [value] (scope.erase "fmt") =
      .ok (front ++ value.display ++ back) := by
    have binds : Format.Binds (scope.erase "fmt") holes [value] [value] := .next back value .nil
    have filled : Format.Template.renderFrom ([] ++ [value]) (scope.erase "fmt") .unset
        (layout.slots.flatMap Format.Slot.pieces) = .ok (Format.filled holes [value]) :=
      Format.Template.renderFrom_holes binds (fun _ => rfl) (.inl ⟨rfl, rfl⟩)
    rw [List.nil_append] at filled
    rw [Format.Template.render, Format.Layout.template, Format.Template.renderFrom_text, filled]
    simp [Except.map, Format.filled, holes, layout, Format.Layout.ofHoles, String.append_assoc]
  rw [written] at format
  intro ω π host callee name frame machine below holds
  exact Frame.dispatch_format_filled host callee name frame machine format layout.parse_text holds
    (Format.Layout.ofHoles_count front holes).symm rendered

theorem asInt_answers (x : Value) : Builtin.asInt.Answers [x] (Arith.toInt x) :=
  answers_unary (fun _ _ _ => rfl) Arith.toInt_late x

/-- An integer that was put into a text is read from it again, with any blanks around it. A text is read if
it denotes a word, apart from blanks around it, and only then. -/
theorem asInt_restores :
    (∀ i : Int, -2 ^ 63 ≤ i → i < 2 ^ 63 → ∃ text : String, ∀ front back : String,
      (∀ c ∈ front.toList, Text.isBlank c = true) → (∀ c ∈ back.toList, Text.isBlank c = true) →
        (∀ scope : Scope, scope.get? "fmt" = some (.str (front ++ "\x7b\x7d" ++ back)) →
          Builtin.format.AnswersWith scope [.int i] (.ok (.str (front ++ text ++ back)))) ∧
        Builtin.asInt.Answers [.str (front ++ text ++ back)] (.ok (.int i))) ∧
    ∀ s : String,
      (∀ value, Builtin.asInt.Answers [.str s] (.ok value) ↔
        ∃ i, Text.Denotes s i ∧ -2 ^ 63 ≤ i ∧ i < 2 ^ 63 ∧ value = .int i) ∧
      ((∀ i, Text.Denotes s i → ¬ (-2 ^ 63 ≤ i ∧ i < 2 ^ 63)) →
        Builtin.asInt.Answers [.str s] (.error (.type (.badIntText s)))) := by
  have isWord {i : Int} : Number.isWord i = true ↔ -2 ^ 63 ≤ i ∧ i < 2 ^ 63 := by
    rw [Number.isWord_iff]
    omega
  have converts (s : String) : Builtin.asInt.Answers [.str s] (Arith.intOfText s) := asInt_answers (.str s)
  refine ⟨fun i least greatest => ⟨(Value.int i).display, fun front back blank blank' => ⟨?_, ?_⟩⟩,
    fun s => ⟨fun value => ?_, fun none => ?_⟩⟩
  · -- Blanks are no braces, so they stand in a format string as they are.
    have plain {c : Char} (isBlank : Text.isBlank c = true) : c ≠ '\x7b' ∧ c ≠ '\x7d' := by
      constructor <;> rintro rfl <;> exact absurd isBlank (by decide)
    intro scope format
    exact format_answers (fun c among => plain (blank c among)) (fun c among => plain (blank' c among))
      format _
  · have converted := Arith.intOfText_eq_ok.mpr
      ⟨i, Text.denotes_display i blank blank', isWord.mpr ⟨least, greatest⟩, rfl⟩
    rw [← converted]
    exact converts _
  · rw [(converts s).iff, Arith.intOfText_eq_ok]
    simp only [isWord, and_assoc]
  · have refused := Arith.intOfText_eq_error fun i denotes =>
      Bool.eq_false_iff.mpr fun word => none i denotes (isWord.mp word)
    rw [← refused]
    exact converts s

/-- The least word, among blanks that are not ASCII; zeros after a plus; the integer after the greatest word,
and a numeral with two signs. -/
theorem asInt_restores_bounds :
    (∃ text : String,
      Builtin.format.AnswersWith [("fmt", .str "\u3000\x7b\x7d\u00a0")] [.int (-0x8000000000000000)]
        (.ok (.str ("\u3000" ++ text ++ "\u00a0"))) ∧
      Builtin.asInt.Answers [.str ("\u3000" ++ text ++ "\u00a0")] (.ok (.int (-0x8000000000000000)))) ∧
    Builtin.asInt.Answers [.str " +007\n"] (.ok (.int 7)) ∧
    Builtin.asInt.Answers [.str "9223372036854775808"]
      (.error (.type (.badIntText "9223372036854775808"))) ∧
    Builtin.asInt.Answers [.str "+-1"] (.error (.type (.badIntText "+-1"))) := by
  refine ⟨?_, ?_, ?_, ?_⟩
  · obtain ⟨text, restores⟩ := asInt_restores.1 (-0x8000000000000000) (by decide) (by decide)
    obtain ⟨puts, takes⟩ := restores "\u3000" "\u00a0" (by decide) (by decide)
    exact ⟨text, puts _ rfl, takes⟩
  · refine ((asInt_restores.2 _).1 _).mpr ⟨7, ?_, by decide, by decide, rfl⟩
    exact ⟨⟨['+'], [0, 0, 7], by decide, by decide⟩, [' '], ['\n'], by decide, by decide, by decide, rfl⟩
  · refine (asInt_restores.2 _).2 fun i denotes => ?_
    have read : int? (Text.trim "9223372036854775808").toList = some 9223372036854775808 := by decide
    obtain rfl := Option.some.inj (read.symm.trans (Text.denotes_iff.mp denotes))
    decide
  · refine (asInt_restores.2 _).2 fun i denotes => ?_
    have read : int? (Text.trim "+-1").toList = none := by decide
    exact absurd (read.symm.trans (Text.denotes_iff.mp denotes)) nofun

end Builtin

end DocMachine
