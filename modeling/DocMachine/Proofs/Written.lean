import DocMachine.Json.Parser
import DocMachine.Json.Printer
import DocMachine.Proofs.Spans
import DocMachine.Proofs.Tables

/-!
# Written JSON

The scalars of a value that documents can hold read back as they were written, and its text starts and ends
with characters of its own.

* `Json.Fits depth v`: the numbers of `v` are integers that documents can hold, the keys of its
  objects are distinct, and it has at most `depth` containers inside each other.
* `Json.Follows`: what may follow a value inside of a container, or nothing.

Results:
1. `Json.readString_write`: strings read back as they were.
2. `Json.readNumeral_write` and `Json.readValue_int`: so do integers.
3. `Json.write_opens`, `Json.write_closes` and `Json.write_shown`: the characters of a written value.
-/

namespace DocMachine

namespace Json

/-- The value's numbers are integers that documents can hold, the keys of its objects are distinct,
and at most `depth` containers are inside each other. -/
inductive Fits : Nat → Value → Prop
  | null (depth : Nat) : Fits depth .null
  | bool (depth : Nat) (b : Bool) : Fits depth (.bool b)
  | int (depth : Nat) {i : Int} : Number.leastInt ≤ i → i ≤ Number.greatestNat →
      Fits depth (.num (.int i))
  | str (depth : Nat) (s : String) : Fits depth (.str s)
  | arr {depth : Nat} {items : List Value} : (∀ item ∈ items, Fits depth item) →
      Fits (depth + 1) (.arr items)
  | obj {depth : Nat} {fields : Table String Value} : fields.keys.Nodup →
      (∀ entry ∈ fields, Fits depth entry.2) → Fits (depth + 1) (.obj fields)

/-- What holds of each character of a list is decided on the list, not on all characters. -/
instance decidableChars (p : Char → Prop) [DecidablePred p] (chars : List Char) :
    Decidable (∀ c ∈ chars, p c) :=
  List.decidableBAll p chars

/-! ## Strings -/

/-- The code of a control is read from its four digits. -/
theorem hexFour_control : ∀ n < 0x20, ∃ a b c d, hexFour n = [a, b, c, d] ∧
    hexFour? a b c d = some n := by
  have long : ∀ n < 0x20, (hexFour n).length = 4 := by decide
  have read : ∀ n < 0x20, hexFour? ((hexFour n).getD 0 '0') ((hexFour n).getD 1 '0')
      ((hexFour n).getD 2 '0') ((hexFour n).getD 3 '0') = some n := by decide
  intro n small
  have long := long n small
  have read := read n small
  generalize hexFour n = digits at long read ⊢
  rcases digits with _ | ⟨a, _ | ⟨b, _ | ⟨c, _ | ⟨d, rest⟩⟩⟩⟩
  iterate 4 cases long
  obtain rfl : rest = [] := by simpa using long
  exact ⟨a, b, c, d, rfl, read⟩

/-- An escaped character is read as it was. -/
theorem readString_escape (c : Char) (rest read : List Char) :
    readString (escapeStrict c ++ rest) read = readString rest (c :: read) := by
  unfold escapeStrict
  -- The characters that have a letter of their own.
  iterate 7
    split
    · next same =>
      subst same
      rfl
  split
  · next control =>
    obtain ⟨u, v, w, x, digits, code⟩ := hexFour_control c.toNat control
    have notHigh : isHighUnit c.toNat = false := by
      simp only [isHighUnit, Bool.and_eq_false_iff, decide_eq_false_iff_not]
      omega
    have notLow : isLowUnit c.toNat = false := by
      simp only [isLowUnit, Bool.and_eq_false_iff, decide_eq_false_iff_not]
      omega
    rw [digits]
    show readString ('\\' :: 'u' :: u :: v :: w :: x :: rest) read = _
    rw [readString, code]
    simp only [notHigh, notLow, Char.ofNat_toNat]
    rfl
  -- All other characters stand for themselves.
  · next quote back _ _ _ _ _ shown =>
    have allowed : ¬ (decide (c = '\\') || decide (c.toNat < 0x20)) = true := by
      simp only [back, shown, decide_false, Bool.or_self, Bool.false_eq_true, not_false_eq_true]
    rw [List.singleton_append, readString]
    · exact if_neg allowed
    · exact quote
    · exact fun _ _ _ _ _ same => absurd same back
    · exact fun _ _ same => absurd same back

/-- A written string is read as it was. -/
theorem readString_write (chars rest read : List Char) :
    readString (chars.flatMap strict.escape ++ '"' :: rest) read =
      some (String.ofList (read.reverse ++ chars), rest) := by
  induction chars generalizing read with
  | nil => rw [List.flatMap_nil, List.nil_append, readString, List.append_nil]
  | cons c chars ih =>
    rw [List.flatMap_cons, List.append_assoc]
    show readString (escapeStrict c ++ _) read = _
    rw [readString_escape, ih, List.reverse_cons, List.append_assoc, List.singleton_append]

/-! ## Numerals -/

/-- The characters that may follow a value inside of a container. -/
def enders : List Char := [',', ']', '}', ' ', '\n', '\r', '\t']

/-- What may follow a value inside of a container, or nothing. -/
def Follows (rest : List Char) : Prop :=
  ∀ c ∈ rest.head?, c ∈ enders

theorem follows_cons {c : Char} (ends : c ∈ enders) (rest : List Char) : Follows (c :: rest) := by
  rintro _ ⟨⟩
  exact ends

theorem spanDigits_append {digits rest : List Char} (all : ∀ c ∈ digits, c.isDigit = true)
    (follows : Follows rest) : spanDigits (digits ++ rest) = (digits, rest) := by
  have others : ∀ c ∈ enders, c.isDigit = false := by decide
  exact span_append all fun c ahead => others c (follows c ahead)

theorem natOfDigits_toDigits (n : Nat) : natOfDigits (Nat.toDigits 10 n) = n := by
  rw [natOfDigits, ← Nat.ofDigitChars_eq_foldl, Nat.ofDigitChars_ten_toDigits]

/-- The digits of a number do not start with a zero, unless it is all there is. -/
theorem toDigits_head {n : Nat} (positive : 0 < n) : (Nat.toDigits 10 n).head? ≠ some '0' := by
  induction n using Nat.strongRecOn with
  | ind n ih =>
    rw [Nat.toDigits_eq_if (by decide)]
    split
    · next small =>
      have digit : ∀ d < 10, 0 < d → [d.digitChar].head? ≠ some '0' := by decide
      exact digit n small positive
    · next large =>
      rw [List.head?_append, Option.or_of_isSome (List.isSome_head?.mpr Nat.toDigits_ne_nil)]
      exact ih (n / 10) (by omega) (by omega)

theorem readFraction_follows (negative : Bool) (whole : List Char) {rest : List Char}
    (follows : Follows rest) :
    readFraction negative whole rest = some (⟨negative, whole, none, none⟩, rest) := by
  cases rest with
  | nil => rfl
  | cons c rest =>
    have ends := follows c rfl
    simp only [enders, List.mem_cons, List.not_mem_nil, or_false] at ends
    rcases ends with rfl | rfl | rfl | rfl | rfl | rfl | rfl <;> rfl

/-- The digits of a number and the sign before them are read as a numeral. -/
theorem readNumeral_digits (negative : Bool) (n : Nat) {rest : List Char} (follows : Follows rest) :
    readNumeral ((if negative then ['-'] else []) ++ Nat.toDigits 10 n ++ rest) =
      some (⟨negative, Nat.toDigits 10 n, none, none⟩, rest) := by
  have digits : ∀ c ∈ Nat.toDigits 10 n, c.isDigit = true :=
    fun c => Nat.isDigit_of_mem_toDigits (by decide) (by decide)
  have span := spanDigits_append digits follows
  have whole := readFraction_follows negative (Nat.toDigits 10 n) follows
  -- A numeral with a zero before its digits would be refused.
  have noZero : ∀ c tail, Nat.toDigits 10 n ≠ '0' :: c :: tail := by
    intro c tail same
    rcases Nat.eq_zero_or_pos n with rfl | positive
    · rw [Nat.toDigits_zero] at same
      cases same
    · exact toDigits_head positive (by rw [same]; rfl)
  cases written : Nat.toDigits 10 n with
  | nil => exact absurd written Nat.toDigits_ne_nil
  | cons c tail =>
    rw [written] at span whole noZero digits
    have notSign : c ≠ '-' := by
      rintro rfl
      exact absurd (digits '-' List.mem_cons_self) (by decide)
    cases negative with
    | true =>
      show readNumeral ('-' :: (c :: tail ++ rest)) = _
      simp only [readNumeral, span]
      exact whole
    | false =>
      show readNumeral (c :: tail ++ rest) = _
      unfold readNumeral
      split
      next sign =>
        split at sign
        · next same =>
          cases same
          exact absurd rfl notSign
        · cases sign
          simp only [span]
          exact whole

/-- An integer is written as its sign and its digits. -/
theorem writeNumber_int (i : Int) : writeNumber strict (.int i) =
    (if decide (i < 0) then ['-'] else []) ++ Nat.toDigits 10 i.natAbs := by
  rw [writeNumber, Int.toString_eq_repr, Int.repr_eq_if]
  by_cases negative : i < 0
  · rw [if_neg (by omega), decide_eq_true negative, if_pos rfl, Nat.repr_eq_ofList_toDigits,
      show (-i).toNat = i.natAbs by omega]
    simp
  · rw [if_pos (by omega), decide_eq_false negative, if_neg (by decide),
      Nat.repr_eq_ofList_toDigits, show i.toNat = i.natAbs by omega]
    simp

/-- A written integer is read as a numeral. -/
theorem readNumeral_write (i : Int) {rest : List Char} (follows : Follows rest) :
    readNumeral (writeNumber strict (.int i) ++ rest) =
      some (⟨decide (i < 0), Nat.toDigits 10 i.natAbs, none, none⟩, rest) := by
  rw [writeNumber_int]
  exact readNumeral_digits _ _ follows

/-- The numeral of an integer that documents can hold denotes it. -/
theorem toNumber?_int {i : Int} (least : Number.leastInt ≤ i) (greatest : i ≤ Number.greatestNat) :
    Numeral.toNumber? ⟨decide (i < 0), Nat.toDigits 10 i.natAbs, none, none⟩ =
      some (.int i) := by
  simp only [Numeral.toNumber?, natOfDigits_toDigits, decide_eq_true_eq]
  by_cases negative : i < 0
  · have same : -Int.ofNat i.natAbs = i := by
      rw [Int.ofNat_eq_natCast]
      omega
    rw [if_pos negative, if_neg (by omega), same, if_pos least]
  · have same : Int.ofNat i.natAbs = i := by
      rw [Int.ofNat_eq_natCast]
      omega
    rw [if_neg negative, same, if_pos greatest]

/-! ## Values -/

/-- The characters of an integer. -/
def numerals : List Char := "-0123456789".toList

/-- The characters that a value starts with. -/
def openers : List Char := ['n', 't', 'f', '"', '[', '{'] ++ numerals

theorem numeral_of_isDigit {c : Char} (digit : c.isDigit = true) : c ∈ numerals := by
  have code : 48 ≤ c.toNat ∧ c.toNat ≤ 57 := by
    simpa [Char.isDigit, UInt32.le_iff_toNat_le] using digit
  have all : ∀ n ≤ 57, 48 ≤ n → Char.ofNat n ∈ numerals := by decide
  rw [← c.ofNat_toNat]
  exact all c.toNat code.2 code.1

theorem mem_numerals {i : Int} {c : Char} (among : c ∈ writeNumber strict (.int i)) :
    c ∈ numerals := by
  rw [writeNumber_int, List.mem_append] at among
  rcases among with sign | among
  · split at sign
    · rw [List.mem_singleton.mp sign]
      decide
    · cases sign
  · exact numeral_of_isDigit (Nat.isDigit_of_mem_toDigits (by decide) (by decide) among)

theorem writeNumber_ne_nil (i : Int) : writeNumber strict (.int i) ≠ [] := by
  rw [writeNumber_int]
  exact List.append_ne_nil_of_right_ne_nil _ Nat.toDigits_ne_nil

/-- A value starts with a character of its own. -/
theorem write_opens {depth : Nat} {v : Value} (fits : Fits depth v) :
    ∃ c rest, write strict v = c :: rest ∧ c ∈ openers := by
  cases fits with
  | null => exact ⟨'n', _, rfl, by decide⟩
  | bool _ b =>
    cases b with
    | true => exact ⟨'t', _, rfl, by decide⟩
    | false => exact ⟨'f', _, rfl, by decide⟩
  | @int _ i _ _ =>
    obtain ⟨c, rest, written⟩ := List.exists_cons_of_ne_nil (writeNumber_ne_nil i)
    have numeral := mem_numerals (written ▸ List.mem_cons_self)
    exact ⟨c, rest, written, List.mem_append_right _ numeral⟩
  | str _ s => exact ⟨'"', _, rfl, by decide⟩
  | arr => exact ⟨'[', _, rfl, by decide⟩
  | obj => exact ⟨'{', _, rfl, by decide⟩

theorem skipSpace_opener {c : Char} (opens : c ∈ openers) (rest : List Char) :
    skipSpace (c :: rest) = c :: rest := by
  have shown : ∀ c ∈ openers, isSpace c = false := by decide
  rw [skipSpace, List.dropWhile_cons, shown c opens]
  rfl

theorem readValue_int {depth fuel : Nat} {i : Int} (least : Number.leastInt ≤ i)
    (greatest : i ≤ Number.greatestNat) {rest : List Char} (follows : Follows rest) :
    readValue (fuel + 1) depth (writeNumber strict (.int i) ++ rest) =
      some (.num (.int i), rest) := by
  have numeral := readNumeral_write i follows
  have number := toNumber?_int least greatest
  have opens : ∀ c ∈ numerals, c ≠ 'n' ∧ c ≠ 't' ∧ c ≠ 'f' ∧ c ≠ '"' ∧ c ≠ '[' ∧ c ≠ '{' := by
    decide
  obtain ⟨c, tail, written⟩ := List.exists_cons_of_ne_nil (writeNumber_ne_nil i)
  have among : c ∈ numerals := mem_numerals (written ▸ List.mem_cons_self)
  obtain ⟨notN, notT, notF, notQuote, notBracket, notBrace⟩ := opens c among
  rw [written, List.cons_append] at numeral ⊢
  rw [readValue, skipSpace_opener (List.mem_append_right _ among)]
  split
  · next same => exact absurd (List.cons.inj same).1 notN
  · next same => exact absurd (List.cons.inj same).1 notT
  · next same => exact absurd (List.cons.inj same).1 notF
  · next same => exact absurd (List.cons.inj same).1 notQuote
  · next same => exact absurd (List.cons.inj same).1 notBracket
  · next same => exact absurd (List.cons.inj same).1 notBrace
  · rw [numeral]
    simp only [number, Option.map_some]

/-! ## Characters of written values -/

/-- The characters that a value ends with. -/
def closers : List Char := ['l', 'e', '"', ']', '}'] ++ numerals

/-- A value ends with a character of its own. -/
theorem write_closes {depth : Nat} {v : Value} (fits : Fits depth v) :
    ∃ front c, write strict v = front ++ [c] ∧ c ∈ closers := by
  cases fits with
  | null => exact ⟨"nul".toList, 'l', rfl, by decide⟩
  | bool _ b =>
    cases b with
    | true => exact ⟨"tru".toList, 'e', rfl, by decide⟩
    | false => exact ⟨"fals".toList, 'e', rfl, by decide⟩
  | @int _ i _ _ =>
    obtain ⟨front, c, written⟩ :=
      (List.eq_nil_or_concat (writeNumber strict (.int i))).resolve_left (writeNumber_ne_nil i)
    rw [List.concat_eq_append] at written
    have numeral : c ∈ numerals := mem_numerals (written ▸ List.mem_append_right _ (by simp))
    exact ⟨front, c, written, List.mem_append_right _ numeral⟩
  | str _ s => exact ⟨'"' :: s.toList.flatMap strict.escape, '"', rfl, by decide⟩
  | @arr _ items _ => exact ⟨'[' :: writeItems strict items, ']', rfl, by decide⟩
  | @obj _ fields _ _ => exact ⟨'{' :: writeFields strict fields, '}', rfl, by decide⟩

/-- No character of the list is a control. -/
def Shown (chars : List Char) : Prop :=
  ∀ c ∈ chars, 0x20 ≤ c.toNat

instance (chars : List Char) : Decidable (Shown chars) :=
  inferInstanceAs (Decidable (∀ c ∈ chars, 0x20 ≤ c.toNat))

namespace Shown

theorem append {chars more : List Char} (first : Shown chars) (second : Shown more) :
    Shown (chars ++ more) := by
  intro c among
  exact (List.mem_append.mp among).elim (first c) (second c)

theorem cons {c : Char} {chars : List Char} (first : 0x20 ≤ c.toNat) (rest : Shown chars) :
    Shown (c :: chars) := by
  intro d among
  rcases List.mem_cons.mp among with rfl | among
  · exact first
  · exact rest d among

theorem escape (c : Char) : Shown (escapeStrict c) := by
  have digits : ∀ n < 0x20, Shown (hexFour n) := by decide
  unfold escapeStrict
  iterate 7
    split
    · decide
  split
  · next control => exact append (by decide) (digits c.toNat control)
  · next shown =>
    intro d among
    rw [List.mem_singleton.mp among]
    exact Nat.le_of_not_lt shown

theorem string (s : String) : Shown (writeString strict s) := by
  refine cons (by decide) (append ?_ (cons (by decide) (by rintro c ⟨⟩)))
  intro c among
  obtain ⟨d, -, among⟩ := List.mem_flatMap.mp among
  exact escape d c among

theorem items {items : List Value} (each : ∀ item ∈ items, Shown (write strict item)) :
    Shown (writeItems strict items) := by
  induction items with
  | nil => rintro c ⟨⟩
  | cons item rest ih =>
    have first := each item List.mem_cons_self
    cases rest with
    | nil => exact first
    | cons next rest =>
      exact append first
        (cons (by decide) (ih fun item listed => each item (List.mem_cons_of_mem _ listed)))

theorem fields {fields : List (String × Value)}
    (each : ∀ entry ∈ fields, Shown (write strict entry.2)) :
    Shown (writeFields strict fields) := by
  induction fields with
  | nil => rintro c ⟨⟩
  | cons entry rest ih =>
    have first := each entry List.mem_cons_self
    cases rest with
    | nil => exact append (string entry.1) (cons (by decide) first)
    | cons next rest =>
      have later := ih fun entry listed => each entry (List.mem_cons_of_mem _ listed)
      exact append (string entry.1) (cons (by decide) (append first (cons (by decide) later)))

end Shown

/-- A value is written without controls. -/
theorem write_shown {depth : Nat} {v : Value} (fits : Fits depth v) : Shown (write strict v) := by
  induction fits with
  | null => decide
  | bool _ b => cases b <;> decide
  | int =>
    have shown : ∀ c ∈ numerals, 0x20 ≤ c.toNat := by decide
    exact fun c among => shown c (mem_numerals among)
  | str _ s => exact .string s
  | arr _ ih => exact .cons (by decide) (.append (.items ih) (by decide))
  | obj _ _ ih => exact .cons (by decide) (.append (.fields ih) (by decide))

end Json

end DocMachine
