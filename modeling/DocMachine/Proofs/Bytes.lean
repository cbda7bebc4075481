import DocMachine.Text.Lines
import DocMachine.Text.Utf8
import Mathlib.Data.List.Basic

/-!
# Text as bytes

Text that is written as bytes reads back as it was, and bytes that were put together line by line are
cut into those lines again.

* `Text.lineBytes` are the bytes of texts, with a line feed after each.

Results:
1. `Text.ofUtf8_toUtf8`: the bytes of a text denote it.
2. `Text.byteLines_lineBytes`: texts without controls are the lines of their bytes.
-/

namespace DocMachine.Text

/-! ## Single bytes -/

theorem toNat_byte {n : Nat} (fits : n < 256) : (UInt8.ofNat n).toNat = n :=
  UInt8.toNat_ofNat'.trans (Nat.mod_eq_of_lt fits)

/-- What holds of the codes below 256 holds of all bytes. -/
theorem forall_byte {kind : UInt8 → Prop} (each : ∀ n : Fin 256, kind (UInt8.ofNat n)) (b : UInt8) :
    kind b := by
  have holds := each ⟨b.toNat, b.toNat_lt⟩
  rwa [UInt8.ofNat_toNat] at holds

theorem isTail_byte (n : Nat) : isTail (UInt8.ofNat (n % 64 + 128)) = true := by
  have byte := toNat_byte (show n % 64 + 128 < 256 by omega)
  simp only [isTail, Bool.and_eq_true, decide_eq_true_eq, UInt8.le_iff_toNat_le, byte,
    UInt8.reduceToNat]
  omega

theorem tailBits_byte (n : Nat) : tailBits (UInt8.ofNat (n % 64 + 128)) = n % 64 := by
  rw [tailBits, toNat_byte (by omega)]
  omega

/-- The second byte of three tells no code that is too small, and none of a surrogate. -/
theorem isSecondOfThree_byte {n : Nat} (large : 0x7ff < n) (small : n ≤ 0xffff)
    (valid : n < 0xd800 ∨ 0xdfff < n) :
    isSecondOfThree (UInt8.ofNat (n / 4096 % 16 + 224)) (UInt8.ofNat (n / 64 % 64 + 128)) =
      true := by
  have first := toNat_byte (show n / 4096 % 16 + 224 < 256 by omega)
  have second := toNat_byte (show n / 64 % 64 + 128 < 256 by omega)
  unfold isSecondOfThree
  rw [isTail_byte]
  simp only [← UInt8.toNat_inj, UInt8.le_iff_toNat_le, first, second, UInt8.reduceToNat]
  split
  · simp only [Bool.and_eq_true, decide_eq_true_eq]
    omega
  · split
    · simp only [Bool.and_eq_true, decide_eq_true_eq]
      omega
    · rfl

/-- The second byte of four tells no code that is too small or too great. -/
theorem isSecondOfFour_byte {n : Nat} (large : 0xffff < n) (small : n < 0x110000) :
    isSecondOfFour (UInt8.ofNat (n / 262144 % 8 + 240)) (UInt8.ofNat (n / 4096 % 64 + 128)) =
      true := by
  have first := toNat_byte (show n / 262144 % 8 + 240 < 256 by omega)
  have second := toNat_byte (show n / 4096 % 64 + 128 < 256 by omega)
  unfold isSecondOfFour
  rw [isTail_byte]
  simp only [← UInt8.toNat_inj, UInt8.le_iff_toNat_le, first, second, UInt8.reduceToNat]
  split
  · simp only [Bool.and_eq_true, decide_eq_true_eq]
    omega
  · split
    · simp only [Bool.and_eq_true, decide_eq_true_eq]
      omega
    · rfl

theorem not_ascii {n : Nat} (fits : n < 256) (large : 128 ≤ n) : ¬ UInt8.ofNat n < 0x80 := by
  simp only [UInt8.lt_iff_toNat_lt, toNat_byte fits, UInt8.reduceToNat]
  omega

theorem between_byte {low high : UInt8} {n : Nat} (fits : n < 256) :
    (low ≤ UInt8.ofNat n && UInt8.ofNat n ≤ high) = true ↔ low.toNat ≤ n ∧ n ≤ high.toNat := by
  simp only [Bool.and_eq_true, decide_eq_true_eq, UInt8.le_iff_toNat_le, toNat_byte fits]

/-! ## Characters -/

theorem utf8Step_one {n : Nat} (small : n ≤ 0x7f) (rest : List UInt8) :
    utf8Step (UInt8.ofNat n :: rest) = .char (Char.ofNat n) 1 rest := by
  have first : UInt8.ofNat n < 0x80 := by
    simp only [UInt8.lt_iff_toNat_lt, toNat_byte (show n < 256 by omega), UInt8.reduceToNat]
    omega
  simp only [utf8Step]
  rw [if_pos first, toNat_byte (by omega)]

theorem utf8Step_two {n : Nat} (large : 0x7f < n) (small : n ≤ 0x7ff) (rest : List UInt8) :
    utf8Step (UInt8.ofNat (n / 64 % 32 + 192) :: UInt8.ofNat (n % 64 + 128) :: rest) =
      .char (Char.ofNat n) 2 rest := by
  have whole : (n / 64 % 32 + 192) % 32 * 64 + n % 64 = n := by omega
  have least : 0xc2 ≤ n / 64 % 32 + 192 := by omega
  have greatest : n / 64 % 32 + 192 ≤ 0xdf := by omega
  -- All that is left to know of the first byte is between which bytes it lies.
  generalize n / 64 % 32 + 192 = first at whole least greatest
  simp only [utf8Step]
  rw [if_neg (not_ascii (by omega) (by omega)),
    if_pos ((between_byte (by omega)).mpr ⟨least, greatest⟩), if_pos (isTail_byte n),
    tailBits_byte, toNat_byte (by omega), whole]

theorem utf8Step_three {n : Nat} (large : 0x7ff < n) (small : n ≤ 0xffff)
    (valid : n < 0xd800 ∨ 0xdfff < n) (rest : List UInt8) :
    utf8Step (UInt8.ofNat (n / 4096 % 16 + 224) :: UInt8.ofNat (n / 64 % 64 + 128) ::
      UInt8.ofNat (n % 64 + 128) :: rest) = .char (Char.ofNat n) 3 rest := by
  have whole : (n / 4096 % 16 + 224) % 16 * 4096 + n / 64 % 64 * 64 + n % 64 = n := by omega
  have least : 0xe0 ≤ n / 4096 % 16 + 224 := by omega
  have greatest : n / 4096 % 16 + 224 ≤ 0xef := by omega
  have second := isSecondOfThree_byte large small valid
  generalize n / 4096 % 16 + 224 = first at whole least greatest second
  have notTwo : ¬ (first ≤ 0xdf) := by omega
  simp only [utf8Step]
  rw [if_neg (not_ascii (by omega) (by omega)),
    if_neg fun two => notTwo ((between_byte (by omega)).mp two).2,
    if_pos ((between_byte (by omega)).mpr ⟨least, greatest⟩), second, if_neg (by decide),
    if_pos (isTail_byte n), tailBits_byte, tailBits_byte, toNat_byte (by omega), whole]

theorem utf8Step_four {n : Nat} (large : 0xffff < n) (small : n < 0x110000) (rest : List UInt8) :
    utf8Step (UInt8.ofNat (n / 262144 % 8 + 240) :: UInt8.ofNat (n / 4096 % 64 + 128) ::
      UInt8.ofNat (n / 64 % 64 + 128) :: UInt8.ofNat (n % 64 + 128) :: rest) =
        .char (Char.ofNat n) 4 rest := by
  have whole : (n / 262144 % 8 + 240) % 8 * 262144 + n / 4096 % 64 * 4096 + n / 64 % 64 * 64 +
      n % 64 = n := by omega
  have least : 0xf0 ≤ n / 262144 % 8 + 240 := by omega
  have greatest : n / 262144 % 8 + 240 ≤ 0xf4 := by omega
  have second := isSecondOfFour_byte large small
  generalize n / 262144 % 8 + 240 = first at whole least greatest second
  have notTwo : ¬ (first ≤ 0xdf) := by omega
  have notThree : ¬ (first ≤ 0xef) := by omega
  simp only [utf8Step]
  rw [if_neg (not_ascii (by omega) (by omega)),
    if_neg fun two => notTwo ((between_byte (by omega)).mp two).2,
    if_neg fun three => notThree ((between_byte (by omega)).mp three).2,
    if_pos ((between_byte (by omega)).mpr ⟨least, greatest⟩), second, if_neg (by decide),
    isTail_byte, if_neg (by decide), if_pos (isTail_byte n), tailBits_byte, tailBits_byte,
    tailBits_byte, toNat_byte (by omega), whole]

/-- A character is read from its own bytes. -/
theorem utf8Step_encode (c : Char) (rest : List UInt8) :
    ∃ size, utf8Step (String.utf8EncodeChar c ++ rest) = .char c size rest := by
  have valid : c.val.toNat < 0xd800 ∨ 0xdfff < c.val.toNat ∧ c.val.toNat < 0x110000 := c.valid
  have decoded : Char.ofNat c.val.toNat = c := c.ofNat_toNat
  unfold String.utf8EncodeChar
  generalize c.val.toNat = n at valid decoded
  subst decoded
  simp only
  split
  · next small => exact ⟨1, utf8Step_one small rest⟩
  split
  · next large small => exact ⟨2, utf8Step_two (by omega) small rest⟩
  split
  · next large small => exact ⟨3, utf8Step_three (by omega) small (by omega) rest⟩
  · next large => exact ⟨4, utf8Step_four (by omega) (by omega) rest⟩

/-! ## Texts -/

theorem toList_loop (bytes : ByteArray) (index : Nat) (read : List UInt8) :
    ByteArray.toList.loop bytes index read = read.reverse ++ bytes.data.toList.drop index := by
  -- On the number of bytes that are still to be read.
  induction rest : bytes.size - index generalizing index read with
  | zero =>
    have outside : bytes.data.toList.length ≤ index := by
      rw [Array.length_toList]
      exact Nat.le_of_sub_eq_zero rest
    rw [ByteArray.toList.loop, if_neg (by omega), List.drop_eq_nil_of_le outside, List.append_nil]
  | succ rest ih =>
    have inside : index < bytes.data.toList.length := by
      rw [Array.length_toList]
      exact Nat.lt_of_sub_eq_succ rest
    have first : bytes.get! index = bytes.data.toList[index] := getElem!_pos bytes.data index inside
    rw [ByteArray.toList.loop, if_pos (Nat.lt_of_sub_eq_succ rest), ih (index + 1) _ (by omega),
      List.drop_eq_getElem_cons inside, first, List.reverse_cons, List.append_assoc]
    rfl

/-- The bytes of a text are those of its characters. -/
theorem toUtf8_eq_flatMap (s : String) : toUtf8 s = s.toList.flatMap String.utf8EncodeChar := by
  have encoded : s.toUTF8.data.toList = s.toList.flatMap String.utf8EncodeChar := by
    rw [String.toUTF8, ← String.ofList_toList (s := s), String.toByteArray_ofList]
    simp [List.utf8Encode]
  rw [toUtf8, ByteArray.toList, toList_loop, encoded]
  rfl

theorem utf8Loop_encode (chars : List Char) {fuel : Nat} (enough : chars.length < fuel) (index : Nat)
    (read : List Char) :
    utf8Loop fuel (chars.flatMap String.utf8EncodeChar) index read =
      .ok (read.reverse ++ chars) := by
  induction chars generalizing fuel index read with
  | nil =>
    obtain ⟨fuel, rfl⟩ : ∃ less, fuel = less + 1 := ⟨fuel - 1, by simp at enough; omega⟩
    simp [utf8Loop, utf8Step]
  | cons c rest ih =>
    rw [List.length_cons] at enough
    obtain ⟨fuel, rfl⟩ : ∃ less, fuel = less + 1 := ⟨fuel - 1, by omega⟩
    obtain ⟨size, step⟩ := utf8Step_encode c (rest.flatMap String.utf8EncodeChar)
    rw [List.flatMap_cons, utf8Loop, step]
    simp only
    rw [ih (by omega)]
    simp

theorem length_le_encoded (chars : List Char) :
    chars.length ≤ (chars.flatMap String.utf8EncodeChar).length := by
  induction chars with
  | nil => exact Nat.le_refl 0
  | cons c rest ih =>
    have some : 0 < (String.utf8EncodeChar c).length :=
      List.length_pos_iff.mpr String.utf8EncodeChar_ne_nil
    rw [List.flatMap_cons, List.length_append, List.length_cons]
    omega

/-- The bytes of a text denote it. -/
theorem ofUtf8_toUtf8 (s : String) : ofUtf8 (toUtf8 s) = .ok s := by
  have enough := Nat.lt_succ_of_le (length_le_encoded s.toList)
  rw [ofUtf8, toUtf8_eq_flatMap, utf8Loop_encode s.toList enough 0 [], Except.map, List.reverse_nil,
    List.nil_append, String.ofList_toList]

/-- So no other text has these bytes. -/
theorem toUtf8_injective : Function.Injective toUtf8 := by
  intro s t same
  have read := ofUtf8_toUtf8 s
  rw [same, ofUtf8_toUtf8] at read
  cases read
  rfl

/-! ## Lines -/

/-- A character that is no control has no bytes that are. -/
theorem shown_encode {c : Char} (shown : 0x20 ≤ c.val.toNat) {b : UInt8}
    (among : b ∈ String.utf8EncodeChar c) : 0x20 ≤ b.toNat := by
  unfold String.utf8EncodeChar at among
  generalize c.val.toNat = n at shown among
  simp only at among
  split at among
  · rw [List.mem_singleton.mp among, toNat_byte (by omega)]
    exact shown
  split at among
  · simp only [List.mem_cons, List.not_mem_nil, or_false] at among
    rcases among with rfl | rfl <;> rw [toNat_byte (by omega)] <;> omega
  split at among
  · simp only [List.mem_cons, List.not_mem_nil, or_false] at among
    rcases among with rfl | rfl | rfl <;> rw [toNat_byte (by omega)] <;> omega
  · simp only [List.mem_cons, List.not_mem_nil, or_false] at among
    rcases among with rfl | rfl | rfl | rfl <;> rw [toNat_byte (by omega)] <;> omega

theorem shown_toUtf8 {text : String} (shown : ∀ c ∈ text.toList, 0x20 ≤ c.toNat) {b : UInt8}
    (among : b ∈ toUtf8 text) : 0x20 ≤ b.toNat := by
  rw [toUtf8_eq_flatMap] at among
  obtain ⟨c, listed, among⟩ := List.mem_flatMap.mp among
  exact shown_encode (shown c listed) among

/-- A line ends at its line feed. -/
theorem linesFrom_append {α : Type} [DecidableEq α] {feed ret : α} {line read : List α}
    (noFeed : feed ∉ line) (noReturn : ret ∉ line) (noReturn' : ret ∉ read) (rest : List α) :
    linesFrom feed ret read (line ++ feed :: rest) =
      (read.reverse ++ line) :: linesFrom feed ret [] rest := by
  induction line generalizing read with
  | nil =>
    have last : read.head? ≠ some ret := fun isReturn => noReturn' (List.mem_of_head? isReturn)
    rw [List.nil_append, linesFrom, if_pos rfl]
    simp only
    rw [if_neg last, List.append_nil]
  | cons x line ih =>
    rw [List.mem_cons, not_or] at noFeed noReturn
    rw [List.cons_append, linesFrom, if_neg fun same => noFeed.1 same.symm,
      ih noFeed.2 noReturn.2 (by simp [noReturn', noReturn.1]), List.reverse_cons,
      List.append_assoc]
    rfl

/-- The bytes of texts, with a line feed after each. -/
def lineBytes (texts : List String) : List UInt8 :=
  texts.flatMap fun text => toUtf8 text ++ [10]

/-- Texts without controls are the lines of their bytes. -/
theorem byteLines_lineBytes {texts : List String}
    (shown : ∀ text ∈ texts, ∀ c ∈ text.toList, 0x20 ≤ c.toNat) :
    byteLines (lineBytes texts) = texts.map toUtf8 := by
  induction texts with
  | nil => rfl
  | cons text rest ih =>
    have noControl : ∀ b : UInt8, b.toNat < 0x20 → b ∉ toUtf8 text := fun b control among =>
      Nat.not_le_of_lt control (shown_toUtf8 (shown text List.mem_cons_self) among)
    have later := ih fun text listed => shown text (List.mem_cons_of_mem _ listed)
    rw [lineBytes, List.flatMap_cons, byteLines, List.append_assoc, List.singleton_append,
      linesFrom_append (noControl 10 (by decide)) (noControl 13 (by decide)) List.not_mem_nil,
      List.reverse_nil, List.nil_append, List.map_cons]
    exact congrArg _ later

end DocMachine.Text
