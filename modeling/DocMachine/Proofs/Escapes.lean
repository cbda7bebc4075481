import DocMachine.Proofs.Bytes
import DocMachine.Text.Percent

/-!
# Percent escapes

An escape stands for one byte. So escaped text stands for the bytes of the text if percent signs are
among the characters that are escaped.

* `Text.isEscaped`: the characters of which escaped text consists if only unreserved ones stay.

Results:
1. `Text.percentBytes_percentEncode`: escaped text stands for the bytes of the text.
2. `Text.isEscaped_encode`: escaped text consists of unreserved characters and percent signs.
3. `Text.percentEncode_eq`: nothing is escaped in a text whose characters all stay.
-/

namespace DocMachine.Text

variable {stays : Char → Bool}

/-! ## Reading -/

theorem escapeChar_eq (c : Char) : escapeChar c = (String.utf8EncodeChar c).flatMap escapeByte := by
  rw [escapeChar, toUtf8_eq_flatMap, Char.toString, String.toList_singleton, List.flatMap_singleton]

/-- An escape starts with a percent sign. -/
theorem escapeChar_head (c : Char) : ∃ rest, escapeChar c = '%' :: rest := by
  rw [escapeChar_eq]
  cases encoded : String.utf8EncodeChar c with
  | nil => simp at encoded
  | cons byte rest => exact ⟨_, rfl⟩

/-- An escape stands for its byte. -/
theorem percentBytes_escapeByte (b : UInt8) (rest : List Char) :
    percentBytes (escapeByte b ++ rest) = b :: percentBytes rest := by
  -- The two digits are the halves of the byte.
  have digits : ∀ b : UInt8, (escapeByte b).tail.map hexValue? =
      [some (b.toNat / 16), some (b.toNat % 16)] :=
    forall_byte (by decide +kernel)
  have read := digits b
  obtain ⟨high, low, escape⟩ : ∃ high low, escapeByte b = ['%', high, low] := ⟨_, _, rfl⟩
  rw [escape, List.tail_cons] at read
  simp only [List.map_cons, List.map_nil, List.cons.injEq, and_true] at read
  have whole : (b.toNat / 16 * 16 + b.toNat % 16).toUInt8 = b := by
    rw [Nat.div_add_mod']
    exact UInt8.ofNat_toNat
  rw [escape, List.cons_append, List.cons_append, List.cons_append, List.nil_append, percentBytes,
    read.1, read.2]
  exact congrArg (· :: _) whole

theorem percentBytes_escapes (bytes : List UInt8) (rest : List Char) :
    percentBytes (bytes.flatMap escapeByte ++ rest) = bytes ++ percentBytes rest := by
  induction bytes with
  | nil => rfl
  | cons b bytes ih =>
    rw [List.flatMap_cons, List.append_assoc, percentBytes_escapeByte, ih, List.cons_append]

/-- A character other than the percent sign stands for itself. -/
theorem percentBytes_cons {c : Char} (plain : c ≠ '%') (rest : List Char) :
    percentBytes (c :: rest) = String.utf8EncodeChar c ++ percentBytes rest := by
  rw [percentBytes, toUtf8_eq_flatMap, Char.toString, String.toList_singleton, List.flatMap_singleton]
  intro _ _ _ percent
  exact absurd percent plain

/-- Escaped characters stand for their bytes, whatever follows them. -/
theorem percentBytes_encode (escaped : stays '%' = false) (chars rest : List Char) :
    percentBytes (percentEncode stays chars ++ rest) =
      chars.flatMap String.utf8EncodeChar ++ percentBytes rest := by
  induction chars with
  | nil => rfl
  | cons c chars ih =>
    rw [percentEncode, List.flatMap_cons, List.flatMap_cons, List.append_assoc, List.append_assoc, ← ih]
    split
    · next kept =>
      have plain : c ≠ '%' := by
        rintro rfl
        exact absurd kept (by rw [escaped]; decide)
      exact percentBytes_cons plain _
    · rw [escapeChar_eq, percentBytes_escapes]
      rfl

/-- The bytes that escaped text stands for are those of the text. -/
theorem percentBytes_percentEncode (escaped : stays '%' = false) (chars : List Char) :
    percentBytes (percentEncode stays chars) = toUtf8 (String.ofList chars) := by
  have bytes := percentBytes_encode escaped chars []
  rw [List.append_nil, percentBytes, List.append_nil] at bytes
  rw [bytes, toUtf8_eq_flatMap, String.toList_ofList]

/-! ## Characters of escaped text -/

/-- Nothing is escaped in a text whose characters all stay. -/
theorem percentEncode_eq {chars : List Char} (all : ∀ c ∈ chars, stays c = true) :
    percentEncode stays chars = chars := by
  induction chars with
  | nil => rfl
  | cons c rest ih =>
    rw [percentEncode] at ih ⊢
    rw [List.flatMap_cons, if_pos (all c List.mem_cons_self),
      ih fun c among => all c (List.mem_cons_of_mem _ among)]
    rfl

/-- The characters of text in which all but unreserved characters are escaped. -/
def isEscaped (c : Char) : Bool := isUnreserved c || c = '%'

theorem isEscaped_escapeByte (b : UInt8) : ∀ c ∈ escapeByte b, isEscaped c = true := by
  have each : ∀ b : UInt8, (escapeByte b).all isEscaped = true := forall_byte (by decide +kernel)
  exact List.all_eq_true.mp (each b)

theorem isEscaped_encode (chars : List Char) :
    ∀ c ∈ percentEncode isUnreserved chars, isEscaped c = true := by
  intro c among
  obtain ⟨source, -, among⟩ := List.mem_flatMap.mp among
  split at among
  · next kept =>
    rw [List.mem_singleton.mp among, isEscaped, kept]
    rfl
  · rw [escapeChar_eq] at among
    obtain ⟨b, -, among⟩ := List.mem_flatMap.mp among
    exact isEscaped_escapeByte b c among

theorem isEscaped_lt {c : Char} (escaped : isEscaped c = true) : c.toNat < 0x80 := by
  simp only [isEscaped, isUnreserved, Bool.or_eq_true, decide_eq_true_eq] at escaped
  rcases escaped with ((((alphanumeric | rfl) | rfl) | rfl) | rfl) | rfl
  · have below {greatest : UInt32} (within : c.val ≤ greatest) (small : greatest.toNat < 0x80) :
        c.toNat < 0x80 :=
      Nat.lt_of_le_of_lt within small
    rcases (Bool.or_eq_true c.isAlpha c.isDigit).mp alphanumeric with letter | digit
    · rcases (Bool.or_eq_true c.isUpper c.isLower).mp letter with upper | lower
      · exact below (of_decide_eq_true upper).2 (by decide)
      · exact below (of_decide_eq_true ((Bool.and_eq_true _ _).mp lower).2) (by decide)
    · exact below (of_decide_eq_true ((Bool.and_eq_true _ _).mp digit).2) (by decide)
  all_goals decide

end DocMachine.Text
