import DocMachine.Proofs.Answers
import DocMachine.Proofs.WordArithmetic

/-!
# Repetition

A string or an array times a count is so many copies of it, one after the other, as long as they are not too
long. The limit is on the product of length and count, which need not be a word.

* `Sequence`: a string or an array, as what is joined and repeated.
* `Sequence.Joins`: two sequences, one after the other.
* `Sequence.times`: copies of a sequence, joined.
* `Word.mul?`: the product of two words, if it is a word.

Results:
1. `Sequence.times_add` and `Sequence.times_times`: copies are joined, and copied, as their counts are added
   and multiplied.
2. `Arith.multiply_sequence`: the product of a sequence and a count, on either side.
3. `Builtin.multiply_repeats`: what the op does, and how it goes with sums and products of counts.
-/

namespace DocMachine

/-! ## Sequences -/

/-- A string or an array. -/
inductive Sequence where
  | text (s : String)
  | array (items : List Value)

namespace Sequence

/-- The sequence as a value. -/
def value : Sequence → Value
  | text s => .str s
  | array items => .arr items

/-- The length that is limited: that of a string in bytes, and that of an array in items. -/
def size : Sequence → Nat
  | text s => s.utf8ByteSize
  | array items => items.length

/-- So many copies of the sequence, one after the other. -/
def times : Sequence → Nat → Sequence
  | text s, n => text (String.join (List.replicate n s))
  | array items, n => array (List.replicate n items).flatten

/-- The third sequence is the first with the second after it. -/
inductive Joins : Sequence → Sequence → Sequence → Prop
  | text (a b : String) : Joins (.text a) (.text b) (.text (a ++ b))
  | array (a b : List Value) : Joins (.array a) (.array b) (.array (a ++ b))

namespace Joins

variable {a b c d : Sequence}

theorem unique (one : Joins a b c) (other : Joins a b d) : c = d := by
  cases one <;> cases other <;> rfl

theorem size (joins : Joins a b c) : c.size = a.size + b.size := by
  cases joins with
  | text a b => exact String.utf8ByteSize_append
  | array a b => exact List.length_append

theorem add (joins : Joins a b c) : Arith.add a.value b.value = .ok c.value := by
  cases joins <;> rfl

end Joins

variable (s : Sequence)

theorem times_add (m n : Nat) : Joins (s.times m) (s.times n) (s.times (m + n)) := by
  cases s with
  | text s =>
    simp only [times, List.replicate_add, String.join_append]
    exact .text _ _
  | array items =>
    simp only [times, List.replicate_add, List.flatten_append]
    exact .array _ _

theorem times_one : s.times 1 = s := by
  cases s with
  | text s => simp [times, String.join]
  | array items => simp [times]

/-- One copy more is joined at the end. -/
theorem times_succ (n : Nat) : Joins (s.times n) s (s.times (n + 1)) := by
  have more := s.times_add n 1
  rwa [times_one] at more

theorem times_zero (m : Nat) : (s.times m).times 0 = s.times 0 := by
  cases s <;> rfl

/-- Copies of copies are as many as the product says. -/
theorem times_times (m n : Nat) : (s.times m).times n = s.times (m * n) := by
  induction n with
  | zero => exact s.times_zero m
  | succ n ih =>
    have copies := (s.times m).times_succ n
    rw [ih] at copies
    exact copies.unique (s.times_add (m * n) m)

theorem size_times (n : Nat) : (s.times n).size = s.size * n := by
  induction n with
  | zero => cases s <;> simp [times, size, String.join]
  | succ n ih => rw [(s.times_succ n).size, ih, Nat.mul_succ]

end Sequence

/-- What stands for an integer is no sequence. -/
theorem Value.scalar_of_integer {a : Value} {i : Int} (stands : a.integer? = some i) :
    (∃ b, a = .bool b) ∨ ∃ n, a = .num n := by
  cases a with
  | bool b => exact .inl ⟨b, rfl⟩
  | num n => exact .inr ⟨n, rfl⟩
  | _ => cases stands

/-! ## The limit -/

/-- The product of two words, if it is a word. -/
def Word.mul? (a b : Nat) : Option Nat := if a * b < limit then some (a * b) else none

namespace Arith

/-- Whether copies are too long can be told in words: a product that is no word is beyond the limit. -/
theorem maxRepeated_lt_iff (length count : Nat) :
    maxRepeated < length * count ↔ ∀ total ∈ Word.mul? length count, maxRepeated < total := by
  unfold Word.mul?
  split
  · simp
  · next wide =>
    -- The limit of copies is itself a word, so nothing but the exact product has to be looked at.
    have limit : maxRepeated < Word.limit := by decide
    exact ⟨fun _ => nofun, fun _ => by omega⟩

theorem repeatText_eq (s : String) (count : Nat) :
    repeatText s count = String.join (List.replicate count s) := by
  have copies : Nat.repeat (· ++ s) count "" = String.join (List.replicate count s) := by
    induction count with
    | zero => rfl
    | succ count ih =>
      rw [Nat.repeat, ih, List.replicate_succ', String.join_append, String.join_cons, String.join_nil,
        String.append_empty]
  unfold repeatText
  split
  · next empty =>
    obtain rfl := String.isEmpty_iff.mp empty
    rw [← String.toList_inj, String.toList_join]
    simp
  · exact copies

theorem repeatItems_eq (items : List Value) (count : Nat) :
    repeatItems items count = (List.replicate count items).flatten := by
  unfold repeatItems
  split
  · next empty =>
    obtain rfl := List.isEmpty_iff.mp empty
    simp
  · rfl

/-- The product of a sequence and a count that is not negative. -/
def repeated (s : Sequence) (count : Nat) : Except Fault Value :=
  if mayRepeat s.size count then .ok (s.times count).value else .error .arithmeticOverflow

theorem multiplyText_eq (s : String) (k : Int) : multiplyText s k = repeated (.text s) k.toNat := by
  rw [multiplyText, repeatText_eq]
  rfl

theorem multiplyItems_eq (items : List Value) (k : Int) :
    multiplyItems items k = repeated (.array items) k.toNat := by
  rw [multiplyItems, repeatItems_eq]
  rfl

variable {count : Value} {k : Int}

/-- The count may be on either side, and a negative one is taken as zero. -/
theorem multiply_sequence (s : Sequence) (reads : count.integer? = some k)
    (word : Number.isWord k = true) :
    multiply s.value count = repeated s k.toNat ∧ multiply count s.value = repeated s k.toNat := by
  have number : count.number? = some (.int k) := by
    rw [Value.number?_of_integer reads, Number.viewed, if_pos word]
  have scalar := Value.scalar_of_integer reads
  cases s with
  | text s =>
    rw [← multiplyText_eq]
    refine ⟨by simp only [multiply, Sequence.value, number], ?_⟩
    rcases scalar with ⟨b, rfl⟩ | ⟨n, rfl⟩ <;> simp only [multiply, Sequence.value, number]
  | array items =>
    rw [← multiplyItems_eq]
    refine ⟨by simp only [multiply, Sequence.value, number], ?_⟩
    rcases scalar with ⟨b, rfl⟩ | ⟨n, rfl⟩ <;> simp only [multiply, Sequence.value, number]

theorem repeated_eq_ok {s : Sequence} {n : Nat} {z : Value} :
    repeated s n = .ok z ↔ s.size * n ≤ maxRepeated ∧ z = (s.times n).value := by
  unfold repeated mayRepeat
  split
  · next short => simp [of_decide_eq_true short, eq_comm]
  · next long => simpa using fun short : s.size * n ≤ maxRepeated => absurd (decide_eq_true short) long

theorem repeated_eq_error {s : Sequence} {n : Nat} :
    repeated s n = .error .arithmeticOverflow ↔ maxRepeated < s.size * n := by
  unfold repeated mayRepeat
  split
  · next short => simpa using of_decide_eq_true short
  · next long => simpa using long

/-- Copies of copies are too long exactly if so many copies at once are. -/
theorem repeated_times (s : Sequence) (m n : Nat) : repeated (s.times m) n = repeated s (m * n) := by
  rw [repeated, repeated, s.size_times, s.times_times, mayRepeat, mayRepeat, Nat.mul_assoc]

section

variable {other : Value} {l : Int} (reads : count.integer? = some k) (reads' : other.integer? = some l)
  (word : Number.isWord k = true) (word' : Number.isWord l = true)

include reads reads' word word'

/-- Two integers are computed with as such. -/
theorem onNumbers_integers (symbol : String) (ints : Int → Int → Int) (floats : Float → Float → Float) :
    onNumbers symbol ints floats count other = ofInt (ints k l) := by
  have operands : operands symbol count other = .ok (.int k, .int l) := by
    rw [Arith.operands, Value.number?_of_integer reads, Value.number?_of_integer reads', Number.viewed,
      Number.viewed, if_pos word, if_pos word']
  rw [onNumbers, operands]
  rfl

theorem add_integers : add count other = ofInt (k + l) := by
  rw [← onNumbers_integers reads reads' word word' "+" (· + ·) (· + ·)]
  rcases Value.scalar_of_integer reads with ⟨b, rfl⟩ | ⟨n, rfl⟩ <;> rfl

theorem multiply_integers : multiply count other = ofInt (k * l) := by
  rw [← onNumbers_integers reads reads' word word' "*" (· * ·) (· * ·)]
  rcases Value.scalar_of_integer reads with ⟨b, rfl⟩ | ⟨n, rfl⟩ <;>
    rcases Value.scalar_of_integer reads' with ⟨b', rfl⟩ | ⟨n', rfl⟩ <;> rfl

end

theorem ofInt_eq_ok {i : Int} {z : Value} : ofInt i = .ok z ↔ Number.isWord i = true ∧ z = .int i := by
  unfold ofInt
  split
  · next word => simp [word, eq_comm]
  · next wide => simp [wide]

end Arith

/-! ## The op -/

namespace Builtin

theorem add_answers (x y : Value) : Builtin.add.Answers [x, y] (Arith.add x y) :=
  answers_binary (fun _ _ _ => rfl) Arith.add_late x y

theorem multiply_answers (x y : Value) : Builtin.multiply.Answers [x, y] (Arith.multiply x y) :=
  answers_binary (fun _ _ _ => rfl) Arith.multiply_late x y

variable {s : Sequence} {count : Value} {k : Int}

theorem multiply_answers_sequence (reads : count.integer? = some k) (word : Number.isWord k = true)
    {operands : List Value} (given : operands ∈ [[s.value, count], [count, s.value]]) :
    Builtin.multiply.Answers operands (Arith.repeated s k.toNat) := by
  obtain ⟨left, right⟩ := Arith.multiply_sequence s reads word
  simp only [List.mem_cons, List.not_mem_nil, or_false] at given
  rcases given with rfl | rfl
  · exact left ▸ multiply_answers s.value count
  · exact right ▸ multiply_answers count s.value

/-- What a product comes to, if it comes to something, are the copies. -/
theorem multiply_answers_ok (reads : count.integer? = some k) (word : Number.isWord k = true)
    {value : Value} (answers : Builtin.multiply.Answers [s.value, count] (.ok value)) :
    Arith.repeated s k.toNat = .ok value ∧ value = (s.times k.toNat).value := by
  have repeated := (multiply_answers_sequence reads word List.mem_cons_self).unique answers
  exact ⟨repeated, (Arith.repeated_eq_ok.mp repeated).2⟩

/-- The count may be on either side. If the copies are too long, the op fails, and otherwise it pushes them.
So many copies as a sum or a product of counts says are, if there may be so many, those of the one count
joined with those of the other, and the copies by the one count copied by the other. -/
theorem multiply_repeats (s : Sequence) (reads : count.integer? = some k)
    (word : Number.isWord k = true) :
    (∀ operands ∈ [[s.value, count], [count, s.value]],
      (Builtin.multiply.Answers operands (.error .arithmeticOverflow) ↔
        2 ^ 28 < (s.size : Int) * max k 0) ∧
      ∀ value, Builtin.multiply.Answers operands (.ok value) ↔
        (s.size : Int) * max k 0 ≤ 2 ^ 28 ∧ value = (s.times (max k 0).toNat).value) ∧
    (2 ^ 28 < (s.size : Int) * max k 0 ↔
      ∀ total ∈ Word.mul? s.size (max k 0).toNat, 2 ^ 28 < total) ∧
    ∀ (other : Value) (l : Int), other.integer? = some l → Number.isWord l = true → 0 ≤ k → 0 ≤ l →
      (∀ sum whole left right, Builtin.add.Answers [count, other] (.ok sum) →
        Builtin.multiply.Answers [s.value, sum] (.ok whole) →
        Builtin.multiply.Answers [s.value, count] (.ok left) →
        Builtin.multiply.Answers [s.value, other] (.ok right) →
        Builtin.add.Answers [left, right] (.ok whole)) ∧
      (∀ product whole left, Builtin.multiply.Answers [count, other] (.ok product) →
        Builtin.multiply.Answers [s.value, product] (.ok whole) →
        Builtin.multiply.Answers [s.value, count] (.ok left) →
        Builtin.multiply.Answers [left, other] (.ok whole)) := by
  have fits : (s.size : Int) * max k 0 ≤ 2 ^ 28 ↔ s.size * k.toNat ≤ Arith.maxRepeated := by
    rw [← Int.ofNat_toNat, ← Int.natCast_mul]
    exact Int.ofNat_le (n := 2 ^ 28)
  -- The op takes the greater of the count and zero by going over to natural numbers.
  have copies : (max k 0).toNat = k.toNat := by omega
  rw [← Int.not_le, fits, Nat.not_le, copies]
  refine ⟨fun operands given => ⟨?_, fun value => ?_⟩, ?_, fun other l reads' word' natural natural' =>
    ⟨fun sum whole left right added product first second => ?_,
      fun product whole left multiplied product' first => ?_⟩⟩
  · rw [(multiply_answers_sequence reads word given).iff, Arith.repeated_eq_error]
  · rw [(multiply_answers_sequence reads word given).iff, Arith.repeated_eq_ok]
  · exact Arith.maxRepeated_lt_iff s.size k.toNat
  · obtain ⟨word'', rfl⟩ :=
      Arith.ofInt_eq_ok.mp ((Arith.add_integers reads reads' word word').symm.trans
        ((add_answers count other).unique added))
    obtain ⟨-, rfl⟩ := multiply_answers_ok rfl word'' product
    obtain ⟨-, rfl⟩ := multiply_answers_ok reads word first
    obtain ⟨-, rfl⟩ := multiply_answers_ok reads' word' second
    rw [Int.toNat_add natural natural', ← (s.times_add k.toNat l.toNat).add]
    exact add_answers _ _
  · obtain ⟨word'', rfl⟩ :=
      Arith.ofInt_eq_ok.mp ((Arith.multiply_integers reads reads' word word').symm.trans
        ((multiply_answers count other).unique multiplied))
    obtain ⟨repeated, -⟩ := multiply_answers_ok rfl word'' product'
    obtain ⟨-, rfl⟩ := multiply_answers_ok reads word first
    -- The copies of the copies are not given to fit: they do since the copies by the product fit.
    rw [Int.toNat_mul natural natural', ← Arith.repeated_times] at repeated
    exact repeated ▸ multiply_answers_sequence reads' word' List.mem_cons_self

/-- The count is on the left; the copies are one byte too long; and three copies joined with one, as true
counts, are four. -/
theorem multiply_repeats_accent :
    let s : Sequence := .text "é"
    ((Value.int 3).integer? = some 3 ∧ (Value.bool true).integer? = some 1 ∧
      (Value.int 0x8000001).integer? = some 0x8000001) ∧
    (Number.isWord 3 = true ∧ Number.isWord 1 = true ∧ Number.isWord 0x8000001 = true) ∧
    Builtin.multiply.Answers [.int 3, s.value] (.ok (.str "ééé")) ∧
    Builtin.multiply.Answers [s.value, .int 0x8000001] (.error .arithmeticOverflow) ∧
    Builtin.add.Answers [.str "ééé", s.value] (.ok (.str "éééé")) := by
  intro s
  have reads : (Value.int 3).integer? = some 3 ∧ (Value.bool true).integer? = some 1 ∧
      (Value.int 0x8000001).integer? = some 0x8000001 := ⟨rfl, rfl, rfl⟩
  have words : Number.isWord 3 = true ∧ Number.isWord 1 = true ∧ Number.isWord 0x8000001 = true := by
    decide
  have size : s.size = 2 := by decide
  have times : (s.times 3).value = .str "ééé" ∧ (s.times 4).value = .str "éééé" := by
    constructor <;> cbv
  obtain ⟨products, -, sums⟩ := multiply_repeats s reads.1 words.1
  have three : ∀ operands ∈ [[s.value, .int 3], [.int 3, s.value]],
      Builtin.multiply.Answers operands (.ok (.str "ééé")) := fun operands given =>
    ((products operands given).2 _).mpr ⟨by rw [size]; decide, times.1.symm⟩
  have one : Builtin.multiply.Answers [s.value, .bool true] (.ok s.value) :=
    (((multiply_repeats s reads.2.1 words.2.1).1 _ List.mem_cons_self).2 _).mpr
      ⟨by rw [size]; decide, congrArg Sequence.value s.times_one.symm⟩
  have four : Builtin.multiply.Answers [s.value, .int 4] (.ok (.str "éééé")) :=
    (((multiply_repeats s rfl (by decide : Number.isWord 4 = true)).1 _ List.mem_cons_self).2 _).mpr
      ⟨by rw [size]; decide, times.2.symm⟩
  have sum : Builtin.add.Answers [.int 3, .bool true] (.ok (.int 4)) := add_answers _ _
  refine ⟨reads, words, three _ (List.mem_cons_of_mem _ List.mem_cons_self), ?_, ?_⟩
  · refine ((multiply_repeats s reads.2.2 words.2.2).1 _ List.mem_cons_self).1.mpr ?_
    rw [size]
    decide
  · exact (sums _ 1 reads.2.1 words.2.1 (by decide) (by decide)).1 _ _ _ _ sum four
      (three _ List.mem_cons_self) one

end Builtin

end DocMachine
