import DocMachine.Url
import Mathlib.Data.List.Basic
import Mathlib.Data.List.TakeWhile

/-!
# Blanks around a text

Trimming takes the blanks at both ends of a text, and nothing else. So it finds a text again that blanks
were put around, and what it takes are blanks.

Results:
1. `Text.trimChars_around`: a text that neither starts nor ends with a blank is found between blanks.
2. `Text.trimChars_spec`: all texts are blanks around what trimming leaves of them.
3. `Url.clean_shown`: a text without controls and spaces is read as a URL as it stands.
-/

namespace DocMachine

namespace Text

variable (isTrimmed : Char → Bool)

/-! ## Trimming -/

theorem trimChars_front {front : List Char} (trimmed : ∀ c ∈ front, isTrimmed c = true)
    (rest : List Char) : trimChars isTrimmed (front ++ rest) = trimChars isTrimmed rest := by
  rw [trimChars, List.dropWhile_append_of_pos trimmed, trimChars]

/-- A text that does not start with a blank keeps its first character. -/
theorem trimChars_cons {c : Char} (kept : isTrimmed c = false) (rest : List Char) :
    ∃ fewer, trimChars isTrimmed (c :: rest) = c :: fewer := by
  have keeps : ∀ rest, (c :: rest).dropWhile isTrimmed = c :: rest := by
    intro rest
    rw [List.dropWhile_cons, kept]
    rfl
  rw [trimChars, keeps, List.reverse_cons, List.dropWhile_append, keeps]
  split
  · exact ⟨[], rfl⟩
  · exact ⟨_, List.reverse_concat⟩

theorem dropWhile_eq_of_head {chars : List Char} (kept : ∀ c ∈ chars.head?, isTrimmed c = false) :
    chars.dropWhile isTrimmed = chars := by
  cases chars with
  | nil => rfl
  | cons c rest =>
    rw [List.dropWhile_cons, kept c rfl]
    rfl

/-- A text that neither starts nor ends with a blank is all that is kept. -/
theorem trimChars_back {middle back : List Char} (filled : middle ≠ [])
    (first : ∀ c ∈ middle.head?, isTrimmed c = false)
    (last : ∀ c ∈ middle.getLast?, isTrimmed c = false)
    (trimmed : ∀ c ∈ back, isTrimmed c = true) : trimChars isTrimmed (middle ++ back) = middle := by
  have keeps : (middle ++ back).dropWhile isTrimmed = middle ++ back := by
    refine dropWhile_eq_of_head isTrimmed ?_
    rwa [List.head?_append_of_ne_nil middle filled]
  have trimmed' : ∀ c ∈ back.reverse, isTrimmed c = true :=
    fun c among => trimmed c (List.mem_reverse.mp among)
  have keeps' : middle.reverse.dropWhile isTrimmed = middle.reverse := by
    refine dropWhile_eq_of_head isTrimmed ?_
    rwa [List.head?_reverse]
  rw [trimChars, keeps, List.reverse_append, List.dropWhile_append_of_pos trimmed', keeps',
    List.reverse_reverse]

/-- Between blanks, a text is found that neither starts nor ends with one. -/
theorem trimChars_around {front middle back : List Char} (blank : ∀ c ∈ front, isTrimmed c = true)
    (filled : middle ≠ []) (first : ∀ c ∈ middle.head?, isTrimmed c = false)
    (last : ∀ c ∈ middle.getLast?, isTrimmed c = false) (blank' : ∀ c ∈ back, isTrimmed c = true) :
    trimChars isTrimmed (front ++ middle ++ back) = middle := by
  rw [List.append_assoc, trimChars_front isTrimmed blank, trimChars_back isTrimmed filled first last blank']

/-- A text without blanks is kept. -/
theorem trimChars_free {chars : List Char} (free : ∀ c ∈ chars, isTrimmed c = false) :
    trimChars isTrimmed chars = chars := by
  have keeps {chars : List Char} (free : ∀ c ∈ chars, isTrimmed c = false) :
      chars.dropWhile isTrimmed = chars :=
    dropWhile_eq_of_head isTrimmed fun c first => free c (List.mem_of_mem_head? first)
  rw [trimChars, keeps free, keeps fun c among => free c (List.mem_reverse.mp among), List.reverse_reverse]

/-- What trimming takes from a text are blanks. -/
theorem trimChars_spec (chars : List Char) : ∃ front back,
    chars = front ++ trimChars isTrimmed chars ++ back ∧
      (∀ c ∈ front, isTrimmed c = true) ∧ ∀ c ∈ back, isTrimmed c = true := by
  have taken (chars : List Char) : ∀ c ∈ chars.takeWhile isTrimmed, isTrimmed c = true :=
    fun _ among => List.mem_takeWhile_imp among
  -- The blanks at the end are those in front of the reversed rest.
  let later := chars.dropWhile isTrimmed
  let back := (later.reverse.takeWhile isTrimmed).reverse
  refine ⟨chars.takeWhile isTrimmed, back, ?_, taken chars,
    fun c among => taken later.reverse c (List.mem_reverse.mp among)⟩
  calc chars
      = chars.takeWhile isTrimmed ++ later.reverse.reverse := by
        rw [List.reverse_reverse, List.takeWhile_append_dropWhile]
    _ = chars.takeWhile isTrimmed ++ (trimChars isTrimmed chars ++ back) := by
        rw [trimChars, ← List.reverse_append, List.takeWhile_append_dropWhile]
    _ = chars.takeWhile isTrimmed ++ trimChars isTrimmed chars ++ back := (List.append_assoc _ _ _).symm

end Text

/-- A text without controls and spaces is read as a URL as it stands. -/
theorem Url.clean_shown {text : String} (shown : ∀ c ∈ text.toList, 0x20 < c.toNat) :
    clean text = text.toList := by
  rw [clean, Text.trimChars_free _ fun c among => decide_eq_false (Nat.not_le_of_lt (shown c among)),
    List.filter_eq_self]
  intro c among
  have large := shown c among
  simp only [Bool.not_eq_true', Bool.or_eq_false_iff, decide_eq_false_iff_not]
  refine ⟨⟨?_, ?_⟩, ?_⟩ <;> rintro rfl <;> exact absurd large (by decide)

end DocMachine
