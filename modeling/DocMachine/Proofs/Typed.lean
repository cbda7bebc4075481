import DocMachine.Proofs.Blanks
import DocMachine.Proofs.Bytes
import DocMachine.Proofs.Layouts
import DocMachine.Session

/-!
# Typed lines

A line may be an import, the URI of a procedure, or a value. A line that is JSON is always taken for
a value, and the lines of written values are taken for these values, one after the other.

* `Json.Opens` tells how JSON texts start.

Results:
1. `Session.eval_json`: a line that is JSON is run as the op that it denotes.
2. `Session.repl_compact`: so are the lines of written values.
-/

namespace DocMachine

/-! ## Texts that are JSON -/

namespace Json

/-- JSON starts with a word, of which only blanks may follow, or with a character that starts no
word. -/
inductive Opens (chars : List Char) : Prop
  | word (word : List Char) {rest : List Char} : word ∈ ["null".toList, "true".toList, "false".toList] →
      chars = word ++ rest → skipSpace rest = [] → Opens chars
  | other {c : Char} {rest : List Char} : c ∈ '"' :: '[' :: '{' :: numerals → chars = c :: rest →
      Opens chars

theorem readNumeral_opens {chars rest : List Char} {numeral : Numeral}
    (read : readNumeral chars = some (numeral, rest)) :
    ∃ c tail, chars = c :: tail ∧ c ∈ numerals := by
  cases chars with
  | nil => cases read
  | cons c tail =>
    refine ⟨c, tail, rfl, ?_⟩
    by_cases sign : c = '-'
    · rw [sign]
      decide
    · by_cases digit : c.isDigit = true
      · exact numeral_of_isDigit digit
      · have none : spanDigits (c :: tail) = ([], c :: tail) := by
          rw [spanDigits, List.span_eq_takeWhile_dropWhile, List.takeWhile_cons, List.dropWhile_cons,
            if_neg digit, if_neg digit]
        unfold readNumeral at read
        split at read
        next found =>
          split at found
          · next same => exact absurd (List.cons.inj same).1 sign
          · cases found
            rw [none] at read
            cases read

theorem readValue_opens {fuel depth : Nat} {chars rest : List Char} {v : Value}
    (read : readValue fuel depth chars = some (v, rest)) (blank : skipSpace rest = []) :
    Opens (skipSpace chars) := by
  cases fuel with
  | zero => cases read
  | succ fuel =>
    rw [readValue] at read
    split at read
    · next ahead =>
      cases read
      exact .word "null".toList (by decide) ahead blank
    · next ahead =>
      cases read
      exact .word "true".toList (by decide) ahead blank
    · next ahead =>
      cases read
      exact .word "false".toList (by decide) ahead blank
    · next ahead => exact .other (by decide) ahead
    · next ahead => exact .other (by decide) ahead
    · next ahead => exact .other (by decide) ahead
    · split at read
      · cases read
      · next numeral rest' found =>
        obtain ⟨c, tail, ahead, among⟩ := readNumeral_opens found
        exact .other (List.mem_append_right ['"', '[', '{'] among) ahead

theorem parse?_opens {text : String} {v : Value} (denotes : parse? text = some v) :
    Opens (skipSpace text.toList) := by
  unfold parse? at denotes
  simp only at denotes
  split at denotes
  · next read =>
    split at denotes
    · next blank => exact readValue_opens read (List.isEmpty_iff.mp blank)
    · cases denotes
  · cases denotes

theorem toNat_le_of_isSpace {c : Char} (space : isSpace c = true) : c.toNat ≤ 0x20 := by
  simp only [isSpace, Bool.or_eq_true, decide_eq_true_eq] at space
  rcases space with ((rfl | rfl) | rfl) | rfl <;> decide

theorem all_of_skipSpace_eq_nil {chars : List Char} (blank : skipSpace chars = []) :
    ∀ c ∈ chars, isSpace c = true :=
  List.dropWhile_eq_nil_iff.mp blank

/-- The blanks before the next token. -/
theorem eq_append_skipSpace (chars : List Char) :
    ∃ front, chars = front ++ skipSpace chars ∧ ∀ c ∈ front, isSpace c = true :=
  ⟨chars.takeWhile isSpace, List.takeWhile_append_dropWhile.symm, fun _ => List.mem_takeWhile_imp⟩

/-- JSON has no scheme. -/
theorem readScheme_json {text : String} {v : Value} (denotes : parse? text = some v) :
    Url.readScheme (Url.clean text) = none := by
  obtain ⟨front, split, blank⟩ := eq_append_skipSpace text.toList
  have trimmed : ∀ c ∈ front, decide (c.toNat ≤ 0x20) = true :=
    fun c among => decide_eq_true (toNat_le_of_isSpace (blank c among))
  unfold Url.clean
  rw [split, Text.trimChars_front _ trimmed]
  cases parse?_opens denotes with
  -- A word is a scheme without its colon, so what follows it matters: only blanks do.
  | @word word rest isWord same after =>
    have trimmed : ∀ c ∈ rest, decide (c.toNat ≤ 0x20) = true := fun c among =>
      decide_eq_true (toNat_le_of_isSpace (all_of_skipSpace_eq_nil after c among))
    have facts : ∀ word ∈ ["null".toList, "true".toList, "false".toList], word ≠ [] ∧
        (∀ c ∈ word, decide (c.toNat ≤ 0x20) = false) ∧
        Url.readScheme (word.filter fun c => !(c = '\t' || c = '\n' || c = '\r')) = none := by
      decide
    obtain ⟨filled, kept, noScheme⟩ := facts word isWord
    have first : ∀ c ∈ word.head?, decide (c.toNat ≤ 0x20) = false :=
      fun c starts => kept c (List.mem_of_mem_head? starts)
    have last : ∀ c ∈ word.getLast?, decide (c.toNat ≤ 0x20) = false :=
      fun c ends => kept c (List.mem_of_getLast? ends)
    rw [same, Text.trimChars_back _ filled first last trimmed]
    exact noScheme
  | @other c rest isOther same =>
    have facts : ∀ c ∈ '"' :: '[' :: '{' :: numerals, decide (c.toNat ≤ 0x20) = false ∧
        (!(c = '\t' || c = '\n' || c = '\r')) = true ∧ c.isAlpha = false := by decide
    obtain ⟨kept, stays, notAlpha⟩ := facts c isOther
    obtain ⟨fewer, trim⟩ := Text.trimChars_cons (fun c => decide (c.toNat ≤ 0x20)) kept rest
    rw [same, trim, List.filter_cons, if_pos stays, Url.readScheme, notAlpha]
    rfl

theorem Opens.head {chars : List Char} (opens : Opens chars) :
    ∃ c rest, chars = c :: rest ∧ c ∈ openers := by
  cases opens with
  | @word word rest isWord same after =>
    simp only [List.mem_cons, List.not_mem_nil, or_false] at isWord
    rcases isWord with rfl | rfl | rfl
    · exact ⟨'n', _, same, by decide⟩
    · exact ⟨'t', _, same, by decide⟩
    · exact ⟨'f', _, same, by decide⟩
  | @other c rest isOther same =>
    exact ⟨c, rest, same, List.mem_append_right ['n', 't', 'f'] isOther⟩

/-- The text of a value has no blanks around it. -/
theorem trim_compact {v : Value} (fits : Fits maxDepth v) : Text.trim (compact v) = compact v := by
  have first : ∀ c ∈ openers, Text.isBlank c = false := by decide
  have last : ∀ c ∈ closers, Text.isBlank c = false := by decide
  obtain ⟨opener, rest, starts, opens⟩ := write_opens fits
  obtain ⟨front, closer, ends, closes⟩ := write_closes fits
  have kept : Text.trimChars Text.isBlank (write strict v ++ []) = write strict v := by
    refine Text.trimChars_back _ ?_ ?_ ?_ (fun _ among => by cases among)
    · rw [starts]
      exact List.cons_ne_nil _ _
    · rw [starts]
      rintro c ⟨⟩
      exact first _ opens
    · rw [ends, List.getLast?_concat]
      rintro c ⟨⟩
      exact last _ closes
  rw [List.append_nil] at kept
  rw [Text.trim, compact, String.toList_ofList, kept]

end Json

/-! ## Lines -/

namespace Session

variable {ω π : Type} {host : Host ω π}

/-- JSON imports nothing. -/
theorem importOf?_json {text : String} {v : Value} (denotes : Json.parse? text = some v) :
    importOf? text = none := by
  have fresh : 'i' ∉ Json.openers := by decide
  unfold importOf?
  simp only
  rw [if_neg]
  intro isPrefix
  obtain ⟨rest, same⟩ := List.isPrefixOf_iff_prefix.mp isPrefix
  obtain ⟨c, tail, starts, opens⟩ := (Json.parse?_opens denotes).head
  rw [← same] at starts
  obtain ⟨rfl, -⟩ := List.cons.inj starts
  exact fresh opens

/-- JSON is no URI. -/
theorem isProcedureUri_json {text : String} {v : Value} (denotes : Json.parse? text = some v) :
    isProcedureUri text = false := by
  have relative : Url.parse text = .error .relative := by
    rw [Url.parse, Json.readScheme_json denotes]
  rw [isProcedureUri, relative]

/-- A line that is JSON is run as the op that it denotes. -/
theorem eval_json {line : String} {v : Value} (denotes : Json.parse? (Text.trim line) = some v)
    (fuel : Nat) : eval host fuel line = runRoot host fuel [v] := by
  have filled : ¬ (Text.trim line).isEmpty = true := by
    intro empty
    rw [String.isEmpty_iff.mp empty] at denotes
    cases denotes
  have literal : parseLiteral? (Text.trim line) = some v := by
    rw [parseLiteral?, denotes]
  unfold eval
  simp only
  rw [if_neg filled, importOf?_json denotes, isProcedureUri_json denotes, literal]
  rfl

/-- The line of a written value is run as this value. -/
theorem eval_compact {v : Value} (fits : Json.Fits Json.maxDepth v) (fuel : Nat) :
    eval host fuel (Json.compact v) = runRoot host fuel [v] := by
  refine eval_json ?_ fuel
  rw [Json.trim_compact fits]
  exact Json.parse?_compact fits

/-- Evaluates a line of an input. -/
def evalBytes (host : Host ω π) (fuel : Nat) (line : List UInt8) : Task ω π Unit :=
  match Text.ofUtf8 line with
  | .ok line => eval host fuel line
  | .error _ => Task.fail (.provider "<input>" "stream did not contain valid UTF-8")

theorem repl_eq (fuel : Nat) (bytes : List UInt8) :
    repl host fuel bytes = (Text.byteLines bytes).forM (evalBytes host fuel) := rfl

/-- The lines of written values are run as these values. -/
theorem repl_compact {values : List Value} (fits : ∀ v ∈ values, Json.Fits Json.maxDepth v)
    (fuel : Nat) :
    repl host fuel (Text.lineBytes (values.map Json.compact)) =
      values.forM fun v => runRoot host fuel [v] := by
  have shown : ∀ text ∈ values.map Json.compact, ∀ c ∈ text.toList, 0x20 ≤ c.toNat := by
    intro text among
    obtain ⟨v, listed, rfl⟩ := List.mem_map.mp among
    rw [Json.compact, String.toList_ofList]
    exact Json.write_shown (fits v listed)
  have evaluated : ∀ v ∈ values,
      evalBytes host fuel (Text.toUtf8 (Json.compact v)) = runRoot host fuel [v] := by
    intro v listed
    rw [evalBytes, Text.ofUtf8_toUtf8]
    exact eval_compact (fits v listed) fuel
  rw [repl_eq, Text.byteLines_lineBytes shown]
  clear shown fits
  induction values with
  | nil => rfl
  | cons v rest ih =>
    have first := evaluated v List.mem_cons_self
    have later := ih fun v listed => evaluated v (List.mem_cons_of_mem _ listed)
    exact congrArg₂ (fun task rest => task >>= fun _ => rest) first later

end Session

end DocMachine
