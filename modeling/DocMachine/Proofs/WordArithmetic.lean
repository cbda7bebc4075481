import DocMachine.Flow
import DocMachine.Proofs.Capacity

/-!
# Arithmetic in words

Counts and places are words of 64 bits. The sum of two words need not be a word, nor their difference,
and a place need not be inside a list. Here the computations that ops make with counts and places may
have no result, and they have one after all.

* `Word.add?` and `Word.sub?`: sums and differences, if they are words.
* `Word.fromEnd?`: the item of a list at an offset from its end, if it is inside.
* `Word.Yields`: a computation in words has a result, and it is this one.
* `Flow.Seek`: what the searches for the partner of a control word have in common.

Results:
1. `Flow.Seek.Leads.search?`: a search counts the open blocks in words.
2. `Format.Spec.pad?_yields`: so is the room around a text in a wider field measured.
3. `Format.Template.renderFrom?_yields`: so are the arguments of a format string counted.
-/

namespace DocMachine

namespace Word

/-- The first number that is no word. -/
def limit : Nat := 0x10000000000000000

/-- The sum of two words, if it is a word. -/
def add? (a b : Nat) : Option Nat := if a + b < limit then some (a + b) else none

/-- The difference of two words, if it is a word. -/
def sub? (a b : Nat) : Option Nat := if b ≤ a then some (a - b) else none

/-- A list cut in two at a place, if the place is inside. -/
def splitAt? {α : Type} (items : List α) (place : Nat) : Option (List α × List α) :=
  if place ≤ items.length then some (items.take place, items.drop place) else none

/-- The item of a list at an offset from its end, if it is inside. -/
def fromEnd? {α : Type} (items : List α) (offset : Nat) : Option α := do
  let last ← sub? items.length 1
  let place ← sub? last offset
  items[place]?

theorem add?_eq {a b : Nat} (small : a + b < limit) : add? a b = some (a + b) := if_pos small

theorem sub?_eq {a b : Nat} (le : b ≤ a) : sub? a b = some (a - b) := if_pos le

/-- The last `n` of a list are the first `n` of its reverse. -/
theorem splitAt?_reverse {α : Type} {items : List α} {n : Nat} (enough : n ≤ items.length) :
    splitAt? items.reverse (items.length - n) =
      some ((items.drop n).reverse, (items.take n).reverse) := by
  rw [splitAt?, List.length_reverse, if_pos (Nat.sub_le ..), List.take_reverse, List.drop_reverse,
    Nat.sub_sub_self enough]

theorem fromEnd?_eq {α : Type} {items : List α} {offset : Nat} (inside : offset < items.length) :
    fromEnd? items offset = items.reverse[offset]? := by
  rw [fromEnd?, sub?_eq (Nat.one_le_of_lt inside)]
  show (sub? (items.length - 1) offset >>= (items[·]?)) = _
  rw [sub?_eq (Nat.le_sub_one_of_lt inside), List.getElem?_reverse inside]
  rfl

/-- Offsets that are inside choose items. -/
theorem mapM_fromEnd? {α : Type} {items : List α} {offsets : List Nat}
    (inside : ∀ offset ∈ offsets, offset < items.length) (other : α) :
    offsets.mapM (fromEnd? items) = some (offsets.map fun offset => items.reverse.getD offset other) := by
  induction offsets with
  | nil => rfl
  | cons offset rest ih =>
    have first : fromEnd? items offset = some (items.reverse.getD offset other) := by
      have place := inside offset (List.mem_cons_self ..)
      rw [fromEnd?_eq place, List.getD_eq_getElem?_getD,
        List.getElem?_eq_getElem (by rwa [List.length_reverse])]
      rfl
    rw [List.mapM_cons, first, ih fun offset there => inside offset (List.mem_cons_of_mem _ there)]
    rfl

/-! ## Computations that may fail -/

section

variable {ε α β : Type}

/-- A computation without counts. -/
def ofExcept (result : Except ε α) : ExceptT ε Option α := ExceptT.mk (some result)

/-- The computation has a result in words, and it is this one. -/
def Yields (inWords : ExceptT ε Option α) (result : Except ε α) : Prop := inWords.run = some result

namespace Yields

variable {inWords : ExceptT ε Option α} {result : Except ε α}

theorem ofExcept (result : Except ε α) : Yields (Word.ofExcept result) result := rfl

theorem pure (a : α) : Yields (Pure.pure a : ExceptT ε Option α) (.ok a) := rfl

theorem bind {rest : α → ExceptT ε Option β} {next : α → Except ε β} (first : Yields inWords result)
    (second : ∀ a, result = .ok a → Yields (rest a) (next a)) :
    Yields (inWords >>= rest) (result >>= next) := by
  show inWords.run.bind (ExceptT.bindCont rest) = _
  rw [first]
  cases result with
  | ok a => exact second a rfl
  | error fault => rfl

theorem map (yields : Yields inWords result) (f : α → β) : Yields (f <$> inWords) (result.map f) := by
  show inWords.run.bind _ = _
  rw [yields]
  cases result <;> rfl

/-- What is computed from a word. -/
theorem word {rest : α → ExceptT ε Option β} {next : Except ε β} {word : Option α} {a : α}
    (known : word = some a) (yields : Yields (rest a) next) : Yields (liftM word >>= rest) next := by
  rw [known]
  exact yields

end Yields

end

end Word

/-! ## Searches -/

namespace Flow

/-- How a search for the partner of a control word goes on from an op. -/
inductive Stride where
  | ends (outcome : Except Fault Unit)
  | opens
  | closes
  | passes

/-- A search: the names that open and close inner blocks, those that end the search outside of them, and
what is wrong if none does. -/
structure Seek where
  opens : String
  closes : String
  ends : String → Option (Except Fault Unit)
  missing : Fault
  /-- Outside of inner blocks nothing is closed that the search is not for. -/
  settles : (ends closes).isSome = true

namespace Seek

/-- How a search goes on from an op. -/
def stride (seek : Seek) (nested : Nat) (op : Value) : Stride :=
  match Op.name? op with
  | none => .passes
  | some name =>
    if name = seek.opens then .opens
    else
      match nested, seek.ends name with
      | 0, some outcome => .ends outcome
      | _, _ => if name = seek.closes then .closes else .passes

/-- A search that counts open blocks in words. -/
def search? (seek : Seek) (nested : Nat) : List Value → ExceptT Fault Option Nat
  | [] => throw seek.missing
  | op :: rest =>
    match seek.stride nested op with
    | .ends outcome => Word.ofExcept (outcome.map fun _ => 1)
    | .opens => do
      let inner ← Word.add? nested 1
      (· + 1) <$> search? seek inner rest
    | .closes => do
      let outer ← Word.sub? nested 1
      (· + 1) <$> search? seek outer rest
    | .passes => (· + 1) <$> search? seek nested rest

/-- The search goes as `seek` says. -/
structure Leads (seek : Seek) (scan : Nat → List Value → Except Fault Nat) : Prop where
  nil : ∀ nested, scan nested [] = .error seek.missing
  cons : ∀ nested op rest, scan nested (op :: rest) =
    match seek.stride nested op with
    | .ends outcome => outcome.map fun _ => 1
    | .opens => (scan (nested + 1) rest).map (· + 1)
    | .closes => (scan (nested - 1) rest).map (· + 1)
    | .passes => (scan nested rest).map (· + 1)

section

variable (seek : Seek) {nested : Nat} {op : Value} {name : String}

theorem stride_opens (named : Op.name? op = some seek.opens) : seek.stride nested op = .opens := by
  rw [stride, named]
  exact if_pos rfl

theorem stride_ends {outcome : Except Fault Unit} (named : Op.name? op = some name)
    (inside : name ≠ seek.opens) (ended : seek.ends name = some outcome) :
    seek.stride 0 op = .ends outcome := by
  simp only [stride, named, if_neg inside, ended]

theorem stride_closes (named : Op.name? op = some seek.closes) (apart : seek.closes ≠ seek.opens) :
    seek.stride (nested + 1) op = .closes := by
  simp only [stride, named, if_neg apart, if_true]

theorem stride_passes (noOpens : Op.name? op ≠ some seek.opens) (noCloses : Op.name? op ≠ some seek.closes)
    (noEnd : nested = 0 → ∀ name, Op.name? op = some name → seek.ends name = none) :
    seek.stride nested op = .passes := by
  cases named : Op.name? op with
  | none => simp only [stride, named]
  | some name =>
    rw [named] at noOpens noCloses
    have noOpens : name ≠ seek.opens := fun same => noOpens (congrArg some same)
    have noCloses : name ≠ seek.closes := fun same => noCloses (congrArg some same)
    cases nested with
    | zero => simp only [stride, named, if_neg noOpens, if_neg noCloses, noEnd rfl name named]
    | succ inner => simp only [stride, named, if_neg noOpens, if_neg noCloses]

/-- Only inside a block one is closed. -/
theorem pos_of_closes (closes : seek.stride nested op = .closes) : 0 < nested := by
  refine Nat.pos_of_ne_zero ?_
  rintro rfl
  have settles := seek.settles
  unfold stride at closes
  split at closes
  · cases closes
  · next name named =>
    split at closes
    · cases closes
    · cases ended : seek.ends name with
      | some outcome =>
        rw [ended] at closes
        cases closes
      | none =>
        rw [ended] at closes
        simp only at closes
        split at closes
        · next same =>
          rw [← same, ended] at settles
          cases settles
        · cases closes

end

/-- The count of open blocks is a word, as no more are open than ops were met. -/
theorem Leads.search? {seek : Seek} {scan : Nat → List Value → Except Fault Nat}
    (leads : seek.Leads scan) {nested : Nat} {ops : List Value}
    (small : nested + ops.length < Word.limit) : Word.Yields (seek.search? nested ops) (scan nested ops) := by
  induction ops generalizing nested with
  | nil =>
    rw [leads.nil]
    rfl
  | cons op rest ih =>
    rw [List.length_cons] at small
    rw [leads.cons, Seek.search?]
    cases strides : seek.stride nested op with
    | ends outcome => exact .ofExcept _
    | opens =>
      have inner : nested + 1 + rest.length < Word.limit := by omega
      exact .word (Word.add?_eq (by omega)) ((ih inner).map _)
    | closes =>
      have outer : nested - 1 + rest.length < Word.limit := by omega
      exact .word (Word.sub?_eq (seek.pos_of_closes strides)) ((ih outer).map _)
    | passes =>
      have along : nested + rest.length < Word.limit := by omega
      exact (ih along).map _

/-! ### The three searches -/

/-- From a loop to its end. -/
def loop : Seek where
  opens := "begin"
  closes := "repeat"
  ends name := if name = "repeat" then some (.ok ()) else none
  missing := .unterminated .loop
  settles := rfl

/-- From a conditional to its other branch or its end. -/
def branch : Seek where
  opens := "if"
  closes := "endif"
  ends name := if name = "else" ∨ name = "endif" then some (.ok ()) else none
  missing := .unterminated .conditional
  settles := rfl

/-- From the other branch of a conditional to its end. -/
def block : Seek where
  opens := "if"
  closes := "endif"
  ends name :=
    if name = "else" then some (.error .unboundElse)
    else if name = "endif" then some (.ok ()) else none
  missing := .unterminated .conditional
  settles := rfl

/-- A search that finds nothing, as a fault. -/
def orMissing (seek : Seek) : Option Nat → Except Fault Nat
  | some count => .ok count
  | none => .error seek.missing

theorem orMissing_map (seek : Seek) (found : Option Nat) (f : Nat → Nat) :
    seek.orMissing (found.map f) = (seek.orMissing found).map f := by
  cases found <;> rfl

theorem orMissing_injective (seek : Seek) : Function.Injective seek.orMissing := by
  rintro (_ | first) (_ | second) same <;> cases same <;> rfl

theorem loop_leads : loop.Leads fun nested ops => loop.orMissing (loopEnd? nested ops) where
  nil _ := rfl
  cons nested op rest := by
    show loop.orMissing (loopEnd? nested (op :: rest)) = _
    conv_lhs => unfold loopEnd?
    split
    · next named =>
      rw [loop.stride_opens named]
      exact orMissing_map ..
    · next named =>
      rw [loop.stride_ends named (by decide) rfl]
      rfl
    · next inner named =>
      rw [loop.stride_closes named (by decide)]
      exact orMissing_map ..
    · next noOpens noEnd noCloses =>
      rw [loop.stride_passes (fun named => noOpens named) ?_ ?_]
      · exact orMissing_map ..
      · intro named
        obtain ⟨inner, same⟩ := Nat.exists_eq_succ_of_ne_zero (noEnd named)
        exact noCloses inner named same
      · rintro rfl name named
        refine if_neg ?_
        rintro rfl
        exact noEnd named rfl

theorem branch_leads : branch.Leads fun nested ops => branch.orMissing (branchEnd? nested ops) where
  nil _ := rfl
  cons nested op rest := by
    show branch.orMissing (branchEnd? nested (op :: rest)) = _
    conv_lhs => unfold branchEnd?
    split
    · next named =>
      rw [branch.stride_opens named]
      exact orMissing_map ..
    · next named =>
      rw [branch.stride_ends named (by decide) rfl]
      rfl
    · next named =>
      rw [branch.stride_ends named (by decide) rfl]
      rfl
    · next inner named =>
      rw [branch.stride_closes named (by decide)]
      exact orMissing_map ..
    · next noOpens noElse noEnd noCloses =>
      rw [branch.stride_passes (fun named => noOpens named) ?_ ?_]
      · exact orMissing_map ..
      · intro named
        obtain ⟨inner, same⟩ := Nat.exists_eq_succ_of_ne_zero (noEnd named)
        exact noCloses inner named same
      · rintro rfl name named
        refine if_neg ?_
        rintro (rfl | rfl)
        · exact noElse named rfl
        · exact noEnd named rfl

theorem block_leads : block.Leads blockEnd where
  nil _ := rfl
  cons nested op rest := by
    conv_lhs => unfold blockEnd
    split
    · next named => rw [block.stride_opens named]
    · next named =>
      rw [block.stride_ends named (by decide) rfl]
      rfl
    · next named =>
      rw [block.stride_ends named (by decide) rfl]
      rfl
    · next inner named =>
      rw [block.stride_closes named (by decide)]
      rfl
    · next noOpens noElse noEnd noCloses =>
      rw [block.stride_passes (fun named => noOpens named) ?_ ?_]
      · intro named
        obtain ⟨inner, same⟩ := Nat.exists_eq_succ_of_ne_zero (noEnd named)
        exact noCloses inner named same
      · rintro rfl name named
        refine (if_neg ?_).trans (if_neg ?_)
        · rintro rfl
          exact noElse named rfl
        · rintro rfl
          exact noEnd named rfl

end Seek

end Flow

/-! ## Format strings -/

namespace Format

/-- The room before and after a text, of so much room, in words. -/
def Align.split? : Align → Nat → Option (Nat × Nat)
  | center, room => do
    let after ← Word.sub? room (room / 2)
    return (room / 2, after)
  | align, room => some (align.split room)

theorem Align.split?_eq (align : Align) (room : Nat) : align.split? room = some (align.split room) := by
  cases align with
  | center =>
    rw [split?, Word.sub?_eq (Nat.div_le_self room 2)]
    rfl
  | _ => rfl

namespace Spec

/-- A text in a field, with the room around it in words. -/
def pad? (spec : Spec) (align : Align) (text : String) : ExceptT TemplateFault Option String := do
  if spec.width ≤ text.length then return text
  let room ← Word.sub? spec.width text.length
  let (before, after) ← (spec.align.getD align).split? room
  let before ← Word.ofExcept (spec.filling before)
  let after ← Word.ofExcept (spec.filling after)
  return before ++ text ++ after

theorem pad?_yields (spec : Spec) (align : Align) (text : String) :
    Word.Yields (spec.pad? align text) (spec.pad align text) := by
  unfold pad?
  by_cases wide : spec.width ≤ text.length
  · rw [if_pos wide, pad_wide wide]
    exact .pure text
  · rw [if_neg wide, pad_eq]
    refine .word (Word.sub?_eq (Nat.le_of_not_le wide)) (.word (Align.split?_eq _ _) ?_)
    exact .bind (.ofExcept _) fun before _ => .bind (.ofExcept _) fun after _ => .pure _

/-- Lays out a value, with the room around its text in words. -/
def layOut? (spec : Spec) (value : Value) (rendered : String) : ExceptT TemplateFault Option String :=
  match spec.kind, value with
  | some 's', _ => spec.pad? .left (spec.cut rendered)
  | none, .str _ => spec.pad? .left (spec.cut rendered)
  | kind, value =>
    if isNumeric value then do spec.pad? .right (← Word.ofExcept (spec.number value))
    else
      match kind with
      | none => spec.pad? .left rendered
      | some letter => throw (.unknownCode letter value.typeName)

theorem layOut?_yields (spec : Spec) (value : Value) (rendered : String) :
    Word.Yields (spec.layOut? value rendered) (spec.apply value rendered) := by
  by_cases isText : spec.kind = some 's'
  · simp only [layOut?, apply, isText]
    exact pad?_yields ..
  · cases numeric : isNumeric value with
    | true =>
      have same : spec.layOut? value rendered =
            (do spec.pad? .right (← Word.ofExcept (spec.number value))) ∧
          spec.apply value rendered = spec.number value >>= spec.pad .right := by
        cases value <;> simp_all [layOut?, apply, isNumeric]
      rw [same.1, same.2]
      exact .bind (.ofExcept _) fun text _ => pad?_yields ..
    | false =>
      cases kind : spec.kind with
      | none => cases value <;> simp only [layOut?, apply, kind, numeric] <;> exact pad?_yields ..
      | some letter =>
        rw [kind] at isText
        cases value <;> simp_all [layOut?, apply, isNumeric] <;> rfl

end Spec

namespace Template

/-- The number of arguments that were counted off. -/
def Numbering.count : Numbering → Nat
  | .automatic next => next
  | _ => 0

/-- The argument of a field, with those counted off in words. -/
def argument? (args : List Value) (named : Scope) :
    Numbering → Arg → ExceptT TemplateFault Option (Value × Numbering)
  | .manual, .next => throw .manualToAutomatic
  | numbering, .next => do
    let count ← Word.add? numbering.count 1
    let place ← Word.sub? count 1
    return (← Word.ofExcept (positional args place), .automatic count)
  | numbering, other => Word.ofExcept (argument args named numbering other)

/-- The text of a field with the given argument, with the room around it in words. -/
def renderField? (field : Field) (base : Value) : ExceptT TemplateFault Option String := do
  let value ← Word.ofExcept (field.path.foldlM entry base)
  let rendered ← Word.ofExcept (convert value field.conversion)
  if field.spec.isEmpty then return rendered
  let spec ← Word.ofExcept (Spec.parse field.spec.toList)
  spec.layOut? value rendered

/-- Fills the fields from left to right, in words. -/
def renderFrom? (args : List Value) (named : Scope) :
    Numbering → Template → ExceptT TemplateFault Option String
  | _, [] => return ""
  | numbering, .text c :: rest => do
    return c.toString ++ (← renderFrom? args named numbering rest)
  | numbering, .field field :: rest => do
    let (base, numbering) ← argument? args named numbering field.arg
    let text ← renderField? field base
    return text ++ (← renderFrom? args named numbering rest)

variable {args : List Value} {named : Scope} {numbering : Numbering}

theorem argument?_yields (small : numbering.count + 1 < Word.limit) (arg : Arg) :
    Word.Yields (argument? args named numbering arg) (argument args named numbering arg) := by
  have counted (next : Nat) (small : next + 1 < Word.limit) :
      Word.Yields (do
          let count ← Word.add? next 1
          let place ← Word.sub? count 1
          return (← Word.ofExcept (positional args place), Numbering.automatic count))
        ((positional args next).map (·, Numbering.automatic (next + 1))) :=
    .word (Word.add?_eq small) (.word (Word.sub?_eq (Nat.le_add_left ..))
      ((Word.Yields.ofExcept (positional args next)).map (·, Numbering.automatic (next + 1))))
  cases arg with
  | next =>
    cases numbering with
    | unset => exact counted 0 small
    | automatic next => exact counted next small
    | manual => rfl
  | index i => cases numbering <;> rfl
  | name name => cases numbering <;> rfl

/-- With each field, no more than one argument is counted off. -/
theorem argument_count {arg : Arg} {value : Value} {after : Numbering}
    (taken : argument args named numbering arg = .ok (value, after)) :
    after.count ≤ numbering.count + 1 := by
  have placed {place : Nat} {left : Numbering}
      (found : (positional args place).map (·, left) = .ok (value, after)) : after = left := by
    cases held : positional args place with
    | error fault =>
      rw [held] at found
      cases found
    | ok item =>
      rw [held] at found
      cases found
      rfl
  cases arg with
  | next =>
    cases numbering with
    | unset | automatic next =>
      rw [placed taken]
      exact Nat.le_refl _
    | manual => cases taken
  | index i =>
    cases numbering with
    | automatic next =>
      rw [argument] at taken
      cases taken
    | unset | manual =>
      rw [placed taken]
      exact Nat.zero_le _
  | name name =>
    rw [argument] at taken
    split at taken
    · cases taken
      exact Nat.le_succ _
    · cases taken

theorem renderField?_yields (field : Field) (base : Value) :
    Word.Yields (renderField? field base) (renderField field base) := by
  refine .bind (.ofExcept _) fun value _ => .bind (.ofExcept _) fun rendered _ => ?_
  split
  · exact .pure rendered
  · exact .bind (.ofExcept _) fun spec _ => spec.layOut?_yields value rendered

/-- The arguments are counted off in words, as they are no more than the parts of the string. -/
theorem renderFrom?_yields {template : Template} (small : numbering.count + template.length < Word.limit) :
    Word.Yields (renderFrom? args named numbering template) (renderFrom args named numbering template) := by
  induction template generalizing numbering with
  | nil => rfl
  | cons piece rest ih =>
    rw [List.length_cons] at small
    cases piece with
    | text c =>
      have along : numbering.count + rest.length < Word.limit := by omega
      exact .bind (ih along) fun text _ => .pure _
    | field field =>
      have first : numbering.count + 1 < Word.limit := by omega
      refine .bind (argument?_yields first field.arg) fun found taken => ?_
      obtain ⟨base, after⟩ := found
      have along : after.count + rest.length < Word.limit := by
        have counted := argument_count taken
        omega
      exact .bind (renderField?_yields field base) fun text _ => .bind (ih along) fun _ _ => .pure _

/-- A format string has no more parts than characters. -/
theorem pieces_length {fuel : Nat} {chars : List Char} {template : Template}
    (parsed : pieces fuel chars = .ok template) : template.length ≤ fuel := by
  have one {fuel : Nat} {piece : Piece} {rest : Except TemplateFault Template}
      (ih : ∀ {template}, rest = .ok template → template.length ≤ fuel) {template : Template}
      (parsed : rest.map (piece :: ·) = .ok template) : template.length ≤ fuel + 1 := by
    cases rest with
    | error fault => cases parsed
    | ok parts =>
      cases parsed
      exact Nat.succ_le_succ (ih rfl)
  fun_induction pieces fuel chars generalizing template with
  | case1 | case2 =>
    cases parsed
    exact Nat.zero_le _
  | case3 _ _ ih | case4 _ _ ih => exact one ih parsed
  | case5 => cases parsed
  | case6 fuel rest _ ih =>
    cases split : fieldBody rest with
    | error fault =>
      rw [split] at parsed
      cases parsed
    | ok parts =>
      rw [split] at parsed
      cases read : Field.parse parts.1 with
      | error fault =>
        replace parsed : (Field.parse parts.1 >>= _) = .ok template := parsed
        rw [read] at parsed
        cases parsed
      | ok field =>
        replace parsed : (Field.parse parts.1 >>= _) = .ok template := parsed
        rw [read] at parsed
        exact one (ih parts.2) parsed
  | case7 _ _ _ _ _ _ _ ih => exact one ih parsed

end Template

end Format

end DocMachine
