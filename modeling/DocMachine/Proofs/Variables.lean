import DocMachine.Proofs.Linked
import DocMachine.Proofs.Permuted

/-!
# Local and global variables as maps

The variables of a frame and those of its machine are tables in which requests write, remove and look
up. They are two maps: what a request finds is told by the latest change of the same key in the same
reach, whatever happened to other keys and in the other reach in between.

* `Edit.latest?` is what changes leave under a key.
* `Frame.Serves` follows a frame that takes up literals and such requests, in any order, of one run list
  or of several. Requests may fail on the way.
* `Edit.Written` and `Edit.Removed` say what a single change does to both reaches, and where the entries
  of the table stand afterwards.

Results:
1. `Table.getElem?_erase`: of the entries that stay, a removal moves the last one only.
2. `Frame.Asks.changes`: a request changes the variables by its change, and not at all if it fails.
3. `Frame.Serves.maps`: the next request is served as by two maps.
-/

namespace DocMachine

variable {ω π : Type} {host : Host ω π}

/-! ## Places in a table -/

namespace Table

variable {κ α : Type} [DecidableEq κ] {table : Table κ α} {key : κ}

/-- Writing keeps the places of the keys; a fresh key comes last. -/
theorem keys_insert_eq (table : Table κ α) (key : κ) (value : α) :
    (table.insert key value).keys =
      if key ∈ table.keys then table.keys else table.keys ++ [key] := by
  split
  · next held => exact keys_insert held value
  · next fresh =>
    rw [insert_fresh fresh, keys, List.map_append]
    rfl

theorem length_erase (held : key ∈ table.keys) : (table.erase key).length + 1 = table.length := by
  induction table with
  | nil => cases held
  | cons entry rest ih =>
    obtain ⟨first, value⟩ := entry
    by_cases same : first = key
    · subst same
      rcases List.eq_nil_or_concat rest with rfl | ⟨before, last, rfl⟩
      · simp [erase]
      · simp [erase]
    · rw [erase, if_neg same, List.length_cons, List.length_cons, ih (held_of_cons held same)]

/-- Where a key is removed, the last entry takes its place, and all others stay where they are. -/
theorem getElem?_erase (apart : table.keys.Nodup) (key : κ) {place : Nat}
    (inside : place + 1 < table.length) :
    (table.erase key)[place]? =
      if table.keys[place]? = some key then table.getLast? else table[place]? := by
  induction table generalizing place with
  | nil => cases inside
  | cons entry rest ih =>
    obtain ⟨first, value⟩ := entry
    obtain ⟨fresh, apart⟩ := List.nodup_cons.mp apart
    have nonempty : rest ≠ [] := by
      rintro rfl
      exact Nat.not_lt_zero place (Nat.lt_of_succ_lt_succ inside)
    obtain ⟨before, last, rfl⟩ := (List.eq_nil_or_concat rest).resolve_left nonempty
    rw [List.concat_eq_append] at *
    have ends : ((first, value) :: (before ++ [last])).getLast? = (before ++ [last]).getLast? := by
      rw [List.getLast?_cons_of_ne_nil nonempty]
    by_cases same : first = key
    · subst same
      rw [erase_first]
      cases place with
      | zero => simp [keys, ends]
      | succ place =>
        have other : ¬ (keys ((first, value) :: (before ++ [last])))[place + 1]? = some first :=
          fun listed => fresh (List.mem_of_getElem? listed)
        have within : place < before.length := by simpa using inside
        rw [if_neg other, List.getElem?_cons_succ, List.getElem?_cons_succ,
          List.getElem?_append_left within]
    · rw [erase, if_neg same, ends]
      cases place with
      | zero => simp [keys, same]
      | succ place => exact ih apart (Nat.lt_of_succ_lt_succ inside)

end Table

/-! ## Changes of variables -/

namespace Edit

/-- The variables of both reaches after one of them was changed. -/
def applyTo (scopes : Reach → Scope) (change : Reach × Edit) : Reach → Scope :=
  Function.update scopes change.1 (apply (scopes change.1) change.2)

/-- What stands under a key after changes, of which the latest comes first. -/
def latest? (initial : Reach → Scope) (reach : Reach) (key : String) :
    List (Reach × Edit) → Option Value
  | [] => (initial reach).get? key
  | (other, .put name value) :: earlier =>
    if other = reach ∧ name = key then some value else latest? initial reach key earlier
  | (other, .remove name) :: earlier =>
    if other = reach ∧ name = key then none else latest? initial reach key earlier

/-- All that has changed is that `value` now stands under `key`: where the key stood before or, if it is
new, at the end. -/
structure Written (before after : Reach → Scope) (reach : Reach) (key : String) (value : Value) :
    Prop where
  found : (after reach).get? key = some value
  others : ∀ other, other ≠ key → (after reach).get? other = (before reach).get? other
  places : (after reach).keys =
    if key ∈ (before reach).keys then (before reach).keys else (before reach).keys ++ [key]
  beside : ∀ other, other ≠ reach → after other = before other

/-- All that has changed is that nothing stands under `key` any more. The last entry has moved to where
it stood, if it was not the last one itself. -/
structure Removed (before after : Reach → Scope) (reach : Reach) (key : String) : Prop where
  gone : (after reach).get? key = none
  others : ∀ other, other ≠ key → (after reach).get? other = (before reach).get? other
  length : (after reach).length + 1 = (before reach).length
  places : ∀ place, place + 1 < (before reach).length → (after reach)[place]? =
    if (before reach).keys[place]? = some key then (before reach).getLast? else (before reach)[place]?
  beside : ∀ other, other ≠ reach → after other = before other

variable {scopes : Reach → Scope} {reach : Reach} {key : String}

theorem written (scopes : Reach → Scope) (reach : Reach) (key : String) (value : Value) :
    Written scopes (applyTo scopes (reach, .put key value)) reach key value := by
  have put : applyTo scopes (reach, .put key value) reach =
      (scopes reach).insert key value := Function.update_self ..
  refine ⟨?_, fun other differs => ?_, ?_, fun other differs => Function.update_of_ne differs ..⟩
  · rw [put, Table.get?_insert, if_pos rfl]
  · rw [put, Table.get?_insert, if_neg (Ne.symm differs)]
  · rw [put, Table.keys_insert_eq]

theorem removed (apart : (scopes reach).keys.Nodup) (held : key ∈ (scopes reach).keys) :
    Removed scopes (applyTo scopes (reach, .remove key)) reach key := by
  have erased : applyTo scopes (reach, .remove key) reach = (scopes reach).erase key :=
    Function.update_self ..
  refine ⟨?_, fun other differs => ?_, ?_, fun place inside => ?_,
    fun other differs => Function.update_of_ne differs ..⟩
  · rw [erased, Table.get?_erase apart, if_pos rfl]
  · rw [erased, Table.get?_erase apart, if_neg (Ne.symm differs)]
  · rw [erased, Table.length_erase held]
  · rw [erased, Table.getElem?_erase apart key inside]

/-- A change keeps the keys apart. -/
theorem nodup_applyTo (apart : ∀ reach, (scopes reach).keys.Nodup) (change : Reach × Edit)
    (reach : Reach) : (applyTo scopes change reach).keys.Nodup := by
  obtain ⟨other, edit⟩ := change
  by_cases same : reach = other
  · subst same
    rw [applyTo, Function.update_self]
    cases edit with
    | put key value => exact Table.nodup_insert (apart reach) key value
    | remove key => exact Table.nodup_erase (apart reach) key
  · rw [applyTo, Function.update_of_ne same]
    exact apart reach

/-- If variables are what changes have left, then another change leaves what it adds to them. -/
theorem latest?_applyTo {initial : Reach → Scope} {changes : List (Reach × Edit)}
    (apart : ∀ reach, (scopes reach).keys.Nodup)
    (known : ∀ reach key, (scopes reach).get? key = latest? initial reach key changes)
    (change : Reach × Edit) (reach : Reach) (key : String) :
    (applyTo scopes change reach).get? key = latest? initial reach key (change :: changes) := by
  obtain ⟨other, edit⟩ := change
  by_cases same : other = reach
  · subst same
    rw [applyTo, Function.update_self]
    cases edit with
    | put name value => simp only [apply, latest?, Table.get?_insert, known, true_and]
    | remove name => simp only [apply, latest?, Table.get?_erase (apart other), known, true_and]
  · rw [applyTo, Function.update_of_ne (Ne.symm same), known]
    cases edit <;> simp [latest?, same]

end Edit

/-! ## Requests change the variables by their change -/

/-- The change that a request for variables makes, unless it fails. -/
def Builtin.change? (reach : Reach) (uri : String) (stack : List Value) : Builtin → Option (Reach × Edit)
  | .store =>
    stack.head?.bind fun value =>
      (Resource.keyOf uri).toOption.map fun key => (reach, .put key value)
  | .remove => (Resource.keyOf uri).toOption.map fun key => (reach, .remove key)
  | _ => none

/-- An act that changes variables by this change, and not if it fails. -/
def Act.ChangesBy {α : Type} (act : Act ω π α) (change : Option (Reach × Edit)) (call : Call ω π) :
    Prop :=
  (act.run.run call).2.scopes =
    match (act.run.run call).1 with
    | .ok _ => change.toList.foldl Edit.applyTo call.scopes
    | .error _ => call.scopes

/-- A turn that changes variables by this change, and not if it stops. -/
def Turn.ChangesBy (scopes : Reach → Scope) (change : Option (Reach × Edit)) : Turn ω π → Prop
  | .ended => True
  | .next after left => after.scopes left = change.toList.foldl Edit.applyTo scopes
  | .stop _ after left => after.scopes left = scopes

theorem Builtin.ask_changes (op : Builtin) (reach : Reach) (uri : String) (rest : Scope)
    (call : Call ω π) :
    (op.ask reach uri rest).ChangesBy (op.change? reach uri call.machine.stack) call := by
  cases op with
  | fetch =>
    rw [Act.ChangesBy, ask, run_bind, Resource.getVariable_reads]
    cases Param.record .null Resource.defaultField rest with
    | error fault => rfl
    | ok default => cases Resource.keyOf uri <;> rfl
  | store =>
    cases held : call.machine.stack with
    | nil => rw [Act.ChangesBy, ask, run_bind, Act.pop_run_nil held]
    | cons value below =>
      rw [Act.ChangesBy, ask, run_bind, Act.pop_run_cons held, change?]
      simp only
      rw [run_bind, Resource.putVariable_writes]
      cases rest with
      | cons entry rest => rfl
      | nil =>
        cases Resource.keyOf uri with
        | error fault => rfl
        | ok key => exact Call.scopes_withScope ..
  | remove =>
    rw [Act.ChangesBy, ask, run_bind, Resource.deleteVariable_removes, change?]
    cases rest with
    | cons entry rest => rfl
    | nil =>
      cases Resource.keyOf uri with
      | error fault => rfl
      | ok key =>
        simp only
        cases (call.scopes reach).get? key with
        | none => rfl
        | some value => exact Call.scopes_withScope ..
  | _ => rfl

namespace Frame

variable {frame after : Frame} {machine left : Machine ω π} {name uri key : String} {op : Builtin}
  {reach : Reach} {rest : Scope} {callee : Frame → Machine ω π → Run ω π}

/-- A request for variables changes them by its change, and not at all if it fails. -/
theorem Asks.changes (asks : frame.Asks machine name op reach uri rest) (host : Host ω π)
    (callee : Frame → Machine ω π → Run ω π) :
    (frame.turn host callee machine).ChangesBy (frame.scopes machine)
      (op.change? reach uri machine.stack) := by
  have changes := op.ask_changes reach uri rest (Asks.call frame machine name)
  rw [Act.ChangesBy, Asks.scopes_call, Asks.stack_call] at changes
  cases ran : (op.ask reach uri rest).run.run (Asks.call frame machine name) with
  | mk outcome call =>
    rw [ran] at changes
    cases outcome with
    | ok values =>
      rw [asks.served ran]
      exact changes
    | error fault =>
      rw [asks.refused ran]
      exact changes

theorem Asks.changed (asks : frame.Asks machine name op reach uri rest)
    (taken : frame.turn host callee machine = .next after left) :
    after.scopes left =
      (op.change? reach uri machine.stack).toList.foldl Edit.applyTo (frame.scopes machine) := by
  have changes := asks.changes host callee
  rw [taken] at changes
  exact changes

theorem Asks.unchanged (asks : frame.Asks machine name op reach uri rest) {reason : Stop}
    (taken : frame.turn host callee machine = .stop reason after left) :
    after.scopes left = frame.scopes machine := by
  have changes := asks.changes host callee
  rw [taken] at changes
  exact changes

end Frame

/-! ## Requests in any order -/

namespace Frame

/-- How a frame gets along that takes up literals and requests for variables, starting from `first` on
the machine `begun`, and what changes of variables that makes, the latest first. A request may fail, and
another run list may be given to the frame at any time. -/
inductive Serves (host : Host ω π) (first : Frame) (begun : Machine ω π) :
    List (Reach × Edit) → Frame → Machine ω π → Prop
  | start : Serves host first begun [] first begun
  | given {changes : List (Reach × Edit)} {frame : Frame} {machine : Machine ω π}
      (ops : List Value) : Serves host first begun changes frame machine →
        Serves host first begun changes (frame.start ops) machine
  | literal {changes : List (Reach × Edit)} {frame after : Frame} {machine left : Machine ω π}
      {callee : Frame → Machine ω π → Run ω π} {value pushed : Value} :
      Serves host first begun changes frame machine → frame.ops[frame.pc]? = some value →
        Op.classify value = .ok (.literal pushed) →
        frame.turn host callee machine = .next after left →
          Serves host first begun changes after left
  | served {changes : List (Reach × Edit)} {frame after : Frame} {machine left : Machine ω π}
      {callee : Frame → Machine ω π → Run ω π} {name uri : String} {op : Builtin} {reach : Reach}
      {rest : Scope} :
      Serves host first begun changes frame machine → frame.Asks machine name op reach uri rest →
        frame.turn host callee machine = .next after left →
          Serves host first begun ((op.change? reach uri machine.stack).toList ++ changes) after left
  | refused {changes : List (Reach × Edit)} {frame after : Frame} {machine left : Machine ω π}
      {callee : Frame → Machine ω π → Run ω π} {name uri : String} {op : Builtin} {reach : Reach}
      {rest : Scope} {reason : Stop} :
      Serves host first begun changes frame machine → frame.Asks machine name op reach uri rest →
        frame.turn host callee machine = .stop reason after left →
          Serves host first begun changes after left

/-- The variables of a frame and its machine are the maps `found`, and the next request for one of them
is served so. -/
structure Maps (host : Host ω π) (found : Reach → String → Option Value) (frame : Frame)
    (machine : Machine ω π) : Prop where
  values : ∀ reach key, (frame.scopes machine reach).get? key = found reach key
  apart : ∀ reach, (frame.scopes machine reach).keys.Nodup
  /-- A read pushes what is found, else its default, else null. It changes no variable. -/
  gets : ∀ {name uri key reach rest} callee, frame.Asks machine name .fetch reach uri rest →
    (∀ entry ∈ rest, entry.1 = "default") → Resource.keyOf uri = .ok key →
      ∃ left, frame.turn host callee machine = .next frame.spent left ∧
        left.stack = (found reach key).getD ((Table.get? rest.reverse "default").getD .null) ::
          machine.stack ∧
        frame.spent.scopes left = frame.scopes machine
  /-- A write puts its operand under its key. -/
  puts : ∀ {name uri key reach value below} callee, frame.Asks machine name .store reach uri [] →
    Resource.keyOf uri = .ok key → machine.stack = value :: below →
      ∃ after left, frame.turn host callee machine = .next after left ∧ left.stack = below ∧
        Edit.Written (frame.scopes machine) (after.scopes left) reach key value
  /-- A removal of what is found removes it. -/
  removes : ∀ {name uri key reach} callee, frame.Asks machine name .remove reach uri [] →
    Resource.keyOf uri = .ok key → found reach key ≠ none →
      ∃ after left, frame.turn host callee machine = .next after left ∧
        left.stack = machine.stack ∧
        Edit.Removed (frame.scopes machine) (after.scopes left) reach key
  /-- A removal of what is not found changes nothing. -/
  misses : ∀ {name uri key reach} callee, frame.Asks machine name .remove reach uri [] →
    Resource.keyOf uri = .ok key → found reach key = none →
      frame.turn host callee machine =
        .stop (.failed ⟨.missingVariable reach key, [frame.site]⟩) frame.spent
          (machine.traceStep frame name)
  /-- In no other case a variable is missing. -/
  missed : ∀ {name uri reach rest other key sites after left} callee,
    frame.Asks machine name .remove reach uri rest →
      frame.turn host callee machine =
        .stop (.failed ⟨.missingVariable other key, sites⟩) after left →
      rest = [] ∧ Resource.keyOf uri = .ok key ∧ found reach key = none
  /-- A request that fails changes no variable. -/
  refusals : ∀ {name op uri reach rest reason after left} callee,
    frame.Asks machine name op reach uri rest →
      frame.turn host callee machine = .stop reason after left →
        after.scopes left = frame.scopes machine

variable {first frame after : Frame} {begun machine left : Machine ω π}
  {changes : List (Reach × Edit)} {callee : Frame → Machine ω π → Run ω π}

theorem turn_literal {value pushed : Value} (found : frame.ops[frame.pc]? = some value)
    (classified : Op.classify value = .ok (.literal pushed))
    (taken : frame.turn host callee machine = .next after left) :
    after.scopes left = frame.scopes machine := by
  unfold turn at taken
  rw [found] at taken
  simp only at taken
  unfold takeUp at taken
  rw [classified] at taken
  cases taken
  funext reach
  cases reach with
  | locals => rfl
  | globals => exact Machine.traceStep_globals ..

/-- The variables are what the changes have left, and no key is there twice. -/
theorem Serves.latest (apart : ∀ reach, (first.scopes begun reach).keys.Nodup)
    (serves : Serves host first begun changes frame machine) :
    (∀ reach, (frame.scopes machine reach).keys.Nodup) ∧
      ∀ reach key, (frame.scopes machine reach).get? key =
        Edit.latest? (first.scopes begun) reach key changes := by
  induction serves with
  | start => exact ⟨apart, fun _ _ => rfl⟩
  | given _ _ ih => exact ih
  | literal _ found classified taken ih =>
    rw [turn_literal found classified taken]
    exact ih
  | served _ asks taken ih =>
    rw [asks.changed taken]
    cases Builtin.change? _ _ _ _ with
    | none => exact ih
    | some change =>
      exact ⟨Edit.nodup_applyTo ih.1 change, Edit.latest?_applyTo ih.1 ih.2 change⟩
  | refused _ asks taken ih =>
    rw [asks.unchanged taken]
    exact ih

/-- The variables of a frame and those of its machine are two maps, and the latest change of a key tells
what is found under it. -/
theorem Serves.maps (apart : ∀ reach, (first.scopes begun reach).keys.Nodup)
    (serves : Serves host first begun changes frame machine) :
    Maps host (fun reach key => Edit.latest? (first.scopes begun) reach key changes) frame machine := by
  obtain ⟨apart, latest⟩ := serves.latest apart
  refine ⟨latest, apart, ?gets, ?puts, ?removes, ?misses, ?missed, fun _ asks => asks.unchanged⟩
  case gets =>
    intro name uri key reach rest callee asks only names
    obtain ⟨left, taken, pushed⟩ :=
      asks.gets (Resource.record_default only) names host callee
    rw [latest] at pushed
    exact ⟨left, taken, pushed, asks.changed taken⟩
  case puts =>
    intro name uri key reach value below callee asks names held
    obtain ⟨after, left, taken, rest⟩ := asks.puts names held host callee
    refine ⟨after, left, taken, rest, ?_⟩
    have changed := asks.changed taken
    rw [Builtin.change?, held, names] at changed
    rw [show after.scopes left = Edit.applyTo (frame.scopes machine) (reach, .put key value)
      from changed]
    exact Edit.written ..
  case removes =>
    intro name uri key reach callee asks names found
    rw [← latest] at found
    obtain ⟨old, held⟩ := Option.ne_none_iff_exists'.mp found
    obtain ⟨after, left, taken, rest⟩ := asks.removes names held host callee
    refine ⟨after, left, taken, rest, ?_⟩
    have changed := asks.changed taken
    rw [Builtin.change?, names] at changed
    rw [show after.scopes left = Edit.applyTo (frame.scopes machine) (reach, .remove key)
      from changed]
    exact Edit.removed (apart reach) ((Table.mem_keys _ key).mpr found)
  case misses =>
    intro name uri key reach callee asks names absent
    exact asks.misses names ((latest reach key).trans absent)
  case missed =>
    intro name uri reach rest other key sites after left callee asks missed
    obtain ⟨plain, names, absent⟩ := asks.missed missed
    exact ⟨plain, names, (latest reach key).symm.trans absent⟩

/-- A variable that is removed and put again comes last, and the one that was last has moved. -/
theorem Serves.maps_again :
    let first : Frame := { Frame.root with
      locals := [("x", .int 0), ("y", .int 1), ("z", .int 2)]
      ops := [.obj [("op", .str "del"), ("uri", .str "locals:x")],
        .obj [("op", .str "put"), ("uri", .str "locals:x")]] }
    let begun : Machine Unit Empty := { Session.plain.machine with stack := [.int 5] }
    let changes : List (Reach × Edit) := [(.locals, .put "x" (.int 5)), (.locals, .remove "x")]
    ∃ frame machine, Serves Session.plainHost first begun changes frame machine ∧
      Maps Session.plainHost
        (fun reach key => Edit.latest? (first.scopes begun) reach key changes) frame machine ∧
      frame.locals.keys = ["z", "y", "x"] := by
  intro first begun changes
  have apart : ∀ reach, (first.scopes begun reach).keys.Nodup := by
    intro reach
    cases reach <;> decide
  have asks : first.Asks begun "del" .remove .locals "locals:x" [] :=
    ⟨_, _, .deleter, rfl, rfl, rfl, rfl, rfl⟩
  let callee : Frame → Machine Unit Empty → Run Unit Empty := fun frame machine => ⟨.ok (), frame, machine⟩
  have none : Serves Session.plainHost first begun [] first begun := .start
  have removed := none.served asks (show first.turn Session.plainHost callee begun = .next _ _ from rfl)
  have serves := removed.served
    (show Asks _ _ "put" .store .locals "locals:x" [] from ⟨_, _, .putter, rfl, rfl, rfl, rfl, rfl⟩)
    (show turn Session.plainHost callee _ _ = .next _ _ from rfl)
  exact ⟨_, _, serves, serves.maps apart, rfl⟩

end Frame

end DocMachine
