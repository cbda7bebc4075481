import DocMachine.Proofs.Equality
import DocMachine.Proofs.Packing

/-!
# What composites keep and give back

An object has one entry for each key. Values that are packed under keys are kept if the keys are distinct;
under a key that is given twice only the last of its values is. Unpacking takes each entry out when its key
is met: this is looking the keys up as long as none is asked for twice, and otherwise it misses the entry
that it has taken out before.

`Builtin.Refuses` says with what an op fails, wherever it is run, and what it leaves on the stack.

Results:
1. `Table.length_ofEntries` and `Table.values_ofEntries`: a table has all the entries that it is made of if
   their keys are distinct, and only then.
2. `Builtin.pack_collects`: which of the values that are packed a composite holds.
3. `Shuffle.takeOut_missing`: which key is missed.
4. `Builtin.unpack_finds`: unpacking by distinct keys is lookup, and by others it fails.
-/

namespace DocMachine

namespace Table

variable {κ α : Type} [DecidableEq κ]

theorem get?_ofEntries (entries : Table κ α) (key : κ) :
    (ofEntries entries).get? key = get? entries.reverse key := by
  rw [ofEntries, get?_extend, get?, Option.or_none]

theorem nodup_ofEntries (entries : Table κ α) : (ofEntries entries).keys.Nodup :=
  have apart : (keys ([] : Table κ α)).Nodup := List.nodup_nil
  nodup_extend apart entries

theorem mem_keys_ofEntries (entries : Table κ α) (key : κ) :
    key ∈ (ofEntries entries).keys ↔ key ∈ entries.keys := by
  rw [mem_keys, get?_ofEntries, ← mem_keys, keys, List.map_reverse, List.mem_reverse]
  rfl

/-- A table has an entry for each that it is made of exactly if their keys are distinct. -/
theorem length_ofEntries (entries : Table κ α) :
    (ofEntries entries).length = entries.length ↔ entries.keys.Nodup := by
  constructor
  · intro long
    have same := keys_perm_of_subset (nodup_ofEntries entries)
      (fun key there => (mem_keys_ofEntries entries key).mp there) long
    exact same.nodup_iff.mp (nodup_ofEntries entries)
  · intro apart
    rw [ofEntries_eq apart]

/-- A table holds the values that it is made of exactly if their keys are distinct. -/
theorem values_ofEntries (entries : Table κ α) :
    (ofEntries entries).values.Perm entries.values ↔ entries.keys.Nodup := by
  constructor
  · intro perm
    have long := perm.length_eq
    rw [values, values, List.length_map, List.length_map] at long
    exact (length_ofEntries entries).mp long
  · intro apart
    rw [ofEntries_eq apart]

end Table

namespace Shuffle

variable {fields : Scope} {keys : List String}

/-- Of other keys, one is missed that is not there, or that is asked for again. -/
theorem takeOut_missing (apart : fields.keys.Nodup) (missing : ¬ Held fields keys) :
    ∃ key ∈ keys, (key ∉ fields.keys ∨ 2 ≤ keys.count key) ∧
      takeOut fields keys = .error (.absentKey key) := by
  induction keys generalizing fields with
  | nil => exact absurd ⟨List.nodup_nil, nofun⟩ missing
  | cons key keys ih =>
    cases found : fields.get? key with
    | none =>
      refine ⟨key, List.mem_cons_self, .inl ((Table.get?_eq_none fields key).mp found), ?_⟩
      rw [takeOut, found]
    | some value =>
      have here : key ∈ fields.keys := (Table.mem_keys fields key).mpr (by simp [found])
      have later : ¬ Held (Table.erase fields key) keys := fun held =>
        missing ((held_cons apart).mpr ⟨here, held⟩)
      obtain ⟨missed, given, why, taken⟩ := ih (Table.nodup_erase apart key) later
      refine ⟨missed, List.mem_cons_of_mem key given, ?_, by rw [takeOut_cons found, taken]; rfl⟩
      -- The entry may be missed because it was taken out under the first key.
      by_cases same : key = missed
      · subst same
        have again : 0 < keys.count key := List.count_pos_iff.mpr given
        exact .inr (by rw [List.count_cons_self]; omega)
      · refine why.imp (fun gone there => gone ?_) fun twice => Nat.le_trans twice List.count_le_count_cons
        exact (Table.mem_keys_erase apart key missed).mpr ⟨same, there⟩

end Shuffle

namespace Builtin

open Shuffle

variable {scope : Scope} {below : List Value}

/-! ## What is packed -/

section

variable {ω π : Type} {host : Host ω π} {callee : Frame → Machine ω π → Run ω π} {name : String}
  {frame after : Frame} {machine left : Machine ω π} {count : Nat} {forward : Bool}

theorem taken_perm (forward : Bool) (count : Nat) (stack : List Value) :
    (taken forward count stack).Perm (stack.take count) := by
  cases forward with
  | true => exact List.reverse_perm _
  | false => exact .refl _

/-- Packing goes on only with the composite of the values that it has taken. -/
theorem pack_next {keys : Option (List String)} (reads : Packs scope ⟨some count, forward, keys⟩)
    (accepted : frame.dispatch host callee name scope (.builtin .pack) machine = .next after left) :
    (∀ names ∈ keys, names.length = count) ∧ count ≤ machine.stack.length ∧ after = frame.spent ∧
      left = { machine with
        stack := composite keys (taken forward count machine.stack) :: machine.stack.drop count } := by
  obtain ⟨values, call, ran, -, -⟩ := Frame.perform_eq_next.mp accepted
  obtain ⟨named, enough, -, -⟩ := (pack_eq_ok reads).mp ran
  exact ⟨named, enough, (pack_rewrites reads named enough).next accepted⟩

/-- An array holds all the values that were packed. An object holds under each key the last of the values
that were packed under it: it holds all of them if no key was given twice, and only then. -/
theorem pack_collects {keys : Option (List String)} (reads : Packs scope ⟨some count, forward, keys⟩)
    (accepted : frame.dispatch host callee name scope (.builtin .pack) machine = .next after left) :
    (keys = none → ∃ items, left.stack = .arr items :: machine.stack.drop count ∧ items.length = count ∧
      items.Perm (machine.stack.take count)) ∧
    (∀ names, keys = some names → ∃ fields : Scope, left.stack = .obj fields :: machine.stack.drop count ∧
      (∀ key, fields.get? key =
        Table.get? (names.zip (taken forward count machine.stack).reverse).reverse key) ∧
      (fields.length = count ↔ names.Nodup) ∧
      (fields.values.Perm (machine.stack.take count) ↔ names.Nodup)) := by
  obtain ⟨named, enough, -, rfl⟩ := pack_next reads accepted
  have whole := taken_perm forward count machine.stack
  have length : (taken forward count machine.stack).length = count := by
    rw [whole.length_eq, List.length_take, Nat.min_eq_left enough]
  refine ⟨?_, ?_⟩
  · rintro rfl
    exact ⟨_, rfl, length, whole⟩
  · rintro names rfl
    let entries := names.zip (taken forward count machine.stack).reverse
    have each : names.length = (taken forward count machine.stack).reverse.length := by
      rw [named names rfl, List.length_reverse, length]
    have keys : Table.keys entries = names := List.map_fst_zip (Nat.le_of_eq each)
    have values : (Table.values entries).Perm (machine.stack.take count) := by
      rw [Table.values, List.map_snd_zip (Nat.le_of_eq each.symm)]
      exact (List.reverse_perm _).trans whole
    have long : entries.length = count := by
      rw [List.length_zip, ← each, Nat.min_self, named names rfl]
    refine ⟨Table.ofEntries entries, rfl, Table.get?_ofEntries entries, ?_, ?_⟩
    · rw [← long, Table.length_ofEntries, keys]
    · rw [← keys, ← Table.values_ofEntries]
      exact ⟨fun perm => perm.trans values.symm, fun perm => perm.trans values⟩

/-- Two of three values, in reverse, each under a key of its own. -/
theorem pack_collects_backward :
    let scope : Scope :=
      [("forward", .bool false), ("keys", .arr [.str "y", .str "x"]), ("n", .int 2)]
    let machine : Machine (World Unit) (Plug Empty) :=
      { stack := [.int 3, .str "b", .null], registry := Registry.builtins, world := { guest := () } }
    let left := { machine with stack := [.obj [("y", .str "b"), ("x", .int 3)], .null] }
    Packs scope ⟨some 2, false, some ["y", "x"]⟩ ∧
      Frame.root.dispatch (Standard.host Standard.noGuests) (fun frame machine => ⟨.ok (), frame, machine⟩)
        "pack" scope (.builtin .pack) machine = .next Frame.root.spent left ∧
      ∃ fields : Scope, left.stack = [.obj fields, .null] ∧ fields.length = 2 ∧
        fields.values.Perm [.int 3, .str "b"] := by
  intro scope machine left
  have reads : Packs scope ⟨some 2, false, some ["y", "x"]⟩ := rfl
  have accepted : Frame.root.dispatch (Standard.host Standard.noGuests)
      (fun frame machine => ⟨.ok (), frame, machine⟩) "pack" scope (.builtin .pack) machine =
        .next Frame.root.spent left :=
    pack_rewrites reads (by simp) (by decide) _ _ _ _ _ rfl
  obtain ⟨fields, packed, -, long, holds⟩ := (pack_collects reads accepted).2 ["y", "x"] rfl
  exact ⟨reads, accepted, fields, packed, long.mpr (by decide), holds.mpr (by decide)⟩

/-- Under a key that is given twice one value is kept. It is the last one, so that the old top is lost. -/
theorem pack_collects_repeated_key :
    let scope : Scope := [("n", .int 2), ("keys", .arr [.str "a", .str "a"])]
    let stack : List Value := [.int 2, .int 1]
    let fields : Scope := [("a", .int 1)]
    Packs scope ⟨some 2, true, some ["a", "a"]⟩ ∧ Builtin.pack.Rewrites scope stack [.obj fields] ∧
      fields.length ≠ 2 ∧ ¬ fields.values.Perm (stack.take 2) := by
  intro scope stack fields
  have reads : Packs scope ⟨some 2, true, some ["a", "a"]⟩ := rfl
  exact ⟨reads, pack_rewrites reads (by simp) (by decide), by decide,
    fun perm => absurd perm.length_eq (by decide)⟩

end

/-! ## What is unpacked -/

variable {fields : Scope} {keys : List String}

/-- Wherever it is run, with these parameters, the op fails as its parameters do not fit, and leaves another
stack and everything else as it was. -/
def Refuses (op : Builtin) (scope : Scope) (before : List Value) (fault : ParamFault) (after : List Value) :
    Prop :=
  ∀ ⦃ω π : Type⦄ (host : Host ω π) (callee : Frame → Machine ω π → Run ω π) (name : String)
    (frame : Frame) (machine : Machine ω π), machine.stack = before →
    frame.dispatch host callee name scope (.builtin op) machine =
      frame.stops (.invalidParams name fault) frame.spent { machine with stack := after }

theorem Refuses.not_rewrites {op : Builtin} {before after other : List Value} {fault : ParamFault}
    (refuses : op.Refuses scope before fault after) : ¬ op.Rewrites scope before other := by
  intro rewrites
  let machine : Machine (World Unit) (Plug Empty) :=
    { stack := before, registry := Registry.builtins, world := { guest := () } }
  have failed := refuses (Standard.host Standard.noGuests) (fun frame machine => ⟨.ok (), frame, machine⟩) ""
    .root machine rfl
  cases failed.symm.trans (rewrites _ _ _ _ machine rfl)

theorem unpack_refuses {fault : ParamFault} (reads : Unpacks scope (some keys))
    (taken : takeOut fields keys.reverse = .error fault) :
    Builtin.unpack.Refuses scope (.obj fields :: below) fault below := by
  intro ω π host callee name frame machine holds
  show frame.perform (Shuffle.unpack scope) name machine = _
  have opened : (Shuffle.unpack scope : Act ω π _).run.run ⟨machine, frame.spent, name⟩ = _ :=
    unpack_run reads holds
  rw [Frame.perform, opened, spread, taken, ← Frame.spent_fail rfl]
  rfl

/-- Unpacking by distinct keys replaces an object by what it holds under them, the first key's value on top,
or misses a key that is not in the object. If a key is asked for twice, it fails in any case: a key is
missed that is not there, or one that is asked for twice. -/
theorem unpack_finds (apart : fields.keys.Nodup) (reads : Unpacks scope (some keys)) :
    (keys.Nodup →
      ((∀ key ∈ keys, key ∈ fields.keys) → ∃ values, values.map some = keys.map fields.get? ∧
        Builtin.unpack.Rewrites scope (.obj fields :: below) (values ++ below)) ∧
      ((∃ key ∈ keys, key ∉ fields.keys) → ∃ key ∈ keys, key ∉ fields.keys ∧
        Builtin.unpack.Refuses scope (.obj fields :: below) (.absentKey key) below)) ∧
    (¬ keys.Nodup → ∃ key ∈ keys, (key ∉ fields.keys ∨ 2 ≤ keys.count key) ∧
      Builtin.unpack.Refuses scope (.obj fields :: below) (.absentKey key) below) := by
  -- The keys are met from the last one on, so that the first key's value is pushed last.
  have fails : ¬ Held fields keys.reverse → ∃ key ∈ keys, (key ∉ fields.keys ∨ 2 ≤ keys.count key) ∧
      Builtin.unpack.Refuses scope (.obj fields :: below) (.absentKey key) below := by
    intro missing
    obtain ⟨key, given, why, taken⟩ := takeOut_missing apart missing
    rw [List.mem_reverse] at given
    rw [List.count_reverse] at why
    exact ⟨key, given, why, unpack_refuses reads taken⟩
  refine ⟨fun distinct => ⟨fun present => ?_, fun ⟨absent, given, gone⟩ => ?_⟩, fun again => ?_⟩
  · have held : Held fields keys.reverse :=
      ⟨List.nodup_reverse.mpr distinct, fun key given => present key (List.mem_reverse.mp given)⟩
    obtain ⟨values, looked, taken⟩ := takeOut_held apart held
    refine ⟨values.reverse, ?_, unpack_keys reads taken⟩
    rw [List.map_reverse, looked, List.map_reverse, List.reverse_reverse]
  · obtain ⟨key, given, why, refuses⟩ :=
      fails fun held => gone (held.2 absent (List.mem_reverse.mpr given))
    have once : keys.count key ≤ 1 := List.nodup_iff_count_le_one.mp distinct key
    exact ⟨key, given, why.resolve_right (by omega), refuses⟩
  · exact fails fun held => again (List.nodup_reverse.mp held.1)

/-- The first entry is taken out first, and the last one moves into its place; it is found there. A key
that is not there is missed. -/
theorem unpack_finds_moved :
    let fields : Scope := [("x", .int 1), ("y", .int 2), ("z", .null)]
    let both : Scope := [("keys", .arr [.str "z", .str "x"])]
    let absent : Scope := [("keys", .arr [.str "q", .str "x"])]
    fields.keys.Nodup ∧ (Unpacks both (some ["z", "x"]) ∧ Unpacks absent (some ["q", "x"])) ∧
      Builtin.unpack.Rewrites both [.obj fields, .null] [.null, .int 1, .null] ∧
      ∃ key ∈ ["q", "x"], key ∉ fields.keys ∧
        Builtin.unpack.Refuses absent [.obj fields, .null] (.absentKey key) [.null] := by
  intro fields both absent
  have apart : fields.keys.Nodup := by decide
  have reads : Unpacks both (some ["z", "x"]) ∧ Unpacks absent (some ["q", "x"]) := ⟨rfl, rfl⟩
  obtain ⟨values, looked, found⟩ : ∃ values, values.map some = ["z", "x"].map fields.get? ∧
      Builtin.unpack.Rewrites both [.obj fields, .null] (values ++ [.null]) :=
    ((unpack_finds apart reads.1).1 (by decide)).1 (by decide)
  obtain rfl : values = [.null, .int 1] :=
    List.map_injective_iff.mpr (Option.some_injective Value) looked
  exact ⟨apart, reads, found,
    ((unpack_finds apart reads.2).1 (by decide)).2 ⟨"q", by decide, by decide⟩⟩

/-- A key that is asked for twice is missed the second time, though it is in the object. -/
theorem unpack_finds_repeated_key :
    let fields : Scope := [("x", .int 1)]
    let scope : Scope := [("keys", .arr [.str "x", .str "x"])]
    Unpacks scope (some ["x", "x"]) ∧ (∀ key ∈ ["x", "x"], key ∈ fields.keys) ∧
      Builtin.unpack.Refuses scope [.obj fields] (.absentKey "x") [] ∧
      ¬ Builtin.unpack.Rewrites scope [.obj fields] [.int 1, .int 1] := by
  intro fields scope
  have reads : Unpacks scope (some ["x", "x"]) := rfl
  have refuses : Builtin.unpack.Refuses scope [.obj fields] (.absentKey "x") [] :=
    unpack_refuses reads rfl
  exact ⟨reads, by decide, refuses, refuses.not_rewrites⟩

end Builtin

end DocMachine
