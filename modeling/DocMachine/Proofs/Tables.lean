import DocMachine.Registry

/-!
# Tables

What a table holds after it was written to.

* `Table.get?_insert`: writing changes the entry of one key.
* `Table.get?_extend`: of two tables, the overlay wins. Where it repeats a key, its last entry
  counts.
* `Table.get?_erase`: erasing removes one key, in a table that has no key twice. Writing and erasing
  keep tables so.
* `Registry.op_withProcedure`: registering a procedure changes what one name stands for.
-/

namespace DocMachine

namespace Table

variable {κ α : Type} [DecidableEq κ]

theorem get?_insert (table : Table κ α) (key other : κ) (value : α) :
    (table.insert key value).get? other = if key = other then some value else table.get? other := by
  induction table with
  | nil => rfl
  | cons entry rest ih =>
    obtain ⟨first, old⟩ := entry
    unfold insert
    split
    · next same =>
      subst same
      simp only [get?]
      split <;> rfl
    · next differs =>
      simp only [get?, ih]
      split
      · next found =>
        subst found
        rw [if_neg (Ne.symm differs)]
      · rfl

theorem get?_append (table other : Table κ α) (key : κ) :
    (table ++ other).get? key = (table.get? key).or (other.get? key) := by
  induction table with
  | nil => rfl
  | cons entry rest ih =>
    obtain ⟨first, value⟩ := entry
    show get? ((first, value) :: (rest ++ other)) key = _
    simp only [get?]
    split
    · rfl
    · exact ih

theorem get?_extend (table overlay : Table κ α) (key : κ) :
    (table.extend overlay).get? key = (get? overlay.reverse key).or (table.get? key) := by
  induction overlay generalizing table with
  | nil => rfl
  | cons entry rest ih =>
    obtain ⟨first, value⟩ := entry
    have extended : (table.insert first value).extend rest =
        table.extend ((first, value) :: rest) := rfl
    rw [← extended, ih, get?_insert, List.reverse_cons, get?_append, Option.or_assoc]
    congr 1
    simp only [get?]
    split <;> rfl

/-! ## Tables without duplicates -/

theorem get?_eq_none (table : Table κ α) (key : κ) : table.get? key = none ↔ key ∉ table.keys := by
  induction table with
  | nil => simp [get?, keys]
  | cons entry rest ih =>
    obtain ⟨first, value⟩ := entry
    by_cases same : first = key
    · simp [get?, keys, same]
    · simp only [get?, if_neg same, ih, keys, List.map_cons, List.mem_cons, not_or]
      exact ⟨fun absent => ⟨Ne.symm same, absent⟩, fun absent => absent.2⟩

theorem mem_keys (table : Table κ α) (key : κ) : key ∈ table.keys ↔ table.get? key ≠ none := by
  rw [Ne, get?_eq_none, Decidable.not_not]

theorem mem_keys_insert (table : Table κ α) (key other : κ) (value : α) :
    other ∈ (table.insert key value).keys ↔ other = key ∨ other ∈ table.keys := by
  rw [mem_keys, mem_keys, get?_insert]
  by_cases same : key = other
  · simp [same]
  · simp [same, Ne.symm same]

theorem nodup_insert {table : Table κ α} (apart : table.keys.Nodup) (key : κ) (value : α) :
    (table.insert key value).keys.Nodup := by
  induction table with
  | nil => simp [insert, keys]
  | cons entry rest ih =>
    obtain ⟨first, old⟩ := entry
    obtain ⟨fresh, apart⟩ := List.nodup_cons.mp apart
    unfold insert
    split
    · exact List.nodup_cons.mpr ⟨fresh, apart⟩
    · next differs =>
      refine List.nodup_cons.mpr ⟨fun listed => ?_, ih apart⟩
      rcases (mem_keys_insert rest key first value).mp listed with same | listed
      · exact differs same
      · exact fresh listed

theorem nodup_extend {table : Table κ α} (apart : table.keys.Nodup) (overlay : Table κ α) :
    (table.extend overlay).keys.Nodup := by
  induction overlay generalizing table with
  | nil => exact apart
  | cons entry rest ih => exact ih (nodup_insert apart entry.1 entry.2)

theorem insert_fresh {table : Table κ α} {key : κ} (fresh : key ∉ table.keys) (value : α) :
    table.insert key value = table ++ [(key, value)] := by
  induction table with
  | nil => rfl
  | cons entry rest ih =>
    obtain ⟨first, held⟩ := entry
    simp only [keys, List.map_cons, List.mem_cons, not_or] at fresh
    rw [insert, if_neg fun same => fresh.1 same.symm, ih fresh.2]
    rfl

/-- Entries under fresh keys come after the others, in their order. -/
theorem extend_fresh {table overlay : Table κ α} (apart : (keys (table ++ overlay)).Nodup) :
    table.extend overlay = table ++ overlay := by
  induction overlay generalizing table with
  | nil => exact (List.append_nil table).symm
  | cons entry rest ih =>
    obtain ⟨key, value⟩ := entry
    have fresh : key ∉ table.keys := by
      intro held
      rw [keys, List.map_append] at apart
      exact (List.nodup_append.mp apart).2.2 key held key List.mem_cons_self rfl
    have grown : table ++ (key, value) :: rest = (table ++ [(key, value)]) ++ rest := by
      rw [List.append_assoc, List.singleton_append]
    rw [grown] at apart ⊢
    rw [← ih apart, ← insert_fresh fresh value]
    rfl

/-- Entries under distinct keys are a table as they stand. -/
theorem ofEntries_eq {entries : Table κ α} (apart : entries.keys.Nodup) :
    ofEntries entries = entries :=
  extend_fresh apart

/-- The last entry of a table may as well come first, if no key is there twice. -/
theorem get?_rotate {table : Table κ α} {last : κ × α} (apart : (keys (table ++ [last])).Nodup)
    (key : κ) : get? (last :: table) key = get? (table ++ [last]) key := by
  obtain ⟨final, value⟩ := last
  rw [get?_append]
  by_cases same : final = key
  · subst same
    have absent : table.get? final = none := by
      rw [get?_eq_none]
      intro listed
      rw [keys, List.map_append] at apart
      exact (List.nodup_append.mp apart).2.2 final listed final (by simp) rfl
    simp [get?, absent]
  · simp [get?, same]

theorem erase_first (key : κ) (value : α) (before : Table κ α) (last : κ × α) :
    erase ((key, value) :: (before ++ [last])) key = last :: before := by
  simp [erase]

/-- Erasing removes one key, if none is there twice. -/
theorem get?_erase {table : Table κ α} (apart : table.keys.Nodup) (key other : κ) :
    (table.erase key).get? other = if key = other then none else table.get? other := by
  induction table with
  | nil => simp [erase, get?]
  | cons entry rest ih =>
    obtain ⟨first, value⟩ := entry
    obtain ⟨fresh, apart⟩ := List.nodup_cons.mp apart
    by_cases found : first = key
    · subst found
      have moved : get? (erase ((first, value) :: rest) first) other = get? rest other := by
        rcases List.eq_nil_or_concat rest with rfl | ⟨before, last, rfl⟩
        · simp [erase]
        · rw [List.concat_eq_append] at apart ⊢
          rw [erase_first, get?_rotate apart]
      rw [moved]
      by_cases same : first = other
      · subst same
        rw [if_pos rfl]
        exact (get?_eq_none rest first).mpr fresh
      · simp [get?, same]
    · simp only [erase, if_neg found, get?, ih apart]
      by_cases same : first = other
      · subst same
        rw [if_pos rfl, if_neg (Ne.symm found), if_pos rfl]
      · rw [if_neg same, if_neg same]

theorem nodup_erase {table : Table κ α} (apart : table.keys.Nodup) (key : κ) :
    (table.erase key).keys.Nodup := by
  induction table with
  | nil => exact apart
  | cons entry rest ih =>
    obtain ⟨first, value⟩ := entry
    obtain ⟨fresh, apart⟩ := List.nodup_cons.mp apart
    by_cases found : first = key
    · subst found
      rcases List.eq_nil_or_concat rest with rfl | ⟨before, last, rfl⟩
      · simp [erase, keys]
      · rw [List.concat_eq_append] at apart ⊢
        rw [erase_first]
        exact ((List.perm_append_singleton last before).map Prod.fst).nodup_iff.mp apart
    · rw [erase, if_neg found]
      refine List.nodup_cons.mpr ⟨fun listed => ?_, ih apart⟩
      have gone : get? (erase rest key) first = none := by
        rw [get?_erase apart]
        split
        · rfl
        · exact (get?_eq_none rest first).mpr fresh
      exact (get?_eq_none _ first).mp gone listed

end Table

/-- Registering a procedure changes what one name stands for. -/
theorem Registry.op_withProcedure {π : Type} (registry : Registry π) (name other : String)
    (procedure : Procedure) :
    (registry.withProcedure name procedure).op other =
      if name = other then .ok (.procedure procedure) else registry.op other := by
  unfold op withProcedure
  rw [Table.get?_insert]
  by_cases same : name = other
  · rw [if_pos same, if_pos same]
  · rw [if_neg same, if_neg same]

end DocMachine
