import Mathlib.Data.List.TakeDrop

/-!
# Reading up to a mark

Readers take characters as long as they are of one kind. So they read off a part that is of the kind, up
to a rest that begins with something else.

Results:
1. `span_append` and `span_all`: the part that is read off, with and without a rest.
2. `span_append_mark` and `span_free`: the part before a mark, and a part without it.
-/

namespace DocMachine

variable {α : Type} {p : α → Bool} {inside rest : List α}

theorem span_append (all : ∀ a ∈ inside, p a = true) (stops : ∀ a ∈ rest.head?, p a = false) :
    (inside ++ rest).span p = (inside, rest) := by
  have none : rest.takeWhile p = [] ∧ rest.dropWhile p = rest := by
    cases rest with
    | nil => exact ⟨rfl, rfl⟩
    | cons a rest => simp [stops a rfl]
  rw [List.span_eq_takeWhile_dropWhile, List.takeWhile_append_of_pos all,
    List.dropWhile_append_of_pos all, none.1, none.2, List.append_nil]

theorem span_all (all : ∀ a ∈ inside, p a = true) : inside.span p = (inside, []) := by
  have ends : ∀ a ∈ ([] : List α).head?, p a = false := nofun
  rw [← span_append all ends, List.append_nil]

section

variable [DecidableEq α] {mark : α}

theorem span_append_mark (free : mark ∉ inside) :
    (inside ++ mark :: rest).span (· ≠ mark) = (inside, mark :: rest) :=
  span_append (fun _ among => decide_eq_true fun same => free (same ▸ among)) (by simp)

theorem span_free (free : mark ∉ inside) : inside.span (· ≠ mark) = (inside, []) :=
  span_all fun _ among => decide_eq_true fun same => free (same ▸ among)

theorem takeWhile_append_mark (free : mark ∉ inside) :
    (inside ++ mark :: rest).takeWhile (· ≠ mark) = inside := by
  have read : (inside ++ mark :: rest).span (· ≠ mark) = (inside, mark :: rest) := span_append_mark free
  rw [List.span_eq_takeWhile_dropWhile] at read
  exact congrArg Prod.fst read

theorem takeWhile_append_free (free : mark ∉ inside) (rest : List α) :
    (inside ++ rest).takeWhile (· ≠ mark) = inside ++ rest.takeWhile (· ≠ mark) :=
  List.takeWhile_append_of_pos fun _ among => decide_eq_true fun same => free (same ▸ among)

end

end DocMachine
