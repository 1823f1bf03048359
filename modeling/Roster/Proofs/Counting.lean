import Mathlib.Data.List.Basic

/-! # Counting by kinds

Elements that are each of one kind are as many as those of all kinds together.
What is noted about elements is counted by the elements that it is about.
-/
namespace Roster

variable {α β : Type} {xs : List α}

/-- If each element is of exactly one of three kinds, the numbers of these add up. -/
theorem length_eq_countP_add {p q r : α → Bool}
    (h : ∀ x ∈ xs, (if p x then 1 else 0) + (if q x then 1 else 0) + (if r x then 1 else 0) = 1) :
    xs.length = xs.countP p + xs.countP q + xs.countP r := by
  induction xs with
  | nil => rfl
  | cons x xs ih =>
    obtain ⟨hx, hxs⟩ := List.forall_mem_cons.mp h
    rw [List.length_cons, List.countP_cons, List.countP_cons, List.countP_cons, ih hxs]
    omega

/-- Notes of a kind that only elements of a kind have, one each, are as many as these. -/
theorem countP_flatMap_eq {f : α → List β} {p : β → Bool} {q : α → Bool}
    (h : ∀ x ∈ xs, (f x).countP p = if q x then 1 else 0) :
    (xs.flatMap f).countP p = xs.countP q := by
  induction xs with
  | nil => rfl
  | cons x xs ih =>
    obtain ⟨hx, hxs⟩ := List.forall_mem_cons.mp h
    rw [List.flatMap_cons, List.countP_append, hx, ih hxs, List.countP_cons, Nat.add_comm]

end Roster
