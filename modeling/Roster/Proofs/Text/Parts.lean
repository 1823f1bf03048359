import Roster.Text.Lines
import Mathlib.Data.List.Basic

/-! # Laws of parts

A text is cut at the first place of a separator, or at all of its places. What stands
in front of the first place does not have the separator, and neither does any of the
parts between all of them. Putting the parts together again undoes the cut.
-/
namespace Roster.Text

variable {sep : Char} {s a : List Char}

theorem cutAt_append (h : sep ∉ a) (b : List Char) : cutAt sep (a ++ sep :: b) = some (a, b) := by
  induction a with
  | nil => rw [List.nil_append, cutAt, if_pos rfl]
  | cons c r ih =>
    obtain ⟨hc, hr⟩ := List.ne_and_not_mem_of_not_mem_cons h
    rw [List.cons_append, cutAt, if_neg hc.symm, ih hr]
    rfl

theorem cutAt_of_not_mem (h : sep ∉ s) : cutAt sep s = none := by
  induction s with
  | nil => rfl
  | cons c r ih =>
    obtain ⟨hc, hr⟩ := List.ne_and_not_mem_of_not_mem_cons h
    rw [cutAt, if_neg hc.symm, ih hr]
    rfl

/-- The parts between all places of a separator are those of the library. -/
theorem splitOn_eq (sep : Char) (s : List Char) : splitOn sep s = s.splitOn sep := by
  induction s with
  | nil => rfl
  | cons c r ih =>
    rw [splitOn, List.splitOn_cons_eq_if_modifyHead, ih]
    by_cases hc : c = sep
    · simp [hc]
    · cases hr : r.splitOn sep with
      | nil => exact absurd hr (List.splitOn_ne_nil sep r)
      | cons p ps => simp [hc]

theorem not_mem_of_mem_splitOn {p : List Char} (h : p ∈ splitOn sep s) : sep ∉ p := by
  induction s generalizing p with
  | nil =>
    rw [List.mem_singleton.mp h]
    exact List.not_mem_nil
  | cons c r ih =>
    rw [splitOn] at h
    split at h
    · rcases List.mem_cons.mp h with rfl | h
      · exact List.not_mem_nil
      · exact ih h
    · next hc =>
      have hc : sep ≠ c := Ne.symm hc
      split at h
      · rw [List.mem_singleton.mp h]
        exact List.not_mem_cons_of_ne_of_not_mem hc List.not_mem_nil
      · next q ps hr =>
        rw [hr] at ih
        rcases List.mem_cons.mp h with rfl | h
        · exact List.not_mem_cons_of_ne_of_not_mem hc (ih List.mem_cons_self)
        · exact ih (List.mem_cons_of_mem q h)

theorem joinWith_eq_intercalate (sep : String) (l : List String) :
    joinWith sep l = sep.intercalate l := by
  fun_induction joinWith sep l with
  | case1 => simp
  | case2 s => simp
  | case3 s t r ih => rw [ih, String.intercalate_cons_cons]

end Roster.Text
