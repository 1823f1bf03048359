import Roster.Proofs.Text.Lines

/-! # Carriage returns

A text may end its lines with a carriage return and a line feed instead of a line
feed alone. Lines are cut at line feeds, so the return belongs to the line that it
ends; it is blank, so whatever looks at a trimmed line does not notice it.
-/
namespace Roster.Text

/-- The text with a carriage return in front of every line feed. -/
def withReturns (s : List Char) : List Char :=
  s.flatMap fun c => if c = '\n' then ['\r', '\n'] else [c]

@[simp]
theorem withReturns_nil : withReturns [] = [] := rfl

theorem withReturns_lineFeed (r : List Char) :
    withReturns ('\n' :: r) = '\r' :: '\n' :: withReturns r := rfl

theorem withReturns_cons {c : Char} (hc : c ≠ '\n') (r : List Char) :
    withReturns (c :: r) = c :: withReturns r := by
  rw [withReturns, List.flatMap_cons, if_neg hc]
  rfl

theorem withReturns_eq_nil_iff (s : List Char) : withReturns s = [] ↔ s = [] := by
  cases s with
  | nil => simp
  | cons c r =>
    by_cases hc : c = '\n'
    · simp [hc, withReturns_lineFeed]
    · simp [withReturns_cons hc]

/-- A text without line feeds is the only one to which it is turned. -/
theorem withReturns_eq_iff {s t : List Char} (ht : '\n' ∉ t) : withReturns s = t ↔ s = t := by
  induction s generalizing t with
  | nil => rw [withReturns_nil]
  | cons c r ih =>
    by_cases hc : c = '\n'
    · subst hc
      rw [withReturns_lineFeed]
      constructor <;> rintro rfl <;> simp at ht
    · rw [withReturns_cons hc]
      cases t with
      | nil => simp
      | cons d t =>
        obtain ⟨-, ht⟩ := List.ne_and_not_mem_of_not_mem_cons ht
        rw [List.cons.injEq, List.cons.injEq, ih ht]

theorem withReturns_flatten (ls : List (List Char)) :
    withReturns ls.flatten = (ls.map withReturns).flatten := by
  induction ls with
  | nil => rfl
  | cons l ls ih =>
    rw [List.flatten_cons, List.map_cons, List.flatten_cons, ← ih]
    exact List.flatMap_append

theorem lines_withReturns (s : List Char) :
    lines (withReturns s) = (lines s).map withReturns := by
  induction s with
  | nil => rfl
  | cons c r ih =>
    by_cases hc : c = '\n'
    · subst hc
      rw [withReturns_lineFeed, lines, if_neg (by decide), lines, if_pos rfl, lines, if_pos rfl, ih]
      rfl
    · rw [withReturns_cons hc, lines, lines, if_neg hc, if_neg hc, ih]
      cases lines r with
      | nil => simp [withReturns_cons hc]
      | cons l ls => simp [withReturns_cons hc]

theorem isAllBlank_withReturns (s : List Char) : isAllBlank (withReturns s) = isAllBlank s := by
  rw [isAllBlank, withReturns, List.all_flatMap, isAllBlank]
  congr 1
  funext c
  by_cases hc : c = '\n'
  · subst hc
    rfl
  · simp [hc]

theorem dropTrailing_cons (p : Char → Bool) (c : Char) (r : List Char) :
    dropTrailing p (c :: r) =
      if dropTrailing p r = [] ∧ p c = true then [] else c :: dropTrailing p r := by
  rw [dropTrailing]
  cases dropTrailing p r with
  | nil => by_cases hc : p c <;> simp [hc]
  | cons d t => simp

/-- Trimming takes a return away exactly if it takes away its line feed. -/
theorem trimEnd_withReturns (s : List Char) :
    trimEnd (withReturns s) = withReturns (trimEnd s) := by
  induction s with
  | nil => rfl
  | cons c r ih =>
    simp only [trimEnd] at ih ⊢
    by_cases hc : c = '\n'
    · subst hc
      have hreturn : isBlank '\r' = true := rfl
      have hfeed : isBlank '\n' = true := rfl
      rw [withReturns_lineFeed, dropTrailing_cons, dropTrailing_cons, dropTrailing_cons, ih]
      by_cases hr : dropTrailing isBlank r = []
      · simp [hr, hreturn, hfeed]
      · simp [hr, withReturns_eq_nil_iff, withReturns_lineFeed]
    · simp only [withReturns_cons hc, dropTrailing_cons, ih, withReturns_eq_nil_iff]
      split
      · rfl
      · rw [withReturns_cons hc]

end Roster.Text
