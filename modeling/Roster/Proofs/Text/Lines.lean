import Roster.Text.Blank
import Roster.Text.Lines
import Mathlib.Data.List.DropRight

/-! # Laws of lines and of trimming

A text that is put together at the end of a line has the lines of its parts. A
line feed behind a text ends its last line, if that has no line feed yet, and
leaves the others as they are. Trimming looks at nothing but blank characters.
-/
namespace Roster.Text

/-- Behind a line feed the lines start anew. -/
theorem lines_append_lineFeed (a b : List Char) :
    lines (a ++ '\n' :: b) = lines (a ++ ['\n']) ++ lines b := by
  induction a with
  | nil => rfl
  | cons c r ih =>
    rw [List.cons_append, List.cons_append, lines, lines]
    by_cases hc : c = '\n'
    · rw [if_pos hc, if_pos hc, ih, List.cons_append]
    · rw [if_neg hc, if_neg hc, ih]
      cases hr : lines (r ++ ['\n']) with
      | nil => simp [lines_eq_nil_iff] at hr
      | cons l ls => rfl

/-- A line feed behind a text without one at its end belongs to the last line. -/
theorem lines_append_of_unended {s : List Char} (hne : s ≠ []) (hlast : s.getLast? ≠ some '\n') :
    ∃ before last, lines s = before ++ [last] ∧
      lines (s ++ ['\n']) = before ++ [last ++ ['\n']] := by
  induction s with
  | nil => exact absurd rfl hne
  | cons c r ih =>
    cases r with
    | nil =>
      have hc : c ≠ '\n' := by simpa using hlast
      exact ⟨[], [c], by simp [lines, hc], by simp [lines, hc]⟩
    | cons d t =>
      obtain ⟨before, last, hlines, hfed⟩ := ih (List.cons_ne_nil d t) (by simpa using hlast)
      rw [List.cons_append, lines, hlines, lines, hfed]
      by_cases hc : c = '\n'
      · exact ⟨[c] :: before, last, by simp [hc], by simp [hc]⟩
      · rw [if_neg hc, if_neg hc]
        cases before with
        | nil => exact ⟨[], c :: last, rfl, rfl⟩
        | cons l ls => exact ⟨(c :: l) :: ls, last, rfl, rfl⟩

/-- Trimming does not look at what it takes away. -/
theorem dropTrailing_append {p : Char → Bool} {t : List Char} (h : ∀ c ∈ t, p c = true)
    (s : List Char) : dropTrailing p (s ++ t) = dropTrailing p s := by
  induction s with
  | nil => exact (dropTrailing_eq_nil_iff p t).mpr h
  | cons c r ih => rw [List.cons_append, dropTrailing, ih, dropTrailing]

theorem dropTrailing_eq_self {p : Char → Bool} {s : List Char}
    (h : ∀ c, s.getLast? = some c → p c = false) : dropTrailing p s = s := by
  induction s with
  | nil => rfl
  | cons c r ih =>
    cases r with
    | nil => simp [dropTrailing, h c rfl]
    | cons d t => rw [dropTrailing, ih (by simpa using h)]

theorem trim_eq_self_of_ends {s : List Char}
    (hstart : ∀ c, s.head? = some c → isBlank c = false)
    (hfinish : ∀ c, s.getLast? = some c → isBlank c = false) : trim s = s := by
  have htrim : trimStart s = s := by
    cases s with
    | nil => rfl
    | cons c r => rw [trimStart_cons, if_neg (by simp [hstart c rfl])]
  rw [trim, htrim, trimEnd, dropTrailing_eq_self hfinish]

theorem trim_eq_self {s : List Char} (h : ∀ c ∈ s, isBlank c = false) : trim s = s :=
  trim_eq_self_of_ends (fun c hc => h c (List.mem_of_head? hc))
    fun c hc => h c (List.mem_of_getLast? hc)

theorem getLast?_dropTrailing {p : Char → Bool} {s : List Char} {c : Char}
    (h : (dropTrailing p s).getLast? = some c) : p c = false := by
  induction s with
  | nil => cases h
  | cons d r ih =>
    rw [dropTrailing] at h
    cases hr : dropTrailing p r with
    | nil =>
      rw [hr] at h
      cases hd : p d with
      | true => simp [hd] at h
      | false =>
        have hdc : d = c := by simpa [hd] using h
        exact hdc ▸ hd
    | cons e t =>
      rw [hr] at h ih
      rw [List.getLast?_cons_cons] at h
      exact ih h

theorem dropTrailing_idem (p : Char → Bool) (s : List Char) :
    dropTrailing p (dropTrailing p s) = dropTrailing p s :=
  dropTrailing_eq_self fun _ => getLast?_dropTrailing

/-- The first character that is not taken away stays the first. -/
theorem trimStart_trimEnd {s : List Char} (h : trimStart s = s) :
    trimStart (trimEnd s) = trimEnd s := by
  cases s with
  | nil => rfl
  | cons c r =>
    have hc : isBlank c = false := by simpa using List.dropWhile_eq_self_iff.mp h
    rw [trimEnd, dropTrailing]
    cases dropTrailing isBlank r with
    | nil => simp [trimStart_cons, hc]
    | cons d t => simp [trimStart_cons, hc]

theorem trimStart_trim (s : List Char) : trimStart (trim s) = trim s :=
  trimStart_trimEnd (List.dropWhile_idempotent isBlank s)

theorem trim_trim (s : List Char) : trim (trim s) = trim s := by
  rw [trim, trimStart_trim]
  exact dropTrailing_idem ..

theorem isBlank_of_head?_trim {s : List Char} {c : Char} (h : (trim s).head? = some c) :
    isBlank c = false := by
  have hstart := trimStart_trim s
  cases ht : trim s with
  | nil =>
    rw [ht] at h
    cases h
  | cons d r =>
    rw [ht] at h hstart
    cases h
    simpa using List.dropWhile_eq_self_iff.mp hstart

theorem dropTrailing_sublist (p : Char → Bool) (s : List Char) :
    (dropTrailing p s).Sublist s := by
  induction s with
  | nil => exact .slnil
  | cons c r ih =>
    rw [dropTrailing]
    cases hr : dropTrailing p r with
    | nil =>
      dsimp only
      split
      · exact List.nil_sublist _
      · exact List.Sublist.cons_cons c (List.nil_sublist r)
    | cons d t =>
      rw [hr] at ih
      exact List.Sublist.cons_cons c ih

theorem mem_of_mem_trim {s : List Char} {c : Char} (h : c ∈ trim s) : c ∈ s :=
  (List.dropWhile_sublist isBlank).mem ((dropTrailing_sublist isBlank _).mem h)

@[simp]
theorem trimmed_trimmed (s : String) : trimmed (trimmed s) = trimmed s := by
  simp [trimmed, trim_trim]

theorem isAllBlank_eq_false_of_trimmed {s : String} (hne : s ≠ "") (h : trimmed s = s) :
    isAllBlank s.toList = false := by
  rw [Bool.eq_false_iff]
  intro hblank
  have hstart : trimStart s.toList = [] := by
    rw [trimStart, List.dropWhile_eq_nil_iff]
    exact List.all_eq_true.mp hblank
  rw [trimmed, trim, hstart] at h
  exact hne h.symm

theorem trimEnd_append_lineFeed (s : List Char) : trimEnd (s ++ ['\n']) = trimEnd s :=
  dropTrailing_append (List.forall_mem_singleton.mpr rfl) s

end Roster.Text
