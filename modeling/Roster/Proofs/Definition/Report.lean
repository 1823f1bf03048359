import Roster.Definition.Report

/-! # What a report says

A report is built by adding one message after the other. What it says is followed
message by message, together with the note of whether it is valid, which agrees
with the errors after every step.
-/
namespace Roster

namespace Issue

/-- An issue about a value without which a definition is not what its document says. -/
def IsEssential (essential : List String) (i : Issue) : Prop :=
  i.kind = .invalidValue ∧ i.field ∈ essential

instance (essential : List String) (i : Issue) : Decidable (i.IsEssential essential) :=
  inferInstanceAs (Decidable (_ ∧ _))

/-- The message about an issue. That of a field without meaning names the field itself. -/
def text (i : Issue) : String :=
  match i.kind with
  | .unknownField => i.message
  | .invalidValue => i.field ++ ": " ++ i.message

end Issue

namespace Report

/-- The errors and warnings of a report, which is valid if it has no errors. -/
structure Says (r : Report) (errors warnings : List String) : Prop where
  errors : r.errors = errors
  warnings : r.warnings = warnings
  valid : r.isValid = true ↔ r.errors = []

variable {r : Report} {errors warnings : List String}

theorem says_empty : empty.Says [] [] :=
  ⟨rfl, rfl, iff_of_true rfl rfl⟩

theorem eq_of_says_nothing (h : r.Says [] []) : r = ⟨true, [], []⟩ := by
  obtain ⟨valid, errors, warnings⟩ := r
  obtain ⟨rfl, rfl, hvalid⟩ := h
  have htrue : valid = true := hvalid.mpr rfl
  rw [htrue]

theorem Says.error (h : r.Says errors warnings) (message : String) :
    (r.error message).Says (errors ++ [message]) warnings := by
  refine ⟨congrArg (· ++ [message]) h.errors, h.warnings, ?_⟩
  simp [Report.error]

theorem Says.warning (h : r.Says errors warnings) (message : String) :
    (r.warning message).Says errors (warnings ++ [message]) :=
  ⟨h.errors, congrArg (· ++ [message]) h.warnings, h.valid⟩

theorem Says.foldl_error (h : r.Says errors warnings) (l : List String) :
    (l.foldl Report.error r).Says (errors ++ l) warnings := by
  induction l generalizing r errors with
  | nil => simpa using h
  | cons message l ih =>
    have hrest := ih (h.error message)
    rwa [List.append_assoc, List.singleton_append] at hrest

theorem Says.foldl_warning (h : r.Says errors warnings) (l : List String) :
    (l.foldl Report.warning r).Says errors (warnings ++ l) := by
  induction l generalizing r warnings with
  | nil => simpa using h
  | cons message l ih =>
    have hrest := ih (h.warning message)
    rwa [List.append_assoc, List.singleton_append] at hrest

variable {essential : List String}

theorem isEssential_eq (i : Issue) :
    isEssential essential i = decide (i.IsEssential essential) := by
  rw [Bool.eq_iff_iff, decide_eq_true_eq]
  simp [isEssential, Issue.IsEssential]

theorem named_eq_text {i : Issue} (h : i.IsEssential essential) : named i = i.text := by
  rw [named, Issue.text, h.1]

theorem Says.failEssential (h : r.Says errors warnings) (issues : List Issue)
    (essential : List String) :
    (r.failEssential issues essential).Says
      (errors ++ (issues.filter fun i => i.IsEssential essential).map Issue.text) warnings := by
  have hrun := h.foldl_error ((issues.filter fun i => i.IsEssential essential).map named)
  rw [List.foldl_map] at hrun
  have htext : (issues.filter fun i => i.IsEssential essential).map named =
      (issues.filter fun i => i.IsEssential essential).map Issue.text := by
    refine List.map_congr_left fun i hi => ?_
    have hessential : i.IsEssential essential := by simpa using (List.mem_filter.mp hi).2
    exact named_eq_text hessential
  rw [htext] at hrun
  rw [Report.failEssential, funext isEssential_eq]
  exact hrun

theorem Says.warnOthers (h : r.Says errors warnings) (issues : List Issue)
    (essential : List String) :
    (r.warnOthers issues essential).Says errors
      (warnings ++ (issues.filter fun i => ¬ i.IsEssential essential).map Issue.text) := by
  have hrun := h.foldl_warning ((issues.filter fun i => ¬ i.IsEssential essential).map Issue.text)
  rw [List.foldl_map] at hrun
  simp only [Report.warnOthers, isEssential_eq, ← decide_not]
  exact hrun

end Report

end Roster
