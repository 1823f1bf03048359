import Roster.CommandLine.Commands
import Roster.Proofs.Command.Plan
import Roster.Proofs.CommandLine.Selection
import Roster.Proofs.Json.Record
import Roster.Proofs.Registry.Listing

/-! # Parameters on the command line and in a plan

The assignments are put into a map one by one. What they leave for a command is the
map of the assignments to that command alone, and a planned command is checked
against exactly that.
-/
namespace Roster.CommandLine

namespace Assignment

/-- The parameters that the assignments to a command give it. -/
def givenTo (l : List Assignment) (c : String) : NameMap Json :=
  .ofList ((l.filter fun a => a.command = c).map fun a => (a.key, .string a.value))

variable (l : List Assignment) (c k : String)

theorem givenTo_of_not_mem (h : c ∉ l.map command) : givenTo l c = ∅ := by
  have hnone : (l.filter fun a => a.command = c) = [] := by
    rw [List.filter_eq_nil_iff]
    intro a ha hac
    exact h (List.mem_map.mpr ⟨a, ha, of_decide_eq_true hac⟩)
  rw [givenTo, hnone]
  rfl

theorem getD_givenTo :
    (if c ∈ l.map command then some (givenTo l c) else none).getD ∅ = givenTo l c := by
  split
  · rfl
  · next h => exact (givenTo_of_not_mem l c h).symm

theorem givenTo_append_singleton (a : Assignment) :
    givenTo (l ++ [a]) c =
      if a.command = c then (givenTo l c).insert a.key (.string a.value) else givenTo l c := by
  rw [givenTo, List.filter_append, List.map_append]
  by_cases h : a.command = c
  · rw [if_pos h, List.filter_cons_of_pos (by simpa using h)]
    exact NameMap.ofList_append_singleton _ _
  · rw [if_neg h, List.filter_cons_of_neg (by simpa using h)]
    exact congrArg NameMap.ofList (List.append_nil _)

theorem group_append_singleton (a : Assignment) :
    group (l ++ [a]) = (group l).insert a.command
      ((((group l).get? a.command).getD ∅).insert a.key (.string a.value)) := by
  rw [group, List.foldl_append]
  rfl

/-- The grouped map has the commands of the assignments, and at each of them what the assignments
to it give. -/
theorem get?_group :
    (group l).get? c = if c ∈ l.map command then some (givenTo l c) else none := by
  induction l using List.reverseRecOn with
  | nil => rfl
  | append_singleton l a ih =>
    rw [group_append_singleton, NameMap.get?_insert, givenTo_append_singleton]
    by_cases h : a.command = c
    · subst h
      rw [if_pos rfl, if_pos rfl, if_pos (by simp), ih, getD_givenTo]
    · have hmem : c ∈ (l ++ [a]).map command ↔ c ∈ l.map command := by
        simp [Ne.symm h]
      rw [if_neg h, if_neg h, ih]
      simp only [hmem]

theorem getD_get?_group : ((group l).get? c).getD ∅ = givenTo l c := by
  rw [get?_group, getD_givenTo]

variable {l} {l' : List Assignment}

end Assignment

section Plan

variable (patterns : PatternReader) (matcher : Matcher) (l : List Assignment) (cs : List Command)

/-- Each command of the list, as often as it is there, checked against what the assignments to it
give. -/
theorem plan_group :
    Command.plan patterns matcher cs (Assignment.group l) =
      ⟨cs.map fun c => ⟨c, c.checkParameters patterns matcher (Assignment.givenTo l c.name)⟩⟩ := by
  simp only [Command.plan, Assignment.getD_get?_group]

end Plan

end Roster.CommandLine
