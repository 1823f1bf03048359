import Roster.Command.Plan
import Roster.Proofs.Command.Parameters
import Mathlib.Algebra.Ring.Nat

/-! # Plans made of plans

What a plan says about its commands is put together from what it says about parts
of them. Each of its sums is one over lists of commands, with the plan of no
commands as its unit, and where the sum does not depend on the order of its terms,
it does not depend on the order of the commands.
-/
namespace Roster

namespace SecurityLevel

theorem rank_inj {a b : SecurityLevel} (h : a.rank = b.rank) : a = b := by
  cases a <;> cases b <;> first | rfl | cases h

theorem rank_max (a b : SecurityLevel) : (a.max b).rank = max a.rank b.rank := by
  rw [SecurityLevel.max]
  split
  · next h => exact (Nat.max_eq_right h).symm
  · next h => exact (Nat.max_eq_left (Nat.le_of_not_le h)).symm

theorem max_comm (a b : SecurityLevel) : a.max b = b.max a :=
  rank_inj (by rw [rank_max, rank_max, Nat.max_comm])

theorem max_assoc (a b c : SecurityLevel) : (a.max b).max c = a.max (b.max c) :=
  rank_inj (by simp only [rank_max, Nat.max_assoc])

theorem low_max (a : SecurityLevel) : low.max a = a :=
  rank_inj (by rw [rank_max]; exact Nat.zero_max _)

theorem foldl_max (a : SecurityLevel) (l : List SecurityLevel) :
    l.foldl SecurityLevel.max a = a.max (highest l) := by
  induction l generalizing a with
  | nil => rw [highest, List.foldl_nil, List.foldl_nil, max_comm, low_max]
  | cons b l ih => rw [highest, List.foldl_cons, List.foldl_cons, ih, ih, low_max, max_assoc]

theorem highest_append (l r : List SecurityLevel) :
    highest (l ++ r) = (highest l).max (highest r) := by
  rw [highest, List.foldl_append, foldl_max]
  rfl

end SecurityLevel

/-- A sum over lists whose terms may be exchanged does not depend on the order of a list. -/
theorem eq_of_perm_of_append {α β : Type} (sum : List α → β) (add : β → β → β)
    (happend : ∀ l r, sum (l ++ r) = add (sum l) (sum r)) (hcomm : ∀ b c, add b c = add c b)
    {l r : List α} (h : l.Perm r) : sum l = sum r := by
  induction h with
  | nil => rfl
  | cons a _ ih =>
    rw [← List.singleton_append, happend, ih, ← happend, List.singleton_append]
  | swap a b l =>
    have hpair : sum [b, a] = sum [a, b] := by
      rw [← List.singleton_append, happend, hcomm, ← happend, List.singleton_append]
    have hfront : ∀ x y, sum (x :: y :: l) = add (sum [x, y]) (sum l) := fun x y => happend [x, y] l
    rw [hfront, hfront, hpair]
  | trans _ _ ih ih' => exact ih.trans ih'

/-- Sums that stop at a bound stop at it in any grouping. -/
theorem foldl_min_add (bound n : Nat) (l : List Nat) :
    l.foldl (fun n t => min (n + t) bound) (min n bound) = min (n + l.sum) bound := by
  induction l generalizing n with
  | nil => rfl
  | cons t l ih =>
    have hstep : min (min n bound + t) bound = min (n + t) bound := by omega
    rw [List.foldl_cons, hstep, ih, List.sum_cons, Nat.add_assoc]

namespace Command

namespace Plan

/-- What the parts of a plan say, put together. -/
structure Combines (p q whole : Plan) : Prop where
  commands : whole.commands = p.commands ++ q.commands
  order : whole.order = p.order ++ q.order
  sandboxed : whole.sandboxed = p.sandboxed ++ q.sandboxed
  durationMs : whole.durationMs = min (p.durationMs + q.durationMs) longest
  level : whole.level = p.level.max q.level
  permissions : whole.permissions = p.permissions.union q.permissions
  isValid : whole.isValid = (p.isValid && q.isValid)

/-- What commands need, whatever the order in which they are run. -/
structure SameNeeds (p q : Plan) : Prop where
  durationMs : p.durationMs = q.durationMs
  level : p.level = q.level
  permissions : p.permissions = q.permissions
  isValid : p.isValid = q.isValid

theorem durationMs_eq (p : Plan) :
    p.durationMs =
      min (p.commands.map fun c => c.command.execution.timeoutMs).sum longest := by
  have hfold := foldl_min_add longest 0 (p.commands.map fun c => c.command.execution.timeoutMs)
  rwa [List.foldl_map, Nat.zero_min, Nat.zero_add] at hfold

theorem combines_append (l r : List Planned) : Combines ⟨l⟩ ⟨r⟩ ⟨l ++ r⟩ where
  commands := rfl
  order := List.map_append
  sandboxed := by simp only [sandboxed, List.filter_append, List.map_append]
  durationMs := by
    simp only [durationMs_eq, List.map_append, List.sum_append_nat]
    omega
  level := by rw [level, List.map_append, SecurityLevel.highest_append]; rfl
  permissions := by rw [permissions, List.flatMap_append, NameSet.ofNames_append]; rfl
  isValid := List.all_append

theorem sameNeeds_of_perm {l r : List Planned} (h : l.Perm r) : SameNeeds ⟨l⟩ ⟨r⟩ where
  durationMs := eq_of_perm_of_append (fun l => durationMs ⟨l⟩) (fun b c => min (b + c) longest)
    (fun l r => (combines_append l r).durationMs) (fun b c => by rw [Nat.add_comm]) h
  level := eq_of_perm_of_append (fun l => level ⟨l⟩) SecurityLevel.max
    (fun l r => (combines_append l r).level) SecurityLevel.max_comm h
  permissions := eq_of_perm_of_append (fun l => permissions ⟨l⟩) NameMap.union
    (fun l r => (combines_append l r).permissions) NameSet.union_comm h
  isValid := eq_of_perm_of_append (fun l => isValid ⟨l⟩) and
    (fun l r => (combines_append l r).isValid) Bool.and_comm h

end Plan

theorem plan_append (patterns : PatternReader) (matcher : Matcher) (xs ys : List Command)
    (given : NameMap (NameMap Json)) :
    plan patterns matcher (xs ++ ys) given =
      ⟨(plan patterns matcher xs given).commands ++ (plan patterns matcher ys given).commands⟩ :=
  congrArg Plan.mk List.map_append

/-- Planning goes part by part. The plan for two lists of commands combines their plans, the plan
for no commands is the unit of that, and what is needed does not depend on the order of the
commands. The duration is the sum of the times, up to the longest that is told apart. -/
theorem plan_combines_parts (patterns : PatternReader) (matcher : Matcher)
    (given : NameMap (NameMap Json)) :
    (∀ xs ys, Plan.Combines (plan patterns matcher xs given) (plan patterns matcher ys given)
        (plan patterns matcher (xs ++ ys) given)) ∧
      ((plan patterns matcher [] given).commands = [] ∧
        (plan patterns matcher [] given).durationMs = 0 ∧
        (plan patterns matcher [] given).level = .low ∧
        (∀ a : SecurityLevel, SecurityLevel.low.max a = a ∧ a.max .low = a) ∧
        (plan patterns matcher [] given).permissions = ∅ ∧
        (plan patterns matcher [] given).isValid = true) ∧
      (∀ xs ys : List Command, xs.Perm ys →
        Plan.SameNeeds (plan patterns matcher xs given) (plan patterns matcher ys given)) ∧
      ∀ xs : List Command, (plan patterns matcher xs given).durationMs =
        min (xs.map fun c => c.execution.timeoutMs).sum Plan.longest := by
  refine ⟨fun xs ys => ?_, ⟨rfl, rfl, rfl, fun a => ⟨?_, ?_⟩, rfl, rfl⟩, fun xs ys h => ?_,
    fun xs => ?_⟩
  · rw [plan_append]
    exact Plan.combines_append _ _
  · exact SecurityLevel.low_max a
  · rw [SecurityLevel.max_comm, SecurityLevel.low_max]
  · exact Plan.sameNeeds_of_perm (h.map _)
  · rw [Plan.durationMs_eq, plan, List.map_map]
    rfl

/-- The sample command with a name, a time and a level. -/
def sampleOf (name : String) (timeoutMs : Nat) (level : SecurityLevel) : Command :=
  { sample with name, execution.timeoutMs := timeoutMs, security.level := level }

theorem plan_of_samples_in_either_order :
    [sampleOf "deploy" Plan.longest .high, sampleOf "audit" 5 .critical].Perm
        [sampleOf "audit" 5 .critical, sampleOf "deploy" Plan.longest .high] ∧
      Plan.SameNeeds
        (plan samplePatterns sampleMatcher
          [sampleOf "deploy" Plan.longest .high, sampleOf "audit" 5 .critical] ∅)
        (plan samplePatterns sampleMatcher
          [sampleOf "audit" 5 .critical, sampleOf "deploy" Plan.longest .high] ∅) ∧
      (plan samplePatterns sampleMatcher
        [sampleOf "audit" 5 .critical, sampleOf "deploy" Plan.longest .high] ∅).durationMs =
          18446744073709551615 ∧
      (plan samplePatterns sampleMatcher
        [sampleOf "audit" 5 .critical, sampleOf "deploy" Plan.longest .high] ∅).level =
          .critical := by
  obtain ⟨hcombines, -, hperm, hduration⟩ := plan_combines_parts samplePatterns sampleMatcher ∅
  have hswap := List.Perm.swap (sampleOf "audit" 5 .critical)
    (sampleOf "deploy" Plan.longest .high) []
  refine ⟨hswap, hperm _ _ hswap, ?_, ?_⟩
  · rw [hduration]
    rfl
  · exact (hcombines [sampleOf "audit" 5 .critical] [sampleOf "deploy" Plan.longest .high]).level

end Command

end Roster
