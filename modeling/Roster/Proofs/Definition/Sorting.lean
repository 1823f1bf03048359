import Mathlib.Data.String.Basic
import Roster.Definition.Sorting
import Roster.Proofs.StableOrder

/-! # Laws of sorting

Keys are compared by one property, in either direction, and then by name, always
in ascending order. This is a total preorder for each property and direction, so
sorting is the stable order of the keys: it loses nothing, keeps what it cannot
tell apart in its order, and for different names has one result.
-/
namespace Roster

namespace SortKey

/-- A key is below another in a property. -/
def Below : SortField → SortKey → SortKey → Prop
  | .name, a, b => a.name < b.name
  | .priority, a, b => a.priority < b.priority
  | .lastModified, a, b => a.lastModified.lt b.lastModified = true
  | .kind, a, b => a.kind < b.kind

/-- Two keys have one and the same property. -/
def Same : SortField → SortKey → SortKey → Prop
  | .name, a, b => a.name = b.name
  | .priority, a, b => a.priority = b.priority
  | .lastModified, a, b => a.lastModified = b.lastModified
  | .kind, a, b => a.kind = b.kind

/-- A key comes before another by a property, in some direction. -/
def Before (field : SortField) : SortOrder → SortKey → SortKey → Prop
  | .ascending, a, b => Below field a b
  | .descending, a, b => Below field b a

/-- A key may stand in front of another: it comes before that by the property, or both have the
same property and its name is not behind the other. -/
def Precedes (field : SortField) (order : SortOrder) (a b : SortKey) : Prop :=
  Before field order a b ∨ Same field a b ∧ a.name ≤ b.name

/-- Two keys have the same property and the same name. -/
def Ties (field : SortField) (a b : SortKey) : Prop :=
  Same field a b ∧ a.name = b.name

instance (field : SortField) (a b : SortKey) : Decidable (Same field a b) :=
  match field with
  | .name => inferInstanceAs (Decidable (a.name = b.name))
  | .priority => inferInstanceAs (Decidable (a.priority = b.priority))
  | .lastModified => inferInstanceAs (Decidable (a.lastModified = b.lastModified))
  | .kind => inferInstanceAs (Decidable (a.kind = b.kind))

instance (field : SortField) (a b : SortKey) : Decidable (Ties field a b) :=
  inferInstanceAs (Decidable (_ ∧ _))

variable {field : SortField} {order : SortOrder} {a b : SortKey}

theorem compareBy_eq_lt_iff : compareBy field a b = .lt ↔ Below field a b := by
  cases field with
  | name => exact compare_lt_iff_lt
  | priority => exact compare_lt_iff_lt
  | kind => exact compare_lt_iff_lt
  | lastModified =>
    simp only [compareBy, Below, Timestamp.lt, Ordering.then_eq_lt, compare_lt_iff_lt,
      compare_eq_iff_eq, Bool.or_eq_true, Bool.and_eq_true, decide_eq_true_eq, beq_iff_eq]

theorem compareBy_eq_eq_iff : compareBy field a b = .eq ↔ Same field a b := by
  cases field with
  | name => exact compare_eq_iff_eq
  | priority => exact compare_eq_iff_eq
  | kind => exact compare_eq_iff_eq
  | lastModified =>
    simp only [compareBy, Same, Ordering.then_eq_eq, compare_eq_iff_eq]
    generalize a.lastModified = t, b.lastModified = u
    cases t
    cases u
    simp

instance : Std.TransCmp (compareBy field) :=
  match field with
  | .name => inferInstanceAs (Std.TransCmp (compareOn SortKey.name))
  | .priority => inferInstanceAs (Std.TransCmp (compareOn SortKey.priority))
  | .kind => inferInstanceAs (Std.TransCmp (compareOn SortKey.kind))
  | .lastModified =>
    inferInstanceAs (Std.TransCmp (compareLex
      (compareOn fun k : SortKey => k.lastModified.seconds)
      (compareOn fun k : SortKey => k.lastModified.nanos)))

theorem direct_descending :
    SortOrder.descending.direct (compareBy field a b) = compareBy field b a :=
  Std.OrientedCmp.eq_swap.symm

theorem direct_eq_lt_iff : order.direct (compareBy field a b) = .lt ↔ Before field order a b := by
  cases order with
  | ascending => exact compareBy_eq_lt_iff
  | descending =>
    rw [direct_descending]
    exact compareBy_eq_lt_iff

theorem direct_eq_eq_iff : order.direct (compareBy field a b) = .eq ↔ Same field a b := by
  cases order with
  | ascending => exact compareBy_eq_eq_iff
  | descending =>
    rw [direct_descending, Std.OrientedCmp.eq_comm]
    exact compareBy_eq_eq_iff

instance : Std.TransCmp fun a b : SortKey => order.direct (compareBy field a b) :=
  match order with
  | .ascending => inferInstanceAs (Std.TransCmp (compareBy field))
  | .descending => by
    simp only [direct_descending]
    exact Std.TransCmp.opposite

/-- The direction changes the first part of the comparison only, and the whole stays a total
preorder. -/
instance : Std.TransCmp (compare field order) :=
  inferInstanceAs (Std.TransCmp (compareLex
    (fun a b : SortKey => order.direct (compareBy field a b)) (compareOn SortKey.name)))

theorem isLE_compare_iff : (compare field order a b).isLE ↔ Precedes field order a b := by
  rw [compare, Ordering.isLE_then_iff_or, direct_eq_lt_iff, direct_eq_eq_iff,
    Std.LawfulBCmp.isLE_iff_le]
  rfl

theorem compare_eq_eq_iff : compare field order a b = .eq ↔ Ties field a b := by
  rw [compare, Ordering.then_eq_eq, direct_eq_eq_iff, compare_eq_iff_eq]
  rfl

end SortKey

section Sorting

variable {α : Type} (key : α → SortKey) (field : SortField) (order : SortOrder)

theorem stableOrder_sortBy (l : List α) :
    StableOrder key (SortKey.compare field order) l (sortBy key field order l) :=
  StableOrder.mergeSort key (SortKey.compare field order) l

theorem sortBy_eq_self {l : List α}
    (h : l.Pairwise fun a b => (SortKey.compare field order (key a) (key b)).isLE) :
    sortBy key field order l = l :=
  List.mergeSort_of_pairwise h

/-- Items of different names have one order, in whatever order they come. -/
theorem sortBy_eq_of_perm {l l' : List α} (names : (l.map fun a => (key a).name).Nodup)
    (perm : l'.Perm l) : sortBy key field order l' = sortBy key field order l := by
  have hdistinct : l.Pairwise fun a b => SortKey.compare field order (key a) (key b) ≠ .eq := by
    refine (List.pairwise_map.mp names).imp fun hne heq => ?_
    exact hne (SortKey.compare_eq_eq_iff.mp heq).2
  exact (stableOrder_sortBy key field order l').unique
    ((stableOrder_sortBy key field order l).of_perm perm.symm hdistinct)

/-- Sorting rearranges a list so that each item may stand in front of those behind it. Items with
the same property and the same name stay in their order. A sorted list stays as it is, and for
different names the order of the list does not matter. -/
theorem sortBy_is_stable_and_canonical (l : List α) :
    (sortBy key field order l).Perm l ∧
      ((sortBy key field order l).Pairwise fun a b =>
        SortKey.Precedes field order (key a) (key b)) ∧
      (∀ k, ((sortBy key field order l).filter fun a => SortKey.Ties field k (key a)) =
        l.filter fun a => SortKey.Ties field k (key a)) ∧
      sortBy key field order (sortBy key field order l) = sortBy key field order l ∧
      ((l.map fun a => (key a).name).Nodup →
        ∀ l', l'.Perm l → sortBy key field order l' = sortBy key field order l) := by
  have h := stableOrder_sortBy key field order l
  refine ⟨h.perm, h.ascending.imp SortKey.isLE_compare_iff.mp, ?_,
    sortBy_eq_self key field order h.ascending, ?_⟩
  · intro k
    simpa only [SortKey.compare_eq_eq_iff] using h.stable k
  · intro hnames l' hperm
    exact sortBy_eq_of_perm key field order hnames hperm

end Sorting

def SortKey.ranked (name : String) (priority : Int) : SortKey :=
  ⟨name, priority, .epoch, "custom"⟩

/-- Keys of equal priority are sorted by name in both directions, in whatever order they come. -/
theorem sortBy_of_ranked :
    ([SortKey.ranked "a" 2, .ranked "b" 1, .ranked "c" 1].map SortKey.name).Nodup ∧
      sortBy id .priority .descending [.ranked "c" 1, .ranked "a" 2, .ranked "b" 1] =
        [.ranked "a" 2, .ranked "b" 1, .ranked "c" 1] ∧
      sortBy id .priority .ascending [.ranked "c" 1, .ranked "a" 2, .ranked "b" 1] =
        [.ranked "b" 1, .ranked "c" 1, .ranked "a" 2] := by
  have hnames : ([SortKey.ranked "a" 2, .ranked "b" 1, .ranked "c" 1].map SortKey.name).Nodup := by
    decide
  have hrotated : ([SortKey.ranked "b" 1, .ranked "c" 1, .ranked "a" 2].map
      SortKey.name).Nodup := by decide
  have hfalling := sortBy_eq_self id .priority .descending
    (show [SortKey.ranked "a" 2, .ranked "b" 1, .ranked "c" 1].Pairwise _ by decide +kernel)
  have hrising := sortBy_eq_self id .priority .ascending
    (show [SortKey.ranked "b" 1, .ranked "c" 1, .ranked "a" 2].Pairwise _ by decide +kernel)
  obtain ⟨-, -, -, -, hdown⟩ := sortBy_is_stable_and_canonical id .priority .descending
    [SortKey.ranked "a" 2, .ranked "b" 1, .ranked "c" 1]
  obtain ⟨-, -, -, -, hup⟩ := sortBy_is_stable_and_canonical id .priority .ascending
    [SortKey.ranked "b" 1, .ranked "c" 1, .ranked "a" 2]
  refine ⟨hnames, (hdown hnames _ ?_).trans hfalling, (hup hrotated _ ?_).trans hrising⟩
  · exact (List.perm_append_singleton _ [SortKey.ranked "a" 2, .ranked "b" 1]).symm
  · exact List.perm_append_singleton _ [SortKey.ranked "c" 1, .ranked "a" 2]

end Roster
