import Mathlib.Data.List.Pairwise

/-! # Stable orders

Items are put in the order of their keys, and those with equal keys stay in the
order in which they are listed. This determines the result, so that where no two
keys are equal the order of the listing does not matter.
-/
namespace Roster

/-- The items of `l` in ascending order of their keys, those of equal keys as `l` has them. -/
structure StableOrder {α κ : Type} (key : α → κ) (cmp : κ → κ → Ordering) (l r : List α) :
    Prop where
  perm : r.Perm l
  ascending : r.Pairwise fun a b => (cmp (key a) (key b)).isLE
  stable : ∀ k, (r.filter fun a => cmp k (key a) = .eq) = l.filter fun a => cmp k (key a) = .eq

namespace StableOrder

variable {α κ : Type} {key : α → κ} {cmp : κ → κ → Ordering} [Std.TransCmp cmp]

/-- What comes first in an ascending list is not behind any item of it. -/
theorem isLE_of_mem {a b : α} {l : List α}
    (h : (a :: l).Pairwise fun a b => (cmp (key a) (key b)).isLE) (hb : b ∈ a :: l) :
    (cmp (key a) (key b)).isLE := by
  rcases List.mem_cons.mp hb with rfl | hb
  · have hself : cmp (key b) (key b) = .eq := Std.ReflCmp.compare_self
    rw [hself]
    rfl
  · exact (List.pairwise_cons.mp h).1 b hb

theorem unique {l r r' : List α} (h : StableOrder key cmp l r) (h' : StableOrder key cmp l r') :
    r = r' := by
  have hperm : r.Perm r' := h.perm.trans h'.perm.symm
  have hties : ∀ k, (r.filter fun a => cmp k (key a) = .eq) =
      r'.filter fun a => cmp k (key a) = .eq := fun k => (h.stable k).trans (h'.stable k).symm
  have hr := h.ascending
  have hr' := h'.ascending
  clear h h'
  induction r generalizing r' with
  | nil => exact hperm.nil_eq
  | cons a t ih =>
    cases r' with
    | nil => cases hperm.length_eq
    | cons b t' =>
      -- neither head is behind the other, so both are the first of one class of equal keys
      have hab : cmp (key a) (key b) = .eq :=
        Std.OrientedCmp.isLE_antisymm (isLE_of_mem hr (hperm.mem_iff.mpr List.mem_cons_self))
          (isLE_of_mem hr' (hperm.mem_iff.mp List.mem_cons_self))
      have haa : cmp (key a) (key a) = .eq := Std.ReflCmp.compare_self
      have hheads := hties (key a)
      rw [List.filter_cons_of_pos (by simpa using haa),
        List.filter_cons_of_pos (by simpa using hab)] at hheads
      obtain ⟨rfl, -⟩ := List.cons.inj hheads
      have htails : ∀ k, (t.filter fun a => cmp k (key a) = .eq) =
          t'.filter fun a => cmp k (key a) = .eq := by
        intro k
        have hk := hties k
        rw [List.filter_cons, List.filter_cons] at hk
        split at hk
        · exact (List.cons.inj hk).2
        · exact hk
      rw [ih hperm.cons_inv htails (List.pairwise_cons.mp hr).2 (List.pairwise_cons.mp hr').2]

theorem mergeSort (key : α → κ) (cmp : κ → κ → Ordering) [Std.TransCmp cmp] (l : List α) :
    StableOrder key cmp l (l.mergeSort fun a b => (cmp (key a) (key b)).isLE) := by
  have htrans : ∀ a b c : α, (cmp (key a) (key b)).isLE → (cmp (key b) (key c)).isLE →
      (cmp (key a) (key c)).isLE := fun _ _ _ => Std.TransCmp.isLE_trans
  have htotal : ∀ a b : α, ((cmp (key a) (key b)).isLE || (cmp (key b) (key a)).isLE) = true := by
    intro a b
    have hswap : cmp (key b) (key a) = (cmp (key a) (key b)).swap := Std.OrientedCmp.eq_swap
    rw [hswap]
    cases cmp (key a) (key b) <;> rfl
  have hperm := List.mergeSort_perm l fun a b => (cmp (key a) (key b)).isLE
  refine ⟨hperm, List.pairwise_mergeSort htrans htotal l, fun k => ?_⟩
  -- items of equal keys are an ascending sublist, and sorting keeps such a sublist
  have hties : ∀ a ∈ l.filter fun a => cmp k (key a) = .eq,
      ∀ b ∈ l.filter fun a => cmp k (key a) = .eq, (cmp (key a) (key b)).isLE = true := by
    intro a ha b hb
    rw [List.mem_filter, decide_eq_true_eq] at ha hb
    rw [Std.TransCmp.eq_trans (Std.OrientedCmp.eq_symm ha.2) hb.2]
    rfl
  have hsub := List.sublist_mergeSort htrans htotal (List.pairwise_of_forall_mem_list hties)
    List.filter_sublist
  have hfilter := hsub.filter fun a => cmp k (key a) = .eq
  rw [List.filter_filter] at hfilter
  simp only [Bool.and_self] at hfilter
  exact (hfilter.eq_of_length (hperm.filter _).length_eq.symm).symm

/-- Where no two keys are equal, the items may be listed in any order. -/
theorem of_perm {l l' r : List α} (h : StableOrder key cmp l r) (perm : l.Perm l')
    (distinct : l.Pairwise fun a b => cmp (key a) (key b) ≠ .eq) : StableOrder key cmp l' r := by
  have hsymm : ∀ a b : α, cmp (key a) (key b) ≠ .eq → cmp (key b) (key a) ≠ .eq :=
    fun _ _ hab hba => hab (Std.OrientedCmp.eq_symm hba)
  have hsingle : ∀ k, ∀ m : List α, (m.Pairwise fun a b => cmp (key a) (key b) ≠ .eq) →
      (m.filter fun a => cmp k (key a) = .eq).Pairwise fun _ _ => False := by
    intro k m hm
    refine (List.Pairwise.filter _ hm).imp_of_mem fun {a b} ha hb hab => ?_
    rw [List.mem_filter, decide_eq_true_eq] at ha hb
    exact hab (Std.TransCmp.eq_trans (Std.OrientedCmp.eq_symm ha.2) hb.2)
  have hdistinct' := List.Pairwise.perm distinct perm (hsymm _ _)
  refine ⟨h.perm.trans perm, h.ascending, fun k => (h.stable k).trans ?_⟩
  exact List.Perm.eq_of_pairwise (fun _ _ _ _ hab => hab.elim) (hsingle k l distinct)
    (hsingle k l' hdistinct') (perm.filter _)

end StableOrder

end Roster
