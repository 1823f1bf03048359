import Roster.Proofs.StableOrder
import Roster.Registry.Hierarchy

/-! # The order of documents

Paths are compared by their components, which is a total preorder: paths that
only differ in repeated slashes or dots are equal in it. The documents of a tier
are therefore in the order of their paths, and those of equal paths stay in the
order in which the source lists them.
-/
namespace Roster

namespace FilePath

namespace Component

/-- Components are compared by their kinds, and then by their texts. -/
theorem compare_eq_compareLex :
    compare = compareLex (compareOn rank) (compareOn text) := by
  funext a b
  cases a <;> cases b <;> rfl

instance : Std.TransCmp compare := by
  rw [compare_eq_compareLex]
  infer_instance

instance : Std.LawfulEqCmp compare where
  eq_of_compare := by
    intro a b h
    rw [compare_eq_compareLex, compareLex_eq_eq] at h
    have hrank : a.rank = b.rank := Std.LawfulEqOrd.eq_of_compare h.1
    have htext : a.text = b.text := Std.LawfulEqOrd.eq_of_compare h.2
    cases a <;> cases b <;> simp_all [rank, text]

end Component

theorem compareLists_eq_compareLex : ∀ as bs,
    compareLists as bs = List.compareLex Component.compare as bs
  | [], [] => rfl
  | [], _ :: _ => rfl
  | _ :: _, [] => rfl
  | a :: as, b :: bs => by
    rw [compareLists, List.compareLex_cons_cons, compareLists_eq_compareLex as bs]

instance : Std.TransCmp compare where
  eq_swap := by
    intro p q
    simp only [compare, compareLists_eq_compareLex]
    exact Std.OrientedCmp.eq_swap
  isLE_trans := by
    intro p q r hpq hqr
    simp only [compare, compareLists_eq_compareLex] at *
    exact Std.TransCmp.isLE_trans hpq hqr

theorem compare_eq_eq_iff (p q : FilePath) : p.compare q = .eq ↔ p.components = q.components := by
  rw [compare, compareLists_eq_compareLex]
  exact Std.LawfulEqCmp.compare_eq_iff_eq

end FilePath

/-- The documents of a tier in the order of their paths, those of equal paths as the source has
them. -/
structure InPathOrder (docs l : List SourceDocument) : Prop where
  perm : l.Perm docs
  ascending : l.Pairwise fun a b => a.path.le b.path
  stable : ∀ p : FilePath,
    (l.filter fun d => p.compare d.path = .eq) = docs.filter fun d => p.compare d.path = .eq

namespace Tier

/-- The order in which documents are taken is the stable order of their paths. -/
theorem stableOrder_inOrder (docs : List SourceDocument) :
    StableOrder SourceDocument.path FilePath.compare docs (inOrder docs) :=
  StableOrder.mergeSort SourceDocument.path FilePath.compare docs

theorem inOrder_perm (docs : List SourceDocument) : (inOrder docs).Perm docs :=
  (stableOrder_inOrder docs).perm

theorem inPathOrder_inOrder (docs : List SourceDocument) : InPathOrder docs (inOrder docs) :=
  have h := stableOrder_inOrder docs
  ⟨h.perm, h.ascending, h.stable⟩

end Tier

end Roster
