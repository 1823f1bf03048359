import Roster.Proofs.PathOrder
import Roster.Proofs.Registry.Run

/-! # The order in which a source lists documents

The first of several documents of a name is kept, the first faulty document
stops a strict load, and warnings are noted one behind the other. All of this
goes by the order of the paths, so a source whose documents have different paths
may list them in any order.
-/
namespace Roster

/-- No two documents have paths with the same components. -/
def PathsDiffer (docs : List SourceDocument) : Prop :=
  docs.Pairwise fun a b => a.path.components ≠ b.path.components

/-- Two answers for a tier that hold the same documents, in any two orders, or fail alike. -/
inductive SameDocuments :
    Except LoadError (List SourceDocument) → Except LoadError (List SourceDocument) → Prop
  | listed {docs docs' : List SourceDocument} (perm : docs.Perm docs')
      (paths : PathsDiffer docs) : SameDocuments (.ok docs) (.ok docs')
  | failed (e : LoadError) : SameDocuments (.error e) (.error e)

namespace Tier

/-- Documents of different paths have one order, however they are listed. -/
theorem inOrder_eq_of_perm {docs docs' : List SourceDocument} (perm : docs.Perm docs')
    (paths : PathsDiffer docs) : inOrder docs = inOrder docs' := by
  have hdistinct : docs.Pairwise fun a b => a.path.compare b.path ≠ .eq :=
    paths.imp fun hne heq => hne ((FilePath.compare_eq_eq_iff ..).mp heq)
  exact ((stableOrder_inOrder docs).of_perm perm hdistinct).unique (stableOrder_inOrder docs')

theorem load_eq_of_sameDocuments {yaml : YamlReader} {source source' : Source} {o : LoadOptions}
    {s : Scope} (same : o.includes s = true → SameDocuments (source s) (source' s)) :
    load yaml source o s = load yaml source' o s := by
  cases hi : o.includes s with
  | false => rw [load_of_excluded hi, load_of_excluded hi]
  | true =>
    rw [load_of_included hi, load_of_included hi]
    have hsame := same hi
    generalize source s = answer, source' s = answer' at hsame
    cases hsame with
    | failed e => rfl
    | @listed docs docs' perm paths =>
      change (inOrder docs).foldlM _ _ = (inOrder docs').foldlM _ _
      rw [inOrder_eq_of_perm perm paths]

end Tier

namespace Hierarchy

/-- Two loads of the same documents, whose paths differ within each included tier, come to the
same hierarchy or the same error, in whatever order the sources list the documents. -/
theorem load_ignores_listing_order {yaml : YamlReader} {source source' : Source} {o : LoadOptions}
    (same : ∀ s, o.includes s = true → SameDocuments (source s) (source' s)) :
    loadWith yaml source o = loadWith yaml source' o := by
  have htier : ∀ s, Tier.load yaml source o s = Tier.load yaml source' o s :=
    fun s => Tier.load_eq_of_sameDocuments (same s)
  unfold loadWith
  rw [htier .default, htier .global, htier .project]

end Hierarchy

/-- The sample, with the documents of the project tier in another order. -/
def Source.sampleRelisted : Source
  | .default => .ok []
  | .global => Source.sample .global
  | .project => .ok [.lost ⟨"c/y.md"⟩, .unnamed ⟨"a/x.md"⟩, .unnamed ⟨"b/x.md"⟩]

/-- The sample: the document that comes last in one list and in the middle of the other is the
first of its name either way. -/
theorem Hierarchy.load_of_sample_relisted :
    (∀ s, LoadOptions.sample.includes s = true →
        SameDocuments (Source.sampleRelisted s) (Source.sample s)) ∧
      load .sampleRelisted .sample = .ok .sample := by
  have same : ∀ s, LoadOptions.sample.includes s = true →
      SameDocuments (Source.sampleRelisted s) (Source.sample s) := by
    intro s hs
    cases s with
    | default => cases hs
    | global => exact .listed (.refl _) (List.pairwise_singleton _ _)
    | project =>
      refine .listed ?_ ?_
      · exact (List.reverse_perm _).symm.trans (.cons _ (.swap _ _ _))
      · unfold PathsDiffer
        decide +kernel
  exact ⟨same, (load_ignores_listing_order same).trans load_sample⟩

end Roster
