import Roster.Proofs.Registry.Precedence

/-! # Documents that do not collide

A tier whose documents have different names has what these are read as. So a tier
with a single document has what that document is read as, and if the other tiers
have no documents, the name of the document stands for it.
-/
namespace Roster

variable {yaml : YamlReader} {source : Source} {o : LoadOptions} {scope : Scope}
  {d : SourceDocument} {c : Configuration} {notes : List LoadWarning}

namespace Tier

variable {docs : List SourceDocument} {cs : List (Configuration × List LoadWarning)}

/-- Documents with different names, which a tier does not have yet, are all entered. -/
theorem foldlM_take_of_reads
    (hread : List.Forall₂ (fun d r => d.read yaml scope o.strict = .ok r) docs cs)
    (hnames : cs.Pairwise fun a b => a.1.name ≠ b.1.name) {t : Tier}
    (hfree : ∀ r ∈ cs, t.entries.get? r.1.name = none) :
    docs.foldlM (take yaml scope o.strict) t =
      .ok ⟨cs.foldl (fun m r => m.insert r.1.name r.1) t.entries,
        t.warnings ++ cs.flatMap (·.2)⟩ := by
  induction hread generalizing t with
  | nil => simp [pure, Except.pure]
  | @cons d r docs cs hd _ ih =>
    obtain ⟨c, notes⟩ := r
    have hfate : t.fate yaml scope o.strict d = .ok (.entered c, notes) :=
      (fate_eq_ok_iff ..).mpr (.entered hd (hfree _ List.mem_cons_self))
    obtain ⟨hne, hrest⟩ := List.pairwise_cons.mp hnames
    rw [List.foldlM_cons, take_of_fate hfate]
    change docs.foldlM _ _ = _
    rw [ih hrest fun r hr => ?_]
    · simp [after]
    · rw [after, NameMap.get?_insert, if_neg (hne r hr)]
      exact hfree r (List.mem_cons_of_mem _ hr)

/-- A tier whose documents, in the order of their paths, can be read and have different names. -/
theorem load_of_reads (hincluded : o.includes scope = true)
    (hsource : ∃ listed, source scope = .ok listed ∧ inOrder listed = docs)
    (hread : List.Forall₂ (fun d r => d.read yaml scope o.strict = .ok r) docs cs)
    (hnames : cs.Pairwise fun a b => a.1.name ≠ b.1.name) :
    load yaml source o scope =
      .ok ⟨cs.foldl (fun m r => m.insert r.1.name r.1) ∅, cs.flatMap (·.2)⟩ := by
  obtain ⟨listed, hlisted, horder⟩ := hsource
  rw [load_of_included hincluded, hlisted]
  change (inOrder listed).foldlM (take yaml scope o.strict) empty = _
  rw [horder]
  exact foldlM_take_of_reads hread hnames fun _ _ => rfl

theorem load_of_single (hincluded : o.includes scope = true) (hsource : source scope = .ok [d])
    (hread : d.read yaml scope o.strict = .ok (c, notes)) :
    load yaml source o scope = .ok ⟨.insert ∅ c.name c, notes⟩ := by
  have hreads : List.Forall₂ (fun d r => d.read yaml scope o.strict = .ok r) [d] [(c, notes)] :=
    .cons hread .nil
  simpa using load_of_reads hincluded ⟨[d], hsource, List.mergeSort_singleton d⟩ hreads
    (List.pairwise_singleton ..)

theorem load_of_nothing (h : o.includes scope = true → source scope = .ok []) :
    load yaml source o scope = .ok empty := by
  cases hi : o.includes scope with
  | false => exact load_of_excluded hi source
  | true => exact load_of_reads hi ⟨[], h hi, List.mergeSort_nil⟩ .nil .nil

end Tier

namespace Hierarchy

/-- The hierarchy in which a tier has one configuration and the others have none. -/
def single (scope : Scope) (c : Configuration) (notes : List LoadWarning) : Hierarchy :=
  let tier (s : Scope) : Tier := if s = scope then ⟨.insert ∅ c.name c, notes⟩ else .empty
  ⟨tier .default, tier .global, tier .project⟩

theorem tier_single (scope : Scope) (c : Configuration) (notes : List LoadWarning) (s : Scope) :
    (single scope c notes).tier s =
      if s = scope then ⟨.insert ∅ c.name c, notes⟩ else .empty := by
  cases s <;> rfl

theorem resolved_single (scope : Scope) (c : Configuration) (notes : List LoadWarning) :
    (single scope c notes).resolved = .insert ∅ c.name c := by
  cases scope <;> rfl

theorem warnings_single (scope : Scope) (c : Configuration) (notes : List LoadWarning) :
    (single scope c notes).warnings = notes := by
  cases scope <;> simp [single, warnings, Tier.empty]

theorem load_of_single (hincluded : o.includes scope = true) (hsource : source scope = .ok [d])
    (hread : d.read yaml scope o.strict = .ok (c, notes))
    (hothers : ∀ s, s ≠ scope → o.includes s = true → source s = .ok []) :
    loadWith yaml source o = .ok (single scope c notes) := by
  refine (load_eq_ok_iff ..).mpr fun s => ?_
  rw [tier_single]
  by_cases hs : s = scope
  · subst hs
    rw [if_pos rfl]
    exact Tier.load_of_single hincluded hsource hread
  · rw [if_neg hs]
    exact Tier.load_of_nothing (hothers s hs)

end Hierarchy

/-- Loaded as the only document of a tier, strictly or not and without a hint of its kind, a text is
taken as a configuration with some property, and nothing about it is odd. Where the other tiers
have no documents, its name stands for it and is the only one. -/
def Document.LoadsAlone (yaml : YamlReader) (text : String) (P : Configuration → Prop) : Prop :=
  ∀ (source : Source) (o : LoadOptions) (scope : Scope) (path : FilePath) (time : Timestamp),
    o.includes scope = true → source scope = .ok [⟨path, none, .ok ⟨text, time⟩⟩] →
    ∃ c, P c ∧ Tier.load yaml source o scope = .ok ⟨.insert ∅ c.name c, []⟩ ∧
      ((∀ s, s ≠ scope → o.includes s = true → source s = .ok []) →
        ∃ h, Hierarchy.loadWith yaml source o = .ok h ∧ h.resolved = .insert ∅ c.name c ∧
          h.warnings = [])

theorem Document.loadsAlone_of_parse {text name : String} {doc : Document}
    {P : Configuration → Prop} (hparse : parseWith yaml text.toList = .ok doc)
    (hname : doc.ownName? = some name) (hscope : doc.metadata.get? "scope" = none)
    (htags : doc.tags.2 = [])
    (hP : ∀ scope path time,
      P (SourceDocument.configuration scope ⟨path, none, .ok ⟨text, time⟩⟩ doc time name)) :
    LoadsAlone yaml text P := by
  intro source o scope path time hincluded hsource
  have hremarks : SourceDocument.remarks scope ⟨path, none, .ok ⟨text, time⟩⟩ doc = [] := by
    simp [SourceDocument.remarks, remarks, scopeWarnings, hscope, htags]
  have hparsed : SourceDocument.parse yaml scope ⟨path, none, .ok ⟨text, time⟩⟩ =
      .ok (doc, time) := by
    simp [SourceDocument.parse, hparse]
  have hreads : SourceDocument.read yaml scope o.strict ⟨path, none, .ok ⟨text, time⟩⟩ =
      .ok (_, _) :=
    (SourceDocument.Reads.named hparsed hname).read_eq
  rw [hremarks] at hreads
  refine ⟨_, hP scope path time, Tier.load_of_single hincluded hsource hreads, fun hothers => ?_⟩
  exact ⟨_, Hierarchy.load_of_single hincluded hsource hreads hothers,
    Hierarchy.resolved_single .., Hierarchy.warnings_single ..⟩

end Roster
