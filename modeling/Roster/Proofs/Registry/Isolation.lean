import Roster.Proofs.Registry.Precedence

/-! # Tiers do not interfere

Two loads with the same options are compared. What a source says about a tier
that is not included has no effect, not even if it says that it fails. What it
says about one included tier has no effect on the other tiers, and on a name
only if that tier defines it and none above does.
-/
namespace Roster

/-- A tier takes precedence over those that come before it. -/
def Scope.Above (s t : Scope) : Prop :=
  Scope.all.idxOf t < Scope.all.idxOf s

instance (s t : Scope) : Decidable (s.Above t) :=
  inferInstanceAs (Decidable (Scope.all.idxOf t < Scope.all.idxOf s))

theorem Tier.load_congr {yaml : YamlReader} {source source' : Source} {o : LoadOptions} {s : Scope}
    (same : o.includes s = true → source s = source' s) :
    load yaml source o s = load yaml source' o s := by
  cases hi : o.includes s with
  | false => rw [load_of_excluded hi, load_of_excluded hi]
  | true => rw [load_of_included hi, load_of_included hi, same hi]

namespace Hierarchy

variable {yaml : YamlReader} {source source' : Source} {o : LoadOptions} {h h' : Hierarchy}
  {t : Scope}

theorem load_congr (same : ∀ s, o.includes s = true → source s = source' s) :
    loadWith yaml source o = loadWith yaml source' o := by
  have htier : ∀ s, Tier.load yaml source o s = Tier.load yaml source' o s :=
    fun s => Tier.load_congr (same s)
  unfold loadWith
  rw [htier .default, htier .global, htier .project]

/-- Two hierarchies that have all tiers but one in common. -/
def AgreeOff (t : Scope) (h h' : Hierarchy) : Prop :=
  ∀ s, s ≠ t → h.tier s = h'.tier s

theorem agreeOff_of_load (same : ∀ s, s ≠ t → o.includes s = true → source s = source' s)
    (hl : loadWith yaml source o = .ok h) (hl' : loadWith yaml source' o = .ok h') :
    AgreeOff t h h' := by
  intro s hs
  have htier := (load_eq_ok_iff ..).mp hl s
  have htier' := (load_eq_ok_iff ..).mp hl' s
  rw [Tier.load_congr (same s hs), htier'] at htier
  exact (Except.ok.inj htier).symm

namespace AgreeOff

theorem filter_warnings (ha : AgreeOff t h h') (hl : loadWith yaml source o = .ok h)
    (hl' : loadWith yaml source' o = .ok h') :
    (h.warnings.filter fun w => w.scope ≠ t) = h'.warnings.filter fun w => w.scope ≠ t := by
  rw [Hierarchy.filter_warnings hl fun s => s ≠ t, Hierarchy.filter_warnings hl' fun s => s ≠ t,
    List.flatMap_def, List.flatMap_def]
  refine congrArg List.flatten (List.map_congr_left fun s hs => ?_)
  have hst : s ≠ t := by simpa using (List.mem_filter.mp hs).2
  rw [ha s hst]

/-- A name that the other tier does not define stands for the same. -/
theorem get?_resolved_of_not_mem (ha : AgreeOff t h h') {n : String} (hn : t ∉ h.definedIn n)
    (hn' : t ∉ h'.definedIn n) : h.resolved.get? n = h'.resolved.get? n := by
  have hget : ∀ s, (h.tier s).entries.get? n = (h'.tier s).entries.get? n := by
    intro s
    by_cases hs : s = t
    · subst hs
      rw [mem_definedIn_iff, NameMap.contains_eq_isSome, Option.not_isSome_iff_eq_none] at hn hn'
      rw [hn, hn']
    · rw [ha s hs]
  rw [get?_resolved, get?_resolved, hget, hget, hget]

theorem get?_resolved_of_above (ha : AgreeOff t h h') {n : String} {s : Scope} (above : s.Above t)
    (hn : s ∈ h.definedIn n) : h.resolved.get? n = h'.resolved.get? n := by
  have hor : ∀ a b b' : Option Configuration, a.isSome = true → a.or b = a.or b' := by
    intro a b b' ha
    obtain ⟨c, rfl⟩ := Option.isSome_iff_exists.mp ha
    rfl
  rw [mem_definedIn_iff, NameMap.contains_eq_isSome] at hn
  rw [get?_resolved, get?_resolved]
  cases t with
  | project => cases s <;> exact absurd above (by decide)
  | global =>
    rw [← ha .project (by decide)]
    cases s with
    | project => exact hor _ _ _ hn
    | global => exact absurd above (by decide)
    | default => exact absurd above (by decide)
  | default =>
    rw [← ha .project (by decide), ← ha .global (by decide), ← Option.or_assoc, ← Option.or_assoc]
    refine hor _ _ _ ?_
    rw [Option.isSome_or, Bool.or_eq_true]
    cases s with
    | project => exact .inl hn
    | global => exact .inr hn
    | default => exact absurd above (by decide)

end AgreeOff

/-- Loads of two sources. If these answer alike for every included tier, the loads come to the
same, be it a failure. If they answer alike for every included tier but one, loads that succeed
only differ in that tier. -/
theorem load_isolates_tiers (yaml : YamlReader) (source source' : Source) (o : LoadOptions) :
    ((∀ s, o.includes s = true → source s = source' s) →
        loadWith yaml source o = loadWith yaml source' o) ∧
      ∀ t h h', (∀ s, s ≠ t → o.includes s = true → source s = source' s) →
        loadWith yaml source o = .ok h → loadWith yaml source' o = .ok h' →
        (∀ s, s ≠ t → (h.tier s).entries = (h'.tier s).entries) ∧
          ((h.warnings.filter fun w => w.scope ≠ t) =
            h'.warnings.filter fun w => w.scope ≠ t) ∧
          (∀ n, t ∉ h.definedIn n → t ∉ h'.definedIn n →
            h.resolved.get? n = h'.resolved.get? n) ∧
          ∀ n s, s.Above t → s ∈ h.definedIn n ∨ s ∈ h'.definedIn n →
            h.resolved.get? n = h'.resolved.get? n := by
  refine ⟨load_congr, fun t h h' same hl hl' => ?_⟩
  have ha : AgreeOff t h h' := agreeOff_of_load same hl hl'
  have ha' : AgreeOff t h' h := fun s hs => (ha s hs).symm
  refine ⟨?_, ha.filter_warnings hl hl', ?_, ?_⟩
  · intro s hs
    rw [ha s hs]
  · exact fun n hn hn' => ha.get?_resolved_of_not_mem hn hn'
  · rintro n s above (hn | hn)
    · exact ha.get?_resolved_of_above above hn
    · exact (ha'.get?_resolved_of_above above hn).symm

end Hierarchy

/-- The sample, with an answer for the default tier and without the global document. -/
def Source.sampleProject : Source
  | .default | .global => .ok []
  | .project => Source.sample .project

/-- The sample: neither the answer for the excluded tier nor that for the global tier changes what
a name of the project tier stands for. -/
theorem Hierarchy.load_of_sample_isolates_project :
    ∃ h', load .sampleProject .sample = .ok h' ∧
      Hierarchy.sample.resolved.get? "x" = h'.resolved.get? "x" ∧
      (∀ s, s ≠ .global → (Hierarchy.sample.tier s).entries = (h'.tier s).entries) ∧
      load .sample ⟨false, false, true, false⟩ = load .sampleProject ⟨false, false, true, false⟩ := by
  have same : ∀ s, s ≠ .global → LoadOptions.sample.includes s = true →
      Source.sample s = Source.sampleProject s := by
    intro s hs hi
    cases s
    · cases hi
    · exact absurd rfl hs
    · rfl
  have hl' : load .sampleProject .sample = .ok { Hierarchy.sample with global := .empty } := by
    refine (load_eq_ok_iff ..).mpr fun s => ?_
    cases s
    · rfl
    · rw [Tier.load_of_included rfl]
      change (Tier.inOrder []).foldlM _ _ = _
      rw [Tier.inOrder, List.mergeSort_nil]
      rfl
    · rw [← Tier.load_congr (same .project (by decide))]
      exact load_sample_project
  obtain ⟨hentries, -, -, habove⟩ :=
    (load_isolates_tiers Yaml.readJson .sample .sampleProject .sample).2 .global _ _ same
      load_sample hl'
  refine ⟨_, hl', habove "x" .project (by decide) (.inl ?_), hentries, ?_⟩
  · exact (mem_definedIn_iff ..).mpr rfl
  · refine (load_isolates_tiers Yaml.readJson .sample .sampleProject
      ⟨false, false, true, false⟩).1 fun s hi => ?_
    cases s
    · cases hi
    · cases hi
    · rfl

end Roster
