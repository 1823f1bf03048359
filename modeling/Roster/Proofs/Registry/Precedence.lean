import Roster.Proofs.PathOrder
import Roster.Proofs.Registry.Run

/-! # What a name stands for

The entries of a tier are configurations that its own documents hold, each under
its own name. All tiers together resolve a name to the entry of the last tier
that defines it.
-/
namespace Roster

namespace Tier.Loaded

variable {yaml : YamlReader} {s : Scope} {source : Source} {o : LoadOptions} {xs : List Outcome}
  {t : Tier}

theorem exists_documents_of_mem (h : Loaded yaml source o s xs t) {x : Outcome} (hx : x ∈ xs) :
    ∃ docs, source s = .ok docs ∧ x.document ∈ docs := by
  cases h with
  | excluded => cases hx
  | @included docs _ _ policy answer documents run =>
    have hd : x.document ∈ inOrder docs := documents ▸ List.mem_map.mpr ⟨x, hx, rfl⟩
    exact ⟨docs, answer, (inOrder_perm docs).mem_iff.mp hd⟩

/-- An entry has the name under which it stands and the scope of its tier, and a document of the
tier holds it. -/
theorem entry_of_mem (h : Loaded yaml source o s xs t) {n : String} {c : Configuration}
    (hc : (n, c) ∈ t.entries.entries) :
    c.name = n ∧ c.scope = s ∧ ∃ docs d notes, source s = .ok docs ∧ d ∈ docs ∧
      d.read yaml s o.strict = .ok (c, notes) := by
  rw [NameMap.mem_entries_iff, h.get?] at hc
  have hname := List.find?_some hc
  obtain ⟨x, hx, hxc⟩ := List.mem_filterMap.mp (List.mem_of_find?_eq_some hc)
  obtain ⟨m, -, hsettles⟩ := h.settles_of_mem hx
  obtain ⟨notes, hread⟩ := (hsettles.configuration?_eq_some_iff c).mp hxc
  obtain ⟨docs, hanswer, hd⟩ := h.exists_documents_of_mem hx
  have hscope : c.scope = s := (SourceDocument.scope_and_path_of_read hread).1
  exact ⟨eq_of_beq hname, hscope, docs, x.document, notes, hanswer, hd, hread⟩

theorem entries_of_excluded (h : Loaded yaml source o s xs t) (policy : o.includes s = false) :
    t.entries = ∅ := by
  cases h with
  | excluded => rfl
  | included included =>
    rw [policy] at included
    cases included

end Tier.Loaded

namespace Hierarchy

variable (h : Hierarchy)

theorem mem_definedIn_iff (n : String) (s : Scope) :
    s ∈ h.definedIn n ↔ (h.tier s).entries.contains n = true := by
  have hs : s ∈ Scope.all := by cases s <;> decide
  rw [definedIn, List.mem_filter]
  exact ⟨fun hm => hm.2, fun hc => ⟨hs, hc⟩⟩

/-- The project tier takes precedence over the global tier, and that over the default tier. -/
theorem get?_resolved (n : String) :
    h.resolved.get? n =
      ((h.tier .project).entries.get? n).or
        (((h.tier .global).entries.get? n).or ((h.tier .default).entries.get? n)) := by
  rw [resolved, NameMap.get?_union, NameMap.get?_union]
  rfl

theorem contains_resolved_iff (n : String) :
    h.resolved.contains n = true ↔ ∃ s, (h.tier s).entries.contains n = true := by
  simp only [NameMap.contains_eq_isSome, get?_resolved, Option.isSome_or, Bool.or_eq_true]
  constructor
  · rintro (hp | hg | hd)
    · exact ⟨.project, hp⟩
    · exact ⟨.global, hg⟩
    · exact ⟨.default, hd⟩
  · rintro ⟨s, hs⟩
    cases s with
    | default => exact .inr (.inr hs)
    | global => exact .inr (.inl hs)
    | project => exact .inl hs

theorem get?_resolved_eq_getLast? (n : String) :
    h.resolved.get? n = (h.definedIn n).getLast?.bind fun s => (h.tier s).entries.get? n := by
  rw [get?_resolved, definedIn, List.getLast?_filter]
  simp only [NameMap.contains_eq_isSome]
  change _ = ([Scope.project, .global, .default].find? _).bind _
  cases hp : (h.tier .project).entries.get? n with
  | some c => simp [hp]
  | none =>
    cases hg : (h.tier .global).entries.get? n with
    | some c => simp [hp, hg]
    | none => cases hd : (h.tier .default).entries.get? n <;> simp [hp, hg, hd]

/-- What the tiers hold after a load, and what a name stands for. -/
theorem load_resolves_by_precedence {yaml : YamlReader} {source : Source} {o : LoadOptions}
    {h : Hierarchy} (hl : loadWith yaml source o = .ok h) :
    (∀ s, o.includes s = false → (h.tier s).entries = ∅) ∧
      (∀ s n c, (n, c) ∈ (h.tier s).entries.entries →
        c.name = n ∧ c.scope = s ∧ ∃ docs d notes, source s = .ok docs ∧ d ∈ docs ∧
          d.read yaml s o.strict = .ok (c, notes)) ∧
      (∀ n, h.resolved.contains n = true ↔ ∃ s, (h.tier s).entries.contains n = true) ∧
      (∀ n, h.resolved.get? n =
        (h.definedIn n).getLast?.bind fun s => (h.tier s).entries.get? n) ∧
      ∀ n, h.resolved.get? n =
        ((h.tier .project).entries.get? n).or
          (((h.tier .global).entries.get? n).or ((h.tier .default).entries.get? n)) := by
  obtain ⟨xs, f, -, hf⟩ := (exists_loaded_iff ..).mp hl
  refine ⟨fun s hs => (hf s).entries_of_excluded hs, fun s n c hc => (hf s).entry_of_mem hc, ?_⟩
  exact ⟨h.contains_resolved_iff, h.get?_resolved_eq_getLast?, h.get?_resolved⟩

/-- The sample: two tiers define a name, and it stands for what the project tier has. -/
theorem load_of_sample_resolves :
    load .sample .sample = .ok .sample ∧
      Hierarchy.sample.resolved.contains "x" = true ∧
      Hierarchy.sample.resolved.get? "x" = some (.unnamed .project ⟨"a/x.md"⟩ "x") ∧
      ∀ n c, (n, c) ∈ Hierarchy.sample.global.entries.entries → c.scope = .global := by
  obtain ⟨-, hentries, hcontains, hlast, -⟩ := load_resolves_by_precedence load_sample
  refine ⟨load_sample, (hcontains "x").mpr ⟨.global, rfl⟩, ?_, ?_⟩
  · rw [hlast]
    rfl
  · exact fun n c hc => (hentries .global n c hc).2.1

end Hierarchy

end Roster
