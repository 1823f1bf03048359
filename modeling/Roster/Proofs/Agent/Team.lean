import Roster.Agent.Team
import Roster.Proofs.NameMap

/-! # Teams are judged by pairs

The checks of a team look at all of its agents at once: whether some have the
highest level and others have not, and in how many environments they are bound to
run. Yet agents can work together exactly if no two of them clash, and whether two
agents clash does not depend on the others.
-/
namespace Roster.Team

/-- Two agents that cannot work together: only the first has the highest level, or they are bound
to different environments. -/
inductive Clash (a b : Agent) : Prop
  | level (critical : a.security.level = .critical) (lower : b.security.level ≠ .critical)
  | environment (bound : a.isEnvironmentAgnostic = false) (bound' : b.isEnvironmentAgnostic = false)
      (different : a.environment ≠ b.environment)

theorem not_clash_self (a : Agent) : ¬ Clash a a := by
  rintro (⟨critical, lower⟩ | ⟨-, -, different⟩)
  · exact lower critical
  · exact different rfl

variable {agents : List Agent}

/-! ## What is found -/

theorem isCritical_iff (a : Agent) : isCritical a = true ↔ a.security.level = .critical :=
  beq_iff_eq

theorem mem_securityFindings_iff (agents : List Agent) (f : Finding) :
    f ∈ securityFindings agents ↔
      ((∃ a ∈ agents, a.security.level = .critical) ∧
        ∃ b ∈ agents, b.security.level ≠ .critical) ∧
      f = ⟨.security, .error, "critical security agents (" ++
        ", ".intercalate (names (agents.filter isCritical)) ++
          ") cannot collaborate with agents of a lower security level",
        names (agents.filter isCritical)⟩ := by
  have hcritical : (!(agents.filter isCritical).isEmpty) = true ↔
      ∃ a ∈ agents, a.security.level = .critical := by
    simp [isCritical_iff]
  have hlower : (agents.any fun a => !isCritical a) = true ↔
      ∃ b ∈ agents, b.security.level ≠ .critical := by
    simp [← isCritical_iff]
  rw [← hcritical, ← hlower, ← Bool.and_eq_true, securityFindings]
  split
  · next h => simp [h]
  · next h => simp [h]

theorem mem_names_environments (e : String) :
    e ∈ (environments agents).names ↔
      ∃ a ∈ agents, a.isEnvironmentAgnostic = false ∧ a.environment = e := by
  simp [environments, NameSet.mem_names_ofNames, and_assoc]

theorem one_lt_size_environments_iff :
    1 < (environments agents).size ↔
      ∃ a ∈ agents, ∃ b ∈ agents, a.isEnvironmentAgnostic = false ∧
        b.isEnvironmentAgnostic = false ∧ a.environment ≠ b.environment := by
  rw [NameMap.one_lt_size_iff]
  simp only [mem_names_environments]
  constructor
  · rintro ⟨_, ⟨a, ha, bound, rfl⟩, _, ⟨b, hb, bound', rfl⟩, different⟩
    exact ⟨a, ha, b, hb, bound, bound', different⟩
  · rintro ⟨a, ha, b, hb, bound, bound', different⟩
    exact ⟨_, ⟨a, ha, bound, rfl⟩, _, ⟨b, hb, bound', rfl⟩, different⟩

theorem mem_environmentFindings_iff (f : Finding) :
    f ∈ environmentFindings agents ↔ 1 < (environments agents).size ∧
      f = ⟨.environment, .error, "agents target conflicting environments: " ++
        ", ".intercalate (environments agents).names, names agents⟩ := by
  rw [environmentFindings]
  split
  · next h => simp [h]
  · next h => simp [h]

theorem mem_capabilityFindings {f : Finding} (h : f ∈ capabilityFindings agents) :
    f.area = .capability ∧ f.severity = .warning := by
  rw [capabilityFindings] at h
  split at h
  · cases h
  · split at h
    · rw [List.mem_singleton.mp h]
      exact ⟨rfl, rfl⟩
    · cases h

theorem mem_findings_iff (f : Finding) :
    f ∈ findings agents ↔ f ∈ securityFindings agents ∨ f ∈ environmentFindings agents ∨
      f ∈ capabilityFindings agents := by
  rw [findings, List.mem_append, List.mem_append, or_assoc]

theorem mem_securityFindings_of_area {f : Finding} (h : f ∈ findings agents)
    (hf : f.area = .security) : f ∈ securityFindings agents := by
  rcases (mem_findings_iff f).mp h with h | h | h
  · exact h
  · rw [((mem_environmentFindings_iff f).mp h).2] at hf
    cases hf
  · rw [(mem_capabilityFindings h).1] at hf
    cases hf

/-! ## Who can work together -/

/-- Agents can work together if no two of them clash. -/
theorem isCompatible_iff :
    isCompatible (findings agents) = true ↔ ∀ a ∈ agents, ∀ b ∈ agents, ¬ Clash a b := by
  simp only [isCompatible, List.all_eq_true, decide_eq_true_eq]
  constructor
  · rintro h a ha b hb (⟨critical, lower⟩ | ⟨bound, bound', different⟩)
    · have hf := (mem_securityFindings_iff agents _).mpr
        ⟨⟨⟨a, ha, critical⟩, b, hb, lower⟩, rfl⟩
      exact h _ ((mem_findings_iff _).mpr (.inl hf)) rfl
    · have hsize := one_lt_size_environments_iff.mpr ⟨a, ha, b, hb, bound, bound', different⟩
      have hf := (mem_environmentFindings_iff _).mpr ⟨hsize, rfl⟩
      exact h _ ((mem_findings_iff _).mpr (.inr (.inl hf))) rfl
  · intro h f hf herror
    rcases (mem_findings_iff f).mp hf with hf | hf | hf
    · obtain ⟨⟨⟨a, ha, critical⟩, b, hb, lower⟩, -⟩ := (mem_securityFindings_iff agents f).mp hf
      exact h a ha b hb (.level critical lower)
    · obtain ⟨a, ha, b, hb, bound, bound', different⟩ :=
        one_lt_size_environments_iff.mp ((mem_environmentFindings_iff f).mp hf).1
      exact h a ha b hb (.environment bound bound' different)
    · rw [(mem_capabilityFindings hf).2] at herror
      cases herror

theorem isCompatible_of_subset {part : List Agent} (hpart : part ⊆ agents)
    (h : isCompatible (findings agents) = true) : isCompatible (findings part) = true := by
  rw [isCompatible_iff] at h ⊢
  intro a ha b hb
  exact h a (hpart ha) b (hpart hb)

theorem isCompatible_iff_pairs :
    isCompatible (findings agents) = true ↔
      ∀ a ∈ agents, ∀ b ∈ agents, isCompatible (findings [a, b]) = true := by
  constructor
  · intro h a ha b hb
    refine isCompatible_of_subset (fun c hc => ?_) h
    rcases List.mem_cons.mp hc with rfl | hc
    · exact ha
    · rw [List.mem_singleton.mp hc]
      exact hb
  · intro h
    rw [isCompatible_iff]
    intro a ha b hb
    exact isCompatible_iff.mp (h a ha b hb) a (by simp) b (by simp)

theorem isCompatible_self (a : Agent) : isCompatible (findings [a, a]) = true := by
  rw [isCompatible_iff]
  intro b hb c hc
  have hba : b = a := by simpa using hb
  have hca : c = a := by simpa using hc
  rw [hba, hca]
  exact not_clash_self a

/-- Whether agents can work together is decided by every two of them: they can if no two clash. An
agent can work together with itself, so neither order nor repetition matters, and a part of a team
can do what the team can. What is found about security levels names the agents of the highest level
in their order, and is found if there are such agents and others. -/
theorem teams_are_judged_by_pairs (agents : List Agent) :
    (isCompatible (findings agents) = true ↔
        ∀ a ∈ agents, ∀ b ∈ agents, isCompatible (findings [a, b]) = true) ∧
      (isCompatible (findings agents) = true ↔ ∀ a ∈ agents, ∀ b ∈ agents, ¬ Clash a b) ∧
      (∀ a : Agent, isCompatible (findings [a, a]) = true) ∧
      (∀ others : List Agent, (∀ a, a ∈ others ↔ a ∈ agents) →
        isCompatible (findings others) = isCompatible (findings agents)) ∧
      (∀ part : List Agent, (∀ a ∈ part, a ∈ agents) → isCompatible (findings agents) = true →
        isCompatible (findings part) = true) ∧
      (∀ f ∈ findings agents, f.area = .security → f.severity = .error →
        f.agents = (agents.filter fun a => a.security.level = .critical).map (·.name) ∧
          f.message = "critical security agents (" ++ ", ".intercalate f.agents ++
            ") cannot collaborate with agents of a lower security level") ∧
      ((∃ f ∈ findings agents, f.area = .security ∧ f.severity = .error) ↔
        (∃ a ∈ agents, a.security.level = .critical) ∧
          ∃ b ∈ agents, b.security.level ≠ .critical) := by
  refine ⟨isCompatible_iff_pairs, isCompatible_iff, isCompatible_self, fun others hsame => ?_,
    fun part hpart => ?_, fun f hf harea _ => ?_, ?_⟩
  · rw [Bool.eq_iff_iff]
    exact ⟨isCompatible_of_subset fun a => (hsame a).mpr,
      isCompatible_of_subset fun a => (hsame a).mp⟩
  · exact isCompatible_of_subset fun a => hpart a
  · obtain ⟨-, rfl⟩ := (mem_securityFindings_iff agents f).mp (mem_securityFindings_of_area hf harea)
    exact ⟨rfl, rfl⟩
  · constructor
    · rintro ⟨f, hf, harea, -⟩
      exact ((mem_securityFindings_iff agents f).mp (mem_securityFindings_of_area hf harea)).1
    · intro hmixed
      have hf := (mem_securityFindings_iff agents _).mpr ⟨hmixed, rfl⟩
      exact ⟨_, (mem_findings_iff _).mpr (.inl hf), rfl, rfl⟩

section Sample

def sampleAgent (name environment : String) (level : SecurityLevel) : Agent where
  name
  scope := .project
  tags := []
  version := none
  content := ""
  lastModified := .epoch
  path := ⟨"agents/sample.md"⟩
  type := .custom
  capabilities := ∅
  models := .standard
  collaboration := .standard
  security := { SecuritySettings.standard with level }
  execution := .standard
  environment
  priority := 0
  heading := ⟨none, none, none, none, none⟩
  issues := []

/-- Two agents of the highest level around one that is not, and one that may run anywhere. -/
def sampleTeam : List Agent :=
  [sampleAgent "vault" "prod" .critical, sampleAgent "builder" "prod" .medium,
    sampleAgent "keys" "ALL" .critical]

/-- The sample: what is found names the two agents of the highest level. Without the third they can
work together, in either order. -/
theorem sampleTeam_is_judged_by_pairs :
    isCompatible (findings sampleTeam) = false ∧
      (∀ f ∈ findings sampleTeam, f.area = .security → f.severity = .error →
        f.agents = ["vault", "keys"]) ∧
      isCompatible (findings [sampleAgent "keys" "ALL" .critical,
        sampleAgent "vault" "prod" .critical, sampleAgent "keys" "ALL" .critical]) = true := by
  obtain ⟨hpairs, -, -, -, -, hnames, -⟩ := teams_are_judged_by_pairs sampleTeam
  obtain ⟨-, -, -, hsame, -⟩ := teams_are_judged_by_pairs
    [sampleAgent "vault" "prod" .critical, sampleAgent "keys" "ALL" .critical]
  refine ⟨?_, ?_, ?_⟩
  · have hclash : isCompatible (findings [sampleAgent "vault" "prod" .critical,
        sampleAgent "builder" "prod" .medium]) = false := by decide +kernel
    rw [Bool.eq_false_iff]
    intro h
    rw [hpairs.mp h _ (by simp [sampleTeam]) _ (by simp [sampleTeam])] at hclash
    cases hclash
  · intro f hf harea hseverity
    exact (hnames f hf harea hseverity).1
  · rw [hsame _ fun a => by grind]
    decide +kernel

end Sample

end Roster.Team
