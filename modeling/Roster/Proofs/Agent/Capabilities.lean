import Mathlib.Data.List.Dedup
import Roster.Proofs.Agent.Team

/-! # Capabilities in common

Whether the agents of a team share capabilities is found by counting: all names
together are compared with those of each agent. The counts agree exactly if no name
is there twice, which is to say that the capabilities of any two agents have none in
common.
-/
namespace Roster

namespace NameSet

theorem size_ofNames (l : List String) : (ofNames l).size = l.dedup.length := by
  have hperm : (ofNames l).names.Perm l.dedup := by
    rw [List.perm_ext_iff_of_nodup (ofNames l).nodup_names l.nodup_dedup]
    intro n
    rw [mem_names_ofNames, List.mem_dedup]
  rw [NameMap.size_eq_length_names, hperm.length_eq]

theorem size_ofNames_eq_length_iff (l : List String) : (ofNames l).size = l.length ↔ l.Nodup := by
  rw [size_ofNames, ← List.dedup_eq_self]
  constructor
  · exact fun h => l.dedup_sublist.eq_of_length h
  · exact fun h => congrArg List.length h

end NameSet

namespace Team

/-- Two agents have a capability in common. -/
def Shares (a b : Agent) : Prop :=
  ∃ capability, a.hasCapability capability = true ∧ b.hasCapability capability = true

/-- The agents at any two places have no capability in common. -/
def SharesNothing (agents : List Agent) : Prop :=
  ∀ i j, ∀ hi : i < agents.length, ∀ hj : j < agents.length, i ≠ j → ¬ Shares agents[i] agents[j]

/-- What is found if agents have no capability in common. -/
def sharesNothing (agents : List Agent) : Finding :=
  ⟨.capability, .warning, "agents share no capabilities; collaboration may be ineffective",
    names agents⟩

def ofArea (area : Area) (fs : List Finding) : List Finding :=
  fs.filter fun f => f.area = area

def withoutCapabilities (a : Agent) : Agent :=
  { a with capabilities := ∅ }

variable {agents : List Agent}

theorem Shares.symm {a b : Agent} (h : Shares a b) : Shares b a := by
  obtain ⟨capability, ha, hb⟩ := h
  exact ⟨capability, hb, ha⟩

theorem disjoint_iff_not_shares (a b : Agent) :
    List.Disjoint a.capabilities.names b.capabilities.names ↔ ¬ Shares a b := by
  simp only [List.Disjoint, Shares, Agent.hasCapability, NameMap.mem_names_iff, not_exists, not_and]

theorem sharesNothing_iff_pairwise :
    SharesNothing agents ↔ agents.Pairwise fun a b => ¬ Shares a b := by
  rw [List.pairwise_iff_getElem]
  constructor
  · intro h i j hi hj hij
    exact h i j hi hj (Nat.ne_of_lt hij)
  · intro h i j hi hj hij
    rcases Nat.lt_or_gt_of_ne hij with hlt | hgt
    · exact h i j hi hj hlt
    · exact fun hshares => h j i hj hi hgt hshares.symm

/-! ## Counting -/

theorem foldl_size (agents : List Agent) (n : Nat) :
    agents.foldl (fun n a => n + a.capabilities.size) n =
      n + (agents.flatMap fun a => a.capabilities.names).length := by
  induction agents generalizing n with
  | nil => rfl
  | cons a agents ih =>
    rw [List.foldl_cons, ih, List.flatMap_cons, List.length_append, NameMap.size_eq_length_names,
      Nat.add_assoc]

/-- All capabilities together are as many as those of each agent if no two agents share any. -/
theorem size_capabilities_eq_iff :
    (capabilities agents).size = agents.foldl (fun n a => n + a.capabilities.size) 0 ↔
      SharesNothing agents := by
  have hown : ∀ a ∈ agents, a.capabilities.names.Nodup := fun a _ => a.capabilities.nodup_names
  rw [foldl_size, Nat.zero_add, capabilities, NameSet.size_ofNames_eq_length_iff,
    List.nodup_flatMap, and_iff_right hown, sharesNothing_iff_pairwise]
  exact List.Pairwise.iff fun {a b} => disjoint_iff_not_shares a b

/-! ## What is found -/

theorem capabilityFindings_of_sharesNothing (hlength : 2 ≤ agents.length)
    (h : SharesNothing agents) : capabilityFindings agents = [sharesNothing agents] := by
  rw [capabilityFindings, if_neg (Nat.not_lt.mpr hlength), if_pos (size_capabilities_eq_iff.mpr h)]
  rfl

theorem capabilityFindings_of_not_sharesNothing (h : ¬ SharesNothing agents) :
    capabilityFindings agents = [] := by
  rw [capabilityFindings, if_neg (mt size_capabilities_eq_iff.mp h), ite_self]

theorem capabilityFindings_of_length_lt (h : agents.length < 2) : capabilityFindings agents = [] :=
  if_pos h

/-- Only the last check finds something about capabilities. -/
theorem ofArea_capability_findings : ofArea .capability (findings agents) =
    capabilityFindings agents := by
  have hsecurity : ofArea .capability (securityFindings agents) = [] := by
    refine List.filter_eq_nil_iff.mpr fun f hf => ?_
    simp [((mem_securityFindings_iff agents f).mp hf).2]
  have henvironment : ofArea .capability (environmentFindings agents) = [] := by
    refine List.filter_eq_nil_iff.mpr fun f hf => ?_
    simp [((mem_environmentFindings_iff f).mp hf).2]
  have hcapability : ofArea .capability (capabilityFindings agents) = capabilityFindings agents :=
    List.filter_eq_self.mpr fun f hf => decide_eq_true (mem_capabilityFindings hf).1
  rw [ofArea] at hsecurity henvironment hcapability
  rw [findings, ofArea, List.filter_append, List.filter_append, hsecurity, henvironment,
    hcapability]
  rfl

theorem isCompatible_filter_area :
    isCompatible ((findings agents).filter fun f => f.area ≠ .capability) =
      isCompatible (findings agents) := by
  rw [Bool.eq_iff_iff]
  simp only [isCompatible, List.all_eq_true, List.mem_filter, decide_eq_true_eq]
  constructor
  · intro h f hf
    by_cases harea : f.area = .capability
    · have hmem : f ∈ ofArea .capability (findings agents) :=
        List.mem_filter.mpr ⟨hf, decide_eq_true harea⟩
      rw [ofArea_capability_findings] at hmem
      rw [(mem_capabilityFindings hmem).2]
      decide
    · exact h f ⟨hf, harea⟩
  · exact fun h f hf => h f hf.1

theorem clash_withoutCapabilities_iff (a b : Agent) :
    Clash (withoutCapabilities a) (withoutCapabilities b) ↔ Clash a b := by
  constructor
  · rintro (⟨critical, lower⟩ | ⟨bound, bound', different⟩)
    · exact .level critical lower
    · exact .environment bound bound' different
  · rintro (⟨critical, lower⟩ | ⟨bound, bound', different⟩)
    · exact .level critical lower
    · exact .environment bound bound' different

theorem isCompatible_map_withoutCapabilities (agents : List Agent) :
    isCompatible (findings (agents.map withoutCapabilities)) = isCompatible (findings agents) := by
  rw [Bool.eq_iff_iff, isCompatible_iff, isCompatible_iff]
  simp only [List.forall_mem_map, clash_withoutCapabilities_iff]

/-- Of two agents or more it is found exactly once that they share no capabilities, if those at any
two places have none in common; it is not found if two of them share one, nor of fewer agents.
Agents can work together with or without what is found, and whatever their capabilities are. -/
theorem capability_warning_tells_of_disjoint_capabilities (agents : List Agent) :
    (2 ≤ agents.length → SharesNothing agents →
        ofArea .capability (findings agents) = [sharesNothing agents]) ∧
      (∀ i j, ∀ hi : i < agents.length, ∀ hj : j < agents.length, i ≠ j →
        Shares agents[i] agents[j] → ofArea .capability (findings agents) = []) ∧
      (agents.length < 2 → ofArea .capability (findings agents) = []) ∧
      isCompatible ((findings agents).filter fun f => f.area ≠ .capability) =
        isCompatible (findings agents) ∧
      (∀ others : List Agent,
        others.map withoutCapabilities = agents.map withoutCapabilities →
          isCompatible (findings others) = isCompatible (findings agents)) := by
  rw [ofArea_capability_findings]
  refine ⟨capabilityFindings_of_sharesNothing, fun i j hi hj hij hshares => ?_,
    capabilityFindings_of_length_lt, isCompatible_filter_area, fun others hsame => ?_⟩
  · exact capabilityFindings_of_not_sharesNothing fun h => h i j hi hj hij hshares
  · rw [← isCompatible_map_withoutCapabilities others, hsame, isCompatible_map_withoutCapabilities]

def skilledAgent (name : String) (capabilities : List String) : Agent :=
  { sampleAgent name "all" .medium with capabilities := .ofNames capabilities }

/-- Agents of which one has no capabilities, and the same with the first of them once more. -/
theorem capability_warning_of_skilled_agents :
    ofArea .capability (findings [skilledAgent "coder" ["coding", "testing"],
        skilledAgent "idle" [], skilledAgent "writer" ["writing"]]) =
      [sharesNothing [skilledAgent "coder" ["coding", "testing"], skilledAgent "idle" [],
        skilledAgent "writer" ["writing"]]] ∧
      ofArea .capability (findings [skilledAgent "coder" ["coding", "testing"],
        skilledAgent "idle" [], skilledAgent "coder" ["coding", "testing"]]) = [] := by
  obtain ⟨hwarns, -⟩ := capability_warning_tells_of_disjoint_capabilities
    [skilledAgent "coder" ["coding", "testing"], skilledAgent "idle" [],
      skilledAgent "writer" ["writing"]]
  obtain ⟨-, hshared, -⟩ := capability_warning_tells_of_disjoint_capabilities
    [skilledAgent "coder" ["coding", "testing"], skilledAgent "idle" [],
      skilledAgent "coder" ["coding", "testing"]]
  constructor
  · refine hwarns (by simp) (size_capabilities_eq_iff.mp ?_)
    decide +kernel
  · exact hshared 0 2 (by simp) (by simp) (by simp) ⟨"coding", by decide +kernel, by decide +kernel⟩

end Team

end Roster
