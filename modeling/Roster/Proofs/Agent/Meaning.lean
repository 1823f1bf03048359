import Roster.Proofs.Agent.Reading
import Roster.Proofs.Definition.Meaning

/-! # The meaning of an agent's metadata

What is taken from each block and from the metadata as a whole. Where two
mappings have the same meaning, they give the same agent.
-/
namespace Roster.Agent

namespace Models

def defaults : List (String × Json) := [("fallback_models", .array [])]

theorem lawful : block.Lawful defaults where
  meant :=
    ⟨by simp +contextual [block, Written.record, Field.respects_of],
      by simp [block, Written.record, Field.commutes_of]⟩

end Models

namespace Collaboration

def defaults : List (String × Json) :=
  [("multi_agent", .bool false), ("collaboration_mode", .string "sequential"),
    ("escalation_threshold", .ofDouble (tenths 7))]

theorem lawful : block.Lawful defaults where
  meant :=
    ⟨by simp +contextual [block, Written.record, Field.respects_of],
      by simp [block, Written.record, Field.commutes_of]⟩

end Collaboration

namespace Execution

def defaults : List (String × Json) :=
  [("context_retention", .bool false), ("max_context_size", .ofNat 4096),
    ("auto_verify", .bool false), ("validation_rules", .array []), ("quality_gates", .array [])]

theorem lawful : block.Lawful defaults where
  meant :=
    ⟨by simp +contextual [block, Written.record, Field.respects_of],
      by simp [block, Written.record, Field.commutes_of]⟩

end Execution

/-! ## The metadata as a whole -/

/-- The settings of an agent at their defaults. Tags say nothing in the metadata. -/
def defaults : Defaults where
  own := [("agent_type", .string "custom"), ("capabilities", .array []),
    ("environment", .string "all"), ("priority", .ofInt 0), ("tags", .array [])]
  blocks := [("model_preferences", Models.defaults),
    ("collaboration_settings", Collaboration.defaults),
    ("security_settings", SecuritySettings.defaults), ("execution_settings", Execution.defaults)]

/-- What is taken from the metadata of an agent. -/
structure Said where
  type : AgentType × List Issue
  capabilities : NameSet
  models : Models × List Issue
  collaboration : Collaboration × List Issue
  security : SecuritySettings × List Issue
  execution : Execution × List Issue
  environment : String
  priority : Int
  deriving DecidableEq

namespace Written

def said (w : Written) : Said where
  type := Issue.parseWord "agent_type" w.type
  capabilities := .ofNames w.capabilities
  models := Models.block.part w.models
  collaboration := Collaboration.block.part w.collaboration
  security := SecuritySettings.block.part w.security
  execution := Execution.block.part w.execution
  environment := environmentOf w.environment
  priority := w.priority.getD 0

theorem settings_models : record.Settings said "model_preferences"
    ["model", "fallback_models", "temperature", "max_tokens"] Models.defaults :=
  .of Models.lawful rfl (fun a o o' h => by simp only [said, h]) rfl

theorem settings_collaboration : record.Settings said "collaboration_settings"
    ["multi_agent", "collaboration_mode", "escalation_threshold"] Collaboration.defaults :=
  .of Collaboration.lawful rfl (fun a o o' h => by simp only [said, h]) rfl

theorem settings_security : record.Settings said "security_settings"
    ["restricted", "required_permissions", "security_level"] SecuritySettings.defaults :=
  .of SecuritySettings.lawful rfl (fun a o o' h => by simp only [said, h]) rfl

theorem settings_execution : record.Settings said "execution_settings"
    ["context_retention", "max_context_size", "auto_verify", "validation_rules", "quality_gates"]
    Execution.defaults :=
  .of Execution.lawful rfl (fun a o o' h => by simp only [said, h]) rfl

theorem meant : record.Meant said where
  respects := by
    simp only [record, SettingsBlock.field, List.forall_mem_cons]
    refine ⟨?_, ?_, ?_, ?_, ?_, ?_, ?_, ?_, by simp⟩ <;>
      exact Field.respects_of (by simp +contextual [said])
  commutes := by
    simp [record, SettingsBlock.field, Field.commutes_of]

end Written

theorem described : Described Written.record Written.said layout defaults where
  meant := Written.meant
  names := rfl
  apart := Written.apart_from_heading
  blank := by decide
  blocks := by
    simp only [layout, List.forall_mem_cons]
    exact ⟨⟨_, Written.settings_models⟩, ⟨_, Written.settings_collaboration⟩,
      ⟨_, Written.settings_security⟩, ⟨_, Written.settings_execution⟩, by simp⟩
  default := by decide
  blockDefaults := by
    simp only [defaults, List.forall_mem_cons]
    exact ⟨⟨_, Written.settings_models⟩, ⟨_, Written.settings_collaboration⟩,
      ⟨_, Written.settings_security⟩, ⟨_, Written.settings_execution⟩, by simp⟩

section Configuration

variable {c : Configuration} {m : NameMap Json} {p : List Step} {k : String} {v : Json}

theorem ofWritten_congr (c : Configuration) {x y : Written} (h : x.said = y.said)
    (heading : WithExtra Heading.Written) : ofWritten c x heading = ofWritten c y heading := by
  simp only [Written.said, Said.mk.injEq] at h
  obtain ⟨htype, hcapabilities, hmodels, hcollaboration, hsecurity, hexecution, henvironment,
    hpriority⟩ := h
  simp only [ofWritten, htype, hcapabilities, hmodels, hcollaboration, hsecurity, hexecution,
    henvironment, hpriority]

/-- Metadata that says the same defines the same agent. -/
theorem ofConfiguration_of_said
    (h : Written.record.said Written.said m = Written.record.said Written.said c.metadata) :
    ofConfiguration { c with metadata := m } = ofConfiguration c := by
  refine map_eq_of_map_eq (g := fun r => ofWritten c r.1 r.2) (fun x y hxy => ?_) h
  obtain ⟨hsaid, hheading⟩ := Prod.mk.inj hxy
  rw [ofWritten_congr c hsaid, hheading]

theorem ofConfiguration_without_blank (hs : layout.Setting p k) (hflag : k ∉ plainFlags)
    (hm : (c.metadata.mappingAt p).get? k = some .null) :
    ofConfiguration (c.without p k) = ofConfiguration c :=
  ofConfiguration_of_said (described.said_without_blank hs hflag hm)

theorem ofConfiguration_put_default (hs : defaults.Setting p k v)
    (hm : (c.metadata.mappingAt p).get? k = none) :
    ofConfiguration (c.put p k v) = ofConfiguration c :=
  ofConfiguration_of_said (described.said_put_default hs hm)

theorem ofConfiguration_without_block {a : Agent} {b : String × List String}
    (h : ofConfiguration c = .ok a) (hb : b ∈ layout.blocks) :
    ∃ a', ofConfiguration (c.without [] b.1) = .ok a' := by
  obtain ⟨w, heading, hread, -⟩ := ofConfiguration_eq_ok_iff.mp h
  obtain ⟨w', hread'⟩ := Heading.ofMetadata_erase Written.meant (Written.block_mem_names b hb) hread
  rw [← c.metadata_without] at hread'
  exact ⟨_, ofConfiguration_eq_ok_iff.mpr ⟨w', heading, hread', rfl⟩⟩

theorem ofConfiguration_put_block {b : String × List String} (hb : b ∈ layout.blocks)
    (hv : v = .null ∨ v = .object []) :
    ofConfiguration (c.put [] b.1 v) = ofConfiguration (c.without [] b.1) := by
  have hnone : (c.without [] b.1).metadata.get? b.1 = none := by
    rw [c.metadata_without, NameMap.get?_erase, if_pos rfl]
  rw [← c.put_without]
  refine ofConfiguration_of_said ?_
  rw [NameMap.modify_nil]
  exact described.said_insert_block hb hv hnone

end Configuration

end Roster.Agent
