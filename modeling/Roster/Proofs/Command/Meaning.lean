import Roster.Proofs.Command.Entries
import Roster.Proofs.Command.Reading

/-! # The meaning of a command's metadata

What is taken from each block, from the parameters and from the metadata as a
whole. Whether a command is to be confirmed may depend on its type, so the meaning
is that for commands of one type.
-/
namespace Roster.Command

namespace Execution

/-- The settings at their defaults, for commands of a type. -/
def defaults (t : CommandType) : List (String × Json) :=
  [("pre_execution_checks", .array []), ("post_execution_actions", .array []),
    ("timeout_ms", .ofNat 30000), ("retry_attempts", .ofNat 0),
    ("requires_confirmation", .bool (confirmsByDefault t))]

theorem lawful (t : CommandType) : (block t).Lawful (defaults t) where
  meant :=
    ⟨by simp +contextual [block, Written.record, Field.respects_of],
      by simp [block, Written.record, Field.commutes_of]⟩
  blank := by cases t <;> decide
  defaults := by cases t <;> decide

end Execution

namespace ErrorHandling

def defaults : List (String × Json) :=
  [("retry_count", .ofNat 0), ("fallback_strategy", .string "prompt"),
    ("escalation_rules", .array [])]

theorem lawful : block.Lawful defaults where
  meant :=
    ⟨by simp +contextual [block, Written.record, Field.respects_of],
      by simp [block, Written.record, Field.commutes_of]⟩

end ErrorHandling

/-- A name with a meaning in the mapping at a place of the metadata of a command. -/
inductive Setting : List Step → String → Prop
  | own {p : List Step} {k : String} (h : layout.Setting p k) : Setting p k
  | parameter (s : Step) {q : List Step} {k : String} (h : Parameter.layout.Setting q k) :
    Setting (.key "parameters" :: s :: q) k

/-- The settings of a command of some type at their defaults, apart from those of its parameters.
Tags say nothing in the metadata. -/
def defaults (t : CommandType) : Defaults where
  own := [("command_type", .string "generation"), ("output_format", .string "markdown"),
    ("context_requirements", .array []), ("priority", .ofInt 0), ("tags", .array [])]
  blocks := [("execution_settings", Execution.defaults t),
    ("error_handling", ErrorHandling.defaults), ("security_settings", SecuritySettings.defaults)]

/-- A setting in the mapping at a place of the metadata of a command of some type, with its default.
Parameters have settings as far as there are entries for them. -/
inductive Default (t : CommandType) (m : NameMap Json) : List Step → String → Json → Prop
  | own {p : List Step} {k : String} {v : Json} (h : (defaults t).Setting p k v) : Default t m p k v
  | parameter {s : Step} {x : Json} {q : List Step} {k : String} {v : Json}
    (hx : m.at? [.key "parameters", s] = some x) (h : Parameter.defaults.Setting q k v) :
    Default t m (.key "parameters" :: s :: q) k v

/-- What is taken from the metadata of a command. -/
structure Said where
  type : CommandType × List Issue
  format : OutputFormat × List Issue
  parameters : Except String (NameMap Parameter × List Issue)
  execution : Execution × List Issue
  errorHandling : ErrorHandling × List Issue
  contextRequirements : List String
  security : SecuritySettings × List Issue
  priority : Int

namespace Written

variable (t : CommandType)

def said (w : Written) : Said where
  type := Issue.parseWord "command_type" w.type
  format := Issue.parseWord "output_format" w.format
  parameters := Parameter.schemaOf w.parameters
  execution := (Execution.block t).part w.execution
  errorHandling := ErrorHandling.block.part w.errorHandling
  contextRequirements := w.contextRequirements
  security := SecuritySettings.block.part w.security
  priority := w.priority.getD 0

theorem meant : record.Meant (said t) where
  respects := by
    simp only [record, SettingsBlock.field, List.forall_mem_cons]
    refine ⟨?_, ?_, ?_, ?_, ?_, ?_, ?_, ?_, by simp⟩ <;>
      exact Field.respects_of (by simp +contextual [said])
  commutes := by
    simp [record, SettingsBlock.field, Field.commutes_of]

theorem settings_execution : record.Settings (said t) "execution_settings"
    ["pre_execution_checks", "post_execution_actions", "timeout_ms", "retry_attempts",
      "requires_confirmation"] (Execution.defaults t) :=
  .of (Execution.lawful t) rfl (fun a o o' h => by simp only [said, h]) rfl

theorem settings_errorHandling : record.Settings (said t) "error_handling"
    ["retry_count", "fallback_strategy", "escalation_rules"] ErrorHandling.defaults :=
  .of ErrorHandling.lawful rfl (fun a o o' h => by simp only [said, h]) rfl

theorem settings_security : record.Settings (said t) "security_settings"
    ["restricted", "required_permissions", "security_level"] SecuritySettings.defaults :=
  .of SecuritySettings.lawful rfl (fun a o o' h => by simp only [said, h]) rfl

end Written

theorem described (t : CommandType) :
    Described Written.record (Written.said t) layout (defaults t) where
  meant := Written.meant t
  names := rfl
  apart := Written.apart_from_heading
  blank := by
    simp only [Written.record, Record.names, List.map_cons, List.map_nil, List.forall_mem_cons]
    exact ⟨rfl, rfl, rfl, rfl, rfl, rfl, rfl, rfl, by simp⟩
  blocks := by
    simp only [layout, List.forall_mem_cons]
    exact ⟨⟨_, Written.settings_execution t⟩, ⟨_, Written.settings_errorHandling t⟩,
      ⟨_, Written.settings_security t⟩, by simp⟩
  default := by
    simp only [defaults, List.forall_mem_cons]
    exact ⟨.inl ⟨by decide, rfl⟩, .inl ⟨by decide, rfl⟩, .inl ⟨by decide, rfl⟩,
      .inl ⟨by decide, rfl⟩, .inr trivial, by simp⟩
  blockDefaults := by
    simp only [defaults, List.forall_mem_cons]
    exact ⟨⟨_, Written.settings_execution t⟩, ⟨_, Written.settings_errorHandling t⟩,
      ⟨_, Written.settings_security t⟩, by simp⟩

/-- The type of a command with this metadata. -/
def typeIn (m : NameMap Json) : CommandType :=
  (Issue.parseWord "command_type" (m.text? "command_type") : CommandType × List Issue).1

section Configuration

variable {c : Configuration} {m : NameMap Json} {f : NameMap Json → NameMap Json} {p : List Step}
  {k : String} {v : Json}

theorem ofWritten_congr (c : Configuration) {t : CommandType} {x y : Written}
    (h : x.said t = y.said t)
    (ht : (Issue.parseWord "command_type" y.type : CommandType × List Issue).1 = t)
    (heading : WithExtra Heading.Written) (ps : NameMap Parameter × List Issue) :
    ofWritten c x heading ps = ofWritten c y heading ps := by
  simp only [Written.said, Said.mk.injEq] at h
  obtain ⟨htype, hformat, -, hexecution, herrors, hcontext, hsecurity, hpriority⟩ := h
  simp only [ofWritten, htype, ht, hformat, hexecution, herrors, hcontext, hsecurity, hpriority]

/-- Metadata that says the same defines the same command. -/
theorem ofConfiguration_of_said
    (h : Written.record.said (Written.said (typeIn c.metadata)) m =
      Written.record.said (Written.said (typeIn c.metadata)) c.metadata) :
    ofConfiguration { c with metadata := m } = ofConfiguration c := by
  rw [Record.said, Record.said] at h
  rw [ofConfiguration, ofConfiguration]
  dsimp only
  rcases map_eq_map_cases h with ⟨e, hr', hr⟩ | ⟨⟨w', heading'⟩, ⟨w, heading⟩, hr', hr, hsame⟩
  · rw [hr', hr]
    rfl
  · obtain ⟨hsaid, rfl⟩ := Prod.mk.inj hsame
    have htype : w.type = c.metadata.text? "command_type" :=
      Written.holds_type.text? rfl (Heading.ofMetadata_eq_ok_iff.mp hr).1
    have hparameters : Parameter.schemaOf w'.parameters = Parameter.schemaOf w.parameters :=
      congrArg Said.parameters hsaid
    rw [hr', hr]
    change (do
      let ps ← Parameter.schemaOf w'.parameters
      pure (ofWritten c w' heading' ps)) =
        (do let ps ← Parameter.schemaOf w.parameters; pure (ofWritten c w heading' ps))
    rw [hparameters]
    refine bind_congr fun ps => ?_
    rw [ofWritten_congr c hsaid (by rw [htype]; rfl)]

theorem ofConfiguration_modify_parameter {s : Step} {q : List Step} {x : Json}
    (hx : c.metadata.at? [.key "parameters", s] = some x) (hq : ∀ i r, q ≠ .item i :: r)
    (h : (Parameter.Written.record.read (x.mapping.modify f q)).map
        (WithExtra.map Parameter.Written.meaning) =
      (Parameter.Written.record.read x.mapping).map (WithExtra.map Parameter.Written.meaning)) :
    ofConfiguration (c.modify f (.key "parameters" :: s :: q)) = ofConfiguration c := by
  rw [NameMap.at?_cons, Json.step?, Json.mapping_ofMap] at hx
  obtain ⟨v, hv, hx⟩ := Option.bind_eq_some_iff.mp hx
  have hstep : v.step? s = some x := by
    rw [Json.at?] at hx
    obtain ⟨y, hy, hyx⟩ := Option.bind_eq_some_iff.mp hx
    exact hy.trans hyx
  refine ofConfiguration_of_said (Record.said_congr ?_)
  rw [NameMap.modify_key, hv, Option.getD_some]
  have hsame := Parameter.schemaOf_modify_entry hstep hq h
  have hrespects := (Written.meant (typeIn c.metadata)).respectsAt
  refine (Record.read_insert_congr Written.parameters_mem_names hrespects (v := v)
    (fun a => ?_) _).trans ?_
  · refine congrArg Except.ok ?_
    simp only [Written.said, hsame]
  · rw [NameMap.insert_eq_self hv]

theorem mappingAt_parameter (m : NameMap Json) (s : Step) (q : List Step) :
    m.mappingAt (.key "parameters" :: s :: q) = m.mappingAt ([.key "parameters", s] ++ q) := rfl

theorem ofConfiguration_without_blank (hs : Setting p k) (hflag : k ∉ plainFlags)
    (hm : (c.metadata.mappingAt p).get? k = some .null)
    (halone : ∀ n, n ≠ k → Constraints.firstName n = Constraints.firstName k →
      (c.metadata.mappingAt p).get? n = none) :
    ofConfiguration (c.without p k) = ofConfiguration c := by
  cases hs with
  | own hs => exact ofConfiguration_of_said ((described _).said_without_blank hs hflag hm)
  | parameter s hs =>
    rw [mappingAt_parameter] at hm halone
    cases hx : c.metadata.at? [.key "parameters", s] with
    | none =>
      rw [c.metadata.mappingAt_append_of_none hx] at hm
      cases hm
    | some x =>
      rw [c.metadata.mappingAt_append hx hs.ne_item] at hm halone
      exact ofConfiguration_modify_parameter hx hs.ne_item
        (Parameter.Written.read_modify_blank hs hflag hm halone)

theorem ofConfiguration_put_default (hs : Default (typeIn c.metadata) c.metadata p k v)
    (hm : (c.metadata.mappingAt p).get? k = none) :
    ofConfiguration (c.put p k v) = ofConfiguration c := by
  cases hs with
  | own hs => exact ofConfiguration_of_said ((described _).said_put_default hs hm)
  | parameter hx hs =>
    rw [mappingAt_parameter, c.metadata.mappingAt_append hx hs.ne_item] at hm
    exact ofConfiguration_modify_parameter hx hs.ne_item
      (Parameter.Written.read_modify_default hs hm)

/-- The parameters and the blocks of settings. -/
def blockNames : List String := "parameters" :: layout.blocks.map (·.1)

theorem Written.blockNames_subset : ∀ b ∈ blockNames, b ∈ record.names := by
  decide

theorem Written.neutral_block (t : CommandType) {b : String} (hb : b ∈ blockNames)
    (hv : v = .null ∨ v = .object []) : record.Neutral (said t) b v := by
  rcases List.mem_cons.mp hb with rfl | hb
  · rcases hv with rfl | rfl <;> rfl
  · obtain ⟨b, hmem, rfl⟩ := List.mem_map.mp hb
    obtain ⟨l, hblock⟩ := (described t).blocks b hmem
    exact hblock.neutral hv

theorem ofConfiguration_without_block {d : Command} {b : String}
    (h : ofConfiguration c = .ok d) (hb : b ∈ blockNames) :
    ∃ d', ofConfiguration (c.without [] b) = .ok d' := by
  obtain ⟨w, heading, ps, hread, hps, -⟩ := ofConfiguration_eq_ok_iff.mp h
  obtain ⟨w', hread'⟩ := Heading.ofMetadata_erase (Written.meant .generation)
    (Written.blockNames_subset b hb) hread
  have hparameters : ∃ ps', Parameter.schemaOf w'.parameters = .ok ps' := by
    rw [Written.parameters_of_readKnown (Heading.ofMetadata_eq_ok_iff.mp hread').1, parametersIn,
      NameMap.get?_erase]
    split
    · exact ⟨_, rfl⟩
    · rw [Written.parameters_of_readKnown (Heading.ofMetadata_eq_ok_iff.mp hread).1,
        parametersIn] at hps
      exact ⟨ps, hps⟩
  obtain ⟨ps', hps'⟩ := hparameters
  rw [← c.metadata_without] at hread'
  exact ⟨_, ofConfiguration_eq_ok_iff.mpr ⟨w', heading, ps', hread', hps', rfl⟩⟩

theorem ofConfiguration_put_block {b : String} (hb : b ∈ blockNames)
    (hv : v = .null ∨ v = .object []) :
    ofConfiguration (c.put [] b v) = ofConfiguration (c.without [] b) := by
  have hnone : (c.without [] b).metadata.get? b = none := by
    rw [c.metadata_without, NameMap.get?_erase, if_pos rfl]
  rw [← c.put_without]
  refine ofConfiguration_of_said (Record.said_congr ?_)
  rw [NameMap.modify_nil]
  exact (Written.meant _).read_insert (Written.blockNames_subset b hb)
    (Written.neutral_block _ hb hv) hnone

end Configuration

end Roster.Command
