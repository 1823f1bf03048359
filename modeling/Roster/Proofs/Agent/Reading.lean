import Roster.Agent.Reading
import Roster.Proofs.Definition.SettingsBlock

/-! # What is noted about agents

Nothing in the metadata of an agent is lost in silence. Names without meaning and
texts that say nothing are noted, each once, and names without meaning do not
matter to anything else.
-/
namespace Roster.Agent

theorem Models.noted : Models.block.Noted fun _ => [] :=
  SettingsBlock.noted_of_silent fun _ => rfl

namespace Collaboration

theorem holds_mode :
    Written.record.Holds "collaboration_mode" (Shape.optional Shape.string) (·.mode) := by
  refine Record.holds_of rfl (fun _ _ => rfl) ?_
  simp [Written.record, Field.keeps_of]

/-- The fields of collaboration settings whose texts say nothing. -/
def unreadable (m : NameMap Json) : List String :=
  if (m.text? "collaboration_mode").any (Vocabulary.isUnknown CollaborationMode) then
    ["collaboration_settings.collaboration_mode"]
  else []

theorem noted : block.Noted unreadable :=
  SettingsBlock.noted_of_word CollaborationMode "collaboration_settings.collaboration_mode"
    holds_mode rfl fun _ => rfl

theorem mode_part {m : NameMap Json} {o : Option (WithExtra Written)}
    (ho : Written.record.ReadsAt m "collaboration_settings" o)
    (h : ((m.block "collaboration_settings").text? "collaboration_mode").any
      (Vocabulary.isUnknown CollaborationMode) = true) : (block.part o).1.mode = .sequential :=
  SettingsBlock.value_of_isUnknown CollaborationMode "collaboration_settings.collaboration_mode"
    holds_mode rfl rfl (fun _ => rfl) ho h

end Collaboration

theorem Execution.noted : Execution.block.Noted fun _ => [] :=
  SettingsBlock.noted_of_silent fun _ => rfl

namespace Written

theorem holds_type : record.Holds "agent_type" (Shape.optional Shape.string) (·.type) :=
  Record.holds_of rfl (fun _ _ => rfl) (by simp [record, SettingsBlock.field, Field.keeps_of])

theorem holds_models :
    record.Holds "model_preferences" (Shape.optional Models.block.record.ofJson) (·.models) :=
  Record.holds_of rfl (fun _ _ => rfl)
    (by simp [record, SettingsBlock.field, Models.block, Field.keeps_of])

theorem holds_collaboration :
    record.Holds "collaboration_settings" (Shape.optional Collaboration.block.record.ofJson)
      (·.collaboration) :=
  Record.holds_of rfl (fun _ _ => rfl)
    (by simp [record, SettingsBlock.field, Collaboration.block, Field.keeps_of])

theorem holds_security :
    record.Holds "security_settings" (Shape.optional SecuritySettings.block.record.ofJson)
      (·.security) :=
  Record.holds_of rfl (fun _ _ => rfl)
    (by simp [record, SettingsBlock.field, SecuritySettings.block, Field.keeps_of])

theorem holds_execution :
    record.Holds "execution_settings" (Shape.optional Execution.block.record.ofJson)
      (·.execution) :=
  Record.holds_of rfl (fun _ _ => rfl)
    (by simp [record, SettingsBlock.field, Execution.block, Field.keeps_of])

end Written

/-- The names that have a meaning in the metadata of an agent. -/
def layout : Layout where
  names := ["agent_type", "capabilities", "model_preferences", "collaboration_settings",
    "security_settings", "execution_settings", "environment", "priority", "name", "scope", "tags",
    "version", "author", "description", "created_at", "updated_at"]
  blocks := [("model_preferences", ["model", "fallback_models", "temperature", "max_tokens"]),
    ("collaboration_settings", ["multi_agent", "collaboration_mode", "escalation_threshold"]),
    ("security_settings", ["restricted", "required_permissions", "security_level"]),
    ("execution_settings", ["context_retention", "max_context_size", "auto_verify",
      "validation_rules", "quality_gates"])]

/-- The places of the texts in the metadata of an agent that say nothing: words that are not known,
and timestamps that are none. -/
def unreadable (m : NameMap Json) : List String :=
  (if (m.text? "agent_type").any (Vocabulary.isUnknown AgentType) then ["agent_type"] else []) ++
    Collaboration.unreadable (m.block "collaboration_settings") ++
    SecuritySettings.unreadable (m.block "security_settings") ++ Heading.unreadable m

namespace Written

/-- What is read of an agent without the fields that have no meaning. -/
def tidied (w : Written) : Written :=
  { w with
    models := w.models.map WithExtra.alone
    collaboration := w.collaboration.map WithExtra.alone
    security := w.security.map WithExtra.alone
    execution := w.execution.map WithExtra.alone }

theorem carries_tidyValue : ∀ f ∈ record.fields, f.Carries (layout.tidyValue f.key) tidied := by
  intro f hf
  simp only [record, List.mem_cons, List.not_mem_nil, or_false] at hf
  rcases hf with rfl | rfl | rfl | rfl | rfl | rfl | rfl | rfl
  · exact Layout.carries_plain (by simp [layout]) fun _ _ => rfl
  · exact Layout.carries_plain (by simp [layout]) fun _ _ => rfl
  · exact Layout.carries_block rfl fun _ _ => rfl
  · exact Layout.carries_block rfl fun _ _ => rfl
  · exact Layout.carries_block rfl fun _ _ => rfl
  · exact Layout.carries_block rfl fun _ _ => rfl
  · exact Layout.carries_plain (by simp [layout]) fun _ _ => rfl
  · exact Layout.carries_plain (by simp [layout]) fun _ _ => rfl

theorem block_mem_names : ∀ b ∈ layout.blocks, b.1 ∈ record.names := by
  decide

theorem ofMetadata_tidy (m : NameMap Json) : Heading.ofMetadata record (layout.tidy m) =
    (Heading.ofMetadata record m).map fun (w, h) => (tidied w, h.alone) :=
  Heading.ofMetadata_tidy carries_tidyValue
    (fun _ hk => Layout.tidyValue_of_plain fun b hb heq => hk (heq ▸ block_mem_names b hb)) rfl m

theorem apart_from_heading : ∀ k ∈ Heading.Written.record.names, k ∉ record.names := by
  decide

end Written

theorem ofWritten_tidied (c : Configuration) (w : Written) (h : WithExtra Heading.Written) :
    ofWritten c (Written.tidied w) h.alone =
      { ofWritten c w h with issues := Issue.withoutUnknown (ofWritten c w h).issues } := by
  have htype := (Issue.settled_parseWord AgentType "agent_type" w.type).withoutUnknown
  have hheading := Heading.withoutUnknown_ofWritten h.known c.version
  simp only [ofWritten, Written.tidied, WithExtra.alone, Models.noted.part_alone,
    Collaboration.noted.part_alone, SecuritySettings.noted.part_alone, Execution.noted.part_alone,
    Issue.withoutUnknown_append, Issue.withoutUnknown_unknownFields, htype, hheading]
  rfl

/-- What is noted while an agent is read, part by part. -/
theorem notes_ofWritten (c : Configuration) {m : NameMap Json} {w : Written}
    {h : WithExtra Heading.Written} (hread : Heading.ofMetadata Written.record m = .ok (w, h)) :
    Issue.Notes (ofWritten c w h).issues (layout.unknownPaths m) (unreadable m) := by
  obtain ⟨hw, hh⟩ := Heading.ofMetadata_eq_ok_iff.mp hread
  obtain ⟨hheadingKnown, hextra⟩ := Record.read_eq_ok_iff.mp hh
  have htype := (Issue.settled_parseWord AgentType "agent_type" w.type).notes
  have hmodels := Models.noted.notes_part (Written.holds_models.readsAt rfl hw)
  have hcollaboration :=
    Collaboration.noted.notes_part (Written.holds_collaboration.readsAt rfl hw)
  have hsecurity := SecuritySettings.noted.notes_part (Written.holds_security.readsAt rfl hw)
  have hexecution := Execution.noted.notes_part (Written.holds_execution.readsAt rfl hw)
  have hunknown := Issue.notes_unknownFields none h.extra
  have hheading := Heading.notes_ofWritten hheadingKnown c.version
  have hnotes := (((((htype.append hmodels).append hcollaboration).append hsecurity).append
    hexecution).append hunknown).append hheading
  have htext : w.type = m.text? "agent_type" := Written.holds_type.text? rfl hw
  rw [hextra, Heading.fields_unknownFields_rest, ← hextra] at hnotes
  constructor
  · refine hnotes.unknown.trans ?_
    rw [List.append_nil, List.nil_append, Layout.unknownPaths]
    refine List.perm_append_comm.trans ?_
    simp only [layout, List.flatMap_cons, List.flatMap_nil, List.append_nil, List.append_assoc]
    rfl
  · refine hnotes.invalid.trans ?_
    rw [unreadable, ← htext, ← Heading.unreadable_rest Written.apart_from_heading m]
    simp only [List.append_nil]
    rfl

theorem mem_unreadable_iff (m : NameMap Json) :
    ("agent_type" ∈ unreadable m ↔
        (m.text? "agent_type").any (Vocabulary.isUnknown AgentType) = true) ∧
      ("collaboration_settings.collaboration_mode" ∈ unreadable m ↔
        ((m.block "collaboration_settings").text? "collaboration_mode").any
          (Vocabulary.isUnknown CollaborationMode) = true) ∧
      ("security_settings.security_level" ∈ unreadable m ↔
        ((m.block "security_settings").text? "security_level").any
          (Vocabulary.isUnknown SecurityLevel) = true) ∧
      ("created_at" ∈ unreadable m ↔
        (m.text? "created_at").any Timestamp.isUnreadable = true) ∧
      ("updated_at" ∈ unreadable m ↔
        (m.text? "updated_at").any Timestamp.isUnreadable = true) := by
  simp [unreadable, Collaboration.unreadable, SecuritySettings.unreadable, Heading.unreadable]

theorem defaults_ofWritten (c : Configuration) {m : NameMap Json} {w : Written}
    {h : WithExtra Heading.Written} (hread : Heading.ofMetadata Written.record m = .ok (w, h)) :
    ("agent_type" ∈ unreadable m → (ofWritten c w h).type = .custom) ∧
      ("collaboration_settings.collaboration_mode" ∈ unreadable m →
        (ofWritten c w h).collaboration.mode = .sequential) ∧
      ("security_settings.security_level" ∈ unreadable m →
        (ofWritten c w h).security.level = .medium) ∧
      ("created_at" ∈ unreadable m → (ofWritten c w h).heading.createdAt = none) ∧
      ("updated_at" ∈ unreadable m → (ofWritten c w h).heading.updatedAt = none) := by
  obtain ⟨hw, hh⟩ := Heading.ofMetadata_eq_ok_iff.mp hread
  have htimestamps := Heading.timestamps_of_unreadable Written.apart_from_heading
    (Record.read_eq_ok_iff.mp hh).1 c.version
  obtain ⟨hmemType, hmemMode, hmemLevel, hmemCreated, hmemUpdated⟩ := mem_unreadable_iff m
  refine ⟨fun hbad => ?_, fun hbad => ?_, fun hbad => ?_, fun hbad => ?_, fun hbad => ?_⟩
  · have htype : w.type = m.text? "agent_type" := Written.holds_type.text? rfl hw
    rw [hmemType, ← htype] at hbad
    exact (Issue.settled_parseWord AgentType "agent_type" w.type).eq_fallback hbad
  · exact Collaboration.mode_part (Written.holds_collaboration.readsAt rfl hw)
      (hmemMode.mp hbad)
  · exact SecuritySettings.level_part (Written.holds_security.readsAt rfl hw)
      (hmemLevel.mp hbad)
  · exact htimestamps.1 (hmemCreated.mp hbad)
  · exact htimestamps.2 (hmemUpdated.mp hbad)

/-- Reading an agent loses nothing in silence. There is one issue for each name that has no meaning
where it stands and for each text that says nothing, a default stands for the latter, and without
the former the agent is the same except for the issues about them. -/
theorem ofConfiguration_notes_losses {c : Configuration} {a : Agent}
    (h : ofConfiguration c = .ok a) :
    (Issue.fieldsOf .unknownField a.issues).Perm (layout.unknownPaths c.metadata) ∧
      Issue.fieldsOf .invalidValue a.issues = unreadable c.metadata ∧
      (("agent_type" ∈ unreadable c.metadata → a.type = .custom) ∧
        ("collaboration_settings.collaboration_mode" ∈ unreadable c.metadata →
          a.collaboration.mode = .sequential) ∧
        ("security_settings.security_level" ∈ unreadable c.metadata → a.security.level = .medium) ∧
        ("created_at" ∈ unreadable c.metadata → a.heading.createdAt = none) ∧
        ("updated_at" ∈ unreadable c.metadata → a.heading.updatedAt = none)) ∧
      ofConfiguration { c with metadata := layout.tidy c.metadata } =
        .ok { a with issues := Issue.withoutUnknown a.issues } := by
  rw [ofConfiguration] at h ⊢
  cases hread : Heading.ofMetadata Written.record c.metadata with
  | error reason => rw [hread] at h; cases h
  | ok r =>
    obtain ⟨w, heading⟩ := r
    rw [hread] at h
    have ha : ofWritten c w heading = a := Except.ok.inj h
    have hnotes := notes_ofWritten c hread
    have hdefaults := defaults_ofWritten c hread
    have htidied := ofWritten_tidied c w heading
    rw [ha] at hnotes hdefaults htidied
    refine ⟨hnotes.unknown, hnotes.invalid, hdefaults, ?_⟩
    rw [Written.ofMetadata_tidy, hread]
    exact congrArg Except.ok htidied

/-- Metadata with names without meaning at both levels, and with texts that say nothing. -/
def sampleMetadata : NameMap Json :=
  .ofList [("agent_type", .string "wizard"), ("created_at", .string "2024-01-05"),
    ("execution_settings", .null), ("model_preferences", .object [("modell", .string "x")]),
    ("prioritty", .ofInt 3), ("security_settings", .object [("restricted", .bool true),
      ("security_level", .string "extreme"), ("agent_type", .null)]),
    ("updated_at", .string "soon"), ("version", .string "2")]

def sampleConfiguration : Configuration :=
  ⟨"sample", .project, .agent, [], none, sampleMetadata, "", .epoch, ⟨"agents/sample.md"⟩⟩

theorem ofConfiguration_sample_notes_losses :
    ∃ a, ofConfiguration sampleConfiguration = .ok a ∧
      (Issue.fieldsOf .unknownField a.issues).Perm
        ["prioritty", "model_preferences.modell", "security_settings.agent_type"] ∧
      Issue.fieldsOf .invalidValue a.issues =
        ["agent_type", "security_settings.security_level", "updated_at"] ∧
      (a.type = .custom ∧ a.security.level = .medium ∧ a.heading.updatedAt = none) ∧
      ofConfiguration { sampleConfiguration with metadata := layout.tidy sampleMetadata } =
        .ok { a with issues := Issue.withoutUnknown a.issues } := by
  have hok : (ofConfiguration sampleConfiguration).isOk = true := by decide +kernel
  cases h : ofConfiguration sampleConfiguration with
  | error reason => rw [h] at hok; cases hok
  | ok a =>
    have hpaths : layout.unknownPaths sampleConfiguration.metadata =
        ["prioritty", "model_preferences.modell", "security_settings.agent_type"] := by
      decide +kernel
    have hbad : unreadable sampleConfiguration.metadata =
        ["agent_type", "security_settings.security_level", "updated_at"] := by decide +kernel
    obtain ⟨hunknown, hinvalid, ⟨htype, -, hlevel, -, hupdated⟩, htidy⟩ :=
      ofConfiguration_notes_losses h
    rw [hpaths] at hunknown
    rw [hbad] at hinvalid htype hlevel hupdated
    exact ⟨a, rfl, hunknown, hinvalid, ⟨htype (by simp), hlevel (by simp), hupdated (by simp)⟩,
      htidy⟩

end Roster.Agent
