import Roster.Agent.Template
import Roster.Proofs.Definition.Meaning
import Roster.Proofs.Definition.Validation
import Roster.Proofs.Registry.Starting

/-! # Starting documents of agents

The metadata is read entry by entry, and each block of settings as the standard
ones. So the agent is the standard one of its type, and there is nothing to note
or to doubt about it.
-/
namespace Roster.Agent

variable (name : String) (type : AgentType)

theorem parse_word : Vocabulary.parse (Vocabulary.word type) = .ok type := by
  cases type <;> rfl

theorem Collaboration.read_standard :
    Written.record.read (.ofList [
      ("multi_agent", .bool standard.multiAgent),
      ("collaboration_mode", Vocabulary.toJson standard.mode),
      ("escalation_threshold", .ofDouble standard.escalationThreshold)]) =
      .ok ⟨⟨false, some "sequential", some standard.escalationThreshold⟩, ∅⟩ := by
  refine Record.read_ofList (by decide) ?_
  simp only [List.foldl, insertEntry, String.reduceLT, String.reduceEq, ↓reduceIte]
  rfl

theorem Execution.read_standard :
    Written.record.read (.ofList [
      ("context_retention", .bool standard.contextRetention),
      ("max_context_size", .ofNat standard.maxContextSize)]) =
      .ok ⟨⟨some false, some 4096, false, [], []⟩, ∅⟩ := by
  refine Record.read_ofList (by decide) ?_
  simp only [List.foldl, insertEntry, String.reduceLT, String.reduceEq, ↓reduceIte]
  rfl

theorem entries_template : (template name type).metadata.entries = [
    ("agent_type", Vocabulary.toJson type),
    ("capabilities", .strings [startingCapability type]),
    ("collaboration_settings", .ofFields [
      ("multi_agent", .bool Collaboration.standard.multiAgent),
      ("collaboration_mode", Vocabulary.toJson Collaboration.standard.mode),
      ("escalation_threshold", .ofDouble Collaboration.standard.escalationThreshold)]),
    ("description", .string ("Describe what " ++ name ++ " does")),
    ("execution_settings", .ofFields [
      ("context_retention", .bool Execution.standard.contextRetention),
      ("max_context_size", .ofNat Execution.standard.maxContextSize)]),
    ("name", .string name),
    ("security_settings", .ofFields SecuritySettings.standard.fields),
    ("tags", .strings ["agent"]),
    ("version", .string "1.0.0")] := by
  simp only [template, NameMap.entries_ofList, List.foldl, insertEntry, String.reduceLT,
    String.reduceEq, ↓reduceIte]

/-- What is written in the metadata of a starting document. -/
def Written.starting : Written where
  type := some (Vocabulary.word type)
  capabilities := [startingCapability type]
  models := none
  collaboration :=
    some ⟨⟨false, some "sequential", some Collaboration.standard.escalationThreshold⟩, ∅⟩
  security := some ⟨⟨false, [], some "medium"⟩, ∅⟩
  execution := some ⟨⟨some false, some 4096, false, [], []⟩, ∅⟩
  environment := none
  priority := none

theorem Written.extra_template :
    record.extra (template name type).metadata = Heading.starting name "agent" := by
  refine NameMap.ext ?_
  change (template name type).metadata.entries.filter _ = _
  rw [entries_template, Heading.entries_starting]
  rfl

theorem Written.readKnown_template :
    record.readKnown (template name type).metadata = .ok (starting type) := by
  have hcapability : Shape.stringList (.strings [startingCapability type]) =
      .ok [startingCapability type] := by
    cases type <;> rfl
  have hcollaboration := Record.optional_ofJson_ofFields Collaboration.read_standard
  have hsecurity := Record.optional_ofJson_ofFields SecuritySettings.read_standard
  have hexecution := Record.optional_ofJson_ofFields Execution.read_standard
  rw [Record.readKnown_of_entries _ (entries_template name type)]
  refine foldlM_cons_eq_ok_iff.mpr ⟨_, rfl, ?_⟩
  refine foldlM_cons_eq_ok_iff.mpr ⟨_, Record.set_of_shape rfl hcapability _, ?_⟩
  refine foldlM_cons_eq_ok_iff.mpr ⟨_, Record.set_of_shape rfl hcollaboration _, ?_⟩
  refine foldlM_cons_eq_ok_iff.mpr ⟨_, rfl, ?_⟩
  refine foldlM_cons_eq_ok_iff.mpr ⟨_, Record.set_of_shape rfl hexecution _, ?_⟩
  refine foldlM_cons_eq_ok_iff.mpr ⟨_, rfl, ?_⟩
  refine foldlM_cons_eq_ok_iff.mpr ⟨_, Record.set_of_shape rfl hsecurity _, ?_⟩
  rfl

/-- The agent of a starting document: all its settings are the standard ones. -/
def started (c : Configuration) : Agent where
  name := c.name
  scope := c.scope
  tags := c.tags
  version := c.version
  content := c.content
  lastModified := c.lastModified
  path := c.path
  type
  capabilities := .ofNames [startingCapability type]
  models := .standard
  collaboration := .standard
  security := .standard
  execution := .standard
  environment := anyEnvironment
  priority := 0
  heading := ⟨none, c.version, some ("Describe what " ++ name ++ " does"), none, none⟩
  issues := []

theorem ofConfiguration_of_template {c : Configuration}
    (hm : c.metadata = (template name type).metadata) :
    ofConfiguration c = .ok (started name type c) := by
  have hmetadata : Heading.ofMetadata Written.record c.metadata = .ok (Written.starting type,
      ⟨⟨none, some ("Describe what " ++ name ++ " does"), none, none⟩, ∅⟩) := by
    rw [hm, Heading.ofMetadata_eq_ok_iff, Written.extra_template]
    exact ⟨Written.readKnown_template name type, Heading.read_starting name "agent"⟩
  have htype := Issue.parseWord_of_parse (parse_word type) "agent_type"
  refine ofConfiguration_eq_ok_iff.mpr ⟨_, _, hmetadata, ?_⟩
  simp only [ofWritten, Written.starting, htype]
  rfl

/-- There are no doubts about such an agent, so it is valid if name and body are not blank. -/
theorem validate_started {c : Configuration} (hname : Text.isAllBlank c.name.toList = false)
    (hcontent : Text.isAllBlank c.content.toList = false) :
    (started name type c).validate = ⟨true, [], []⟩ := by
  have hsays := says_validate (started name type c)
  have hfaults : (started name type c).faults = [] :=
    (faults_eq_nil_iff _).mpr ⟨hname, hcontent⟩
  have hdoubts : (started name type c).doubts = [] := rfl
  rw [hfaults, hdoubts] at hsays
  exact Report.eq_of_says_nothing hsays

theorem isStarting_template : (template name type).IsStarting name where
  named := by simp [NameMap.get?, entries_template]
  unscoped := by simp [NameMap.get?, entries_template]
  tagged := by
    have htags : (template name type).metadata.get? "tags" = some (.strings ["agent"]) := by
      simp [NameMap.get?, entries_template]
    rw [Document.tags, htags]
    rfl
  versioned := by
    rw [entries_template]
    rfl
  headlined := by simp [template]

end Roster.Agent
