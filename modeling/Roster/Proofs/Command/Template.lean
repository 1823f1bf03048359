import Roster.Command.Template
import Roster.Proofs.Definition.Meaning
import Roster.Proofs.Definition.Validation
import Roster.Proofs.Registry.Starting

/-! # Starting documents of commands

The metadata is read entry by entry, and each block of settings as the standard
ones. So the command is the standard one of its type with one parameter, and
there is nothing to note or to doubt about it.
-/
namespace Roster.Command

variable (name : String) (type : CommandType)

theorem parse_word : Vocabulary.parse (Vocabulary.word type) = .ok type := by
  cases type <;> rfl

theorem Execution.read_standard :
    Written.record.read (.ofList [
      ("timeout_ms", .ofNat (standard type).timeoutMs),
      ("retry_attempts", .ofNat (standard type).retryAttempts),
      ("requires_confirmation", .bool (standard type).requiresConfirmation)]) =
      .ok ⟨⟨[], [], some standardTimeoutMs, some 0, some (confirmsByDefault type)⟩, ∅⟩ := by
  have htimeout : Shape.optional Shape.nat64 (.ofNat standardTimeoutMs) =
      .ok (some standardTimeoutMs) := by decide +kernel
  have hretry : Shape.optional Shape.nat32 (.ofNat 0) = .ok (some 0) := by decide +kernel
  refine Record.read_ofList (by simp [Written.record, Record.names]) ?_
  simp only [standard, List.foldl, insertEntry, String.reduceLT, ↓reduceIte]
  refine foldlM_cons_eq_ok_iff.mpr ⟨_, rfl, ?_⟩
  refine foldlM_cons_eq_ok_iff.mpr ⟨_, Record.set_of_shape rfl hretry _, ?_⟩
  exact foldlM_cons_eq_ok_iff.mpr ⟨_, Record.set_of_shape rfl htimeout _, rfl⟩

theorem ErrorHandling.read_standard :
    Written.record.read (.ofList [
      ("retry_count", .ofNat standard.retryCount),
      ("fallback_strategy", Vocabulary.toJson standard.fallback)]) =
      .ok ⟨⟨some 0, some "prompt", []⟩, ∅⟩ := by
  refine Record.read_ofList (by decide) ?_
  simp only [List.foldl, insertEntry, String.reduceLT, ↓reduceIte]
  rfl

/-- The parameter that stands as an example in a starting document. -/
def target : Parameter := ⟨.string, true, some "What the command operates on", none, none⟩

/-- The parameter as it is written. -/
def targetFields : List (String × Json) :=
  [("type", Vocabulary.toJson ParameterType.string), ("required", .bool true),
    ("description", .string "What the command operates on")]

theorem schemaOf_target : Parameter.schemaOf (.ofFields [("target", .ofFields targetFields)]) =
    .ok (.insert ∅ "target" target, []) := by
  have hread : Parameter.Written.record.read (.ofList targetFields) =
      .ok ⟨⟨none, some "string", true, target.description, none, none⟩, ∅⟩ := by
    refine Record.read_ofList (by decide) ?_
    simp only [targetFields, List.foldl, insertEntry, String.reduceLT, ↓reduceIte]
    rfl
  have hwritten : Parameter.Written.ofJson "target" (.ofFields targetFields) =
      .ok ⟨⟨none, some "string", true, target.description, none, none⟩, ∅⟩ := by
    rw [Json.ofFields, Json.ofMap, Parameter.Written.ofJson, NameMap.ofList_entries, hread]
    rfl
  change Parameter.ofFields (.ofList (NameMap.ofList [_]).entries) = _
  rw [NameMap.ofList_entries]
  change [("target", _)].foldlM _ _ = _
  refine foldlM_cons_eq_ok_iff.mpr ⟨_, ?_, rfl⟩
  change (Parameter.Written.ofJson "target" _ >>= _) = _
  rw [hwritten]
  rfl

theorem entries_template : (template name type).metadata.entries = [
    ("command_type", Vocabulary.toJson type),
    ("description", .string ("Describe what " ++ name ++ " does")),
    ("error_handling", .ofFields [
      ("retry_count", .ofNat ErrorHandling.standard.retryCount),
      ("fallback_strategy", Vocabulary.toJson ErrorHandling.standard.fallback)]),
    ("execution_settings", .ofFields [
      ("timeout_ms", .ofNat (Execution.standard type).timeoutMs),
      ("retry_attempts", .ofNat (Execution.standard type).retryAttempts),
      ("requires_confirmation", .bool (Execution.standard type).requiresConfirmation)]),
    ("name", .string name),
    ("output_format", Vocabulary.toJson (startingFormat type)),
    ("parameters", .ofFields [("target", .ofFields targetFields)]),
    ("security_settings", .ofFields SecuritySettings.standard.fields),
    ("tags", .strings ["command"]),
    ("version", .string "1.0.0")] := by
  simp only [template, targetFields, NameMap.entries_ofList, List.foldl, insertEntry,
    String.reduceLT, String.reduceEq, ↓reduceIte]

/-- What is written in the metadata of a starting document. -/
def Written.starting : Written where
  type := some (Vocabulary.word type)
  format := some (Vocabulary.word (startingFormat type))
  parameters := .ofFields [("target", .ofFields targetFields)]
  execution :=
    some ⟨⟨[], [], some Execution.standardTimeoutMs, some 0, some (confirmsByDefault type)⟩, ∅⟩
  errorHandling := some ⟨⟨some 0, some "prompt", []⟩, ∅⟩
  contextRequirements := []
  security := some ⟨⟨false, [], some "medium"⟩, ∅⟩
  priority := none

theorem Written.extra_template :
    record.extra (template name type).metadata = Heading.starting name "command" := by
  refine NameMap.ext ?_
  change (template name type).metadata.entries.filter _ = _
  rw [entries_template, Heading.entries_starting]
  rfl

theorem Written.readKnown_template :
    record.readKnown (template name type).metadata = .ok (starting type) := by
  have hexecution := Record.optional_ofJson_ofFields (Execution.read_standard type)
  have herrors := Record.optional_ofJson_ofFields ErrorHandling.read_standard
  have hsecurity := Record.optional_ofJson_ofFields SecuritySettings.read_standard
  rw [Record.readKnown_of_entries _ (entries_template name type)]
  refine foldlM_cons_eq_ok_iff.mpr ⟨_, rfl, ?_⟩
  refine foldlM_cons_eq_ok_iff.mpr ⟨_, rfl, ?_⟩
  refine foldlM_cons_eq_ok_iff.mpr ⟨_, Record.set_of_shape rfl herrors _, ?_⟩
  refine foldlM_cons_eq_ok_iff.mpr ⟨_, Record.set_of_shape rfl hexecution _, ?_⟩
  refine foldlM_cons_eq_ok_iff.mpr ⟨_, rfl, ?_⟩
  refine foldlM_cons_eq_ok_iff.mpr ⟨_, rfl, ?_⟩
  refine foldlM_cons_eq_ok_iff.mpr ⟨_, rfl, ?_⟩
  refine foldlM_cons_eq_ok_iff.mpr ⟨_, Record.set_of_shape rfl hsecurity _, ?_⟩
  rfl

/-- The command of a starting document: its settings are the standard ones of its type. -/
def started (c : Configuration) : Command where
  name := c.name
  scope := c.scope
  tags := c.tags
  version := c.version
  content := c.content
  lastModified := c.lastModified
  path := c.path
  type
  format := startingFormat type
  schema := .insert ∅ "target" target
  execution := .standard type
  errorHandling := .standard
  contextRequirements := []
  security := .standard
  priority := 0
  heading := ⟨none, c.version, some ("Describe what " ++ name ++ " does"), none, none⟩
  issues := []

theorem ofConfiguration_of_template {c : Configuration}
    (hm : c.metadata = (template name type).metadata) :
    ofConfiguration c = .ok (started name type c) := by
  have hmetadata : Heading.ofMetadata Written.record c.metadata = .ok (Written.starting type,
      ⟨⟨none, some ("Describe what " ++ name ++ " does"), none, none⟩, ∅⟩) := by
    rw [hm, Heading.ofMetadata_eq_ok_iff, Written.extra_template]
    exact ⟨Written.readKnown_template name type, Heading.read_starting name "command"⟩
  have htype := Issue.parseWord_of_parse (parse_word type) "command_type"
  have hformat : Vocabulary.parse (Vocabulary.word (startingFormat type)) =
      .ok (startingFormat type) := by
    cases type <;> rfl
  have hformat := Issue.parseWord_of_parse hformat "output_format"
  refine ofConfiguration_eq_ok_iff.mpr ⟨_, _, _, hmetadata, schemaOf_target, ?_⟩
  simp only [ofWritten, Written.starting, htype, hformat]
  rfl

theorem isStarting_template : (template name type).IsStarting name where
  named := by simp [NameMap.get?, entries_template]
  unscoped := by simp [NameMap.get?, entries_template]
  tagged := by
    have htags : (template name type).metadata.get? "tags" = some (.strings ["command"]) := by
      simp [NameMap.get?, entries_template]
    rw [Document.tags, htags]
    rfl
  versioned := by
    rw [entries_template]
    rfl
  headlined := by simp [template]

/-- There are no doubts about such a command, so it is valid if name and body are not blank. -/
theorem validate_started (patterns : PatternReader) {c : Configuration}
    (hname : Text.isAllBlank c.name.toList = false)
    (hcontent : Text.isAllBlank c.content.toList = false) :
    (started name type c).validate patterns = ⟨true, [], []⟩ := by
  have hsays := says_validate patterns (started name type c)
  have hfaults : (started name type c).faults = [] :=
    (faults_eq_nil_iff _).mpr ⟨hname, hcontent⟩
  have hdoubts : (started name type c).doubts = [] := by
    cases type <;> rfl
  rw [hfaults, hdoubts] at hsays
  exact Report.eq_of_says_nothing hsays

end Roster.Command
