import Roster.Command.Reading
import Roster.Proofs.Command.Declarations
import Roster.Proofs.Definition.SettingsBlock

/-! # What is noted about commands

Nothing in the metadata of a command is lost in silence. Names without meaning and
texts that say nothing are noted, each once, and so are entries for parameters that
are left out. Names without meaning do not matter to anything else.
-/
namespace Roster.Command

theorem Execution.noted (t : CommandType) : (Execution.block t).Noted fun _ => [] :=
  SettingsBlock.noted_of_silent fun _ => rfl

namespace ErrorHandling

theorem holds_fallback :
    Written.record.Holds "fallback_strategy" (Shape.optional Shape.string) (·.fallback) :=
  Record.holds_of rfl (fun _ _ => rfl) (by simp [Written.record, Field.keeps_of])

/-- The fields of error handling whose texts say nothing. -/
def unreadable (m : NameMap Json) : List String :=
  if (m.text? "fallback_strategy").any (Vocabulary.isUnknown FallbackStrategy) then
    ["error_handling.fallback_strategy"]
  else []

theorem noted : block.Noted unreadable :=
  SettingsBlock.noted_of_word FallbackStrategy "error_handling.fallback_strategy" holds_fallback rfl
    fun _ => rfl

theorem fallback_part {m : NameMap Json} {o : Option (WithExtra Written)}
    (ho : Written.record.ReadsAt m "error_handling" o)
    (h : ((m.block "error_handling").text? "fallback_strategy").any
      (Vocabulary.isUnknown FallbackStrategy) = true) : (block.part o).1.fallback = .ask :=
  SettingsBlock.value_of_isUnknown FallbackStrategy "error_handling.fallback_strategy"
    holds_fallback rfl rfl (fun _ => rfl) ho h

end ErrorHandling

namespace Written

theorem holds_type : record.Holds "command_type" (Shape.optional Shape.string) (·.type) :=
  Record.holds_of rfl (fun _ _ => rfl) (by simp [record, SettingsBlock.field, Field.keeps_of])

theorem holds_format : record.Holds "output_format" (Shape.optional Shape.string) (·.format) :=
  Record.holds_of rfl (fun _ _ => rfl) (by simp [record, SettingsBlock.field, Field.keeps_of])

theorem holds_parameters : record.Holds "parameters" .ok (·.parameters) :=
  Record.holds_of rfl (fun _ _ => rfl) (by simp [record, SettingsBlock.field, Field.keeps_of])

theorem holds_execution :
    record.Holds "execution_settings" (Shape.optional Execution.Written.record.ofJson)
      (·.execution) :=
  Record.holds_of rfl (fun _ _ => rfl) (by simp [record, SettingsBlock.field, Field.keeps_of])

theorem holds_errorHandling :
    record.Holds "error_handling" (Shape.optional ErrorHandling.block.record.ofJson)
      (·.errorHandling) :=
  Record.holds_of rfl (fun _ _ => rfl)
    (by simp [record, SettingsBlock.field, ErrorHandling.block, Field.keeps_of])

theorem holds_security :
    record.Holds "security_settings" (Shape.optional SecuritySettings.block.record.ofJson)
      (·.security) :=
  Record.holds_of rfl (fun _ _ => rfl)
    (by simp [record, SettingsBlock.field, SecuritySettings.block, Field.keeps_of])

end Written

/-! ## What has a meaning -/

/-- The names that have a meaning in the metadata of a command. Those of parameters are not among
them. -/
def layout : Layout where
  names := ["command_type", "output_format", "parameters", "execution_settings", "error_handling",
    "context_requirements", "security_settings", "priority", "name", "scope", "tags", "version",
    "author", "description", "created_at", "updated_at"]
  blocks := [("execution_settings", ["pre_execution_checks", "post_execution_actions",
      "timeout_ms", "retry_attempts", "requires_confirmation"]),
    ("error_handling", ["retry_count", "fallback_strategy", "escalation_rules"]),
    ("security_settings", ["restricted", "required_permissions", "security_level"])]

/-- What the metadata of a command says about parameters. -/
def parametersIn (m : NameMap Json) : Json :=
  (m.get? "parameters").getD .null

/-- The places of the names without meaning in the metadata of a command. -/
def unknownPaths (m : NameMap Json) : List String :=
  layout.unknownPaths m ++ Parameter.unknownPaths (parametersIn m)

/-- The places in the metadata of a command that say nothing: words that are not known, timestamps
that are none, and entries that declare no parameter. -/
def unreadable (m : NameMap Json) : List String :=
  (if (m.text? "command_type").any (Vocabulary.isUnknown CommandType) then ["command_type"]
    else []) ++
    (if (m.text? "output_format").any (Vocabulary.isUnknown OutputFormat) then ["output_format"]
      else []) ++
    Parameter.unreadable (parametersIn m) ++ ErrorHandling.unreadable (m.block "error_handling") ++
    SecuritySettings.unreadable (m.block "security_settings") ++ Heading.unreadable m

/-- The value of a name without what has no meaning in it. -/
def tidyValue (key : String) : Json → Json :=
  if key = "parameters" then Parameter.tidyField else layout.tidyValue key

/-- The metadata of a command without the names that have no meaning. -/
def tidy (m : NameMap Json) : NameMap Json :=
  (m.filter fun k _ => layout.names.contains k).mapEntries tidyValue

/-- The values of a command that stand for texts which say nothing. Of the entries of one name the
first declares the parameter. -/
structure FallsBack (m : NameMap Json) (d : Command) : Prop where
  type : (m.text? "command_type").any (Vocabulary.isUnknown CommandType) = true →
    d.type = .generation
  format : (m.text? "output_format").any (Vocabulary.isUnknown OutputFormat) = true →
    d.format = .markdown
  parameters : ∀ n e,
    (Parameter.Entry.entriesOf (parametersIn m)).find? (·.name == some n) = some e →
    ∃ p, d.schema.get? n = some p ∧
      (((Parameter.specOf e.value).text? "type").any (Vocabulary.isUnknown ParameterType) = true →
        p.type = .string)
  fallback : ((m.block "error_handling").text? "fallback_strategy").any
      (Vocabulary.isUnknown FallbackStrategy) = true → d.errorHandling.fallback = .ask
  level : ((m.block "security_settings").text? "security_level").any
      (Vocabulary.isUnknown SecurityLevel) = true → d.security.level = .medium
  createdAt : (m.text? "created_at").any Timestamp.isUnreadable = true → d.heading.createdAt = none
  updatedAt : (m.text? "updated_at").any Timestamp.isUnreadable = true → d.heading.updatedAt = none

namespace Written

/-- What is read of a command without the fields that have no meaning. -/
def tidied (w : Written) : Written :=
  { w with
    parameters := Parameter.tidyField w.parameters
    execution := w.execution.map WithExtra.alone
    errorHandling := w.errorHandling.map WithExtra.alone
    security := w.security.map WithExtra.alone }

theorem tidyValue_of_ne {key : String} (h : key ≠ "parameters") :
    tidyValue key = layout.tidyValue key :=
  if_neg h

theorem carries_plain {β : Type} {key : String} {shape : Shape β}
    {assign : Written → β → Written} (hparameters : key ≠ "parameters")
    (h : ∀ b ∈ layout.blocks, key ≠ b.1)
    (hassign : ∀ w x, assign (tidied w) x = tidied (assign w x)) :
    (Field.of key shape assign).Carries (tidyValue key) tidied := by
  rw [tidyValue_of_ne hparameters]
  exact Layout.carries_plain h hassign

theorem carries_block {β : Type} {key : String} {r : Record β}
    {assign : Written → Option (WithExtra β) → Written} (hparameters : key ≠ "parameters")
    (h : layout.blocks.lookup key = some r.names)
    (hassign : ∀ w x, assign (tidied w) (x.map WithExtra.alone) = tidied (assign w x)) :
    (Field.of key (Shape.optional r.ofJson) assign).Carries (tidyValue key) tidied := by
  rw [tidyValue_of_ne hparameters]
  exact Layout.carries_block h hassign

theorem carries_tidyValue : ∀ f ∈ record.fields, f.Carries (tidyValue f.key) tidied := by
  intro f hf
  simp only [record, List.mem_cons, List.not_mem_nil, or_false] at hf
  rcases hf with rfl | rfl | rfl | rfl | rfl | rfl | rfl | rfl
  · exact carries_plain (by simp) (by simp [layout]) fun _ _ => rfl
  · exact carries_plain (by simp) (by simp [layout]) fun _ _ => rfl
  · rw [Field.key_of, tidyValue, if_pos rfl]
    exact fun _ _ => rfl
  · exact carries_block (by simp) rfl fun _ _ => rfl
  · exact carries_block (by decide) rfl fun _ _ => rfl
  · exact carries_plain (by simp) (by simp [layout]) fun _ _ => rfl
  · exact carries_block (by decide) rfl fun _ _ => rfl
  · exact carries_plain (by simp) (by simp [layout]) fun _ _ => rfl

theorem parameters_mem_names : "parameters" ∈ record.names := by
  decide

theorem block_mem_names : ∀ b ∈ layout.blocks, b.1 ∈ record.names := by
  decide

theorem ofMetadata_tidy (m : NameMap Json) : Heading.ofMetadata record (tidy m) =
    (Heading.ofMetadata record m).map fun (w, h) => (tidied w, h.alone) := by
  refine Heading.ofMetadata_tidy carries_tidyValue (fun k hk => ?_) rfl m
  have hparameters : k ≠ "parameters" := fun heq => hk (heq ▸ parameters_mem_names)
  rw [tidyValue_of_ne hparameters]
  exact Layout.tidyValue_of_plain fun b hb heq => hk (heq ▸ block_mem_names b hb)

theorem apart_from_heading : ∀ k ∈ Heading.Written.record.names, k ∉ record.names := by
  decide

theorem parameters_of_readKnown {m : NameMap Json} {w : Written}
    (hw : record.readKnown m = .ok w) : w.parameters = parametersIn m := by
  have hread := holds_parameters.read hw
  rw [parametersIn]
  cases hm : m.get? "parameters" with
  | none => rw [hm] at hread; exact (Except.ok.inj hread).symm
  | some v => rw [hm] at hread; exact (Except.ok.inj hread).symm

end Written

theorem ofWritten_tidied (c : Configuration) (w : Written) (h : WithExtra Heading.Written)
    (ps : NameMap Parameter × List Issue) :
    ofWritten c (Written.tidied w) h.alone (ps.1, Issue.withoutUnknown ps.2) =
      { ofWritten c w h ps with issues := Issue.withoutUnknown (ofWritten c w h ps).issues } := by
  have htype := (Issue.settled_parseWord CommandType "command_type" w.type).withoutUnknown
  have hformat := (Issue.settled_parseWord OutputFormat "output_format" w.format).withoutUnknown
  have hheading := Heading.withoutUnknown_ofWritten h.known c.version
  simp only [ofWritten, Written.tidied, WithExtra.alone, (Execution.noted _).part_alone,
    ErrorHandling.noted.part_alone, SecuritySettings.noted.part_alone, Issue.withoutUnknown_append,
    Issue.withoutUnknown_unknownFields, htype, hformat, hheading]
  rfl

theorem unknownPaths_layout (m : NameMap Json) :
    layout.unknownPaths m =
      unknownNames (Written.record.names ++ Heading.Written.record.names) m ++
        ((unknownNames Execution.Written.record.names (m.block "execution_settings")).map fun k =>
          "execution_settings" ++ "." ++ k) ++
        ((unknownNames ErrorHandling.Written.record.names (m.block "error_handling")).map fun k =>
          "error_handling" ++ "." ++ k) ++
        ((unknownNames SecuritySettings.Written.record.names
          (m.block "security_settings")).map fun k => "security_settings" ++ "." ++ k) := by
  simp only [Layout.unknownPaths, layout, List.flatMap_cons, List.flatMap_nil, List.append_nil,
    List.append_assoc]
  rfl

section Accepted

variable (c : Configuration) {m : NameMap Json} {w : Written} {h : WithExtra Heading.Written}
  {ps : NameMap Parameter × List Issue}

/-- What is noted while a command is read, part by part. -/
theorem notes_ofWritten (hread : Heading.ofMetadata Written.record m = .ok (w, h))
    (hps : Parameter.schemaOf (parametersIn m) = .ok ps) :
    Issue.Notes (ofWritten c w h ps).issues (unknownPaths m) (unreadable m) := by
  obtain ⟨hw, hh⟩ := Heading.ofMetadata_eq_ok_iff.mp hread
  obtain ⟨hheadingKnown, hextra⟩ := Record.read_eq_ok_iff.mp hh
  have htype := (Issue.settled_parseWord CommandType "command_type" w.type).notes
  have hformat := (Issue.settled_parseWord OutputFormat "output_format" w.format).notes
  have hparameters := Parameter.notes_schemaOf hps
  have hexecution := (Execution.noted (ofWritten c w h ps).type).notes_part
    (Written.holds_execution.readsAt rfl hw)
  have herrors := ErrorHandling.noted.notes_part (Written.holds_errorHandling.readsAt rfl hw)
  have hsecurity := SecuritySettings.noted.notes_part (Written.holds_security.readsAt rfl hw)
  have hunknown := Issue.notes_unknownFields none h.extra
  have hheading := Heading.notes_ofWritten hheadingKnown c.version
  have hnotes := ((((((htype.append hformat).append hparameters).append hexecution).append
    herrors).append hsecurity).append hunknown).append hheading
  have htypeText : w.type = m.text? "command_type" := Written.holds_type.text? rfl hw
  have hformatText : w.format = m.text? "output_format" := Written.holds_format.text? rfl hw
  rw [hextra, Heading.fields_unknownFields_rest, ← hextra] at hnotes
  constructor
  · refine hnotes.unknown.trans ?_
    -- the issues about parameters come first, and those about the names of the command last
    rw [unknownPaths, unknownPaths_layout, List.perm_iff_count]
    intro path
    simp only [List.append_nil, List.nil_append, List.count_append, Execution.block,
      ErrorHandling.block, SecuritySettings.block]
    omega
  · refine hnotes.invalid.trans ?_
    rw [unreadable, ← htypeText, ← hformatText,
      ← Heading.unreadable_rest Written.apart_from_heading m]
    simp only [List.append_nil]
    rfl

theorem fallsBack_ofWritten (hread : Heading.ofMetadata Written.record m = .ok (w, h))
    (hps : Parameter.schemaOf (parametersIn m) = .ok ps) : FallsBack m (ofWritten c w h ps) := by
  obtain ⟨hw, hh⟩ := Heading.ofMetadata_eq_ok_iff.mp hread
  obtain ⟨hcreated, hupdated⟩ := Heading.timestamps_of_unreadable Written.apart_from_heading
    (Record.read_eq_ok_iff.mp hh).1 c.version
  have htype : w.type = m.text? "command_type" := Written.holds_type.text? rfl hw
  have hformat : w.format = m.text? "output_format" := Written.holds_format.text? rfl hw
  constructor
  case type =>
    intro hbad
    rw [← htype] at hbad
    exact (Issue.settled_parseWord CommandType "command_type" w.type).eq_fallback hbad
  case format =>
    intro hbad
    rw [← hformat] at hbad
    exact (Issue.settled_parseWord OutputFormat "output_format" w.format).eq_fallback hbad
  case parameters => exact fun n e he => Parameter.get?_of_schemaOf hps he
  case fallback => exact ErrorHandling.fallback_part (Written.holds_errorHandling.readsAt rfl hw)
  case level => exact SecuritySettings.level_part (Written.holds_security.readsAt rfl hw)
  case createdAt => exact hcreated
  case updatedAt => exact hupdated

end Accepted

/-- Reading a command loses nothing in silence. There is one issue for each name that has no meaning
where it stands, for each text that says nothing and for each entry that declares no parameter.
Defaults stand for such texts, and without the names the command is the same except for the issues
about them. -/
theorem ofConfiguration_accounts_for_metadata {c : Configuration} {d : Command}
    (h : ofConfiguration c = .ok d) :
    (Issue.fieldsOf .unknownField d.issues).Perm (unknownPaths c.metadata) ∧
      Issue.fieldsOf .invalidValue d.issues = unreadable c.metadata ∧
      FallsBack c.metadata d ∧
      ofConfiguration { c with metadata := tidy c.metadata } =
        .ok { d with issues := Issue.withoutUnknown d.issues } := by
  obtain ⟨w, heading, ps, hread, hps, rfl⟩ := ofConfiguration_eq_ok_iff.mp h
  obtain ⟨hw, -⟩ := Heading.ofMetadata_eq_ok_iff.mp hread
  have hparameters := hps
  rw [Written.parameters_of_readKnown hw] at hparameters
  have hnotes := notes_ofWritten c hread hparameters
  refine ⟨hnotes.unknown, hnotes.invalid, fallsBack_ofWritten c hread hparameters, ?_⟩
  rw [ofConfiguration_eq_ok_iff]
  refine ⟨w.tidied, heading.alone, (ps.1, Issue.withoutUnknown ps.2), ?_, ?_, ?_⟩
  · rw [Written.ofMetadata_tidy, hread]
    rfl
  · exact Parameter.schemaOf_tidyField hps
  · exact ofWritten_tidied c w heading ps

/-- Metadata with names without meaning at every level, with texts that say nothing, and with
entries that declare no parameter. -/
def sampleMetadata : NameMap Json :=
  .ofList [("command_type", .string "magic"), ("error_handling", .object [("retries", .ofInt 2),
      ("fallback_strategy", .string "panic")]), ("output_fromat", .string "json"),
    ("parameters", .array [
      .object [("name", .string "count"), ("type", .string "digit"), ("requird", .bool true),
        ("validation", .object [("maxLength", .ofInt 3), ("minn", .ofInt 1)])],
      .object [("name", .string " count "), ("hint", .null)], .string "text"]),
    ("updated_at", .string "soon"), ("version", .string "2")]

def sampleConfiguration : Configuration :=
  ⟨"sample", .project, .command, [], none, sampleMetadata, "", .epoch, ⟨"commands/sample.md"⟩⟩

theorem ofConfiguration_sample_accounts_for_metadata :
    ∃ d, ofConfiguration sampleConfiguration = .ok d ∧
      (Issue.fieldsOf .unknownField d.issues).Perm ["output_fromat", "error_handling.retries",
        "parameters.count.requird", "parameters.count.validation.minn"] ∧
      Issue.fieldsOf .invalidValue d.issues = ["command_type", "parameters.count.type",
        "parameters.count", "parameters", "error_handling.fallback_strategy", "updated_at"] ∧
      (d.type = .generation ∧ d.errorHandling.fallback = .ask ∧ d.heading.updatedAt = none) ∧
      ofConfiguration { sampleConfiguration with metadata := tidy sampleMetadata } =
        .ok { d with issues := Issue.withoutUnknown d.issues } := by
  have hok : (ofConfiguration sampleConfiguration).isOk = true := by decide +kernel
  cases h : ofConfiguration sampleConfiguration with
  | error reason => rw [h] at hok; cases hok
  | ok d =>
    have hpaths : unknownPaths sampleConfiguration.metadata = ["output_fromat",
        "error_handling.retries", "parameters.count.requird",
        "parameters.count.validation.minn"] := by decide +kernel
    have hbad : unreadable sampleConfiguration.metadata = ["command_type",
        "parameters.count.type", "parameters.count", "parameters",
        "error_handling.fallback_strategy", "updated_at"] := by decide +kernel
    obtain ⟨hunknown, hinvalid, hfalls, htidy⟩ := ofConfiguration_accounts_for_metadata h
    rw [hpaths] at hunknown
    rw [hbad] at hinvalid
    refine ⟨d, rfl, hunknown, hinvalid, ⟨hfalls.type ?_, hfalls.fallback ?_, hfalls.updatedAt ?_⟩,
      htidy⟩ <;> decide +kernel

end Roster.Command
