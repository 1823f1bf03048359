import Roster.Agent.Validation
import Roster.Proofs.Agent.Reading
import Roster.Proofs.Command.Contradictions
import Roster.Proofs.Command.Reading

/-! # Valid definitions

A definition is valid if it is what its document says. Of the issues about its
metadata none is lost: those about its type and its security level are errors, and
all others are warnings.
-/
namespace Roster

/-- A field holds a text that is none of the words for the values of a type. -/
def Vocabulary.Misspelt (α : Type) [Vocabulary α] (m : NameMap Json) (key : String) : Prop :=
  ∃ s, m.text? key = some s ∧ ∀ a : α, parse s ≠ .ok a

theorem Vocabulary.misspelt_iff (α : Type) [Vocabulary α] (m : NameMap Json) (key : String) :
    Misspelt α m key ↔ (m.text? key).any (isUnknown α) = true := by
  have hunknown : ∀ s : String, isUnknown α s = true ↔ ∀ a : α, parse s ≠ .ok a := by
    intro s
    rw [isUnknown]
    cases (parse s : Except String α) <;> simp
  rw [Misspelt, Option.any_eq_true]
  simp only [hunknown]

namespace Report

/-- What is reported about a definition of some name and content, for any issues about its
metadata. There are errors in front of those that issues make and behind them, and warnings in
front of those that issues make. -/
structure Judges (essential : List String) (report : List Issue → Report) (name content : String)
    (faults later doubts : List String) (sound : Prop) : Prop where
  messages : ∀ issues, (report issues).Says
    (faults ++ (issues.filter fun i => i.IsEssential essential).map Issue.text ++ later)
    (doubts ++ (issues.filter fun i => ¬ i.IsEssential essential).map Issue.text)
  valid_iff : ∀ issues, (report issues).isValid = true ↔
    Text.isAllBlank name.toList = false ∧ Text.isAllBlank content.toList = false ∧
      (∀ i ∈ issues, ¬ i.IsEssential essential) ∧ sound

variable {essential : List String} {report : List Issue → Report} {name content : String}
  {faults later doubts : List String} {sound : Prop}

/-- A report is valid if nothing is found in any of the places in which errors are found. -/
theorem judges_of_messages
    (messages : ∀ issues, (report issues).Says
      (faults ++ (issues.filter fun i => i.IsEssential essential).map Issue.text ++ later)
      (doubts ++ (issues.filter fun i => ¬ i.IsEssential essential).map Issue.text))
    (hfaults : faults = [] ↔
      Text.isAllBlank name.toList = false ∧ Text.isAllBlank content.toList = false)
    (hlater : later = [] ↔ sound) :
    Judges essential report name content faults later doubts sound := by
  refine ⟨messages, fun issues => ?_⟩
  have hissues : (issues.filter fun i => i.IsEssential essential).map Issue.text = [] ↔
      ∀ i ∈ issues, ¬ i.IsEssential essential := by
    simp [List.filter_eq_nil_iff]
  rw [(messages issues).valid, (messages issues).errors, List.append_eq_nil_iff, List.append_eq_nil_iff,
    hfaults, hissues, hlater]
  tauto

theorem Judges.isValid_eq_false
    (h : Judges essential report name content faults later doubts sound) {issues : List Issue}
    (hissue : ∃ i ∈ issues, i.IsEssential essential) : (report issues).isValid = false := by
  obtain ⟨i, hi, hessential⟩ := hissue
  rw [Bool.eq_false_iff]
  intro hvalid
  exact ((h.valid_iff issues).mp hvalid).2.2.1 i hi hessential

end Report

theorem Issue.exists_isEssential_iff (essential : List String) (l : List Issue) :
    (∃ i ∈ l, i.IsEssential essential) ↔ ∃ f ∈ fieldsOf .invalidValue l, f ∈ essential := by
  simp only [fieldsOf, IsEssential, List.mem_map, List.mem_filter, decide_eq_true_eq]
  constructor
  · rintro ⟨i, hi, hkind, hf⟩
    exact ⟨i.field, ⟨i, ⟨hi, hkind⟩, rfl⟩, hf⟩
  · rintro ⟨_, ⟨i, ⟨hi, hkind⟩, rfl⟩, hf⟩
    exact ⟨i, hi, hkind, hf⟩

/-! ## Agents -/

namespace Agent

theorem faults_eq_nil_iff (a : Agent) :
    a.faults = [] ↔
      Text.isAllBlank a.name.toList = false ∧ Text.isAllBlank a.content.toList = false := by
  simp [faults]

theorem says_validate (a : Agent) :
    a.validate.Says
      (a.faults ++ (a.issues.filter fun i => i.IsEssential essentialFields).map Issue.text)
      (a.doubts ++ (a.issues.filter fun i => ¬ i.IsEssential essentialFields).map Issue.text) := by
  have hfaults := Report.says_empty.foldl_error a.faults
  have hessential := hfaults.failEssential a.issues essentialFields
  have hdoubts := hessential.foldl_warning a.doubts
  exact hdoubts.warnOthers a.issues essentialFields

theorem judges_validate (a : Agent) :
    Report.Judges essentialFields (fun issues => ({ a with issues } : Agent).validate) a.name
      a.content a.faults [] a.doubts True := by
  refine Report.judges_of_messages (fun issues => ?_) a.faults_eq_nil_iff (iff_of_true rfl trivial)
  rw [List.append_nil]
  exact says_validate { a with issues }

/-- An agent has an essential issue if its type or its security level is misspelt. -/
theorem exists_isEssential_iff {c : Configuration} {a : Agent} (h : ofConfiguration c = .ok a) :
    (∃ i ∈ a.issues, i.IsEssential essentialFields) ↔
      Vocabulary.Misspelt AgentType c.metadata "agent_type" ∨
        Vocabulary.Misspelt SecurityLevel (c.metadata.block "security_settings")
          "security_level" := by
  obtain ⟨w, heading, hread, rfl⟩ := ofConfiguration_eq_ok_iff.mp h
  obtain ⟨htype, -, hlevel, -, -⟩ := mem_unreadable_iff c.metadata
  rw [Issue.exists_isEssential_iff, (notes_ofWritten c hread).invalid, Vocabulary.misspelt_iff,
    Vocabulary.misspelt_iff, ← htype, ← hlevel]
  simp [essentialFields, and_or_left, exists_or]

end Agent

/-! ## Commands -/

namespace Command

theorem faults_eq_nil_iff (c : Command) :
    c.faults = [] ↔
      Text.isAllBlank c.name.toList = false ∧ Text.isAllBlank c.content.toList = false := by
  simp [faults]

theorem parameterFaults_eq_nil_iff (patterns : PatternReader) (schema : NameMap Parameter) :
    (schema.entries.flatMap fun e => parameterFaults patterns e.1 e.2) = [] ↔
      ∀ n p k, schema.get? n = some p → ¬ p.Contradicts patterns k := by
  rw [List.flatMap_eq_nil_iff]
  constructor
  · intro hnone n p k hp hk
    have hmem : k.text n ∈ parameterFaults patterns n p :=
      (mem_parameterFaults_iff p).mpr ⟨k, hk, rfl⟩
    rw [hnone (n, p) ((NameMap.mem_entries_iff ..).mpr hp)] at hmem
    cases hmem
  · rintro hfree ⟨n, p⟩ hp
    refine List.eq_nil_iff_forall_not_mem.mpr fun message hmessage => ?_
    obtain ⟨k, hk, -⟩ := (mem_parameterFaults_iff p).mp hmessage
    exact hfree n p k ((NameMap.mem_entries_iff ..).mp hp) hk

theorem judges_validate (patterns : PatternReader) (c : Command) :
    Report.Judges essentialFields (fun issues => ({ c with issues } : Command).validate patterns)
      c.name c.content c.faults
      (c.schema.entries.flatMap fun e => parameterFaults patterns e.1 e.2)
      ((c.schema.entries.flatMap fun e => parameterDoubts e.1 e.2) ++ c.doubts)
      (∀ n p k, c.schema.get? n = some p → ¬ p.Contradicts patterns k) :=
  Report.judges_of_messages (fun issues => says_validate patterns { c with issues })
    c.faults_eq_nil_iff (parameterFaults_eq_nil_iff patterns c.schema)

theorem mem_unreadable_iff (m : NameMap Json) :
    ("command_type" ∈ unreadable m ↔
        (m.text? "command_type").any (Vocabulary.isUnknown CommandType) = true) ∧
      ("security_settings.security_level" ∈ unreadable m ↔
        ((m.block "security_settings").text? "security_level").any
          (Vocabulary.isUnknown SecurityLevel) = true) := by
  -- places in the field for parameters are none of the two
  have htype : "command_type" ∉ Parameter.unreadable (parametersIn m) := fun h =>
    absurd (Parameter.prefix_of_mem_unreadable h) (by decide)
  have hlevel : "security_settings.security_level" ∉ Parameter.unreadable (parametersIn m) :=
    fun h => absurd (Parameter.prefix_of_mem_unreadable h) (by decide)
  simp [unreadable, ErrorHandling.unreadable, SecuritySettings.unreadable, Heading.unreadable,
    htype, hlevel]

/-- A command has an essential issue if its type or its security level is misspelt. -/
theorem exists_isEssential_iff {c : Configuration} {d : Command} (h : ofConfiguration c = .ok d) :
    (∃ i ∈ d.issues, i.IsEssential essentialFields) ↔
      Vocabulary.Misspelt CommandType c.metadata "command_type" ∨
        Vocabulary.Misspelt SecurityLevel (c.metadata.block "security_settings")
          "security_level" := by
  obtain ⟨w, heading, ps, hread, hps, rfl⟩ := ofConfiguration_eq_ok_iff.mp h
  rw [Written.parameters_of_readKnown (Heading.ofMetadata_eq_ok_iff.mp hread).1] at hps
  obtain ⟨htype, hlevel⟩ := mem_unreadable_iff c.metadata
  rw [Issue.exists_isEssential_iff, (notes_ofWritten c hread hps).invalid,
    Vocabulary.misspelt_iff, Vocabulary.misspelt_iff, ← htype, ← hlevel]
  simp [essentialFields, and_or_left, exists_or]

end Command

/-- Of a definition each issue about its metadata is reported once, in order: as an error if it is
about the value of an essential field, and else as a warning. The report is valid if it has no
errors, which is so if name and content are not blank, no issue is essential and, for commands, no
parameter has a contradiction. What is read from a document has an essential issue if its type or
its security level is misspelt, so with a misspelt level it is never valid. -/
theorem reports_follow_documents (patterns : PatternReader) :
    (∀ a : Agent,
      Report.Judges ["agent_type", "security_settings.security_level"]
        (fun issues => ({ a with issues } : Agent).validate) a.name a.content a.faults [] a.doubts
        True) ∧
    (∀ c : Command,
      Report.Judges ["command_type", "security_settings.security_level"]
        (fun issues => ({ c with issues } : Command).validate patterns) c.name c.content c.faults
        (c.schema.entries.flatMap fun e => Command.parameterFaults patterns e.1 e.2)
        ((c.schema.entries.flatMap fun e => Command.parameterDoubts e.1 e.2) ++ c.doubts)
        (∀ n p k, c.schema.get? n = some p → ¬ p.Contradicts patterns k)) ∧
    (∀ (c : Configuration) (a : Agent), Agent.ofConfiguration c = .ok a →
      ((∃ i ∈ a.issues, i.IsEssential ["agent_type", "security_settings.security_level"]) ↔
        Vocabulary.Misspelt AgentType c.metadata "agent_type" ∨
          Vocabulary.Misspelt SecurityLevel (c.metadata.block "security_settings")
            "security_level") ∧
      (Vocabulary.Misspelt SecurityLevel (c.metadata.block "security_settings") "security_level" →
        a.validate.isValid = false)) ∧
    ∀ (c : Configuration) (d : Command), Command.ofConfiguration c = .ok d →
      ((∃ i ∈ d.issues, i.IsEssential ["command_type", "security_settings.security_level"]) ↔
        Vocabulary.Misspelt CommandType c.metadata "command_type" ∨
          Vocabulary.Misspelt SecurityLevel (c.metadata.block "security_settings")
            "security_level") ∧
      (Vocabulary.Misspelt SecurityLevel (c.metadata.block "security_settings") "security_level" →
        (d.validate patterns).isValid = false) := by
  refine ⟨Agent.judges_validate, Command.judges_validate patterns, fun c a ha => ?_,
    fun c d hd => ?_⟩
  · have hissues := Agent.exists_isEssential_iff ha
    exact ⟨hissues, fun hlevel =>
      (Agent.judges_validate a).isValid_eq_false (hissues.mpr (.inr hlevel))⟩
  · have hissues := Command.exists_isEssential_iff hd
    exact ⟨hissues, fun hlevel =>
      (Command.judges_validate patterns d).isValid_eq_false (hissues.mpr (.inr hlevel))⟩

/-- A command whose type and security level are both misspelt. -/
def Command.misspeltConfiguration : Configuration :=
  { sampleConfiguration with
    metadata := .ofList [("command_type", .string "magic"),
      ("security_settings", .object [("security_level", .string "hihg")])] }

/-- The samples: with their levels misspelt neither the agent nor the command is valid. -/
theorem reports_of_samples_follow_documents :
    (∃ a, Agent.ofConfiguration Agent.sampleConfiguration = .ok a ∧ a.validate.isValid = false) ∧
      ∃ d, Command.ofConfiguration Command.misspeltConfiguration = .ok d ∧
        (d.validate samplePatterns).isValid = false ∧
        ∃ i ∈ d.issues, i.IsEssential ["command_type", "security_settings.security_level"] := by
  obtain ⟨-, -, hagents, hcommands⟩ := reports_follow_documents samplePatterns
  constructor
  · have hok : (Agent.ofConfiguration Agent.sampleConfiguration).isOk = true := by decide +kernel
    cases h : Agent.ofConfiguration Agent.sampleConfiguration with
    | error reason => rw [h] at hok; cases hok
    | ok a =>
      have hlevel : Vocabulary.Misspelt SecurityLevel
          (Agent.sampleConfiguration.metadata.block "security_settings") "security_level" :=
        (Vocabulary.misspelt_iff ..).mpr (by decide +kernel)
      exact ⟨a, rfl, (hagents _ a h).2 hlevel⟩
  · have hok : (Command.ofConfiguration Command.misspeltConfiguration).isOk = true := by
      decide +kernel
    cases h : Command.ofConfiguration Command.misspeltConfiguration with
    | error reason => rw [h] at hok; cases hok
    | ok d =>
      have hlevel : Vocabulary.Misspelt SecurityLevel
          (Command.misspeltConfiguration.metadata.block "security_settings") "security_level" :=
        (Vocabulary.misspelt_iff ..).mpr (by decide +kernel)
      obtain ⟨hissues, hinvalid⟩ := hcommands _ d h
      exact ⟨d, rfl, hinvalid hlevel, hissues.mpr (.inr hlevel)⟩

end Roster
