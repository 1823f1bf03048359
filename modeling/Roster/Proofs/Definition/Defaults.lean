import Roster.Proofs.Agent.Meaning
import Roster.Proofs.Command.Meaning

/-! # Settings that say nothing

A setting that is written at its default, a block without settings and a setting
that is left blank mean what a missing one means, with all that is noted about the
metadata. Only a plain flag cannot be left blank.
-/
namespace Roster

theorem Command.type_of_ofConfiguration {c : Configuration} {d : Command}
    (h : ofConfiguration c = .ok d) : d.type = typeIn c.metadata := by
  obtain ⟨w, heading, ps, hread, -, rfl⟩ := ofConfiguration_eq_ok_iff.mp h
  obtain ⟨hw, -⟩ := Heading.ofMetadata_eq_ok_iff.mp hread
  rw [typeIn, ← Written.holds_type.text? rfl hw]
  rfl

/-- Only the words for deployments ask for commands that are confirmed. -/
theorem Command.confirmsByDefault_typeIn (m : NameMap Json) :
    confirmsByDefault (typeIn m) = true ↔
      ∃ s, m.get? "command_type" = some (.string s) ∧
        Vocabulary.parse s = .ok CommandType.deployment := by
  rw [typeIn, NameMap.text?]
  constructor
  · intro h
    cases hm : m.get? "command_type" with
    | none =>
      rw [hm] at h
      cases h
    | some v =>
      rw [hm] at h
      cases v with
      | string s =>
        refine ⟨s, rfl, ?_⟩
        change confirmsByDefault (Issue.parseWord "command_type" (some s)).1 = true at h
        rw [Issue.parseWord] at h
        cases hs : (Vocabulary.parse s : Except String CommandType) with
        | ok t =>
          rw [hs] at h
          rw [eq_of_beq (show (t == CommandType.deployment) = true from h)]
        | error reason =>
          rw [hs] at h
          cases h
      | _ => cases h
  · rintro ⟨s, hs, hparse⟩
    rw [hs]
    change confirmsByDefault (Issue.parseWord "command_type" (some s)).1 = true
    rw [Issue.parseWord_of_parse hparse]
    rfl

theorem Command.Execution.holds_requiresConfirmation :
    Written.record.Holds "requires_confirmation" (Shape.optional Shape.bool)
      (·.requiresConfirmation) := by
  refine Record.holds_of rfl (fun _ _ => rfl) ?_
  simp [Written.record, Field.keeps_of]

/-- Where nothing is said about confirmation, the type decides. -/
theorem Command.requiresConfirmation_of_unset {c : Configuration} {d : Command}
    (h : ofConfiguration c = .ok d)
    (hunset : ((c.metadata.block "execution_settings").get? "requires_confirmation").getD .null =
      .null) :
    d.execution.requiresConfirmation = confirmsByDefault (typeIn c.metadata) := by
  rw [← type_of_ofConfiguration h]
  obtain ⟨w, heading, ps, hread, -, rfl⟩ := ofConfiguration_eq_ok_iff.mp h
  obtain ⟨hw, -⟩ := Heading.ofMetadata_eq_ok_iff.mp hread
  rcases Written.holds_execution.readsAt rfl hw with ⟨hnone, -⟩ | ⟨e, hsome, he⟩
  · simp only [ofWritten, hnone]
    rfl
  · have hconfirmation :=
      Execution.holds_requiresConfirmation.read (Record.read_eq_ok_iff.mp he).1
    have hunwritten : e.known.requiresConfirmation = none := by
      cases hget : (c.metadata.block "execution_settings").get? "requires_confirmation" with
      | none =>
        rw [hget] at hconfirmation
        exact (Except.ok.inj hconfirmation).symm
      | some v =>
        rw [hget] at hconfirmation hunset
        rw [show v = .null from hunset] at hconfirmation
        exact (Except.ok.inj hconfirmation).symm
    simp only [ofWritten, hsome, SettingsBlock.part, SettingsBlock.ofWritten, Execution.block,
      hunwritten]
    rfl

/-- Spelling out a default changes nothing. A block may be left out, null or empty, and a setting
that is missing may be written at its default. Without a word on it, exactly those commands are
confirmed whose type reads as deployment. -/
theorem defaults_can_be_spelled_out (c : Configuration) :
    (∀ a, Agent.ofConfiguration c = .ok a →
      (∀ b ∈ Agent.layout.blocks, ∃ a', Agent.ofConfiguration (c.without [] b.1) = .ok a' ∧
        Agent.ofConfiguration (c.put [] b.1 .null) = .ok a' ∧
        Agent.ofConfiguration (c.put [] b.1 (.object [])) = .ok a') ∧
      ∀ p k v, Agent.defaults.Setting p k v → (c.metadata.mappingAt p).get? k = none →
        Agent.ofConfiguration (c.put p k v) = .ok a) ∧
    ∀ d, Command.ofConfiguration c = .ok d →
      (∀ b ∈ Command.blockNames, ∃ d', Command.ofConfiguration (c.without [] b) = .ok d' ∧
        Command.ofConfiguration (c.put [] b .null) = .ok d' ∧
        Command.ofConfiguration (c.put [] b (.object [])) = .ok d') ∧
      (∀ p k v, Command.Default d.type c.metadata p k v →
        (c.metadata.mappingAt p).get? k = none → Command.ofConfiguration (c.put p k v) = .ok d) ∧
      (((c.metadata.block "execution_settings").get? "requires_confirmation").getD .null = .null →
        (d.execution.requiresConfirmation = true ↔
          ∃ s, c.metadata.get? "command_type" = some (.string s) ∧
            Vocabulary.parse s = .ok CommandType.deployment)) := by
  refine ⟨fun a ha => ⟨fun b hb => ?_, fun p k v hs hm => ?_⟩,
    fun d hd => ⟨fun b hb => ?_, fun p k v hs hm => ?_, fun hunset => ?_⟩⟩
  · obtain ⟨a', ha'⟩ := Agent.ofConfiguration_without_block ha hb
    exact ⟨a', ha', (Agent.ofConfiguration_put_block hb (.inl rfl)).trans ha',
      (Agent.ofConfiguration_put_block hb (.inr rfl)).trans ha'⟩
  · exact (Agent.ofConfiguration_put_default hs hm).trans ha
  · obtain ⟨d', hd'⟩ := Command.ofConfiguration_without_block hd hb
    exact ⟨d', hd', (Command.ofConfiguration_put_block hb (.inl rfl)).trans hd',
      (Command.ofConfiguration_put_block hb (.inr rfl)).trans hd'⟩
  · rw [Command.type_of_ofConfiguration hd] at hs
    exact (Command.ofConfiguration_put_default hs hm).trans hd
  · rw [Command.requiresConfirmation_of_unset hd hunset, Command.confirmsByDefault_typeIn]

/-- Settings that are left blank in a block and in the constraints of a parameter. -/
def blankSettings : Configuration :=
  { Command.sampleConfiguration with
    metadata := .ofList [("command_type", .string "Deployment"),
      ("parameters", .object [("n", .object [("validation", .object [("max", .null)])])]),
      ("security_settings", .object [("security_level", .null)])] }

theorem defaults_of_blankSettings_can_be_spelled_out :
    ∃ d, Command.ofConfiguration blankSettings = .ok d ∧
      Command.ofConfiguration (blankSettings.put [.key "execution_settings"]
        "requires_confirmation" (.bool true)) = .ok d ∧
      d.execution.requiresConfirmation = true := by
  have hok : (Command.ofConfiguration blankSettings).isOk = true := by decide +kernel
  cases h : Command.ofConfiguration blankSettings with
  | error reason => rw [h] at hok; cases hok
  | ok d =>
    obtain ⟨-, hput, hconfirmed⟩ := (defaults_can_be_spelled_out blankSettings).2 d h
    have htype : d.type = .deployment := Command.type_of_ofConfiguration h
    refine ⟨d, rfl, hput _ _ _ (.own (.block (List.mem_cons_self ..) ?_)) rfl,
      (hconfirmed rfl).mpr ⟨"Deployment", rfl, rfl⟩⟩
    simp [Command.Execution.defaults, htype, Command.confirmsByDefault]

/-- A setting left blank means unset. Where the value of a name with a meaning is null, the result
is that of the metadata without it, for agents and for commands with their parameters. -/
theorem blank_settings_are_unset (c : Configuration) (p : List Step) (k : String)
    (hflag : k ∉ plainFlags) (hblank : (c.metadata.mappingAt p).get? k = some .null) :
    (Agent.layout.Setting p k → Agent.ofConfiguration (c.without p k) = Agent.ofConfiguration c) ∧
      (Command.Setting p k →
        (∀ n, n ≠ k → Constraints.firstName n = Constraints.firstName k →
          (c.metadata.mappingAt p).get? n = none) →
        Command.ofConfiguration (c.without p k) = Command.ofConfiguration c) :=
  ⟨fun hs => Agent.ofConfiguration_without_blank hs hflag hblank,
    fun hs halone => Command.ofConfiguration_without_blank hs hflag hblank halone⟩

theorem blankSettings_are_unset :
    Agent.ofConfiguration (blankSettings.without [.key "security_settings"] "security_level") =
        Agent.ofConfiguration blankSettings ∧
      Command.ofConfiguration
          (blankSettings.without [.key "parameters", .key "n", .key "validation"] "max") =
        Command.ofConfiguration blankSettings := by
  constructor
  · refine (blank_settings_are_unset blankSettings _ _ (by simp [plainFlags]) rfl).1 ?_
    have hblock : ("security_settings", SecuritySettings.Written.record.names) ∈
        Agent.layout.blocks := by simp [Agent.layout, SecuritySettings.Written.record, Record.names]
    exact .block hblock (by simp [SecuritySettings.Written.record, Record.names])
  · refine (blank_settings_are_unset blankSettings _ _ (by simp [plainFlags]) rfl).2
      (.parameter (.key "n") (.block (List.mem_singleton.mpr rfl) (by simp))) fun n hn h => ?_
    have hother : n = "maximum" := by
      rw [Constraints.firstName.eq_def] at h
      split at h <;> simp_all [Constraints.firstName]
    rw [hother]
    rfl

/-- A plain flag that is left blank. -/
def blankFlag : Configuration :=
  { Agent.sampleConfiguration with
    metadata := .ofList [("security_settings", .object [("restricted", .null)])] }

/-- A condition that is left blank under one of its names and written under the other. -/
def blankName : Configuration :=
  { Command.sampleConfiguration with
    metadata := .ofList [("parameters", .object [("n", .object [("validation",
      .object [("minLength", .null), ("min_length", .ofInt 3)])])])] }

/-- A plain flag cannot be left blank, and neither can a condition under one name that is written
under another. -/
theorem blank_flags_and_repeated_conditions_are_refused :
    (Agent.layout.Setting [.key "security_settings"] "restricted" ∧
      (blankFlag.metadata.mappingAt [.key "security_settings"]).get? "restricted" = some .null ∧
      Agent.ofConfiguration blankFlag = .error "invalid type: null, expected a boolean" ∧
      (Agent.ofConfiguration
        (blankFlag.without [.key "security_settings"] "restricted")).isOk = true) ∧
    Command.Setting [.key "parameters", .key "n", .key "validation"] "minLength" ∧
      (blankName.metadata.mappingAt [.key "parameters", .key "n", .key "validation"]).get?
        "minLength" = some .null ∧
      Command.ofConfiguration blankName =
        .error "parameter 'n': duplicate field \x60min_length\x60" ∧
      (Command.ofConfiguration (blankName.without
        [.key "parameters", .key "n", .key "validation"] "minLength")).isOk = true := by
  have hblock : ("security_settings", SecuritySettings.Written.record.names) ∈
      Agent.layout.blocks := by simp [Agent.layout, SecuritySettings.Written.record, Record.names]
  refine ⟨⟨.block hblock ?_, rfl, rfl, by decide +kernel⟩,
    .parameter (.key "n") (.block (List.mem_singleton.mpr rfl) (by simp)), rfl, rfl,
    by decide +kernel⟩
  simp [SecuritySettings.Written.record, Record.names]

end Roster
