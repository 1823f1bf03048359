import Roster.CommandLine.Agents
import Roster.Proofs.Agent.Team
import Roster.Proofs.CommandLine.Assignment
import Roster.Proofs.CommandLine.Selection
import Roster.Proofs.Registry.Filtering
import Roster.Proofs.Registry.Single

/-! # Runs that check

A run checks the definitions of some names, or all of them, and its status tells
whether what it looked at is sound. Unknown names are told instead of a status. How
the answer is written makes no difference to either.
-/
namespace Roster.CommandLine

open Failure

theorem Output.status_verdict (valid : Bool) (text : String) :
    (verdict valid text).status = if valid then 0 else 2 := rfl

theorem Failure.message_unknownNames (kind : DefinitionKind) (names : List String) :
    (unknownNames kind names).message =
      "unknown " ++ kind.word ++ "(s): " ++ Text.joinWith ", " names := rfl

section Gates

variable {α : Type}

/-- A run that checks the values of some names, written as JSON or not. It fails if names are
unknown, and tells exactly these in the order in which they are given. Otherwise its status is 0 if
what the names select is sound, and 2 if not. -/
structure Gates (kind : DefinitionKind) (name : α → String) (sound : List α → Prop)
    (all : List α) (names : List String) (run : Bool → Except Failure Output) : Prop where
  refused : (∃ n ∈ names, n ∉ all.map name) → ∀ json, ∃ e, run json = .error e ∧
    e = .unknownNames kind (unknownAmong name all names) ∧
    e.message = "unknown " ++ kind.word ++ "(s): " ++
      Text.joinWith ", " (unknownAmong name all names)
  answered : (∀ n ∈ names, n ∈ all.map name) → ∃ selected,
    Selection name all names selected ∧ ∀ json, ∃ out, run json = .ok out ∧
      (sound selected → out.status = 0) ∧ (¬ sound selected → out.status = 2)

variable {kind : DefinitionKind} {name : α → String} {sound : List α → Prop} {all : List α}
  {names : List String} {run : Bool → Except Failure Output}

theorem gates_of_report {valid : List α → Bool} (report : List α → Bool → Output)
    (hsound : ∀ l, valid l = true ↔ sound l)
    (hstatus : ∀ l json, (report l json).status = if valid l then 0 else 2)
    (hrun : ∀ json, run json = (select kind name all names).map fun l => report l json) :
    Gates kind name sound all names run where
  refused h json :=
    ⟨_, by rw [hrun, select_eq_error h]; rfl, rfl, message_unknownNames kind _⟩
  answered h := by
    obtain ⟨selected, hselect, hselected⟩ := select_eq_ok kind h
    refine ⟨selected, hselected, fun json => ⟨report selected json, ?_, ?_, ?_⟩⟩
    · rw [hrun, hselect]
      rfl
    · intro hs
      rw [hstatus, if_pos ((hsound selected).mpr hs)]
    · intro hs
      rw [hstatus, if_neg (mt (hsound selected).mp hs)]

end Gates

/-! ## Agents -/

/-- No two agents of a list clash, whichever of them comes first. -/
def NoTwoClash (agents : List Agent) : Prop :=
  agents.Pairwise fun a b => ¬ Team.Clash a b ∧ ¬ Team.Clash b a

theorem isCompatible_iff_noTwoClash (agents : List Agent) :
    Team.isCompatible (Team.findings agents) = true ↔ NoTwoClash agents := by
  rw [Team.isCompatible_iff]
  constructor
  · intro h
    exact List.pairwise_of_forall_mem_list fun a ha b hb => ⟨h a ha b hb, h b hb a ha⟩
  · intro h a ha b hb
    have : Std.Symm fun a b => ¬ Team.Clash a b ∧ ¬ Team.Clash b a := ⟨fun _ _ => And.symm⟩
    -- an agent does not clash with itself, so it does not matter where in the list the two stand
    have hself : ∀ a ∈ agents, ¬ Team.Clash a a ∧ ¬ Team.Clash a a := fun a _ =>
      ⟨Team.not_clash_self a, Team.not_clash_self a⟩
    exact (h.forall_of_forall hself ha hb).1

/-- Agents are looked at together only if there are several, and one alone does not clash. -/
theorem all_teamFindings?_iff (agents : List Agent) :
    (Agents.teamFindings? agents).all Team.isCompatible = true ↔ NoTwoClash agents := by
  rw [Agents.teamFindings?]
  split
  · exact isCompatible_iff_noTwoClash agents
  · next h =>
    refine iff_of_true rfl ?_
    match agents, h with
    | [], _ => exact .nil
    | [a], _ => exact List.pairwise_singleton _ a
    | a :: b :: r, h => exact absurd (by simp) h

theorem Agents.areValid_iff (agents : List Agent) :
    areValid agents = true ↔ (∀ a ∈ agents, a.validate.isValid = true) ∧ NoTwoClash agents := by
  rw [areValid, Bool.and_eq_true, List.all_eq_true, all_teamFindings?_iff]

theorem Agents.all_eq_ok {yaml : YamlReader} {source : Source} {load : LoadOptions}
    {agents : List Agent} (h : Agent.reader.all yaml source load = .ok agents) :
    all yaml source load = .ok agents := by
  rw [← Agent.list_all yaml source load .ascending] at h
  exact mapError_eq_ok_iff.mpr h

/-- A check of agents looks at each of them and, if there are several, at all of them together. -/
theorem Agents.gates_validate {yaml : YamlReader} {source : Source} {load : LoadOptions}
    {agents : List Agent} (h : Agent.reader.all yaml source load = .ok agents)
    (names : List String) :
    Gates .agent Agent.name
      (fun l => (∀ a ∈ l, a.validate.isValid = true) ∧ NoTwoClash l) agents names
      fun json => run yaml source load (.validate names json) := by
  refine gates_of_report report areValid_iff (fun _ _ => Output.status_verdict _ _) fun json => ?_
  rw [run, validate, all_eq_ok h]
  rfl

/-! ## Commands -/

theorem Commands.all_eq_ok {yaml : YamlReader} {source : Source} {load : LoadOptions}
    {commands : List Command} (h : Command.reader.all yaml source load = .ok commands) :
    all yaml source load = .ok commands := by
  rw [← Command.list_all yaml source load .ascending] at h
  exact mapError_eq_ok_iff.mpr h

section Commands

variable {yaml : YamlReader} (patterns : PatternReader) (matcher : Matcher) {source : Source}
  {load : LoadOptions} {commands : List Command}

theorem Commands.gates_validate (h : Command.reader.all yaml source load = .ok commands)
    (names : List String) :
    Gates .command Command.name (fun l => ∀ c ∈ l, (c.validate patterns).isValid = true) commands
      names fun json => run yaml patterns matcher source load (.validate names json) := by
  refine gates_of_report (report patterns) (fun l => List.all_eq_true)
    (fun _ _ => Output.status_verdict _ _) fun json => ?_
  rw [run, validate, all_eq_ok h]
  rfl

theorem isValid_plan_group_iff (parameters : List Assignment) (l : List Command) :
    (Command.plan patterns matcher l (Assignment.group parameters)).isValid = true ↔
      ∀ c ∈ l, (c.checkParameters patterns matcher
        (Assignment.givenTo parameters c.name)).isValid = true := by
  rw [plan_group, Command.Plan.isValid, List.all_map, List.all_eq_true]
  rfl

theorem Commands.gates_plan (h : Command.reader.all yaml source load = .ok commands)
    (names : List String) (parameters : List Assignment) :
    Gates .command Command.name
      (fun l => ∀ c ∈ l, (c.checkParameters patterns matcher
        (Assignment.givenTo parameters c.name)).isValid = true) commands names
      fun json => run yaml patterns matcher source load (.plan names parameters json) := by
  refine gates_of_report
    (fun l => planned (Command.plan patterns matcher l (Assignment.group parameters)))
    (isValid_plan_group_iff patterns matcher parameters)
    (fun _ _ => Output.status_verdict _ _) fun json => ?_
  rw [run, plan, all_eq_ok h]
  rfl

end Commands

/-- Runs that check agents, check commands, or plan commands with parameters. Whatever names they
are given, they fail with those that are unknown, or their status tells whether what is selected is
sound; without names they select everything in the order of the bytes of the names. -/
theorem checks_gate_runs (yaml : YamlReader) (patterns : PatternReader) (matcher : Matcher)
    (source : Source) (load : LoadOptions) :
    (∀ agents, Agent.reader.all yaml source load = .ok agents →
      agents.Pairwise (fun a b => Text.bytes a.name < Text.bytes b.name) ∧
        ∀ names, Gates .agent Agent.name
          (fun l => (∀ a ∈ l, a.validate.isValid = true) ∧ NoTwoClash l) agents names
          fun json => Agents.run yaml source load (.validate names json)) ∧
      ∀ commands, Command.reader.all yaml source load = .ok commands →
        commands.Pairwise (fun c d => Text.bytes c.name < Text.bytes d.name) ∧
          ∀ names,
            Gates .command Command.name (fun l => ∀ c ∈ l, (c.validate patterns).isValid = true)
              commands names
              (fun json => Commands.run yaml patterns matcher source load (.validate names json)) ∧
            ∀ parameters, Gates .command Command.name
              (fun l => ∀ c ∈ l, (c.checkParameters patterns matcher
                (Assignment.givenTo parameters c.name)).isValid = true) commands names
              fun json =>
                Commands.run yaml patterns matcher source load (.plan names parameters json) := by
  constructor
  · intro agents h
    have hordered := Reader.all_ordered Agent.name_of_ofConfiguration h
    exact ⟨hordered.imp (Text.lt_iff_bytes_lt _ _).mp, Agents.gates_validate h⟩
  · intro commands h
    have hordered := Reader.all_ordered Command.name_of_ofConfiguration h
    refine ⟨hordered.imp (Text.lt_iff_bytes_lt _ _).mp, fun names => ⟨?_, fun parameters => ?_⟩⟩
    · exact Commands.gates_validate patterns matcher h names
    · exact Commands.gates_plan patterns matcher h names parameters

/-- A document with empty front matter and without a body, which is found where commands are. -/
def sampleDocument : SourceDocument :=
  ⟨⟨"commands/b.md"⟩, some .command, .ok ⟨"---\n---\n", .epoch⟩⟩

/-- What the document is read as. -/
def sampleConfiguration : Configuration :=
  sampleDocument.configuration .global ⟨∅, ""⟩ .epoch "b"

/-- What a nameless document found where agents are is read as. -/
def agentConfiguration : Configuration :=
  { Configuration.unnamed .project ⟨"agents/a.md"⟩ "a" with kind := .agent }

/-- A source with an agent, and a command that does not say what to do. -/
def sampleSource : Source
  | .default => .ok []
  | .global => .ok [sampleDocument]
  | .project => .ok [{ SourceDocument.unnamed ⟨"agents/a.md"⟩ with hint := some .agent }]

theorem load_sampleSource : Hierarchy.loadWith Yaml.readJson sampleSource .sample =
    .ok ⟨.empty,
      ⟨NameMap.empty.insert "b" sampleConfiguration,
        [⟨.global, ⟨"commands/b.md"⟩, "missing 'name'; using file name 'b'"⟩]⟩,
      ⟨NameMap.empty.insert "a" agentConfiguration,
        [⟨.project, ⟨"agents/a.md"⟩, "missing 'name'; using file name 'a'"⟩]⟩⟩ := by
  refine (Hierarchy.load_eq_ok_iff ..).mpr fun s => ?_
  cases s with
  | default => rfl
  | global => exact Tier.load_of_single (c := sampleConfiguration) rfl rfl rfl
  | project => exact Tier.load_of_single (c := agentConfiguration) rfl rfl rfl

/-- The sample: unknown names are all told, the agent is valid however often it is named, and the
command is not, though it can be planned. -/
theorem checks_gate_runs_of_sample :
    ∃ a c, Agent.reader.all Yaml.readJson sampleSource .sample = .ok [a] ∧
      Command.reader.all Yaml.readJson sampleSource .sample = .ok [c] ∧
      (∀ json, ∃ e,
        Agents.run Yaml.readJson sampleSource .sample
          (.validate ["ghost", "a", "ghost"] json) = .error e ∧
            e.message = "unknown agent(s): ghost, ghost") ∧
      (∀ json, ∃ out,
        Agents.run Yaml.readJson sampleSource .sample (.validate ["a", "a"] json) = .ok out ∧
          out.status = 0) ∧
      ∀ json,
        (∃ out, Commands.run Yaml.readJson samplePatterns sampleMatcher sampleSource .sample
          (.validate [] json) = .ok out ∧ out.status = 2) ∧
        ∃ out, Commands.run Yaml.readJson samplePatterns sampleMatcher sampleSource .sample
          (.plan ["b"] [] json) = .ok out ∧ out.status = 0 := by
  have hagents : ∃ a, Agent.reader.all Yaml.readJson sampleSource .sample = .ok [a] ∧ a.name = "a" ∧
      a.validate.isValid = true := by
    rw [Reader.all, load_sampleSource]
    exact ⟨_, rfl, rfl, rfl⟩
  have hcommands : ∃ c, Command.reader.all Yaml.readJson sampleSource .sample = .ok [c] ∧
      c.name = "b" ∧ (c.validate samplePatterns).isValid = false ∧
      (c.checkParameters samplePatterns sampleMatcher ∅).isValid = true := by
    rw [Reader.all, load_sampleSource]
    exact ⟨_, rfl, rfl, rfl, rfl⟩
  obtain ⟨a, ha, haname, havalid⟩ := hagents
  obtain ⟨c, hc, hcname, hcinvalid, hcplanned⟩ := hcommands
  obtain ⟨hagent, hcommand⟩ :=
    checks_gate_runs Yaml.readJson samplePatterns sampleMatcher sampleSource .sample
  obtain ⟨-, hagent⟩ := hagent [a] ha
  obtain ⟨-, hcommand⟩ := hcommand [c] hc
  refine ⟨a, c, ha, hc, fun json => ?_, fun json => ?_, fun json => ⟨?_, ?_⟩⟩
  · obtain ⟨e, he, -, hmessage⟩ := (hagent ["ghost", "a", "ghost"]).refused (by simp [haname]) json
    have hunknown : unknownAmong Agent.name [a] ["ghost", "a", "ghost"] = ["ghost", "ghost"] := by
      simp [unknownAmong, haname]
    rw [hunknown] at hmessage
    exact ⟨e, he, hmessage⟩
  · obtain ⟨l, hl, hrun⟩ := (hagent ["a", "a"]).answered (by simp [haname])
    obtain ⟨out, hout, hsound, -⟩ := hrun json
    have hmem : ∀ d ∈ l, d = a := fun d hd => List.mem_singleton.mp (hl.mem d hd)
    refine ⟨out, hout, hsound ⟨fun d hd => hmem d hd ▸ havalid, ?_⟩⟩
    refine List.pairwise_of_forall_mem_list fun d hd e he => ?_
    rw [hmem d hd, hmem e he]
    exact ⟨Team.not_clash_self a, Team.not_clash_self a⟩
  · obtain ⟨l, hl, hrun⟩ := (hcommand []).1.answered (by simp)
    obtain ⟨out, hout, -, hunsound⟩ := hrun json
    refine ⟨out, hout, hunsound fun hvalid => ?_⟩
    rw [hl.everything rfl] at hvalid
    exact Bool.false_ne_true (hcinvalid.symm.trans (hvalid c (List.mem_singleton_self c)))
  · obtain ⟨l, hl, hrun⟩ := ((hcommand ["b"]).2 []).answered (by simp [hcname])
    obtain ⟨out, hout, hsound, -⟩ := hrun json
    refine ⟨out, hout, hsound fun d hd => ?_⟩
    rw [List.mem_singleton.mp (hl.mem d hd)]
    exact hcplanned

end Roster.CommandLine
