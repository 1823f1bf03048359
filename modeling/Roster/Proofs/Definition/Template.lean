import Roster.Proofs.Agent.Template
import Roster.Proofs.Command.Template
import Roster.Proofs.Yaml.Value

/-! # Starting documents work

The document from which an agent or a command is started can be loaded, read and
checked as it stands. Its name is free text, and stands in two of its values and
in its body.
-/
namespace Roster

/-- Starting documents work for every name. What is written for one, put into a tier as its only
document, is loaded without warnings as an agent or a command of that name and type with the body
that was written, nothing is noted about its metadata, and it is valid without warnings. What is
assumed is that YAML gives the metadata back and does not end the block. Where it is printed as
`Yaml.print` does, the text needs no more than to be read as the metadata and to have no line that
looks like the end of a block. -/
theorem starting_documents_work (read : YamlReader) (print : YamlPrinter) (name : String)
    (hne : name ≠ "") (htrim : Text.trimmed name = name) :
    (∀ type, Document.Keeps read print (Agent.template name type).metadata →
      ∃ text, (Agent.template name type).writeWith print = .ok text ∧
        Document.LoadsAlone read (String.ofList text) fun c => c.name = name ∧ c.kind = .agent ∧
          ∃ a, Agent.ofConfiguration c = .ok a ∧ a.name = name ∧ a.type = type ∧ a.issues = [] ∧
            a.content = (Agent.template name type).body ∧ a.validate = ⟨true, [], []⟩) ∧
    (∀ type, Document.Keeps read print (Command.template name type).metadata →
      ∃ text, (Command.template name type).writeWith print = .ok text ∧
        Document.LoadsAlone read (String.ofList text) fun c => c.name = name ∧ c.kind = .command ∧
          ∃ d, Command.ofConfiguration c = .ok d ∧ d.name = name ∧ d.type = type ∧ d.issues = [] ∧
            d.content = (Command.template name type).body ∧
            ∀ patterns, d.validate patterns = ⟨true, [], []⟩) ∧
    (∀ type, Document.Restores read (Agent.template name type).metadata →
      Document.Keeps read Document.printYaml (Agent.template name type).metadata) ∧
    ∀ type, Document.Restores read (Command.template name type).metadata →
      Document.Keeps read Document.printYaml (Command.template name type).metadata := by
  have hname : Text.isAllBlank name.toList = false := Text.isAllBlank_eq_false_of_trimmed hne htrim
  refine ⟨?_, ?_, fun type => (Agent.isStarting_template name type).keeps,
    fun type => (Command.isStarting_template name type).keeps⟩
  · intro type hm
    have hstarting := Agent.isStarting_template name type
    apply hstarting.exists_loadsAlone hne htrim hm
    intro c hcname hmetadata hcontent hkind
    have hagent : c.kind = .agent := by
      rw [hkind]
      simp [DocumentKind.classify, Document.hasKey, NameMap.contains, Agent.entries_template]
    have hread := Agent.ofConfiguration_of_template name type hmetadata
    have hvalid : (Agent.started name type c).validate = ⟨true, [], []⟩ := by
      apply Agent.validate_started
      · rwa [hcname]
      · rw [hcontent]
        exact hstarting.isAllBlank_body
    exact ⟨hcname, hagent, _, hread, hcname, rfl, rfl, hcontent, hvalid⟩
  · intro type hm
    have hstarting := Command.isStarting_template name type
    apply hstarting.exists_loadsAlone hne htrim hm
    intro c hcname hmetadata hcontent hkind
    have hcommand : c.kind = .command := by
      rw [hkind]
      simp [DocumentKind.classify, Document.hasKey, NameMap.contains, Command.entries_template]
    have hread := Command.ofConfiguration_of_template name type hmetadata
    have hvalid : ∀ patterns, (Command.started name type c).validate patterns = ⟨true, [], []⟩ := by
      intro patterns
      apply Command.validate_started
      · rwa [hcname]
      · rw [hcontent]
        exact hstarting.isAllBlank_body
    exact ⟨hcname, hcommand, _, hread, hcname, rfl, rfl, hcontent, hvalid⟩

section Sample

/-- A name with line breaks, quotes and braces, of which one line looks like the end of a block. -/
def sampleName : String := "it's\n---\n\x7ba: \"b\"\x7d"

/-- A source that has one document, in its project tier. -/
def Source.only (text : String) : Source
  | .default | .global => .ok []
  | .project => .ok [⟨⟨"start.md"⟩, none, .ok ⟨text, .epoch⟩⟩]

theorem restores_sample_planner :
    Document.Restores Yaml.readJson (Agent.template sampleName .planner).metadata where
  reads := Yaml.readJson_of_readsAs (by decide +kernel)
  no_delimiter := by decide +kernel

theorem restores_sample_deployment :
    Document.Restores Yaml.readJson (Command.template sampleName .deployment).metadata where
  reads := Yaml.readJson_of_readsAs (by decide +kernel)
  no_delimiter := by decide +kernel

theorem starting_documents_of_sampleName_work :
    (∃ text h c a, (Agent.template sampleName .planner).write = .ok text ∧
      Hierarchy.load (.only text) .standard = .ok h ∧ h.resolved = .insert ∅ sampleName c ∧
      h.warnings = [] ∧ Agent.ofConfiguration c = .ok a ∧ a.type = .planner ∧ a.issues = [] ∧
      a.validate = ⟨true, [], []⟩) ∧
    ∃ text h c d, (Command.template sampleName .deployment).write = .ok text ∧
      Hierarchy.load (.only text) .standard = .ok h ∧ h.resolved = .insert ∅ sampleName c ∧
      h.warnings = [] ∧ Command.ofConfiguration c = .ok d ∧ d.type = .deployment ∧ d.issues = [] ∧
      ∀ patterns, d.validate patterns = ⟨true, [], []⟩ := by
  obtain ⟨hagents, hcommands, hkeepsAgent, hkeepsCommand⟩ := starting_documents_work Yaml.readJson
    Document.printYaml sampleName (by decide +kernel) (by decide +kernel)
  have hprinted : ∀ (d : Document) (text : List Char), d.writeWith Document.printYaml = .ok text →
      d.write = .ok (String.ofList text) := by
    intro d text hwrite
    rw [Document.write, hwrite]
    rfl
  have hothers (text : String) : ∀ s, s ≠ .project → LoadOptions.standard.includes s = true →
      Source.only text s = .ok [] := by
    intro s hs _
    cases s with
    | default | global => rfl
    | project => exact absurd rfl hs
  constructor
  · obtain ⟨text, hwrite, hloads⟩ := hagents .planner (hkeepsAgent _ restores_sample_planner)
    obtain ⟨c, ⟨hname, -, a, hread, -, htype, hissues, -, hvalid⟩, -, hload⟩ :=
      hloads (.only (.ofList text)) .standard .project _ _ rfl rfl
    obtain ⟨h, hl, hresolved, hwarnings⟩ := hload (hothers _)
    rw [hname] at hresolved
    exact ⟨_, h, c, a, hprinted _ _ hwrite, hl, hresolved, hwarnings, hread, htype, hissues, hvalid⟩
  · obtain ⟨text, hwrite, hloads⟩ :=
      hcommands .deployment (hkeepsCommand _ restores_sample_deployment)
    obtain ⟨c, ⟨hname, -, d, hread, -, htype, hissues, -, hvalid⟩, -, hload⟩ :=
      hloads (.only (.ofList text)) .standard .project _ _ rfl rfl
    obtain ⟨h, hl, hresolved, hwarnings⟩ := hload (hothers _)
    rw [hname] at hresolved
    exact ⟨_, h, c, d, hprinted _ _ hwrite, hl, hresolved, hwarnings, hread, htype, hissues, hvalid⟩

end Sample

end Roster
