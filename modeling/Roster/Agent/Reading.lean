import Roster.Agent.Definition

/-! # Reading agents

The metadata of a document as that of an agent. A value of the wrong kind makes
the document useless; words that are not known and fields without meaning are
noted as issues.
-/
namespace Roster.Agent

namespace Models

structure Written where
  model : Option String
  fallbacks : List String
  temperature : Option Double
  maxTokens : Option Nat

def Written.record : Record Written where
  name := "ModelFields"
  start := ⟨none, [], none, none⟩
  fields := [
    .of "model" (Shape.optional Shape.string) fun w x => { w with model := x },
    .of "fallback_models" Shape.stringList fun w x => { w with fallbacks := x },
    .of "temperature" (Shape.optional Shape.double) fun w x => { w with temperature := x },
    .of "max_tokens" (Shape.optional Shape.nat32) fun w x => { w with maxTokens := x }]

def block : SettingsBlock Written Models where
  key := "model_preferences"
  record := Written.record
  standard := standard
  settle w := (⟨w.model, w.fallbacks, w.temperature, w.maxTokens⟩, [])

end Models

namespace Collaboration

structure Written where
  multiAgent : Bool
  mode : Option String
  escalationThreshold : Option Double

def Written.record : Record Written where
  name := "CollaborationFields"
  start := ⟨false, none, none⟩
  fields := [
    .of "multi_agent" Shape.bool fun w x => { w with multiAgent := x },
    .of "collaboration_mode" (Shape.optional Shape.string) fun w x => { w with mode := x },
    .of "escalation_threshold" (Shape.optional Shape.double) fun w x =>
      { w with escalationThreshold := x }]

def block : SettingsBlock Written Collaboration where
  key := "collaboration_settings"
  record := Written.record
  standard := standard
  settle w :=
    let (mode, issues) := Issue.parseWord "collaboration_settings.collaboration_mode" w.mode
    (⟨w.multiAgent, mode, w.escalationThreshold.getD standard.escalationThreshold⟩, issues)

end Collaboration

namespace Execution

structure Written where
  contextRetention : Option Bool
  maxContextSize : Option Nat
  autoVerify : Bool
  validationRules : List String
  qualityGates : List String

def Written.record : Record Written where
  name := "ExecutionFields"
  start := ⟨none, none, false, [], []⟩
  fields := [
    .of "context_retention" (Shape.optional Shape.bool) fun w x => { w with contextRetention := x },
    .of "max_context_size" (Shape.optional Shape.nat32) fun w x => { w with maxContextSize := x },
    .of "auto_verify" Shape.bool fun w x => { w with autoVerify := x },
    .of "validation_rules" Shape.stringList fun w x => { w with validationRules := x },
    .of "quality_gates" Shape.stringList fun w x => { w with qualityGates := x }]

def block : SettingsBlock Written Execution where
  key := "execution_settings"
  record := Written.record
  standard := standard
  settle w :=
    (⟨w.contextRetention.getD standard.contextRetention,
      w.maxContextSize.getD standard.maxContextSize, w.autoVerify, w.validationRules,
      w.qualityGates⟩, [])

end Execution

structure Written where
  type : Option String
  capabilities : List String
  models : Option (WithExtra Models.Written)
  collaboration : Option (WithExtra Collaboration.Written)
  security : Option (WithExtra SecuritySettings.Written)
  execution : Option (WithExtra Execution.Written)
  environment : Option String
  priority : Option Int

def Written.record : Record Written where
  name := "AgentFrontmatter"
  start := ⟨none, [], none, none, none, none, none, none⟩
  fields := [
    .of "agent_type" (Shape.optional Shape.string) fun w x => { w with type := x },
    .of "capabilities" Shape.stringList fun w x => { w with capabilities := x },
    Models.block.field fun w x => { w with models := x },
    Collaboration.block.field fun w x => { w with collaboration := x },
    SecuritySettings.block.field fun w x => { w with security := x },
    Execution.block.field fun w x => { w with execution := x },
    .of "environment" (Shape.optional Shape.string) fun w x => { w with environment := x },
    .of "priority" (Shape.optional Shape.int64) fun w x => { w with priority := x }]

/-- The environment that is written; an empty one is none. -/
def environmentOf (written : Option String) : String :=
  match written.map Text.trimmed with
  | none | some "" => anyEnvironment
  | some e => e

/-- The agent of a configuration whose metadata and heading are read. -/
def ofWritten (c : Configuration) (w : Written) (h : WithExtra Heading.Written) : Agent :=
  let (type, typeIssues) := Issue.parseWord "agent_type" w.type
  let (models, modelIssues) := Models.block.part w.models
  let (collaboration, collaborationIssues) := Collaboration.block.part w.collaboration
  let (security, securityIssues) := SecuritySettings.block.part w.security
  let (execution, executionIssues) := Execution.block.part w.execution
  let (heading, headingIssues) := Heading.ofWritten h.known c.version
  { name := c.name
    scope := c.scope
    tags := c.tags
    version := c.version
    content := c.content
    lastModified := c.lastModified
    path := c.path
    type
    capabilities := .ofNames w.capabilities
    models
    collaboration
    security
    execution
    environment := environmentOf w.environment
    priority := w.priority.getD 0
    heading
    issues := typeIssues ++ modelIssues ++ collaborationIssues ++ securityIssues ++
      executionIssues ++ Issue.unknownFields none h.extra ++ headingIssues }

/-- The agent that a configuration defines, or what is wrong with its metadata. -/
def ofConfiguration (c : Configuration) : Except String Agent := do
  let (w, h) ← Heading.ofMetadata Written.record c.metadata
  pure (ofWritten c w h)

theorem ofConfiguration_eq_ok_iff {c : Configuration} {a : Agent} :
    ofConfiguration c = .ok a ↔
      ∃ w h, Heading.ofMetadata Written.record c.metadata = .ok (w, h) ∧ ofWritten c w h = a := by
  rw [ofConfiguration]
  cases Heading.ofMetadata Written.record c.metadata with
  | error reason => simp [bind, Except.bind]
  | ok r =>
    constructor
    · intro ha
      exact ⟨r.1, r.2, rfl, Except.ok.inj ha⟩
    · rintro ⟨w, h, hr, rfl⟩
      cases hr
      rfl

end Roster.Agent
