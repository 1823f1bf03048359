import Roster.Command.Schema

/-! # Reading commands

The metadata of a document as that of a command. A value of the wrong kind makes
the document useless; words that are not known and fields without meaning are
noted as issues.
-/
namespace Roster.Command

namespace Execution

structure Written where
  checks : List String
  actions : List String
  timeoutMs : Option Nat
  retryAttempts : Option Nat
  requiresConfirmation : Option Bool

def Written.record : Record Written where
  name := "ExecutionFields"
  start := ⟨[], [], none, none, none⟩
  fields := [
    .of "pre_execution_checks" Shape.stringList fun w x => { w with checks := x },
    .of "post_execution_actions" Shape.stringList fun w x => { w with actions := x },
    .of "timeout_ms" (Shape.optional Shape.nat64) fun w x => { w with timeoutMs := x },
    .of "retry_attempts" (Shape.optional Shape.nat32) fun w x => { w with retryAttempts := x },
    .of "requires_confirmation" (Shape.optional Shape.bool) fun w x =>
      { w with requiresConfirmation := x }]

def block (t : CommandType) : SettingsBlock Written Execution where
  key := "execution_settings"
  record := Written.record
  standard := standard t
  settle w :=
    (⟨w.checks, w.actions, w.timeoutMs.getD standardTimeoutMs, w.retryAttempts.getD 0,
      w.requiresConfirmation.getD (confirmsByDefault t)⟩, [])

end Execution

namespace ErrorHandling

structure Written where
  retryCount : Option Nat
  fallback : Option String
  escalationRules : List String

def Written.record : Record Written where
  name := "ErrorHandlingFields"
  start := ⟨none, none, []⟩
  fields := [
    .of "retry_count" (Shape.optional Shape.nat32) fun w x => { w with retryCount := x },
    .of "fallback_strategy" (Shape.optional Shape.string) fun w x => { w with fallback := x },
    .of "escalation_rules" Shape.stringList fun w x => { w with escalationRules := x }]

def block : SettingsBlock Written ErrorHandling where
  key := "error_handling"
  record := Written.record
  standard := standard
  settle w :=
    let (fallback, issues) := Issue.parseWord "error_handling.fallback_strategy" w.fallback
    (⟨w.retryCount.getD 0, fallback, w.escalationRules⟩, issues)

end ErrorHandling

structure Written where
  type : Option String
  format : Option String
  parameters : Json
  execution : Option (WithExtra Execution.Written)
  errorHandling : Option (WithExtra ErrorHandling.Written)
  contextRequirements : List String
  security : Option (WithExtra SecuritySettings.Written)
  priority : Option Int

def Written.record : Record Written where
  name := "CommandFrontmatter"
  start := ⟨none, none, .null, none, none, [], none, none⟩
  fields := [
    .of "command_type" (Shape.optional Shape.string) fun w x => { w with type := x },
    .of "output_format" (Shape.optional Shape.string) fun w x => { w with format := x },
    .of "parameters" .ok fun w x => { w with parameters := x },
    .of "execution_settings" (Shape.optional Execution.Written.record.ofJson) fun w x =>
      { w with execution := x },
    ErrorHandling.block.field fun w x => { w with errorHandling := x },
    .of "context_requirements" Shape.stringList fun w x => { w with contextRequirements := x },
    SecuritySettings.block.field fun w x => { w with security := x },
    .of "priority" (Shape.optional Shape.int64) fun w x => { w with priority := x }]

/-- The command of a configuration whose metadata, heading and parameters are read. -/
def ofWritten (c : Configuration) (w : Written) (h : WithExtra Heading.Written)
    (parameters : NameMap Parameter × List Issue) : Command :=
  let (type, typeIssues) := Issue.parseWord "command_type" w.type
  let (format, formatIssues) := Issue.parseWord "output_format" w.format
  let (schema, schemaIssues) := parameters
  let (execution, executionIssues) := (Execution.block type).part w.execution
  let (errorHandling, errorIssues) := ErrorHandling.block.part w.errorHandling
  let (security, securityIssues) := SecuritySettings.block.part w.security
  let (heading, headingIssues) := Heading.ofWritten h.known c.version
  { name := c.name
    scope := c.scope
    tags := c.tags
    version := c.version
    content := c.content
    lastModified := c.lastModified
    path := c.path
    type
    format
    schema
    execution
    errorHandling
    contextRequirements := w.contextRequirements
    security
    priority := w.priority.getD 0
    heading
    issues := typeIssues ++ formatIssues ++ schemaIssues ++ executionIssues ++ errorIssues ++
      securityIssues ++ Issue.unknownFields none h.extra ++ headingIssues }

/-- The command that a configuration defines, or what is wrong with its metadata. -/
def ofConfiguration (c : Configuration) : Except String Command := do
  let (w, h) ← Heading.ofMetadata Written.record c.metadata
  let parameters ← Parameter.schemaOf w.parameters
  pure (ofWritten c w h parameters)

theorem ofConfiguration_eq_ok_iff {c : Configuration} {d : Command} :
    ofConfiguration c = .ok d ↔
      ∃ w h ps, Heading.ofMetadata Written.record c.metadata = .ok (w, h) ∧
        Parameter.schemaOf w.parameters = .ok ps ∧ ofWritten c w h ps = d := by
  rw [ofConfiguration]
  cases Heading.ofMetadata Written.record c.metadata with
  | error reason => simp [bind, Except.bind]
  | ok r =>
    change (do let ps ← Parameter.schemaOf r.1.parameters; pure (ofWritten c r.1 r.2 ps)) = _ ↔ _
    constructor
    · intro hd
      cases hps : Parameter.schemaOf r.1.parameters with
      | error reason => rw [hps] at hd; cases hd
      | ok ps => rw [hps] at hd; exact ⟨r.1, r.2, ps, rfl, hps, Except.ok.inj hd⟩
    · rintro ⟨w, h, ps, hr, hps, rfl⟩
      cases hr
      rw [hps]
      rfl

end Roster.Command
