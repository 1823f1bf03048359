import Roster.Registry.Source

/-! # Built-in documents

The documents of the default tier, agents before commands. They count as written
at the beginning of time, so that any other document is newer.
-/
namespace Roster.Builtin

def text (lines : List String) : String :=
  String.join (lines.map (· ++ "\n"))

/-- An agent that implements planned changes. -/
def developer : String := text [
  "---",
  "name: developer",
  "description: Implements planned changes with tests",
  "agent_type: developer",
  "tags: [agent, coding]",
  "version: \"1.0.0\"",
  "author: Loadout Team",
  "capabilities: [coding, testing, refactoring]",
  "model_preferences:",
  "  temperature: 0.2",
  "  max_tokens: 8192",
  "collaboration_settings:",
  "  multi_agent: true",
  "  collaboration_mode: sequential",
  "security_settings:",
  "  security_level: medium",
  "  required_permissions: [fs.read, fs.write]",
  "execution_settings:",
  "  context_retention: true",
  "  max_context_size: 16384",
  "  auto_verify: true",
  "  quality_gates: [tests-pass, lint-clean]",
  "priority: 5",
  "---",
  "",
  "You are a developer agent. Implement one planned step at a time. Keep each",
  "change small, add or update tests alongside it, and run the project's checks",
  "before reporting the step as done."]

/-- An agent that breaks a goal into steps. -/
def planner : String := text [
  "---",
  "name: planner",
  "description: Breaks a goal into ordered, verifiable steps",
  "agent_type: planner",
  "tags: [agent, planning]",
  "version: \"1.0.0\"",
  "author: Loadout Team",
  "capabilities: [planning, decomposition, estimation]",
  "model_preferences:",
  "  temperature: 0.3",
  "  max_tokens: 4096",
  "collaboration_settings:",
  "  multi_agent: true",
  "  collaboration_mode: sequential",
  "  escalation_threshold: 0.7",
  "security_settings:",
  "  security_level: low",
  "execution_settings:",
  "  context_retention: true",
  "  max_context_size: 8192",
  "priority: 10",
  "---",
  "",
  "You are a planning agent. Turn the request into a numbered list of small,",
  "independently verifiable steps. For each step name the files or systems it",
  "touches and the check that proves it is done. Do not write code."]

/-- An agent that looks for security defects. -/
def securityReviewer : String := text [
  "---",
  "name: security-reviewer",
  "description: Reviews changes for security defects",
  "agent_type: security",
  "tags: [agent, review, security]",
  "version: \"1.0.0\"",
  "author: Loadout Team",
  "capabilities: [security-review, threat-modeling]",
  "model_preferences:",
  "  temperature: 0.1",
  "collaboration_settings:",
  "  multi_agent: true",
  "  collaboration_mode: consensus",
  "  escalation_threshold: 0.5",
  "security_settings:",
  "  restricted: true",
  "  security_level: high",
  "  required_permissions: [fs.read]",
  "execution_settings:",
  "  max_context_size: 8192",
  "  validation_rules: [no-secrets-in-diff]",
  "priority: 8",
  "---",
  "",
  "You are a security reviewer. Read the change and report injection risks,",
  "unsafe deserialization, missing authorization checks, and leaked secrets.",
  "Rate each finding and cite the exact lines."]

/-- A command that looks through code. -/
def analyzeCode : String := text [
  "---",
  "name: analyze-code",
  "description: Summarize structure and risks of a code path",
  "command_type: analysis",
  "tags: [command, review]",
  "version: \"1.0.0\"",
  "author: Loadout Team",
  "output_format: markdown",
  "parameters:",
  "  target:",
  "    type: string",
  "    required: true",
  "    description: File or directory to analyze",
  "  focus:",
  "    type: array",
  "    description: Areas to emphasize",
  "    default: [complexity, error-handling]",
  "  include_metrics:",
  "    type: boolean",
  "    default: false",
  "execution_settings:",
  "  timeout_ms: 45000",
  "security_settings:",
  "  security_level: low",
  "  required_permissions: [fs.read]",
  "---",
  "",
  "Analyze \x60\x7b\x7btarget\x7d\x7d\x60 and report its structure, its riskiest areas, and",
  "concrete follow-ups."]

def deployService : String := text [
  "---",
  "name: deploy-service",
  "description: Roll out a service to an environment",
  "command_type: deployment",
  "tags: [command, ops]",
  "version: \"1.0.0\"",
  "author: Loadout Team",
  "output_format: plain",
  "parameters:",
  "  replicas:",
  "    type: number",
  "    required: true",
  "    description: Number of instances to run",
  "    validation:",
  "      minimum: 1",
  "      maximum: 50",
  "  env:",
  "    type: string",
  "    required: false",
  "    default: staging",
  "    description: Target environment",
  "    validation:",
  "      enum: [staging, production]",
  "execution_settings:",
  "  pre_execution_checks: [cluster-reachable]",
  "  post_execution_actions: [smoke-test]",
  "  timeout_ms: 120000",
  "  retry_attempts: 1",
  "  requires_confirmation: true",
  "error_handling:",
  "  retry_count: 1",
  "  fallback_strategy: escalate",
  "security_settings:",
  "  restricted: true",
  "  security_level: high",
  "  required_permissions: [deploy]",
  "priority: 5",
  "---",
  "",
  "Deploy the service to \x60\x7b\x7benv\x7d\x7d\x60 with \x60\x7b\x7breplicas\x7d\x7d\x60 replicas. Confirm the",
  "cluster is reachable first, then roll out and run the smoke test."]

def generateTests : String := text [
  "---",
  "name: generate-tests",
  "description: Write unit tests for a source file",
  "command_type: testing",
  "tags: [command, testing]",
  "version: \"1.0.0\"",
  "author: Loadout Team",
  "output_format: code",
  "parameters:",
  "  - name: path",
  "    type: string",
  "    required: true",
  "    description: File to cover",
  "    validation:",
  "      min_length: 1",
  "  - name: framework",
  "    type: string",
  "    description: Test framework to target",
  "  - name: max_cases",
  "    type: number",
  "    default: 10",
  "    validation:",
  "      minimum: 1",
  "      maximum: 100",
  "execution_settings:",
  "  timeout_ms: 60000",
  "security_settings:",
  "  security_level: low",
  "  required_permissions: [fs.read]",
  "---",
  "",
  "Write focused unit tests for \x60\x7b\x7bpath\x7d\x7d\x60. Cover edge cases first and keep",
  "each test independent."]

def document (kind : DocumentKind) (path content : String) : SourceDocument :=
  ⟨⟨"builtin:/" ++ path⟩, some kind, .ok ⟨content, .ofSeconds 0⟩⟩

def documents : List SourceDocument := [
  document .agent "agents/developer.md" developer,
  document .agent "agents/planner.md" planner,
  document .agent "agents/security-reviewer.md" securityReviewer,
  document .command "commands/analyze-code.md" analyzeCode,
  document .command "commands/deploy-service.md" deployService,
  document .command "commands/generate-tests.md" generateTests]

end Roster.Builtin
