import Roster.Agent.Definition

/-! # Agents working together

Whether a list of agents can work together: agents with the highest security
level only among themselves, all agents in the same environment, and better with
some capability in common.
-/
namespace Roster.Team

/-- What a finding is about. -/
inductive Area where
  | security | capability | environment
  deriving DecidableEq, Repr

inductive Severity where
  | error | warning
  deriving DecidableEq, Repr

/-- Something found about a list of agents. -/
structure Finding where
  area : Area
  severity : Severity
  message : String
  /-- The agents it is about. -/
  agents : List String
  deriving DecidableEq, Repr

def names (agents : List Agent) : List String :=
  agents.map (·.name)

def isCritical (a : Agent) : Bool :=
  a.security.level == .critical

/-- Agents of the critical level do not work with others. -/
def securityFindings (agents : List Agent) : List Finding :=
  let critical := agents.filter isCritical
  if !critical.isEmpty && agents.any fun a => !isCritical a then
    [⟨.security, .error, "critical security agents (" ++ ", ".intercalate (names critical) ++
      ") cannot collaborate with agents of a lower security level", names critical⟩]
  else []

def environments (agents : List Agent) : NameSet :=
  .ofNames ((agents.filter fun a => !a.isEnvironmentAgnostic).map (·.environment))

/-- Agents that are bound to different environments do not work together. -/
def environmentFindings (agents : List Agent) : List Finding :=
  let es := environments agents
  if 1 < es.size then
    [⟨.environment, .error, "agents target conflicting environments: " ++
      ", ".intercalate es.names, names agents⟩]
  else []

def capabilities (agents : List Agent) : NameSet :=
  .ofNames (agents.flatMap fun a => a.capabilities.names)

/-- Several agents should have a capability in common. -/
def capabilityFindings (agents : List Agent) : List Finding :=
  if agents.length < 2 then []
  else if (capabilities agents).size = agents.foldl (fun n a => n + a.capabilities.size) 0 then
    [⟨.capability, .warning, "agents share no capabilities; collaboration may be ineffective",
      names agents⟩]
  else []

def findings (agents : List Agent) : List Finding :=
  securityFindings agents ++ environmentFindings agents ++ capabilityFindings agents

/-- Whether no finding is an error. -/
def isCompatible (fs : List Finding) : Bool :=
  fs.all fun f => f.severity ≠ .error

def Area.word : Area → String
  | security => "security"
  | capability => "capability"
  | environment => "environment"

def Severity.word : Severity → String
  | error => "error"
  | warning => "warning"

def Finding.toJson (f : Finding) : Json :=
  .object [("issue_type", .string f.area.word), ("severity", .string f.severity.word),
    ("message", .string f.message), ("agents", .strings f.agents)]

/-- The findings and whether the agents can work together. -/
def toJson (fs : List Finding) : Json :=
  .object [("compatible", .bool (isCompatible fs)), ("issues", .array (fs.map Finding.toJson))]

end Roster.Team
