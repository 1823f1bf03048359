import Roster.Agent.Definition
import Roster.Definition.Report
import Roster.Number.Shortest

/-! # Checking an agent

The errors and warnings about one agent.
-/
namespace Roster.Agent

/-- The fields without whose values an agent is not what its document says. -/
def essentialFields : List String :=
  ["agent_type", "security_settings.security_level"]

/-- The smallest context that is likely to hold useful instructions. -/
def leastContextSize : Nat := 1024

/-- The threshold below which agents hand over hardly ever. -/
def leastThreshold : Double := tenths 1

def numberText (d : Double) : String :=
  String.ofList (d.write Double.messageLayout)

def label (a : Agent) : String :=
  "agent '" ++ a.name ++ "'"

/-- What makes an agent useless, apart from its issues. -/
def faults (a : Agent) : List String :=
  (if Text.isAllBlank a.name.toList then ["agent name is required"] else []) ++
  (if Text.isAllBlank a.content.toList then [a.label ++ " has no instructions"] else [])

/-- What is questionable about an agent, apart from its issues. -/
def doubts (a : Agent) : List String :=
  (if a.capabilities.isEmpty then [a.label ++ " declares no capabilities"] else []) ++
  (if a.security.restricted && a.security.requiredPermissions.isEmpty then
    [a.label ++ " is restricted but lists no required permissions"] else []) ++
  (if a.collaboration.multiAgent && a.collaboration.escalationThreshold.lt leastThreshold then
    [a.label ++ " has escalation threshold " ++ numberText a.collaboration.escalationThreshold ++
      " below " ++ numberText leastThreshold] else []) ++
  (if a.execution.maxContextSize < leastContextSize then
    [a.label ++ " has max context size " ++ toString a.execution.maxContextSize ++
      " below " ++ toString leastContextSize] else [])

/-- The errors and warnings about an agent. -/
def validate (a : Agent) : Report :=
  let r := a.faults.foldl Report.error Report.empty
  let r := r.failEssential a.issues essentialFields
  let r := a.doubts.foldl Report.warning r
  r.warnOthers a.issues essentialFields

end Roster.Agent
