import Roster.Agent.Team
import Roster.Agent.Validation
import Roster.CommandLine.Failure
import Roster.CommandLine.Invocation
import Roster.CommandLine.Output

/-! # Runs about agents

Agents are listed in a table, shown one by one, or checked, each for itself and
all of them for whether they can work together.
-/
namespace Roster.CommandLine.Agents

/-- The agents of a source in the order of their names. -/
def all (yaml : YamlReader) (source : Source) (load : LoadOptions) : Except Failure (List Agent) :=
  (Agent.listWith yaml source { Agent.ListOptions.standard with load }).mapError .definitions

def header : List String :=
  ["Name", "Type", "Capabilities", "Priority", "Description", "Source"]

def row (a : Agent) : List String :=
  [a.name, Vocabulary.word a.type, Text.joinWith ", " a.capabilities.names, toString a.priority,
    truncate (a.heading.description.getD "") longestDescription, tierLabel a.scope]

def list (agents : List Agent) (json : Bool) : Output :=
  .answer (if json then Output.jsonText (.array (agents.map Agent.toJson))
    else listing "agents" "agent(s) found" header (agents.map row))

def display (name : String) (agent : Option Agent) (json : Bool) : Output :=
  match agent with
  | some a => .answer (Output.shown json a.toJson)
  | none => .missing ("Agent '" ++ name ++ "' not found")

/-- What was found about agents together; a single agent is not looked at. -/
def teamFindings? (agents : List Agent) : Option (List Team.Finding) :=
  if 1 < agents.length then some (Team.findings agents) else none

/-- Whether each agent is valid and all of them can work together. -/
def areValid (agents : List Agent) : Bool :=
  (agents.all fun a => a.validate.isValid) && (teamFindings? agents).all Team.isCompatible

def teamLines (findings : List Team.Finding) : List String :=
  let compatible := Team.isCompatible findings
  ["", mark compatible ++ (if compatible then "agents can collaborate"
    else "agents cannot collaborate")] ++
    findings.map fun f => "    " ++ f.severity.word ++ ": " ++ f.message

def report (agents : List Agent) (json : Bool) : Output :=
  let team := teamFindings? agents
  .verdict (areValid agents)
    (if json then Output.jsonText (.object [
        ("agents", .array (agents.map fun a => reportJson a.name a.validate)),
        ("collaboration", (team.map Team.toJson).getD .null)])
    else Output.ofLines ((agents.flatMap fun a => reportLines a.name a.validate) ++
      (team.map teamLines).getD []))

def validate (yaml : YamlReader) (source : Source) (load : LoadOptions) (names : List String)
    (json : Bool) : Except Failure Output := do
  let agents ← Failure.select .agent Agent.name (← all yaml source load) names
  return report agents json

def run (yaml : YamlReader) (source : Source) (load : LoadOptions) :
    AgentAction → Except Failure Output
  | .list filter arrangement json => do
    let agents ← (Agent.listWith yaml source ⟨load, filter, arrangement⟩).mapError .definitions
    return list agents json
  | .display name json => do
    let agent ← (Agent.reader.findWith? yaml source load name).mapError .definitions
    return display name agent json
  | .validate names json => validate yaml source load names json

end Roster.CommandLine.Agents
