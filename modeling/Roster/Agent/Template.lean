import Roster.Agent.Definition
import Roster.Document.Basic

/-! # Documents to start an agent from

A starting document spells out the settings that most agents change, each at its
default, so that it is valid as it stands.
-/
namespace Roster.Agent

def startingCapability : AgentType → String
  | .planner => "planning"
  | .developer => "coding"
  | .security => "security-review"
  | .domainExpert => "domain-knowledge"
  | .custom => "general"

/-- The document from which an agent of a name and type is started. -/
def template (name : String) (type : AgentType) : Document where
  metadata := .ofList [
    ("name", .string name),
    ("description", .string ("Describe what " ++ name ++ " does")),
    ("agent_type", Vocabulary.toJson type),
    ("version", .string "1.0.0"),
    ("tags", .strings ["agent"]),
    ("capabilities", .strings [startingCapability type]),
    ("collaboration_settings", .ofFields [
      ("multi_agent", .bool Collaboration.standard.multiAgent),
      ("collaboration_mode", Vocabulary.toJson Collaboration.standard.mode),
      ("escalation_threshold", .ofDouble Collaboration.standard.escalationThreshold)]),
    ("security_settings", .ofFields SecuritySettings.standard.fields),
    ("execution_settings", .ofFields [
      ("context_retention", .bool Execution.standard.contextRetention),
      ("max_context_size", .ofNat Execution.standard.maxContextSize)])]
  body := "# " ++ name ++ "\n\n" ++
    "Describe the agent's role, the inputs it expects, and what a finished\n" ++
    "result looks like.\n"

end Roster.Agent
