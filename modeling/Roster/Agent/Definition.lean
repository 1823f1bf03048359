import Roster.Agent.Kind
import Roster.Configuration
import Roster.Definition.Heading
import Roster.Definition.Security
import Roster.Definition.Sorting
import Roster.Number.Double

/-! # Agent definitions

What an agent is, what it can do, and how it is run.
-/
namespace Roster

namespace Agent

structure Models where
  model : Option String
  fallbacks : List String
  temperature : Option Double
  maxTokens : Option Nat
  deriving DecidableEq

/-- How an agent works together with others. -/
structure Collaboration where
  multiAgent : Bool
  mode : CollaborationMode
  escalationThreshold : Double
  deriving DecidableEq

/-- What an agent remembers and how its work is checked. -/
structure Execution where
  contextRetention : Bool
  maxContextSize : Nat
  autoVerify : Bool
  validationRules : List String
  qualityGates : List String
  deriving DecidableEq

/-- A number with one digit behind the point. -/
def tenths (n : Nat) : Double :=
  (Double.ofRatio false n 10).getD (.zero false)

namespace Models

def standard : Models := ⟨none, [], none, none⟩

def toJson (m : Models) : Json :=
  .object [("model", .ofString? m.model), ("fallback_models", .strings m.fallbacks),
    ("temperature", (m.temperature.map Json.ofDouble).getD .null),
    ("max_tokens", (m.maxTokens.map Json.ofNat).getD .null)]

end Models

namespace Collaboration

/-- An agent on its own, which hands over when it is less than seven tenths sure. -/
def standard : Collaboration := ⟨false, .sequential, tenths 7⟩

def toJson (c : Collaboration) : Json :=
  .object [("multi_agent", .bool c.multiAgent),
    ("collaboration_mode", Vocabulary.toJson c.mode),
    ("escalation_threshold", .ofDouble c.escalationThreshold)]

end Collaboration

namespace Execution

def standard : Execution := ⟨false, 4096, false, [], []⟩

def toJson (e : Execution) : Json :=
  .object [("context_retention", .bool e.contextRetention),
    ("max_context_size", .ofNat e.maxContextSize), ("auto_verify", .bool e.autoVerify),
    ("validation_rules", .strings e.validationRules), ("quality_gates", .strings e.qualityGates)]

end Execution

end Agent

structure Agent where
  name : String
  scope : Scope
  tags : List String
  version : Option String
  /-- The instructions for the agent. -/
  content : String
  lastModified : Timestamp
  path : FilePath
  type : AgentType
  capabilities : NameSet
  models : Agent.Models
  collaboration : Agent.Collaboration
  security : SecuritySettings
  execution : Agent.Execution
  environment : String
  priority : Int
  heading : Heading
  /-- What was noted while the document was read. -/
  issues : List Issue

namespace Agent

/-- The environment of an agent that may run in any. -/
def anyEnvironment : String := "all"

def isEnvironmentAgnostic (a : Agent) : Bool :=
  a.environment.toList.map Char.toLower == anyEnvironment.toList

def hasCapability (a : Agent) (capability : String) : Bool :=
  a.capabilities.contains capability

def sortKey (a : Agent) : SortKey :=
  ⟨a.name, a.priority, a.lastModified, Vocabulary.word a.type⟩

def toJson (a : Agent) : Json :=
  .object [("name", .string a.name), ("scope", Vocabulary.toJson a.scope),
    ("tags", .strings a.tags), ("version", .ofString? a.version),
    ("content", .string a.content), ("last_modified", .string a.lastModified.text),
    ("source_path", .string a.path.text), ("agent_type", Vocabulary.toJson a.type),
    ("capabilities", .strings a.capabilities.names), ("model_preferences", a.models.toJson),
    ("collaboration_settings", a.collaboration.toJson),
    ("security_settings", a.security.toJson), ("execution_settings", a.execution.toJson),
    ("environment", .string a.environment), ("priority", .ofInt a.priority),
    ("metadata", a.heading.toJson), ("metadata_issues", .array (a.issues.map Issue.toJson))]

end Agent

end Roster
