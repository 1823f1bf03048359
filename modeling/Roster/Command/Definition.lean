import Roster.Command.Kind
import Roster.Configuration
import Roster.Definition.Heading
import Roster.Definition.Security
import Roster.Definition.Sorting

/-! # Command definitions

What a command does, the parameters it takes, and how it is run.
-/
namespace Roster

/-- Conditions on the value of a parameter. -/
structure Constraints where
  pattern : Option String
  minLength : Option Nat
  maxLength : Option Nat
  minimum : Option Double
  maximum : Option Double
  allowed : Option (List Json)

namespace Constraints

def free : Constraints := ⟨none, none, none, none, none, none⟩

def isEmpty (c : Constraints) : Bool :=
  c.pattern.isNone && c.minLength.isNone && c.maxLength.isNone && c.minimum.isNone &&
    c.maximum.isNone && c.allowed.isNone

/-- A field that is left out if there is no value for it. -/
def present (name : String) (f : α → Json) (v : Option α) : List (String × Json) :=
  (v.map fun a => (name, f a)).toList

def toJson (c : Constraints) : Json :=
  .object (present "pattern" .string c.pattern ++ present "min_length" .ofNat c.minLength ++
    present "max_length" .ofNat c.maxLength ++ present "minimum" .ofDouble c.minimum ++
    present "maximum" .ofDouble c.maximum ++ present "enum" .array c.allowed)

end Constraints

structure Parameter where
  type : ParameterType
  required : Bool
  description : Option String
  /-- The value that stands for a missing one. -/
  default : Option Json
  constraints : Option Constraints

namespace Parameter

def toJson (p : Parameter) : Json :=
  .object ([("type", Vocabulary.toJson p.type), ("required", .bool p.required)] ++
    Constraints.present "description" .string p.description ++
    Constraints.present "default" id p.default ++
    Constraints.present "validation" Constraints.toJson p.constraints)

end Parameter

namespace Command

/-- What happens around a command, and how long it may take. -/
structure Execution where
  checks : List String
  actions : List String
  timeoutMs : Nat
  retryAttempts : Nat
  requiresConfirmation : Bool
  deriving DecidableEq

/-- What happens when a command fails. -/
structure ErrorHandling where
  retryCount : Nat
  fallback : FallbackStrategy
  escalationRules : List String
  deriving DecidableEq

/-- Whether commands of a type are confirmed if nothing is said about it. -/
def confirmsByDefault (t : CommandType) : Bool :=
  t == .deployment

namespace Execution

def standardTimeoutMs : Nat := 30000

/-- How commands of a type are run if nothing is said about it. -/
def standard (t : CommandType) : Execution :=
  ⟨[], [], standardTimeoutMs, 0, confirmsByDefault t⟩

def toJson (e : Execution) : Json :=
  .object [("pre_execution_checks", .strings e.checks),
    ("post_execution_actions", .strings e.actions), ("timeout_ms", .ofNat e.timeoutMs),
    ("retry_attempts", .ofNat e.retryAttempts),
    ("requires_confirmation", .bool e.requiresConfirmation)]

end Execution

namespace ErrorHandling

def standard : ErrorHandling := ⟨0, .ask, []⟩

def toJson (e : ErrorHandling) : Json :=
  .object [("retry_count", .ofNat e.retryCount),
    ("fallback_strategy", Vocabulary.toJson e.fallback),
    ("escalation_rules", .strings e.escalationRules)]

end ErrorHandling

end Command

structure Command where
  name : String
  scope : Scope
  tags : List String
  version : Option String
  /-- The instructions for the command. -/
  content : String
  lastModified : Timestamp
  path : FilePath
  type : CommandType
  format : OutputFormat
  schema : NameMap Parameter
  execution : Command.Execution
  errorHandling : Command.ErrorHandling
  contextRequirements : List String
  security : SecuritySettings
  priority : Int
  heading : Heading
  /-- What was noted while the document was read. -/
  issues : List Issue

namespace Command

def sortKey (c : Command) : SortKey :=
  ⟨c.name, c.priority, c.lastModified, Vocabulary.word c.type⟩

def toJson (c : Command) : Json :=
  .object [("name", .string c.name), ("scope", Vocabulary.toJson c.scope),
    ("tags", .strings c.tags), ("version", .ofString? c.version),
    ("content", .string c.content), ("last_modified", .string c.lastModified.text),
    ("source_path", .string c.path.text), ("command_type", Vocabulary.toJson c.type),
    ("output_format", Vocabulary.toJson c.format),
    ("parameter_schema", .object (c.schema.entries.map fun e => (e.1, e.2.toJson))),
    ("execution_settings", c.execution.toJson), ("error_handling", c.errorHandling.toJson),
    ("context_requirements", .strings c.contextRequirements),
    ("security_settings", c.security.toJson), ("priority", .ofInt c.priority),
    ("metadata", c.heading.toJson), ("metadata_issues", .array (c.issues.map Issue.toJson))]

end Command

end Roster
