import Roster.Command.Definition
import Roster.Document.Basic

/-! # Documents to start a command from

A starting document has one parameter as an example and spells out the settings
that most commands change, each at its default, so that it is valid as it
stands.
-/
namespace Roster.Command

/-- The form in which commands of a type start to answer. -/
def startingFormat : CommandType → OutputFormat
  | .generation | .refactoring | .testing => .code
  | .analysis => .markdown
  | .deployment => .plain

/-- The document from which a command of a name and type is started. -/
def template (name : String) (type : CommandType) : Document where
  metadata := .ofList [
    ("name", .string name),
    ("description", .string ("Describe what " ++ name ++ " does")),
    ("command_type", Vocabulary.toJson type),
    ("version", .string "1.0.0"),
    ("tags", .strings ["command"]),
    ("output_format", Vocabulary.toJson (startingFormat type)),
    ("parameters", .ofFields [
      ("target", .ofFields [
        ("type", Vocabulary.toJson ParameterType.string),
        ("required", .bool true),
        ("description", .string "What the command operates on")])]),
    ("execution_settings", .ofFields [
      ("timeout_ms", .ofNat (Execution.standard type).timeoutMs),
      ("retry_attempts", .ofNat (Execution.standard type).retryAttempts),
      ("requires_confirmation", .bool (Execution.standard type).requiresConfirmation)]),
    ("error_handling", .ofFields [
      ("retry_count", .ofNat ErrorHandling.standard.retryCount),
      ("fallback_strategy", Vocabulary.toJson ErrorHandling.standard.fallback)]),
    ("security_settings", .ofFields SecuritySettings.standard.fields)]
  body := "# " ++ name ++ "\n\n" ++
    "Describe the steps for \x60\x7b\x7btarget\x7d\x7d\x60 and what the output should contain.\n"

end Roster.Command
