import Roster.Configuration

/-! # Configurations that define nothing

A configuration whose metadata does not have the form of a definition.
-/
namespace Roster

/-- What a document can define. -/
inductive DefinitionKind where
  | agent
  | command
  deriving DecidableEq, Repr

namespace DefinitionKind

def word : DefinitionKind → String
  | agent => "agent"
  | command => "command"

def document : DefinitionKind → DocumentKind
  | agent => .agent
  | command => .command

end DefinitionKind

/-- A configuration that is no definition of its kind. -/
structure InvalidDefinition where
  kind : DefinitionKind
  name : String
  path : FilePath
  reason : String

namespace InvalidDefinition

def message (e : InvalidDefinition) : String :=
  "invalid " ++ e.kind.word ++ " '" ++ e.name ++ "' in '" ++ e.path.text ++ "': " ++ e.reason

/-- The definition that is read from a configuration. -/
def guard {α : Type} (kind : DefinitionKind) (read : Configuration → Except String α)
    (c : Configuration) : Except InvalidDefinition α :=
  (read c).mapError fun reason => ⟨kind, c.name, c.path, reason⟩

end InvalidDefinition

end Roster
