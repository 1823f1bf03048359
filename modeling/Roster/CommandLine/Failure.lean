import Roster.FileTree.Workspace
import Roster.Registry.Listing
import Roster.Settings.Layers

/-! # Failed runs

Why a run stops without an answer. A failure is told with its causes, each behind
what it made fail.
-/
namespace Roster.CommandLine

/-- Why a run stops. -/
inductive Failure where
  | settings (e : Settings.Error)
  | definitions (e : DefinitionError)
  | unknownNames (kind : DefinitionKind) (names : List String)
  | document (e : DocumentError)
  | fileExists (p : FilePath)
  | directory (p : FilePath) (fault : FileFault)
  | file (p : FilePath) (fault : FileFault)

namespace Failure

/-- What is wrong, followed by its causes. -/
def chain : Failure → List String
  | settings e => ["failed to load loadout settings", e.message, e.reason]
  | definitions e => e.message :: e.cause?.toList
  | unknownNames kind names =>
    ["unknown " ++ kind.word ++ "(s): " ++ Text.joinWith ", " names]
  | document e => [e.message]
  | fileExists p => [p.text ++ " already exists"]
  | directory p fault => ["failed to create " ++ p.text, fault.message]
  | file p fault => ["failed to write " ++ p.text, fault.message]

def message (f : Failure) : String :=
  Text.joinWith ": " f.chain

/-- The values of some names in the order of the names, all values if there are no names, or the
names that no value has. -/
def select {α : Type} (kind : DefinitionKind) (name : α → String) (all : List α)
    (names : List String) : Except Failure (List α) :=
  if names.isEmpty then .ok all
  else
    match names.filter fun n => !all.any fun a => name a == n with
    | [] => .ok (names.filterMap fun n => all.find? fun a => name a == n)
    | unknown => .error (.unknownNames kind unknown)

end Failure

end Roster.CommandLine
