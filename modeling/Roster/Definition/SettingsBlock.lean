import Roster.Definition.Issue
import Roster.Json.Record

/-! # Blocks of settings

Settings that belong together stand in a mapping within the metadata. Standard
settings take the place of a block that is missing, and fields without meaning in
a block are noted.
-/
namespace Roster

/-- A block of settings `β`, written as `α`. -/
structure SettingsBlock (α β : Type) where
  key : String
  record : Record α
  standard : β
  /-- The settings that are written, with issues for values that cannot be read. -/
  settle : α → β × List Issue

namespace SettingsBlock

variable {α β γ : Type}

def field (b : SettingsBlock α β) (assign : γ → Option (WithExtra α) → γ) : Field γ :=
  .of b.key (Shape.optional b.record.ofJson) assign

def ofWritten (b : SettingsBlock α β) (w : WithExtra α) : β × List Issue :=
  let (settings, issues) := b.settle w.known
  (settings, Issue.unknownFields (some b.key) w.extra ++ issues)

def part (b : SettingsBlock α β) : Option (WithExtra α) → β × List Issue
  | none => (b.standard, [])
  | some w => b.ofWritten w

end SettingsBlock

end Roster
