import Roster.Definition.SettingsBlock

/-! # Security settings

How sensitive a definition is, and what it needs to be allowed. Levels are
ordered from low to critical.
-/
namespace Roster

inductive SecurityLevel where
  | low | medium | high | critical
  deriving DecidableEq, Repr, Inhabited

namespace SecurityLevel

/-- The place of a level in their order. -/
def rank : SecurityLevel → Nat
  | low => 0
  | medium => 1
  | high => 2
  | critical => 3

instance : LE SecurityLevel := ⟨fun a b => a.rank ≤ b.rank⟩
instance : LT SecurityLevel := ⟨fun a b => a.rank < b.rank⟩
instance (a b : SecurityLevel) : Decidable (a ≤ b) := inferInstanceAs (Decidable (a.rank ≤ b.rank))
instance (a b : SecurityLevel) : Decidable (a < b) := inferInstanceAs (Decidable (a.rank < b.rank))

protected def max (a b : SecurityLevel) : SecurityLevel :=
  if a ≤ b then b else a

/-- The highest level of a list, `low` if it is empty. -/
def highest (l : List SecurityLevel) : SecurityLevel :=
  l.foldl SecurityLevel.max low

instance : Vocabulary SecurityLevel where
  noun := "security level"
  values := [low, medium, high, critical]
  word
    | low => "low"
    | medium => "medium"
    | high => "high"
    | critical => "critical"
  spellings _ := []
  reads := id
  fallback := medium

end SecurityLevel

structure SecuritySettings where
  /-- Whether it may only run in a restricted environment. -/
  restricted : Bool
  requiredPermissions : NameSet
  level : SecurityLevel
  deriving DecidableEq

namespace SecuritySettings

/-- The settings of a definition that says nothing about them. -/
def standard : SecuritySettings := ⟨false, ∅, .medium⟩

structure Written where
  restricted : Bool
  requiredPermissions : List String
  level : Option String

namespace Written

def record : Record Written where
  name := "SecurityFields"
  start := ⟨false, [], none⟩
  fields := [
    .of "restricted" Shape.bool fun w x => { w with restricted := x },
    .of "required_permissions" Shape.stringList fun w x => { w with requiredPermissions := x },
    .of "security_level" (Shape.optional Shape.string) fun w x => { w with level := x }]

def ofJson : Shape (WithExtra Written) :=
  record.ofJson

end Written

def block : SettingsBlock Written SecuritySettings where
  key := "security_settings"
  record := Written.record
  standard := standard
  settle w :=
    let (level, issues) := Issue.parseWord "security_settings.security_level" w.level
    (⟨w.restricted, .ofNames w.requiredPermissions, level⟩, issues)

/-- The settings that are written, with issues for fields without meaning and for a level that
cannot be read. -/
def ofWritten : WithExtra Written → SecuritySettings × List Issue :=
  block.ofWritten

def fields (s : SecuritySettings) : List (String × Json) :=
  [("restricted", .bool s.restricted),
    ("required_permissions", .strings s.requiredPermissions.names),
    ("security_level", Vocabulary.toJson s.level)]

def toJson (s : SecuritySettings) : Json :=
  .object s.fields

end SecuritySettings

end Roster
