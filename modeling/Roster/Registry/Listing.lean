import Roster.Definition.Invalid
import Roster.Definition.Sorting
import Roster.Registry.Hierarchy

/-! # Listing definitions

All definitions of a kind can be listed, filtered and sorted, and a single one
can be looked up by its name.
-/
namespace Roster

/-- Why definitions cannot be loaded. -/
inductive DefinitionError where
  | load (e : LoadError)
  | invalid (e : InvalidDefinition)

namespace DefinitionError

def message : DefinitionError → String
  | load e => e.message
  | invalid e => e.message

/-- What caused an error, where that is an error of its own. -/
def cause? : DefinitionError → Option String
  | load e => e.cause?
  | invalid _ => none

end DefinitionError

/-- How definitions of a kind are read. -/
structure Reader (α : Type) where
  kind : DefinitionKind
  ofConfiguration : Configuration → Except String α

namespace Reader

variable {α : Type}

def read (r : Reader α) (c : Configuration) : Except InvalidDefinition α :=
  InvalidDefinition.guard r.kind r.ofConfiguration c

/-- The definitions that configurations hold. A strict load stops at one that holds none, a
lenient load leaves it out. -/
def readAll (r : Reader α) (strict : Bool) (l : List Configuration) :
    Except InvalidDefinition (List α) :=
  if strict then l.mapM r.read
  else .ok (l.filterMap fun c => (r.read c).toOption)

/-- All definitions of a source, in the order of their names. -/
def all (yaml : YamlReader) (r : Reader α) (source : Source) (o : LoadOptions) :
    Except DefinitionError (List α) := do
  let h ← (Hierarchy.loadWith yaml source o).mapError .load
  (r.readAll o.strict (h.ofKind r.kind.document)).mapError .invalid

/-- The definition of a name, if the name stands for one of the kind. -/
def findWith? (yaml : YamlReader) (r : Reader α) (source : Source) (o : LoadOptions)
    (name : String) : Except DefinitionError (Option α) := do
  let h ← (Hierarchy.loadWith yaml source o).mapError .load
  match h.resolved.get? name with
  | none => return none
  | some c =>
    if c.kind = r.kind.document then return some (← (r.read c).mapError .invalid)
    else return none

def find? : Reader α → Source → LoadOptions → String → Except DefinitionError (Option α) :=
  findWith? Yaml.readJson

end Reader

/-- An order of definitions: by name, unless a field is given. -/
structure Arrangement where
  field : Option SortField
  order : SortOrder

namespace Arrangement

def standard : Arrangement := ⟨none, .ascending⟩

def arrange {α : Type} (a : Arrangement) (key : α → SortKey) (l : List α) : List α :=
  match a.field with
  | none => l
  | some f => sortBy key f a.order l

end Arrangement

/-- A choice of values of which one has to be met; no values stand for no choice. -/
def admits {α : Type} (choice : List α) (meets : α → Bool) : Bool :=
  choice.isEmpty || choice.any meets

namespace Shape

variable {α : Type}

def listOf (f : Shape α) : Shape (List α)
  | .array items => items.mapM f
  | v => refuse "a sequence" v

end Shape

end Roster
