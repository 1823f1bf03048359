import Roster.Agent.Reading
import Roster.Registry.Listing

/-! # Listing agents

Agents can be chosen by their types, their capabilities and their tags.
-/
namespace Roster.Agent

def reader : Reader Agent := ⟨.agent, ofConfiguration⟩

structure Filter where
  types : List AgentType
  capabilities : NameSet
  tags : NameSet

namespace Filter

def all : Filter := ⟨[], ∅, ∅⟩

/-- Whether an agent passes. Of each kind of condition one has to be met. -/
def passes (f : Filter) (a : Agent) : Bool :=
  admits f.types (· == a.type) && admits f.capabilities.names a.hasCapability &&
    admits f.tags.names a.tags.contains

end Filter

structure ListOptions where
  load : LoadOptions
  filter : Filter
  arrangement : Arrangement

namespace ListOptions

def standard : ListOptions := ⟨.standard, .all, .standard⟩

def names : List String :=
  ["load", "filter_by_type", "filter_by_capabilities", "filter_by_tags", "sort_by", "sort_order"]

def set (o : ListOptions) (key : String) (v : Json) : Except String ListOptions := do
  match key with
  | "load" => return { o with load := ← LoadOptions.ofJson v }
  | "filter_by_type" =>
    return { o with filter.types := ← Shape.listOf Vocabulary.ofJson v }
  | "filter_by_capabilities" =>
    return { o with filter.capabilities := .ofNames (← Shape.strings v) }
  | "filter_by_tags" => return { o with filter.tags := .ofNames (← Shape.strings v) }
  | "sort_by" => return { o with arrangement.field := ← Shape.optional Vocabulary.ofJson v }
  | "sort_order" => return { o with arrangement.order := ← Vocabulary.ofJson v }
  | _ => return o

def ofJson : Shape ListOptions :=
  Shape.recordOrList "AgentLoadOptions" names set standard

end ListOptions

/-- The agents of a source that pass a filter, in some order. -/
def listWith (yaml : YamlReader) (source : Source) (o : ListOptions) :
    Except DefinitionError (List Agent) :=
  (reader.all yaml source o.load).map fun l =>
    o.arrangement.arrange sortKey (l.filter o.filter.passes)

def list : Source → ListOptions → Except DefinitionError (List Agent) :=
  listWith Yaml.readJson

end Roster.Agent
