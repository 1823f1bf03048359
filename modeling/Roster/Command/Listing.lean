import Roster.Command.Reading
import Roster.Registry.Listing

/-! # Listing commands

Commands can be chosen by their types, their output formats and their tags.
-/
namespace Roster.Command

def reader : Reader Command := ⟨.command, ofConfiguration⟩

structure Filter where
  types : List CommandType
  formats : List OutputFormat
  tags : NameSet

namespace Filter

def all : Filter := ⟨[], [], ∅⟩

/-- Whether a command passes. Of each kind of condition one has to be met. -/
def passes (f : Filter) (c : Command) : Bool :=
  admits f.types (· == c.type) && admits f.formats (· == c.format) &&
    admits f.tags.names c.tags.contains

end Filter

structure ListOptions where
  load : LoadOptions
  filter : Filter
  arrangement : Arrangement

namespace ListOptions

def standard : ListOptions := ⟨.standard, .all, .standard⟩

def names : List String :=
  ["load", "filter_by_type", "filter_by_output_format", "filter_by_tags", "sort_by", "sort_order"]

def set (o : ListOptions) (key : String) (v : Json) : Except String ListOptions := do
  match key with
  | "load" => return { o with load := ← LoadOptions.ofJson v }
  | "filter_by_type" =>
    return { o with filter.types := ← Shape.listOf Vocabulary.ofJson v }
  | "filter_by_output_format" =>
    return { o with filter.formats := ← Shape.listOf Vocabulary.ofJson v }
  | "filter_by_tags" => return { o with filter.tags := .ofNames (← Shape.strings v) }
  | "sort_by" => return { o with arrangement.field := ← Shape.optional Vocabulary.ofJson v }
  | "sort_order" => return { o with arrangement.order := ← Vocabulary.ofJson v }
  | _ => return o

def ofJson : Shape ListOptions :=
  Shape.recordOrList "CommandLoadOptions" names set standard

end ListOptions

/-- The commands of a source that pass a filter, in some order. -/
def listWith (yaml : YamlReader) (source : Source) (o : ListOptions) :
    Except DefinitionError (List Command) :=
  (reader.all yaml source o.load).map fun l =>
    o.arrangement.arrange sortKey (l.filter o.filter.passes)

def list : Source → ListOptions → Except DefinitionError (List Command) :=
  listWith Yaml.readJson

end Roster.Command
