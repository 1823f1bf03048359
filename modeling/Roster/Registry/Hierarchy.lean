import Roster.Registry.Options
import Roster.Registry.Reading

/-! # The hierarchy of tiers

Each tier is loaded on its own: its documents are taken in the order of their
paths, and each of them has one fate. A name that several tiers define belongs
to the last of them.

How YAML is read is a parameter here. Functions with `With` in their names have a
counterpart that reads it as `Yaml.readJson` does.
-/
namespace Roster

/-- What becomes of a document. -/
inductive Fate where
  /-- It is the first of its name in its tier. -/
  | entered (c : Configuration)
  /-- It is not what a document has to be. -/
  | skipped (e : LoadError)
  /-- Its name is taken by the document at a path. -/
  | duplicate (c : Configuration) (kept : FilePath)

/-- The configurations of a tier by name, and what was odd about its documents. -/
structure Tier where
  entries : NameMap Configuration
  warnings : List LoadWarning

namespace Tier

def empty : Tier := ⟨∅, []⟩

/-- What becomes of a document behind those of a tier, and what is odd about it. A strict load
skips nothing. -/
def fate (yaml : YamlReader) (scope : Scope) (strict : Bool) (t : Tier) (d : SourceDocument) :
    Except LoadError (Fate × List LoadWarning) :=
  match d.read yaml scope strict with
  | .error e => if strict then .error e else .ok (.skipped e, [⟨scope, d.path, e.message⟩])
  | .ok (c, notes) =>
    match t.entries.get? c.name with
    | none => .ok (.entered c, notes)
    | some other =>
      let note := "duplicate name '" ++ c.name ++ "' in " ++ scope.word ++ " tier; keeping " ++
        other.path.text
      .ok (.duplicate c other.path, notes ++ [⟨scope, d.path, note⟩])

def take (yaml : YamlReader) (scope : Scope) (strict : Bool) (t : Tier) (d : SourceDocument) :
    Except LoadError Tier := do
  let (fate, notes) ← t.fate yaml scope strict d
  let entries := match fate with
    | .entered c => t.entries.insert c.name c
    | .skipped _ | .duplicate _ _ => t.entries
  return ⟨entries, t.warnings ++ notes⟩

/-- Documents in the order in which they are loaded: by path, those of one path as they come. -/
def inOrder (l : List SourceDocument) : List SourceDocument :=
  l.mergeSort fun a b => a.path.le b.path

def ofDocuments (yaml : YamlReader) (scope : Scope) (strict : Bool) (l : List SourceDocument) :
    Except LoadError Tier :=
  (inOrder l).foldlM (take yaml scope strict) empty

/-- A tier of a source; one that is not included is empty, whatever the source says. -/
def load (yaml : YamlReader) (source : Source) (o : LoadOptions) (scope : Scope) :
    Except LoadError Tier := do
  if o.includes scope then ofDocuments yaml scope o.strict (← source scope) else return empty

end Tier

/-- All tiers. -/
structure Hierarchy where
  default : Tier
  global : Tier
  project : Tier

namespace Hierarchy

def loadWith (yaml : YamlReader) (source : Source) (o : LoadOptions) :
    Except LoadError Hierarchy := do
  let default ← Tier.load yaml source o .default
  let global ← Tier.load yaml source o .global
  let project ← Tier.load yaml source o .project
  return ⟨default, global, project⟩

def load : Source → LoadOptions → Except LoadError Hierarchy :=
  loadWith Yaml.readJson

def tier (h : Hierarchy) : Scope → Tier
  | .default => h.default
  | .global => h.global
  | .project => h.project

/-- The configuration that each name stands for: later tiers take precedence. -/
def resolved (h : Hierarchy) : NameMap Configuration :=
  (h.default.entries.union h.global.entries).union h.project.entries

/-- What was odd about documents, tier by tier. -/
def warnings (h : Hierarchy) : List LoadWarning :=
  h.default.warnings ++ h.global.warnings ++ h.project.warnings

/-- The tiers that define a name, in ascending order of precedence. -/
def definedIn (h : Hierarchy) (name : String) : List Scope :=
  Scope.all.filter fun s => (h.tier s).entries.contains name

/-- The resolved configurations of a kind, in the order of their names. -/
def ofKind (h : Hierarchy) (k : DocumentKind) : List Configuration :=
  h.resolved.values.filter fun c => c.kind = k

def toJson (h : Hierarchy) : Json :=
  let configurations (m : NameMap Configuration) : Json :=
    .ofMap (m.mapValues Configuration.toJson)
  .object [("default", configurations h.default.entries),
    ("global", configurations h.global.entries), ("project", configurations h.project.entries),
    ("resolved", configurations h.resolved),
    ("warnings", .array (h.warnings.map LoadWarning.toJson))]

end Hierarchy

end Roster
