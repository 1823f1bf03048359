import Roster.Timestamp.Basic
import Roster.Vocabulary

/-! # Sorting

Definitions are sorted by one of their properties, in either direction, and
those with the same property by name. What has the same property and the same
name stays in its order.
-/
namespace Roster

inductive SortField where
  | name | priority | lastModified | kind
  deriving DecidableEq, Repr, Inhabited

instance : Vocabulary SortField where
  noun := "sort field"
  values := [.name, .priority, .lastModified, .kind]
  word
    | .name => "name"
    | .priority => "priority"
    | .lastModified => "last_modified"
    | .kind => "type"
  spellings
    | .lastModified => ["lastmodified", "modified"]
    | _ => []
  reads c := if c = '-' then '_' else c
  fallback := .name

inductive SortOrder where
  | ascending | descending
  deriving DecidableEq, Repr, Inhabited

instance : Vocabulary SortOrder where
  noun := "sort order"
  values := [.ascending, .descending]
  word
    | .ascending => "asc"
    | .descending => "desc"
  spellings _ := []
  reads := id
  fallback := .ascending

namespace SortOrder

/-- The comparison in this direction. -/
def direct : SortOrder → Ordering → Ordering
  | ascending, o => o
  | descending, o => o.swap

end SortOrder

structure SortKey where
  name : String
  priority : Int
  lastModified : Timestamp
  kind : String

namespace SortKey

def compareBy : SortField → SortKey → SortKey → Ordering
  | .name, a, b => compare a.name b.name
  | .priority, a, b => compare a.priority b.priority
  | .lastModified, a, b =>
    (compare a.lastModified.seconds b.lastModified.seconds).then
      (compare a.lastModified.nanos b.lastModified.nanos)
  | .kind, a, b => compare a.kind b.kind

/-- Compares by one property in some direction, then by name. -/
def compare (field : SortField) (order : SortOrder) (a b : SortKey) : Ordering :=
  (order.direct (compareBy field a b)).then (Ord.compare a.name b.name)

end SortKey

def sortBy {α : Type} (key : α → SortKey) (field : SortField) (order : SortOrder)
    (l : List α) : List α :=
  l.mergeSort fun a b => (SortKey.compare field order (key a) (key b)).isLE

end Roster
