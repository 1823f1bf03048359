import Roster.Json.Shape
import Roster.Scope

/-! # Load options

Which tiers are loaded, and whether a faulty document stops the load.
-/
namespace Roster

/-- Which tiers are loaded and how strictly. -/
structure LoadOptions where
  includeDefault : Bool
  includeGlobal : Bool
  includeProject : Bool
  /-- Whether faulty documents stop the load; otherwise they are skipped. -/
  strict : Bool
  deriving DecidableEq, Repr

namespace LoadOptions

/-- All tiers, strictly. -/
def standard : LoadOptions := ⟨true, true, true, true⟩

def includes (o : LoadOptions) : Scope → Bool
  | .default => o.includeDefault
  | .global => o.includeGlobal
  | .project => o.includeProject

def names : List String :=
  ["include_default", "include_global", "include_project", "validate_on_load"]

def set (o : LoadOptions) (key : String) (v : Json) : Except String LoadOptions := do
  match key with
  | "include_default" => return { o with includeDefault := ← Shape.bool v }
  | "include_global" => return { o with includeGlobal := ← Shape.bool v }
  | "include_project" => return { o with includeProject := ← Shape.bool v }
  | "validate_on_load" => return { o with strict := ← Shape.bool v }
  | _ => return o

def ofJson : Shape LoadOptions :=
  Shape.recordOrList "LoadOptions" names set standard

def toJson (o : LoadOptions) : Json :=
  .object [("include_default", .bool o.includeDefault),
    ("include_global", .bool o.includeGlobal), ("include_project", .bool o.includeProject),
    ("validate_on_load", .bool o.strict)]

end LoadOptions

end Roster
