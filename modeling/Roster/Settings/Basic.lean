import Roster.Registry.Directory
import Roster.Registry.Options

/-! # Settings

Which tiers are loaded and how strictly, and which directories stand for the
global tier and for the project.
-/
namespace Roster

structure Settings where
  includeDefault : Bool
  includeGlobal : Bool
  includeProject : Bool
  /-- Whether faulty documents stop a load. -/
  strict : Bool
  /-- The directory of the project. -/
  projectDir : Option FilePath
  /-- The directory of the global tier. -/
  globalDir : Option FilePath
  deriving DecidableEq, Repr

namespace Settings

/-- All tiers, strictly, in the directories of the workspace. -/
def standard : Settings := ⟨true, true, true, true, none, none⟩

def loadOptions (s : Settings) : LoadOptions :=
  ⟨s.includeDefault, s.includeGlobal, s.includeProject, s.strict⟩

/-- The directories of the tiers. Those that the settings name take the place of those of the
workspace. -/
def directories (s : Settings) (w : Workspace) : TierDirectories :=
  let found := TierDirectories.ofWorkspace w
  { found with
    global := s.globalDir <|> found.global
    project := (s.projectDir.map fun d => d.join TierDirectories.name) <|> found.project }

def names : List String :=
  ["include_default", "include_global", "include_project", "validate_on_load", "project_dir",
    "global_dir"]

def set (s : Settings) (key : String) (v : Json) : Except String Settings := do
  let path : Except String (Option FilePath) :=
    (Shape.optional Shape.pathString v).map fun p => p.map FilePath.mk
  match key with
  | "include_default" => return { s with includeDefault := ← Shape.bool v }
  | "include_global" => return { s with includeGlobal := ← Shape.bool v }
  | "include_project" => return { s with includeProject := ← Shape.bool v }
  | "validate_on_load" => return { s with strict := ← Shape.bool v }
  | "project_dir" => return { s with projectDir := ← path }
  | "global_dir" => return { s with globalDir := ← path }
  | _ => return s

def ofJson : Shape Settings :=
  Shape.recordOrList "LoadoutSettings" names set standard

def toJson (s : Settings) : Json :=
  let path (p : Option FilePath) : Json := .ofString? (p.map (·.text))
  .object [("include_default", .bool s.includeDefault), ("include_global", .bool s.includeGlobal),
    ("include_project", .bool s.includeProject), ("validate_on_load", .bool s.strict),
    ("project_dir", path s.projectDir), ("global_dir", path s.globalDir)]

end Settings

end Roster
