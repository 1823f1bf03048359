import Roster.Settings.Basic
import Roster.Settings.Variable

/-! # Layers of settings

The settings file of the global tier, that of the project and the environment
variables lie above the standard settings, in this order: what a later layer
says about a setting takes the place of what earlier layers say. Files that are
missing say nothing.
-/
namespace Roster.Settings

/-- Where a setting is written. -/
inductive Origin where
  /-- A file, by its path as messages show it. -/
  | file (shown : FilePath)
  | environment
  deriving DecidableEq, Repr

namespace Origin

def place (key : String) : Origin → String
  | file shown => "for key \"default." ++ key ++ "\" in " ++ shown.text ++ " YAML file"
  | environment =>
    "for key \"" ++ String.ofList (key.toList.map Char.toUpper) ++ "\" in \x60" ++
      Variable.marker ++ "\x60 environment variable(s)"

end Origin

/-- A settings file that cannot be read. -/
structure FileFlaw where
  shown : FilePath
  reason : String
  deriving DecidableEq, Repr

/-- Why there are no settings. -/
inductive Error where
  /-- Some files cannot be read. -/
  | files (first : FileFlaw) (more : List FileFlaw)
  /-- A setting has a value of the wrong kind. -/
  | wrongKind (value : SettingValue) (expected key : String) (origin : Origin)
  deriving DecidableEq, Repr

namespace Error

/-- What is wrong; of several files, a later one comes first. -/
def reason : Error → String
  | files first more =>
    let line (f : FileFlaw) := f.reason ++ " in " ++ f.shown.text ++ " YAML file"
    Text.joinWith "\n" ((first :: more).reverse.map line)
  | wrongKind v expected key origin =>
    "invalid type: found " ++ v.found ++ ", expected " ++ expected ++ " " ++ origin.place key

def message (e : Error) : String :=
  "failed to load settings: " ++ e.reason

end Error

structure Layer where
  origin : Origin
  values : NameMap SettingValue

def fileName : FilePath := ⟨"config.yaml"⟩

/-- The file that a path means. A relative path is looked for in the working directory and in
the directories above it. -/
def find? (w : Workspace) (p : FilePath) : Option (FilePath × StoredFile) :=
  let places := if p.isAbsolute then [p] else (w.path :: w.path.ancestors).map fun d => d.join p
  places.findSome? fun q => (w.file? q).map fun f => (q, f)

def read (f : StoredFile) : Except String (NameMap SettingValue) :=
  match f.text with
  | .error _ => .error "stream did not contain valid UTF-8"
  | .ok t => (Yaml.readMapping SettingValue.yamlTarget t.toList).mapError Yaml.Fault.message

def fileLayer? (w : Workspace) (p : FilePath) : Except FileFlaw (Option Layer) :=
  match find? w p with
  | none => .ok none
  | some (q, f) =>
    let shown := w.path.shortestFrom q
    match read f with
    | .ok values => .ok (some ⟨.file shown, values⟩)
    | .error reason => .error ⟨shown, reason⟩

/-- The layers of files. All files are read before one that cannot be is reported. -/
def fileLayers (w : Workspace) (files : List FilePath) : Except Error (List Layer) :=
  let results := files.map (fileLayer? w)
  let flaws := results.filterMap fun
    | .error f => some f
    | .ok _ => none
  match flaws with
  | first :: more => .error (.files first more)
  | [] => .ok (results.filterMap fun
    | .ok l => l
    | .error _ => none)

/-- What the last layer that says something about a setting says about it. -/
def combine (layers : List Layer) : NameMap (SettingValue × Origin) :=
  layers.foldl (fun m l => m.union (l.values.mapValues fun v => (v, l.origin))) ∅

def bool (v : SettingValue) : Except String Bool :=
  match v with
  | .bool b => .ok b
  | _ => .error "a boolean"

def path (v : SettingValue) : Except String (Option FilePath) :=
  match v with
  | .nothing => .ok none
  | .text s => .ok (some ⟨s⟩)
  | .character c => .ok (some ⟨String.singleton c⟩)
  | _ => .error "path string"

/-- The settings with one more value, or what the value should be. -/
def put (s : Settings) (key : String) (v : SettingValue) : Except String Settings := do
  match key with
  | "include_default" => return { s with includeDefault := ← bool v }
  | "include_global" => return { s with includeGlobal := ← bool v }
  | "include_project" => return { s with includeProject := ← bool v }
  | "validate_on_load" => return { s with strict := ← bool v }
  | "project_dir" => return { s with projectDir := ← path v }
  | "global_dir" => return { s with globalDir := ← path v }
  | _ => return s

/-- The settings of layers. Of several wrong values the one with the first key is reported. -/
def ofLayers (layers : List Layer) : Except Error Settings :=
  (combine layers).entries.foldlM (fun s (key, v, origin) =>
    (s.put key v).mapError fun expected => .wrongKind v expected key origin) standard

/-- The settings of a workspace, with the directory of the global tier and the project whose
files are read. -/
def load (w : Workspace) (globalRoot projectRoot : Option FilePath) : Except Error Settings := do
  let files := (globalRoot.map fun r => r.join fileName).toList ++
    (projectRoot.map fun r => (r.join TierDirectories.name).join fileName).toList
  let layers ← fileLayers w files
  ofLayers (layers ++ [⟨.environment, Variable.settings w.environment⟩])

/-- The global tier and the project as a workspace has them. -/
def loadStandard (w : Workspace) : Except Error Settings :=
  load w (w.home.map fun h => h.join TierDirectories.name) (some w.project)

end Roster.Settings
