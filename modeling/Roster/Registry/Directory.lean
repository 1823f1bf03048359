import Roster.FileTree.Workspace
import Roster.Registry.Builtin

/-! # Directories as sources

The global and the project tier are directories with one subdirectory for each
kind of definition. Every text file below them that is written in Markdown is a
document; the default tier has the built-in ones.
-/
namespace Roster

structure TierDirectories where
  global : Option FilePath
  project : Option FilePath
  /-- Whether the default tier has the built-in documents. -/
  builtins : Bool
  deriving DecidableEq, Repr

namespace TierDirectories

/-- The name of the directory in which definitions are kept. -/
def name : FilePath := ⟨".loadout"⟩

/-- The directories of a workspace: one at home and one in the project. -/
def ofWorkspace (w : Workspace) : TierDirectories :=
  ⟨w.home.map fun h => h.join name, some (w.project.join name), true⟩

def root? (d : TierDirectories) : Scope → Option FilePath
  | .default => none
  | .global => d.global
  | .project => d.project

/-- The largest size of a document in bytes; larger files are left out. -/
def largestDocument : Nat := 10 * 1024 * 1024

def isDocument (p : FilePath) : Bool :=
  p.extension?.any fun e => e.toList.map Char.toLower == ['m', 'd']

/-- The document in a file, unless it is too large. -/
def document? (hint : DocumentKind) (p : FilePath) (f : StoredFile) : Option SourceDocument :=
  if largestDocument < f.size then none
  else some ⟨p, some hint, match f.text with
    | .ok t => .ok ⟨t, f.lastModified⟩
    | .error flaw => .error ⟨.invalidData, flaw.message⟩⟩

/-- The documents of a kind below a directory, in the order of their paths. -/
def documentsBelow (w : Workspace) (hint : DocumentKind) (dir : FilePath) : List SourceDocument :=
  let paths := ((w.files dir).filter isDocument).mergeSort FilePath.le
  paths.filterMap fun p => (w.file? p).bind (document? hint p)

/-- The documents in the directory of a tier, agents before commands. -/
def documentsIn (w : Workspace) (root : FilePath) : List SourceDocument :=
  documentsBelow w .agent (root.join ⟨"agents"⟩) ++
    documentsBelow w .command (root.join ⟨"commands"⟩)

/-- The source of these directories. It never fails. -/
def documents (w : Workspace) (d : TierDirectories) (scope : Scope) : List SourceDocument :=
  match scope with
  | .default => if d.builtins then Builtin.documents else []
  | s => (d.root? s).elim [] (documentsIn w)

def source (w : Workspace) (d : TierDirectories) : Source :=
  fun scope => .ok (d.documents w scope)

end TierDirectories

end Roster
