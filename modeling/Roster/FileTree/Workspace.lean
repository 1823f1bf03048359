import Roster.FileTree.Change

/-! # Workspaces

What a program sees around it: a file tree, the directory it works in, the home
directory and the environment variables. Relative paths start in the working
directory.
-/
namespace Roster

/-- The surroundings of a program. -/
structure Workspace where
  tree : FileTree
  directory : Place
  home : Option FilePath
  /-- The environment variables in order. -/
  environment : List (String × String)

namespace Workspace

def path (w : Workspace) : FilePath :=
  ⟨"/" ++ Text.joinWith "/" w.directory⟩

def locate (w : Workspace) (p : FilePath) : Except FileFault Arrival :=
  w.tree.locate w.directory p

def exists? (w : Workspace) (p : FilePath) : Bool :=
  match w.locate p with
  | .ok (.present _ _) => true
  | _ => false

def directory? (w : Workspace) (p : FilePath) : Option Place :=
  match w.locate p with
  | .ok (.present q .directory) => some q
  | _ => none

def file? (w : Workspace) (p : FilePath) : Option StoredFile :=
  match w.locate p with
  | .ok (.present _ (.file f)) => some f
  | _ => none

/-- The files below a directory at a place, and through links that do not lead back to one of
the directories on the way. `depth` bounds the way. -/
def filesBelow (w : Workspace) (depth : Nat) (above : List Place) (dir : FilePath) (place : Place) :
    List FilePath :=
  match depth with
  | 0 => []
  | depth + 1 =>
    (w.tree.namesIn place).flatMap fun name =>
      let p := dir.join ⟨name⟩
      match w.tree.node? (place ++ [name]) with
      | some .directory => filesBelow w depth (place :: above) p (place ++ [name])
      | some (.file _) => [p]
      | some (.link _) =>
        match w.locate p with
        | .ok (.present q .directory) =>
          if (place :: above).contains q then [] else filesBelow w depth (place :: above) p q
        | .ok (.present _ (.file _)) => [p]
        | _ => []
      | none => []

/-- The files below a directory. On a way without a loop, links lead to different directories,
and between two of them each step leads deeper into the tree. -/
def files (w : Workspace) (dir : FilePath) : List FilePath :=
  let n := w.tree.entries.length + 2
  match w.directory? dir with
  | some place => w.filesBelow (n * n) [] dir place
  | none => []

/-- The directory of the repository that a directory belongs to: the nearest one with an entry
of this name. -/
def repositoryOf? (w : Workspace) (start : FilePath) : Option FilePath :=
  (start :: start.ancestors).find? fun d => w.exists? (d.join ⟨".git"⟩)

/-- The directory of the project: the repository of the working directory, or that directory
itself. -/
def project (w : Workspace) : FilePath :=
  (w.repositoryOf? w.path).getD w.path

end Workspace

end Roster
