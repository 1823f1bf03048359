import Roster.FileTree.Walk

/-! # Changing file trees

Directories are made one by one, from the outermost that is missing; a file is
written where its path leads, through a link if there is one.
-/
namespace Roster.FileTree

open FilePath

def leadsToDirectory (t : FileTree) (dir : Place) (steps : List Component) : Bool :=
  match t.walk linkLimit dir steps with
  | .ok (.present _ .directory) => true
  | _ => false

/-- The directory in which the last step of a path is made. -/
def directoryOf (t : FileTree) (dir : Place) (steps : List Component) : Except FileFault Place := do
  match ← t.walk linkLimit dir steps with
  | .present p .directory => return p
  | .present _ _ => .error .notADirectory
  | .vacant _ => .error .notFound

/-- Makes the directory of a path, whose steps come last first. -/
def makeDirectory (t : FileTree) (dir : Place) : List Component → Except FileFault FileTree
  | .name s :: before => do
    let p ← t.directoryOf dir before.reverse
    if let some fault := FileFault.ofName? s then .error fault
    if (t.node? (p ++ [s])).isSome then .error .alreadyThere
    return t.put (p ++ [s]) .directory
  | steps => do
    let _ ← t.directoryOf dir steps.reverse
    .error .alreadyThere

/-- Makes the directory of a path, whose steps come last first, and those above it. -/
def makeDirectories (t : FileTree) (dir : Place) : List Component → Except FileFault FileTree
  | [] => .ok t
  | s :: before =>
    let unlessThere (t : FileTree) (fault : FileFault) : Except FileFault FileTree :=
      if t.leadsToDirectory dir (s :: before).reverse then .ok t else .error fault
    match t.makeDirectory dir (s :: before) with
    | .ok t => .ok t
    | .error .notFound => do
      let t ← makeDirectories t dir before
      match t.makeDirectory dir (s :: before) with
      | .ok t => .ok t
      | .error fault => unlessThere t fault
    | .error fault => unlessThere t fault

/-- Writes a file where a path leads. A path that ends with a slash is none of a file. -/
def write (t : FileTree) (dir : Place) (p : FilePath) (f : StoredFile) :
    Except FileFault FileTree := do
  if p.text.toList.getLast? = some '/' then
    let _ ← t.directoryOf dir p.components.dropLast
    .error .isADirectory
  match ← t.locate dir p with
  | .present _ .directory => .error .isADirectory
  | .present q _ | .vacant q => return t.put q (.file f)

end Roster.FileTree
