import Roster.CommandLine.Run

/-! # The program

The program looks at the parts of the file system that a run can ask for, lets
the run answer, and then prints the answer and writes the files that are new.
-/
namespace Roster.Outside

open FilePath

def textOf (place : Place) : String :=
  (FilePath.ofComponents (.root :: place.map .name)).text

/-- Adds what is at a name in a directory. A link is kept as one to its last target. -/
def reveal (t : FileTree) (dir : Place) (name : String) : IO FileTree := do
  let place := dir ++ [name]
  let path := (← IO.currentDir) / textOf place
  if !(← path.pathExists) then return t
  let real := (← IO.FS.realPath path).toString
  if real != textOf place then return t.put place (.link ⟨real⟩)
  let data ← path.metadata
  match data.type with
  | .dir => return t.put place .directory
  | .file =>
    let time : Timestamp := ⟨data.modified.sec, data.modified.nsec.toNat⟩
    let bytes ← if data.byteSize.toNat ≤ TierDirectories.largestDocument
      then IO.FS.readBinFile path else pure .empty
    return t.put place (.file ⟨bytes.toList, data.byteSize.toNat - bytes.size, time⟩)
  | _ => return t

/-- Adds what is on the way of some steps, and where they lead. -/
partial def follow (t : FileTree) (dir : Place) : List Component → IO (FileTree × Place)
  | [] => return (t, dir)
  | .root :: rest => follow t [] rest
  | .here :: rest => follow t dir rest
  | .up :: rest => follow t dir.dropLast rest
  | .name s :: rest => do
    let next := dir ++ [s]
    let t ← if (t.node? next).isSome then pure t else reveal t dir s
    match t.node? next with
    | some (.link target) => follow t [] (target.components ++ rest)
    | some _ => follow t next rest
    | none => return (t, next)

/-- Adds what is below a directory, and behind links there. -/
partial def followAll (seen : List Place) (t : FileTree) (dir : Place) (steps : List Component) :
    IO FileTree := do
  let (t, place) ← follow t dir steps
  let path := (← IO.currentDir) / textOf place
  if seen.contains place || !(← path.isDir) then return t
  (← path.readDir).foldlM (fun t e => followAll (place :: seen) t place [.name e.fileName]) t

/-- Adds the settings and the definitions in the directory of a tier. -/
def followTier (w : Workspace) (root : FilePath) : IO Workspace := do
  let at_ (name : String) := (w.path.join (root.join ⟨name⟩)).components
  let (t, _) ← follow w.tree [] (at_ Settings.fileName.text)
  let t ← followAll [] t [] (at_ "agents")
  let t ← followAll [] t [] (at_ "commands")
  return { w with tree := t }

/-- Adds the directories above the working directory, with what marks a repository and what
tiers have. -/
def followUp (w : Workspace) : IO Workspace :=
  (w.path :: w.path.ancestors).foldlM (fun w d => do
    let (t, _) ← follow w.tree [] (d.join ⟨".git"⟩).components
    followTier { w with tree := t } (d.join TierDirectories.name)) w

def environment : IO (List (String × String)) :=
  Settings.names.filterMapM fun key => do
    let name := Settings.Variable.marker ++ String.ofList (key.toList.map Char.toUpper)
    return (← IO.getEnv name).map fun value => (name, value)

def workspace (i : CommandLine.Invocation) : IO Workspace := do
  let directory := ((← IO.currentDir).toString.splitOn "/").filter fun s => !s.isEmpty
  let home := (← IO.getEnv "HOME").filter fun s => !s.isEmpty
  let mut w : Workspace := ⟨.empty, directory, home.map FilePath.mk, ← environment⟩
  w ← followUp w
  for p in (w.home.toList ++ i.flags.projectDir.toList).map fun d => d.join TierDirectories.name do
    w ← followTier w p
  if let .ok s := CommandLine.Invocation.settings w i.flags then
    let d := s.directories w
    for p in d.global.toList ++ d.project.toList do
      w ← followTier w p
  if let .create ⟨_, _, some p⟩ := i.action then
    let (t, _) ← follow w.tree [] (w.path.join p).components
    w := { w with tree := t }
  return w

def save (added : List (Place × Node)) : IO Unit :=
  added.forM fun (place, node) =>
    match node with
    | .directory => IO.FS.createDir (textOf place)
    | .file f => IO.FS.writeBinFile (textOf place) ⟨f.bytes.toArray⟩
    | .link _ => pure ()

end Roster.Outside

open Roster in
def main (args : List String) : IO UInt32 := do
  match CommandLine.Invocation.parse args with
  | .error u =>
    (if u.status = 0 then IO.println else IO.eprintln) u.message
    return u.status.toUInt32
  | .ok i =>
    let w ← Outside.workspace i
    let o := i.run w
    Outside.save (o.tree.since w.tree)
    match o.result with
    | .ok r =>
      IO.print r.out
      IO.eprint r.err
      return r.status.toUInt32
    | .error f =>
      IO.eprintln ("Error: " ++ f.message)
      return 1
