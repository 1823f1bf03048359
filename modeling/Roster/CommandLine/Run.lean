import Roster.Agent.Template
import Roster.Command.Template
import Roster.CommandLine.Agents
import Roster.CommandLine.Commands
import Roster.Pattern.Matching
import Roster.Similarity

/-! # Runs

A run reads the settings, loads definitions as they say, and answers; or it writes
the starting document of a new definition. It sees a workspace and leaves a file
tree behind.
-/
namespace Roster.CommandLine

/-- What a run leaves behind. -/
structure Outcome where
  result : Except Failure Output
  tree : FileTree

namespace NewDefinition

def document (n : NewDefinition) : Document :=
  match n.kind with
  | .agent type => Agent.template n.name type
  | .command type => Command.template n.name type

/-- The file tree with a new file, and directories for it. A file that exists is kept. -/
def write (w : Workspace) (p : FilePath) (text : String) : Except Failure FileTree := do
  if w.exists? p then .error (.fileExists p)
  let tree ← match p.parent?.filter fun d => !d.text.isEmpty with
    | some d =>
      (w.tree.makeDirectories w.directory d.components.reverse).mapError (.directory d)
    | none => .ok w.tree
  (tree.write w.directory p (.ofText text .epoch)).mapError (.file p)

/-- Writes a starting document to its file, or to the output. -/
def run (w : Workspace) (n : NewDefinition) : Except Failure (Output × FileTree) := do
  let text ← n.document.write.mapError .document
  match n.output with
  | none => return (.answer text, w.tree)
  | some p =>
    let tree ← write w p text
    return (⟨0, "", "Created '" ++ n.name ++ "' at " ++ p.text ++ "\n"⟩, tree)

end NewDefinition

namespace Invocation

/-- The settings of a workspace with what the flags say instead. The project whose settings file
is read is the one that the flags name. -/
def settings (w : Workspace) (f : GlobalFlags) : Except Failure Settings := do
  let project := f.projectDir.getD w.project
  let global := w.home.map fun h => h.join TierDirectories.name
  let s ← (Settings.load w global (some project)).mapError .settings
  return f.apply s

def run (w : Workspace) (i : Invocation) : Outcome :=
  let reading (answer : Source → LoadOptions → Except Failure Output) : Outcome :=
    ⟨do let s ← settings w i.flags
        answer ((s.directories w).source w) s.loadOptions, w.tree⟩
  match i.action with
  | .agents a => reading fun source load => Agents.run Yaml.readJson source load a
  | .commands a => reading fun source load =>
    Commands.run Yaml.readJson Pattern.compile Similarity.score source load a
  | .create n =>
    match n.run w with
    | .ok (output, tree) => ⟨.ok output, tree⟩
    | .error f => ⟨.error f, w.tree⟩

end Invocation

end Roster.CommandLine
