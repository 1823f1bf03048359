import Roster.Command.Plan
import Roster.Command.Validation
import Roster.CommandLine.Failure
import Roster.CommandLine.Invocation
import Roster.CommandLine.Output

/-! # Runs about commands

Commands are listed in a table, shown one by one, checked, or planned to be run
one after the other with parameters from the command line.
-/
namespace Roster.CommandLine.Commands

/-- The commands of a source in the order of their names. -/
def all (yaml : YamlReader) (source : Source) (load : LoadOptions) :
    Except Failure (List Command) :=
  (Command.listWith yaml source { Command.ListOptions.standard with load }).mapError .definitions

def header : List String :=
  ["Name", "Type", "Output", "Parameters", "Description", "Source"]

/-- The names of the parameters, the required ones with a star. -/
def parameterNames (c : Command) : List String :=
  c.schema.entries.map fun (name, p) => if p.required then name ++ "*" else name

def row (c : Command) : List String :=
  [c.name, Vocabulary.word c.type, Vocabulary.word c.format, Text.joinWith ", " (parameterNames c),
    truncate (c.heading.description.getD "") longestDescription, tierLabel c.scope]

def list (commands : List Command) (json : Bool) : Output :=
  .answer (if json then Output.jsonText (.array (commands.map Command.toJson))
    else listing "commands" "command(s) found (* = required parameter)" header
      (commands.map row))

def display (name : String) (command : Option Command) (json : Bool) : Output :=
  match command with
  | some c => .answer (Output.shown json c.toJson)
  | none => .missing ("Command '" ++ name ++ "' not found")

def report (patterns : PatternReader) (commands : List Command) (json : Bool) : Output :=
  .verdict (commands.all fun c => (c.validate patterns).isValid)
    (if json then
      Output.jsonText (.array (commands.map fun c => reportJson c.name (c.validate patterns)))
    else Output.ofLines (commands.flatMap fun c => reportLines c.name (c.validate patterns)))

def validate (yaml : YamlReader) (patterns : PatternReader) (source : Source) (load : LoadOptions)
    (names : List String) (json : Bool) : Except Failure Output := do
  let commands ← Failure.select .command Command.name (← all yaml source load) names
  return report patterns commands json

def planHeader : List String :=
  ["#", "Command", "Timeout (ms)", "Confirm", "Parameters"]

/-- The `n`-th command of a plan as a row of a table. -/
def planRow (c : Command.Planned) (n : Nat) : List String :=
  [toString (n + 1), c.command.name, toString c.command.execution.timeoutMs,
    if c.command.execution.requiresConfirmation then "yes" else "no",
    if c.validation.isValid then (Json.ofMap c.validation.normalized).compact
    else mark false ++ toString c.validation.errors.length ++ " error(s)"]

/-- The lines about the parameters of a command. -/
def findingLines (c : Command.Planned) : List String :=
  (c.validation.errors.map fun e => "error: " ++ c.command.name ++ ": " ++ e.message) ++
    c.validation.warnings.map fun w => "warning: " ++ c.command.name ++ ": " ++ w.message

def listLine (title : String) (l : List String) : List String :=
  if l.isEmpty then [] else [title ++ Text.joinWith ", " l]

def planLines (p : Command.Plan) : List String :=
  [(Table.mk planHeader (p.commands.zipIdx.map fun (c, n) => planRow c n)).text, ""] ++
    p.commands.flatMap findingLines ++
    ["Estimated duration: " ++ toString p.durationMs ++ " ms",
      "Security level: " ++ Vocabulary.word p.level] ++
    listLine "Permissions: " p.permissions.names ++ listLine "Sandboxed: " p.sandboxed

def planned (p : Command.Plan) (json : Bool) : Output :=
  .verdict p.isValid (if json then Output.jsonText (p.toJson Command.toJson)
    else Output.ofLines (planLines p))

def plan (yaml : YamlReader) (patterns : PatternReader) (matcher : Matcher) (source : Source)
    (load : LoadOptions) (names : List String) (parameters : List Assignment) (json : Bool) :
    Except Failure Output := do
  let commands ← Failure.select .command Command.name (← all yaml source load) names
  return planned (Command.plan patterns matcher commands (Assignment.group parameters)) json

def run (yaml : YamlReader) (patterns : PatternReader) (matcher : Matcher) (source : Source)
    (load : LoadOptions) : CommandAction → Except Failure Output
  | .list filter arrangement json => do
    let commands ← (Command.listWith yaml source ⟨load, filter, arrangement⟩).mapError .definitions
    return list commands json
  | .display name json => do
    let command ← (Command.reader.findWith? yaml source load name).mapError .definitions
    return display name command json
  | .validate names json => validate yaml patterns source load names json
  | .plan names parameters json => plan yaml patterns matcher source load names parameters json

end Roster.CommandLine.Commands
