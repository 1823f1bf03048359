import Roster.Command.Parameters
import Roster.Definition.Report

/-! # Checking a command

The errors and warnings about one command.
-/
namespace Roster.Command

/-- The fields without whose values a command is not what its document says. -/
def essentialFields : List String :=
  ["command_type", "security_settings.security_level"]

/-- What makes a command useless, apart from its issues and its parameters. -/
def faults (c : Command) : List String :=
  (if Text.isAllBlank c.name.toList then ["command name is required"] else []) ++
  (if Text.isAllBlank c.content.toList then ["command '" ++ c.name ++ "' has no instructions"]
    else [])

/-- The conditions on a parameter that no value can meet. -/
def constraintFaults (patterns : PatternReader) (name : String) (c : Constraints) : List String :=
  let label := "parameter '" ++ name ++ "' has "
  (match c.pattern with
    | none => []
    | some p =>
      match patterns p with
      | .ok _ => []
      | .error reason => [label ++ "an invalid pattern '" ++ p ++ "': " ++ reason]) ++
  (match c.minLength, c.maxLength with
    | some low, some high =>
      if high < low then
        [label ++ "min_length " ++ toString low ++ " greater than max_length " ++ toString high]
      else []
    | _, _ => []) ++
  (match c.minimum, c.maximum with
    | some low, some high =>
      if high.lt low then
        [label ++ "minimum " ++ Violation.numberText low ++ " greater than maximum " ++
          Violation.numberText high]
      else []
    | _, _ => [])

def parameterFaults (patterns : PatternReader) (name : String) (p : Parameter) : List String :=
  match p.constraints with
  | none => []
  | some c => constraintFaults patterns name c

def parameterDoubts (name : String) (p : Parameter) : List String :=
  if p.required && p.default.isSome then
    ["parameter '" ++ name ++
      "' is required but declares a default, so it can never be missing"]
  else []

/-- What is questionable about how a command is run. -/
def doubts (c : Command) : List String :=
  (if c.execution.timeoutMs = 0 then ["command '" ++ c.name ++ "' has a timeout of 0 ms"]
    else []) ++
  (if c.type == .deployment && !c.execution.requiresConfirmation then
    ["deployment command '" ++ c.name ++ "' runs without confirmation"] else [])

/-- The errors and warnings about a command. -/
def validate (patterns : PatternReader) (c : Command) : Report :=
  let r := c.faults.foldl Report.error Report.empty
  let r := r.failEssential c.issues essentialFields
  let r := (c.schema.entries.flatMap fun e => parameterFaults patterns e.1 e.2).foldl Report.error r
  let r := (c.schema.entries.flatMap fun e => parameterDoubts e.1 e.2).foldl Report.warning r
  let r := c.doubts.foldl Report.warning r
  r.warnOthers c.issues essentialFields

end Roster.Command
