import Roster.Command.Parameters

/-! # Plans

Several commands run one after the other, each with its own parameters: how long
they may take together, and what they need to be allowed.
-/
namespace Roster.Command

/-- A command and its checked parameters. -/
structure Planned where
  command : Command
  validation : Validation

/-- Commands in the order in which they are run. -/
structure Plan where
  commands : List Planned

/-- A plan for commands, with the parameters that are given for each name. -/
def plan (patterns : PatternReader) (matcher : Matcher) (commands : List Command)
    (given : NameMap (NameMap Json)) : Plan where
  commands := commands.map fun c =>
    ⟨c, c.checkParameters patterns matcher ((given.get? c.name).getD ∅)⟩

namespace Plan

def order (p : Plan) : List String :=
  p.commands.map fun c => c.command.name

/-- The largest duration that is told apart. -/
def longest : Nat := 18446744073709551615

/-- The sum of the times that the commands may take. -/
def durationMs (p : Plan) : Nat :=
  p.commands.foldl (fun n c => min (n + c.command.execution.timeoutMs) longest) 0

def level (p : Plan) : SecurityLevel :=
  .highest (p.commands.map fun c => c.command.security.level)

def permissions (p : Plan) : NameSet :=
  .ofNames (p.commands.flatMap fun c => c.command.security.requiredPermissions.names)

/-- The commands that run only in a restricted environment. -/
def sandboxed (p : Plan) : List String :=
  (p.commands.filter fun c => c.command.security.restricted).map fun c => c.command.name

/-- Whether all parameters are right. -/
def isValid (p : Plan) : Bool :=
  p.commands.all fun c => c.validation.isValid

/-- The plan as a JSON value, with each command as `show` has it. -/
def toJson (showCommand : Command → Json) (p : Plan) : Json :=
  .object [
    ("commands", .array (p.commands.map fun c =>
      .object [("command", showCommand c.command), ("validation", c.validation.toJson)])),
    ("execution_order", .strings p.order),
    ("estimated_duration_ms", .ofNat p.durationMs),
    ("security_requirements", .object [("max_security_level", Vocabulary.toJson p.level),
      ("required_permissions", .strings p.permissions.names),
      ("sandboxed_commands", .strings p.sandboxed)]),
    ("is_valid", .bool p.isValid)]

end Plan

end Roster.Command
