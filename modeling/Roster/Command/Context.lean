import Roster.Command.Parameters

/-! # Running a command

What a command is run with: its checked parameters and its own settings.
-/
namespace Roster.Command

structure Context where
  command : Command
  parameters : Validation

def context (patterns : PatternReader) (matcher : Matcher) (c : Command) (given : NameMap Json) :
    Context :=
  ⟨c, c.checkParameters patterns matcher given⟩

namespace Context

def isRunnable (c : Context) : Bool :=
  c.parameters.isValid

def toJson (c : Context) : Json :=
  .object [("command", c.command.toJson), ("parameters", c.parameters.toJson),
    ("security_context", c.command.security.toJson),
    ("timeout_ms", .ofNat c.command.execution.timeoutMs),
    ("requires_confirmation", .bool c.command.execution.requiresConfirmation)]

end Context

end Roster.Command
