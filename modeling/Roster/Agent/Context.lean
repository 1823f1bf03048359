import Roster.Agent.Definition

/-! # Running an agent

What an agent is run with: the caller's settings come first, then those of the
agent, then the defaults, each setting on its own.
-/
namespace Roster.Agent

/-- The settings of one run. -/
structure Performance where
  temperature : Double
  maxTokens : Nat
  timeoutMs : Nat
  deriving DecidableEq

namespace Performance

def standard : Performance := ⟨tenths 7, 2048, 30000⟩

/-- Settings that replace others where they are given. -/
structure Overrides where
  temperature : Option Double
  maxTokens : Option Nat
  timeoutMs : Option Nat
  deriving DecidableEq

def resolve (o : Overrides) (m : Models) : Performance where
  temperature := (o.temperature <|> m.temperature).getD standard.temperature
  maxTokens := (o.maxTokens <|> m.maxTokens).getD standard.maxTokens
  timeoutMs := o.timeoutMs.getD standard.timeoutMs

def Overrides.empty : Overrides := ⟨none, none, none⟩

def Overrides.set (o : Overrides) (key : String) (v : Json) : Except String Overrides := do
  match key with
  | "temperature" => pure { o with temperature := ← Shape.optional Shape.double v }
  | "max_tokens" => pure { o with maxTokens := ← Shape.optional Shape.nat32 v }
  | "timeout_ms" => pure { o with timeoutMs := ← Shape.optional Shape.nat64 v }
  | _ => pure o

def Overrides.ofJson : Shape Overrides :=
  Shape.recordOrAllItems "PerformanceOverrides" ["temperature", "max_tokens", "timeout_ms"]
    Overrides.set .empty

def toJson (p : Performance) : Json :=
  .object [("temperature", .ofDouble p.temperature), ("max_tokens", .ofNat p.maxTokens),
    ("timeout_ms", .ofNat p.timeoutMs)]

end Performance

/-- What the caller of an agent says. -/
structure RunOptions where
  sessionId : Option String
  workingDirectory : Option String
  overrides : Performance.Overrides
  deriving DecidableEq

namespace RunOptions

def empty : RunOptions := ⟨none, none, .empty⟩

def set (o : RunOptions) (key : String) (v : Json) : Except String RunOptions := do
  match key with
  | "session_id" => pure { o with sessionId := ← Shape.optional Shape.string v }
  | "working_directory" =>
    pure { o with workingDirectory := ← Shape.optional Shape.pathString v }
  | "override_settings" => pure { o with overrides := ← Performance.Overrides.ofJson v }
  | _ => pure o

/-- The options from their JSON value. The overrides must be there. -/
def ofJson : Shape RunOptions
  | .object l => do
    let m := NameMap.ofList l
    let o ← Shape.fields set empty m
    if m.contains "override_settings" then pure o
    else .error "missing field \x60override_settings\x60"
  | v =>
    Shape.recordOrAllItems "ExecutionOptions"
      ["session_id", "working_directory", "override_settings"] set empty v

end RunOptions

structure Context where
  agent : Agent
  performance : Performance
  sessionId : Option String
  workingDirectory : Option String

def context (a : Agent) (o : RunOptions) : Context :=
  ⟨a, Performance.resolve o.overrides a.models, o.sessionId, o.workingDirectory⟩

namespace Context

def security (c : Context) : SecuritySettings :=
  c.agent.security

def toJson (c : Context) : Json :=
  .object [("agent", c.agent.toJson), ("security_context", c.security.toJson),
    ("performance", c.performance.toJson), ("session_id", .ofString? c.sessionId),
    ("working_directory", .ofString? c.workingDirectory)]

end Context

end Roster.Agent
