import Roster.Vocabulary

/-! # Kinds of agents

What an agent is for, and how it works together with others.
-/
namespace Roster

inductive AgentType where
  | planner | developer | security | domainExpert | custom
  deriving DecidableEq, Repr, Inhabited

instance : Vocabulary AgentType where
  noun := "agent type"
  values := [.planner, .developer, .security, .domainExpert, .custom]
  word
    | .planner => "planner"
    | .developer => "developer"
    | .security => "security"
    | .domainExpert => "domain-expert"
    | .custom => "custom"
  spellings _ := []
  reads c := if c = '_' then '-' else c
  fallback := .custom

/-- How an agent works together with others. -/
inductive CollaborationMode where
  | sequential | parallel | consensus
  deriving DecidableEq, Repr, Inhabited

instance : Vocabulary CollaborationMode where
  noun := "collaboration mode"
  values := [.sequential, .parallel, .consensus]
  word
    | .sequential => "sequential"
    | .parallel => "parallel"
    | .consensus => "consensus"
  spellings _ := []
  reads := id
  fallback := .sequential

end Roster
