import Roster.Vocabulary

/-! # Kinds of commands

What a command does, what it answers, what happens when it fails, and the types
of its parameters.
-/
namespace Roster

inductive CommandType where
  | generation | analysis | refactoring | testing | deployment
  deriving DecidableEq, Repr, Inhabited

instance : Vocabulary CommandType where
  noun := "command type"
  values := [.generation, .analysis, .refactoring, .testing, .deployment]
  word
    | .generation => "generation"
    | .analysis => "analysis"
    | .refactoring => "refactoring"
    | .testing => "testing"
    | .deployment => "deployment"
  spellings _ := []
  reads := id
  fallback := .generation

/-- The form of a command's answer. -/
inductive OutputFormat where
  | json | markdown | plain | code
  deriving DecidableEq, Repr, Inhabited

instance : Vocabulary OutputFormat where
  noun := "output format"
  values := [.json, .markdown, .plain, .code]
  word
    | .json => "json"
    | .markdown => "markdown"
    | .plain => "plain"
    | .code => "code"
  spellings
    | .markdown => ["md"]
    | .plain => ["text"]
    | _ => []
  reads := id
  fallback := .markdown

/-- What happens when a command fails for good. -/
inductive FallbackStrategy where
  | escalate | skip | ask | standard
  deriving DecidableEq, Repr, Inhabited

instance : Vocabulary FallbackStrategy where
  noun := "fallback strategy"
  values := [.escalate, .skip, .ask, .standard]
  word
    | .escalate => "escalate"
    | .skip => "skip"
    | .ask => "prompt"
    | .standard => "default"
  spellings _ := []
  reads := id
  fallback := .ask

inductive ParameterType where
  | string | number | boolean | array | object
  deriving DecidableEq, Repr, Inhabited

instance : Vocabulary ParameterType where
  noun := "parameter type"
  values := [.string, .number, .boolean, .array, .object]
  word
    | .string => "string"
    | .number => "number"
    | .boolean => "boolean"
    | .array => "array"
    | .object => "object"
  spellings
    | .string => ["str", "text"]
    | .number => ["numeric", "integer", "int", "float"]
    | .boolean => ["bool"]
    | .array => ["list"]
    | .object => ["map"]
  reads := id
  fallback := .string

end Roster
