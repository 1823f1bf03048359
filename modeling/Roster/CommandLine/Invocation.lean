import Roster.Agent.Listing
import Roster.Command.Listing
import Roster.CommandLine.Assignment
import Roster.CommandLine.Grammar
import Roster.Settings.Basic

/-! # Invocations

What the program can be asked to do: list, show and check agents and commands,
plan a run of commands, and write a starting document. Global flags may stand at
any level; the innermost one counts.
-/
namespace Roster.CommandLine

/-- Flags for every subcommand. -/
structure GlobalFlags where
  debug : Bool
  projectDir : Option FilePath
  noDefault : Bool
  noGlobal : Bool
  noProject : Bool
  lenient : Bool
  deriving DecidableEq, Repr

inductive AgentAction where
  | list (filter : Agent.Filter) (arrangement : Arrangement) (json : Bool)
  | display (name : String) (json : Bool)
  | validate (names : List String) (json : Bool)

inductive CommandAction where
  | list (filter : Command.Filter) (arrangement : Arrangement) (json : Bool)
  | display (name : String) (json : Bool)
  | validate (names : List String) (json : Bool)
  | plan (names : List String) (parameters : List Assignment) (json : Bool)

inductive NewKind where
  | agent (type : AgentType)
  | command (type : CommandType)
  deriving DecidableEq, Repr

/-- A new definition, and the file that it is written to. -/
structure NewDefinition where
  kind : NewKind
  name : String
  output : Option FilePath
  deriving DecidableEq, Repr

/-- What the program is asked to do. -/
inductive Action where
  | agents (a : AgentAction)
  | commands (a : CommandAction)
  | create (n : NewDefinition)

/-- An action with the global flags. -/
structure Invocation where
  flags : GlobalFlags
  action : Action

namespace GlobalFlags

/-- The settings with what the flags say instead. -/
def apply (f : GlobalFlags) (s : Settings) : Settings where
  includeDefault := s.includeDefault && !f.noDefault
  includeGlobal := s.includeGlobal && !f.noGlobal
  includeProject := s.includeProject && !f.noProject
  strict := s.strict && !f.lenient
  projectDir := f.projectDir <|> s.projectDir
  globalDir := s.globalDir

/-- The flags of all levels, outermost first. -/
def ofLevels (levels : List Level) : GlobalFlags :=
  let has (name : String) := levels.any fun l => l.has name
  { debug := has "debug"
    projectDir := (levels.reverse.findSome? fun l => l.value? "project-dir").map FilePath.mk
    noDefault := has "no-default"
    noGlobal := has "no-global"
    noProject := has "no-project"
    lenient := has "lenient" }

end GlobalFlags

namespace Invocation

/-- A check that a value names a value of a type. -/
def checkWord (α : Type) [Vocabulary α] (s : String) : Option Usage :=
  match (Vocabulary.parse s : Except String α) with
  | .ok _ => none
  | .error _ => some .badValue

def checkAssignment (s : String) : Option Usage :=
  match Assignment.parse s with
  | .ok _ => none
  | .error _ => some .badValue

def checkPath (s : String) : Option Usage :=
  if s.isEmpty then some .missingValue else none

def anything (_ : String) : Option Usage := none

def flag (name : String) : OptionRule := ⟨name, none, .flag⟩
def once (name : String) (check : String → Option Usage) : OptionRule :=
  ⟨name, none, .value false check⟩
def several (name : String) (check : String → Option Usage) : OptionRule :=
  ⟨name, none, .value true check⟩

def globalOptions : List OptionRule :=
  [⟨"debug", some 'd', .flag⟩, once "project-dir" checkPath, flag "no-default",
    flag "no-global", flag "no-project", flag "lenient", ⟨"help", some 'h', .help⟩]

def listOptions : List OptionRule :=
  [several "tag" anything, once "sort" (checkWord SortField), flag "desc", flag "json"]

def outputOption : OptionRule := ⟨"output", some 'o', .value false checkPath⟩

def grammar : Grammar :=
  let leaf (options : List OptionRule) (operands : OperandRule) : Grammar :=
    .leaf (options ++ globalOptions) operands
  let shared : List (String × Grammar) :=
    [("show", leaf [flag "json"] .one), ("validate", leaf [flag "json"] (.many 0))]
  .branch (⟨"version", some 'V', .version⟩ :: globalOptions) [
    ("agents", .branch globalOptions
      (("list", leaf ([several "type" (checkWord AgentType), several "capability" anything] ++
        listOptions) .none) :: shared)),
    ("commands", .branch globalOptions
      (("list", leaf ([several "type" (checkWord CommandType),
        several "format" (checkWord OutputFormat)] ++ listOptions) .none) ::
      ("plan", leaf [several "param" checkAssignment, flag "json"] (.many 1)) :: shared)),
    ("new", .branch globalOptions [
      ("agent", leaf [once "type" (checkWord AgentType), outputOption] .one),
      ("command", leaf [once "type" (checkWord CommandType), outputOption] .one)])]

def words (α : Type) [Vocabulary α] (l : List String) : Except Usage (List α) :=
  l.mapM fun s => (Vocabulary.parse s).mapError fun _ => .badValue

/-- The order that the options of a list ask for. -/
def arrangement (l : Level) : Except Usage Arrangement := do
  let fields ← words SortField (l.values "sort")
  return ⟨fields.head?, if l.has "desc" then .descending else .ascending⟩

def newDefinition (l : Level) (kind : NewKind) : Action :=
  .create ⟨kind, l.operands.head?.getD "", (l.value? "output").map FilePath.mk⟩

/-- The action of subcommands and what is given at the innermost level. -/
def actionOf (names : List String) (l : Level) : Except Usage Action := do
  let json := l.has "json"
  let name := l.operands.head?.getD ""
  let tags : NameSet := .ofNames (l.values "tag")
  match names with
  | ["agents", "list"] =>
    let types ← words AgentType (l.values "type")
    return .agents (.list ⟨types, .ofNames (l.values "capability"), tags⟩ (← arrangement l) json)
  | ["agents", "show"] => return .agents (.display name json)
  | ["agents", "validate"] => return .agents (.validate l.operands json)
  | ["commands", "list"] =>
    let types ← words CommandType (l.values "type")
    let formats ← words OutputFormat (l.values "format")
    return .commands (.list ⟨types, formats, tags⟩ (← arrangement l) json)
  | ["commands", "show"] => return .commands (.display name json)
  | ["commands", "validate"] => return .commands (.validate l.operands json)
  | ["commands", "plan"] =>
    let parameters ← (l.values "param").mapM fun s =>
      (Assignment.parse s).mapError fun _ => Usage.badValue
    return .commands (.plan l.operands parameters json)
  | ["new", "agent"] =>
    let types ← words AgentType (l.values "type")
    return newDefinition l (.agent (types.head?.getD .custom))
  | ["new", "command"] =>
    let types ← words CommandType (l.values "type")
    return newDefinition l (.command (types.head?.getD .generation))
  | _ => .error .missingCommand

def parse (args : List String) : Except Usage Invocation := do
  let (names, levels) ← grammar.read .start args
  return ⟨.ofLevels levels, ← actionOf names (levels.getLast?.getD .empty)⟩

end Invocation

end Roster.CommandLine
