/-! # Arguments of a command line

A grammar says which options, operands and subcommands a program takes. The
arguments are read one after the other; each subcommand has a level of its own,
with its own options and operands.

An option is written with two dashes and its name, or with one dash and its
letter; letters of options without a value can be written together. The value of
an option is the next argument, or stands behind an equals sign. What follows
two dashes alone is no option.
-/
namespace Roster.CommandLine

/-- Why arguments do not lead to a run. -/
inductive Usage where
  | help
  | version
  /-- Nothing is given where a subcommand has to follow. -/
  | nothingGiven
  | missingCommand
  | unknownCommand
  | unknownArgument
  /-- An option without the value that it needs. -/
  | missingValue
  /-- A value for an option that takes none. -/
  | unneededValue
  | badValue
  | repeated
  | missingOperand
  deriving DecidableEq, Repr

namespace Usage

def message : Usage → String
  | help => "usage: [OPTIONS] agents|commands|new|help [OPTIONS] ..."
  | version => "0.3.0"
  | nothingGiven | missingCommand => "a subcommand is required"
  | unknownCommand => "unrecognized subcommand"
  | unknownArgument => "unexpected argument"
  | missingValue => "a value is required for an option"
  | unneededValue => "unexpected value for an option"
  | badValue => "invalid value for an option"
  | repeated => "an option cannot be used multiple times"
  | missingOperand => "a required argument was not provided"

/-- The status with which a program ends that does not run. -/
def status : Usage → Nat
  | help | version => 0
  | _ => 2

end Usage

inductive OptionKind where
  | help
  | version
  /-- It is there or not. -/
  | flag
  /-- It has a value, which is checked; some may be given more than once. -/
  | value (repeatable : Bool) (check : String → Option Usage)

structure OptionRule where
  name : String
  letter : Option Char
  kind : OptionKind

/-- What may stand between options. -/
inductive OperandRule where
  /-- Nothing. -/
  | none
  /-- One operand, which has to be there. -/
  | one
  /-- Any number of operands, at least `least`. -/
  | many (least : Nat)

namespace OperandRule

def accepts : OperandRule → List String → Bool
  | none, _ => false
  | one, given => given.isEmpty
  | many _, _ => true

def least : OperandRule → Nat
  | none => 0
  | one => 1
  | many n => n

end OperandRule

/-- What a program or one of its subcommands takes. -/
inductive Grammar where
  | leaf (options : List OptionRule) (operands : OperandRule)
  | branch (options : List OptionRule) (commands : List (String × Grammar))

structure Level where
  /-- Options by name in order; those without a value have an empty one. -/
  options : List (String × String)
  operands : List String
  deriving DecidableEq, Repr

namespace Level

def empty : Level := ⟨[], []⟩

def has (l : Level) (name : String) : Bool :=
  l.options.any fun o => o.1 == name

def values (l : Level) (name : String) : List String :=
  (l.options.filter fun o => o.1 == name).map (·.2)

def value? (l : Level) (name : String) : Option String :=
  (l.values name).head?

end Level

/-- An option whose value is not settled: a later argument may come between. -/
inductive Pending where
  | none
  | waiting (rule : OptionRule)
  | holding (rule : OptionRule) (value : String)

/-- What is known of a level while it is read. -/
structure Reading where
  level : Level
  pending : Pending
  /-- Whether two dashes have been read. -/
  trailing : Bool

namespace Reading

def start : Reading := ⟨.empty, .none, false⟩

def isWaiting (r : Reading) : Bool :=
  match r.pending with
  | .waiting _ => true
  | _ => false

def store (r : Reading) (rule : OptionRule) (value : String) : Except Usage Reading :=
  let stored : Reading := { r with level.options := r.level.options ++ [(rule.name, value)] }
  match rule.kind with
  | .help => .error .help
  | .version => .error .version
  | .flag => if r.level.has rule.name then .error .repeated else .ok stored
  | .value repeatable check =>
    if !repeatable && r.level.has rule.name then .error .repeated
    else match check value with
      | some u => .error u
      | none => .ok stored

def settle (r : Reading) : Except Usage Reading :=
  match r.pending with
  | .none => .ok r
  | .waiting _ => .error .missingValue
  | .holding rule value => { r with pending := .none }.store rule value

/-- Takes up an option; `attached` is the value that is written with it. -/
def option (r : Reading) (rule : OptionRule) (attached : Option String) : Except Usage Reading :=
  match rule.kind, attached with
  | .value _ _, some v => do (← r.settle).store rule v
  | .value _ _, none => do return { ← r.settle with pending := .waiting rule }
  | _, some _ => .error .unneededValue
  | _, none => do (← r.settle).store rule ""

/-- Takes up letters behind a dash. -/
def letters (rules : List OptionRule) (r : Reading) : List Char → Except Usage Reading
  | [] => .ok r
  | c :: rest =>
    match rules.find? fun o => o.letter == some c with
    | none => .error .unknownArgument
    | some rule =>
      match rule.kind, rest with
      | .value _ _, [] => r.option rule none
      | .value _ _, '=' :: v => r.option rule (some (String.ofList v))
      | .value _ _, v => r.option rule (some (String.ofList v))
      | _, rest => do letters rules (← r.option rule none) rest

/-- Takes up a name behind two dashes, with what follows its equals sign. -/
def named (rules : List OptionRule) (r : Reading) (s : List Char) : Except Usage Reading :=
  let name := s.takeWhile (· != '=')
  let attached := match s.drop name.length with
    | _ :: v => some (String.ofList v)
    | [] => none
  match rules.find? fun o => o.name.toList == name with
  | some rule => r.option rule attached
  | none => .error .unknownArgument

def operand (rule : OperandRule) (r : Reading) (s : String) : Except Usage Reading := do
  if rule.accepts r.level.operands then
    let r ← r.settle
    return { r with level.operands := r.level.operands ++ [s] }
  else .error .unknownArgument

end Reading

namespace Grammar

def options : Grammar → List OptionRule
  | leaf o _ | branch o _ => o

/-- The subcommand of a name. Each program with subcommands has one for help. -/
def command? (g : Grammar) (name : String) : Option Grammar :=
  match g with
  | leaf _ _ => none
  | branch _ commands =>
    if name = "help" then some (leaf [] .none)
    else (commands.find? fun c => c.1 == name).map (·.2)

/-- What the subcommand for help does with the names that follow it. -/
def helpOn (g : Grammar) : List String → Usage
  | [] => .help
  | name :: rest =>
    match g.command? name with
    | some sub => sub.helpOn rest
    | none => .unknownCommand

/-- Takes up an argument that is neither an option nor a subcommand. -/
def plain (g : Grammar) (r : Reading) (s : String) : Except Usage Reading :=
  match g with
  | leaf _ rule => r.operand rule s
  | branch _ _ =>
    .error (if r.trailing && (g.command? s).isSome then .unknownArgument else .unknownCommand)

/-- Takes up an argument that is no subcommand. -/
def take (g : Grammar) (r : Reading) (s : String) : Except Usage Reading :=
  if r.trailing then g.plain r s
  else match s.toList, r.pending with
    | ['-', '-'], _ => .ok { r with trailing := true }
    | '-' :: '-' :: name, _ => r.named g.options name
    | '-' :: c :: rest, _ => r.letters g.options (c :: rest)
    | _, .waiting rule => .ok { r with pending := .holding rule s }
    | _, _ => g.plain r s

/-- The level at the end of the arguments, if nothing is missing. -/
def finish (g : Grammar) (r : Reading) : Except Usage Level := do
  let r ← r.settle
  match g with
  | leaf _ rule =>
    if r.level.operands.length < rule.least then .error .missingOperand else return r.level
  | branch _ _ => .error (if r.level.options.isEmpty then .nothingGiven else .missingCommand)

/-- Reads arguments: the names of the subcommands that they enter, and what is given at each
level, outermost first. A subcommand is read before the options in front of it are settled. -/
def read (g : Grammar) (r : Reading) : List String → Except Usage (List String × List Level)
  | [] => do return ([], [← g.finish r])
  | s :: rest =>
    let sub := if r.trailing || r.isWaiting then none else g.command? s
    match sub with
    | some sub => do
      if s = "help" then .error (g.helpOn rest)
      let (names, levels) ← sub.read .start rest
      return (s :: names, (← r.settle).level :: levels)
    | none => do g.read (← g.take r s) rest

end Grammar

end Roster.CommandLine
