import Roster.Command.Coercion
import Roster.Command.Definition
import Roster.Number.Shortest

/-! # Checking parameters

Each parameter of a command is decided on its own: its value is coerced to the
type of the parameter and then has to meet all conditions. Names that are not
declared are ignored with a warning, which suggests the declared name that
matches best.

Two things are left open: how patterns are read and matched, and how well two
names match.
-/
namespace Roster

/-- Reads a pattern: the texts that it matches, or why it is no pattern. -/
abbrev PatternReader := String → Except String (String → Bool)

/-- How well the second text matches the first, if it does at all. -/
abbrev Matcher := String → String → Option Int

/-- A condition that a value does not meet. -/
inductive Violation where
  | mismatch (pattern : String)
  | badPattern (pattern reason : String)
  | tooShort (least : Nat)
  | tooLong (most : Nat)
  | tooSmall (least : Double)
  | tooLarge (most : Double)
  | notAllowed (allowed : List Json)

namespace Violation

def numberText (d : Double) : String :=
  String.ofList (d.write Double.messageLayout)

def text : Violation → String
  | mismatch p => "does not match pattern '" ++ p ++ "'"
  | badPattern p reason => "has an invalid pattern '" ++ p ++ "': " ++ reason
  | tooShort n => "must have a length of at least " ++ toString n
  | tooLong n => "must have a length of at most " ++ toString n
  | tooSmall d => "must be at least " ++ numberText d
  | tooLarge d => "must be at most " ++ numberText d
  | notAllowed l => "must be one of: " ++ ", ".intercalate (l.map Json.compact)

end Violation

namespace Constraints

/-- The condition on the text of a value. -/
def patternViolations (patterns : PatternReader) (c : Constraints) : Json → List Violation
  | .string s =>
    match c.pattern with
    | none => []
    | some p =>
      match patterns p with
      | .error reason => [.badPattern p reason]
      | .ok accepts => if accepts s then [] else [.mismatch p]
  | _ => []

/-- The number of characters of a string or of items of a list. -/
def length? : Json → Option Nat
  | .string s => some s.length
  | .array items => some items.length
  | _ => none

def lengthViolations (c : Constraints) (v : Json) : List Violation :=
  match length? v with
  | none => []
  | some n =>
    ((c.minLength.filter fun least => n < least).map .tooShort).toList ++
      ((c.maxLength.filter fun most => most < n).map .tooLong).toList

def boundViolations (c : Constraints) : Json → List Violation
  | .number n =>
    ((c.minimum.filter fun least => n.toDouble.lt least).map .tooSmall).toList ++
      ((c.maximum.filter fun most => most.lt n.toDouble).map .tooLarge).toList
  | _ => []

/-- Whether a value is the same as a choice; numbers are the same if their doubles are. -/
def sameChoice : Json → Json → Bool
  | .number a, .number b => a.toDouble.sameValue b.toDouble
  | a, b => a.same b

/-- The condition that a value is one of the choices. -/
def choiceViolations (c : Constraints) (v : Json) : List Violation :=
  match c.allowed with
  | none => []
  | some l => if l.any fun choice => sameChoice choice v then [] else [.notAllowed l]

/-- The conditions that a value does not meet. -/
def violations (patterns : PatternReader) (c : Constraints) (v : Json) : List Violation :=
  c.patternViolations patterns v ++ c.lengthViolations v ++ c.boundViolations v ++
    c.choiceViolations v

end Constraints

inductive ParameterFault where
  | missing
  | wrongType (type : ParameterType) (reason : String) (value : Json)
  | violated (v : Violation) (value : Json)

structure ParameterError where
  name : String
  fault : ParameterFault

namespace ParameterError

def message (e : ParameterError) : String :=
  "Parameter '" ++ e.name ++ "' " ++
    match e.fault with
    | .missing => "is required"
    | .wrongType t reason _ => "must be of type " ++ Vocabulary.word t ++ ": " ++ reason
    | .violated v _ => v.text

def value? (e : ParameterError) : Option Json :=
  match e.fault with
  | .missing => none
  | .wrongType _ _ v | .violated _ v => some v

def toJson (e : ParameterError) : Json :=
  .object ([("parameter", .string e.name), ("message", .string e.message)] ++
    Constraints.present "value" id e.value?)

end ParameterError

/-- A name that is not declared, and the declared name that may be meant. -/
structure UnknownParameter where
  name : String
  suggestion : Option String
  deriving DecidableEq, Repr

namespace UnknownParameter

def message (u : UnknownParameter) : String :=
  "Unknown parameter '" ++ u.name ++ "' is ignored" ++
    match u.suggestion with
    | some s => "; did you mean '" ++ s ++ "'?"
    | none => ""

def toJson (u : UnknownParameter) : Json :=
  .object ([("parameter", .string u.name), ("message", .string u.message)] ++
    Constraints.present "suggestion" .string u.suggestion)

end UnknownParameter

/-- The outcome of checking parameters. -/
structure Validation where
  /-- Whether no error was added. -/
  isValid : Bool
  errors : List ParameterError
  warnings : List UnknownParameter
  /-- The values with which a command is run. -/
  normalized : NameMap Json

namespace Validation

def empty : Validation := ⟨true, [], [], ∅⟩

def error (r : Validation) (e : ParameterError) : Validation :=
  { r with errors := r.errors ++ [e], isValid := false }

def warning (r : Validation) (w : UnknownParameter) : Validation :=
  { r with warnings := r.warnings ++ [w] }

def insert (r : Validation) (name : String) (v : Json) : Validation :=
  { r with normalized := r.normalized.insert name v }

/-- Adds what is decided about a parameter: its faults and its entry. -/
def settle (r : Validation) (name : String) (decision : Option Json × List ParameterFault) :
    Validation :=
  let judged := decision.2.foldl (fun r f => r.error ⟨name, f⟩) r
  match decision.1 with
  | some v => judged.insert name v
  | none => judged

def toJson (v : Validation) : Json :=
  .object [("is_valid", .bool v.isValid), ("errors", .array (v.errors.map ParameterError.toJson)),
    ("warnings", .array (v.warnings.map UnknownParameter.toJson)),
    ("normalized_parameters", .ofMap v.normalized)]

end Validation

namespace Parameter

/-- The value that is given for a parameter. Null counts as missing. -/
def supplied (given : NameMap Json) (name : String) : Option Json :=
  match given.get? name with
  | some .null => none
  | v => v

/-- What is wrong with a coerced value. -/
def faults (patterns : PatternReader) (p : Parameter) (v : Json) : List ParameterFault :=
  match p.constraints with
  | none => []
  | some c => (c.violations patterns v).map fun x => .violated x v

/-- The value with which a command is run, if there is one, and what is wrong with the parameter. -/
def decide (patterns : PatternReader) (p : Parameter) : Option Json → Option Json × List ParameterFault
  | none =>
    match p.default with
    | some d => (some d, [])
    | none => (none, if p.required then [.missing] else [])
  | some v =>
    match Coercion.coerce v p.type with
    | .error reason => (none, [.wrongType p.type reason v])
    | .ok w =>
      match p.faults patterns w with
      | [] => (some w, [])
      | fs => (none, fs)

end Parameter

namespace Command

def better : Option Int → Option Int → Option Int
  | some a, some b => some (max a b)
  | some a, none => some a
  | none, b => b

/-- The candidate with the highest score, the first of several. -/
def best : List (String × Option Int) → Option (String × Int)
  | [] => none
  | (name, score) :: rest =>
    match score, best rest with
    | none, r => r
    | some a, none => some (name, a)
    | some a, some (m, b) => if b ≤ a then some (name, a) else some (m, b)

/-- The declared name that matches best, in either direction; of several the first. -/
def suggestion (matcher : Matcher) (declared : List String) (unknown : String) : Option String :=
  (best (declared.map fun d => (d, better (matcher d unknown) (matcher unknown d)))).map (·.1)

def decisions (patterns : PatternReader) (schema : NameMap Parameter) (given : NameMap Json) :
    List (String × Option Json × List ParameterFault) :=
  schema.entries.map fun e => (e.1, e.2.decide patterns (Parameter.supplied given e.1))

/-- Checks the values that are given for the parameters of a command. -/
def checkParameters (patterns : PatternReader) (matcher : Matcher) (c : Command)
    (given : NameMap Json) : Validation :=
  let checked := (decisions patterns c.schema given).foldl (fun r d => r.settle d.1 d.2) .empty
  (given.names.filter fun n => !c.schema.contains n).foldl
    (fun r n => r.warning ⟨n, suggestion matcher c.schema.names n⟩) checked

end Command

end Roster
