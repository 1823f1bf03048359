import Roster.Command.Definition
import Roster.Json.Record

/-! # Reading parameters

The parameters of a command are a mapping from names, or a list of mappings that
hold their names. A parameter may also be just the word for its type, or null.
-/
namespace Roster

namespace Constraints

structure Written where
  constraints : Constraints
  /-- The fields that may be written only once and are written, each under the first of its
  names. -/
  seen : NameSet

namespace Written

/-- Takes over the value of a field that may be written only once, under any of its names. A null
is a value here. -/
def once (name : String) (seen : NameSet) (f : Shape α) (v : Json) :
    Except String (Option α) :=
  if seen.contains name then .error ("duplicate field \x60" ++ name ++ "\x60")
  else Shape.optional f v

def field (key : String) (shape : Shape β) (assign : Constraints → β → Constraints) :
    Field Written :=
  .of key shape fun w x => { w with constraints := assign w.constraints x }

/-- The field of a constraint under all its names, of which the first is the one in messages. -/
def aliases (name : String) (others : List String) (shape : Shape β)
    (assign : Constraints → Option β → Constraints) : List (Field Written) :=
  (name :: others).map fun key => ⟨key, fun w v =>
    (once name w.seen shape v).map fun x =>
      { w with constraints := assign w.constraints x, seen := w.seen.insert name () }⟩

def length : Shape Nat := Shape.nat 64 "usize"

def sequence : Shape (List Json)
  | .array items => .ok items
  | v => Shape.refuse "a sequence" v

def record : Record Written where
  name := "ValidationFields"
  start := ⟨free, ∅⟩
  fields :=
    field "pattern" (Shape.optional Shape.string) (fun c x => { c with pattern := x }) ::
    aliases "min_length" ["minLength"] length (fun c x => { c with minLength := x }) ++
    aliases "max_length" ["maxLength"] length (fun c x => { c with maxLength := x }) ++
    aliases "minimum" ["min"] Shape.double (fun c x => { c with minimum := x }) ++
    aliases "maximum" ["max"] Shape.double (fun c x => { c with maximum := x }) ++
    [field "enum" (Shape.optional sequence) fun c x => { c with allowed := x }]

end Written

end Constraints

namespace Parameter

structure Written where
  name : Option String
  type : Option String
  required : Bool
  description : Option String
  default : Option Json
  constraints : Option (WithExtra Constraints.Written)

namespace Written

def empty : Written := ⟨none, none, false, none, none, none⟩

def record : Record Written where
  name := "ParamFields"
  start := empty
  fields := [
    .of "name" (Shape.optional Shape.string) fun w x => { w with name := x },
    .of "type" (Shape.optional Shape.string) fun w x => { w with type := x },
    .of "required" Shape.bool fun w x => { w with required := x },
    .of "description" (Shape.optional Shape.string) fun w x => { w with description := x },
    .of "default" (Shape.optional .ok) fun w x => { w with default := x },
    .of "validation" (Shape.optional Constraints.Written.record.ofJson) fun w x =>
      { w with constraints := x }]

def kindText : Json → String
  | .null => "null"
  | .bool _ => "a boolean"
  | .number _ => "a number"
  | .string _ => "a string"
  | .array _ => "a list"
  | .object _ => "a mapping"

def ofJson (label : String) : Json → Except String (WithExtra Written)
  | .null => .ok ⟨empty, ∅⟩
  | .string type => .ok ⟨{ empty with type := some type }, ∅⟩
  | .object l =>
    (record.read (NameMap.ofList l)).mapError fun e =>
      "parameter '" ++ label ++ "': " ++ e
  | v =>
    .error ("parameter '" ++ label ++ "' must be a mapping or a type name, found " ++ kindText v)

def trimmedName (w : Written) : Option String :=
  (w.name.map Text.trimmed).filter fun n => !n.isEmpty

end Written

/-- The parameter that is written, with the issues that are noted under its field. -/
def ofWritten (field : String) (w : WithExtra Written) : Parameter × List Issue :=
  let (type, typeIssues) := Issue.parseWord (field ++ ".type") w.known.type
  let validationIssues := match w.known.constraints with
    | some c => Issue.unknownFields (some (field ++ ".validation")) c.extra
    | none => []
  let constraints := (w.known.constraints.map (·.known.constraints)).filter fun c => !c.isEmpty
  (⟨type, w.known.required, w.known.description, w.known.default, constraints⟩,
    Issue.unknownFields (some field) w.extra ++ typeIssues ++ validationIssues)

/-- Adds a parameter. Of two with one name the first is kept. -/
def add (schema : NameMap Parameter) (name : String) (w : WithExtra Written) :
    NameMap Parameter × List Issue :=
  let field := "parameters." ++ name
  if schema.contains name then
    (schema, [.invalidValue field
      ("duplicate parameter '" ++ name ++ "'; the first declaration is kept")])
  else
    let (p, issues) := ofWritten field w
    (schema.insert name p, issues)

def ofFields (m : NameMap Json) : Except String (NameMap Parameter × List Issue) :=
  m.entries.foldlM (fun (schema, issues) (name, v) => do
    let w ← Written.ofJson name v
    let (schema, more) := add schema name w
    pure (schema, issues ++ more)) (∅, [])

/-- The parameters of a list. One without a name is left out. -/
def ofItems (items : List Json) : Except String (NameMap Parameter × List Issue) :=
  items.zipIdx.foldlM (fun (schema, issues) (v, i) => do
    let number := "#" ++ toString (i + 1)
    let w ← Written.ofJson number v
    let (schema, more) := match w.known.trimmedName with
      | some name => add schema name w
      | none =>
        (schema, [.invalidValue "parameters"
          ("parameter " ++ number ++ " has no name and is ignored")])
    pure (schema, issues ++ more)) (∅, [])

def schemaOf : Json → Except String (NameMap Parameter × List Issue)
  | .null => .ok (∅, [])
  | .object l => ofFields (NameMap.ofList l)
  | .array items => ofItems items
  | v => .error ("parameters must be a mapping or a list, found " ++ Written.kindText v)

end Parameter

end Roster
