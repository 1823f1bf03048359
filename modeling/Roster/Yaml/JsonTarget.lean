import Roster.Json.Basic
import Roster.Yaml.Reading

/-! # JSON values written in YAML

Integers of 64 bits stay integers, finite numbers become doubles, and numbers
that are not finite become null.
-/
namespace Roster.Yaml

def Plain.toJson (s : List Char) : Plain → Except String Json
  | null => .ok .null
  | bool b => .ok (.bool b)
  | int z =>
    match Integer.ofInt? z with
    | some i => .ok (.number (.int i))
    | none => .error "JSON number out of range"
  | real (.finite d) => .ok (.number (.double d))
  | real _ => .ok .null
  | text => .ok (.string (String.ofList s))

def jsonTarget : Target Json where
  scalar := Plain.toJson
  sequence := .array
  mapping := .ofMap
  expected := "any valid JSON value"
  expectedKey := "a string key"

/-- The JSON value that a text writes. -/
def readJson (s : List Char) : Except Fault Json :=
  read jsonTarget s

end Roster.Yaml
