import Roster.Command.Kind
import Roster.Json.Printer
import Roster.Json.Reader
import Roster.Number.Decimal

/-! # Coercion

The value of a declared type that a given value stands for. Anything is a string
and a truth value; a number can be written as text; lists and objects can be
written as JSON text, and a list as items between commas.
-/
namespace Roster.Coercion

/-- The number that a double stands for: an integer of 64 bits if it is one. -/
def numberOf (d : Double) : Json :=
  match d.toInt? with
  | some z =>
    if -9223372036854775808 ≤ z ∧ z ≤ 9223372036854775808 then
      .ofInt (min z 9223372036854775807)
    else .ofDouble d
  | none => .ofDouble d

def text : Json → String
  | .string s => s
  | .null => ""
  | v => v.compact

def double? : Json → Option Double
  | .number n => some n.toDouble
  | .string s => Double.parse? (Text.trim s.toList)
  | .bool b => some (Double.ofInt (if b then 1 else 0))
  | _ => none

/-- The truth value that any value stands for. -/
def truth : Json → Bool
  | .string s => s.toList.map Char.toLower == ['t', 'r', 'u', 'e']
  | .bool b => b
  | .null => false
  | .number n => !n.toDouble.isZero
  | .array _ | .object _ => true

def itemsOf (s : String) : List Json :=
  match Json.parse? s.toList with
  | some (.array items) => items
  | _ =>
    if Text.isAllBlank s.toList then []
    else (Text.splitOn ',' s.toList).map fun p => .string (String.ofList (Text.trim p))

/-- The message for a value that stands for none of a type. -/
def failure (expected : String) (v : Json) : String :=
  "expected " ++ expected ++ ", got " ++ v.compact

/-- The value of a type that a value stands for, or why there is none. -/
def coerce (v : Json) : ParameterType → Except String Json
  | .string => .ok (.string (text v))
  | .number =>
    match double? v with
    | some d => .ok (numberOf d)
    | none => .error (failure "a number" v)
  | .boolean => .ok (.bool (truth v))
  | .array =>
    match v with
    | .array items => .ok (.array items)
    | .string s => .ok (.array (itemsOf s))
    | v => .error (failure "an array" v)
  | .object =>
    match v with
    | .object fields => .ok (.object fields)
    | .string s =>
      match Json.parse? s.toList with
      | some (.object fields) => .ok (.object fields)
      | _ => .error (failure "an object" v)
    | v => .error (failure "an object" v)

end Roster.Coercion
