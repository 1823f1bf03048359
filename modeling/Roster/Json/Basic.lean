import Roster.Number.Double
import Roster.NameMap

/-! # JSON values

A number is an integer of 64 bits, signed or unsigned, or a finite double; the
two stay apart, so `1` and `1.0` are different values. The fields of an object
stand in the order in which they are written; an object that was read has them
in ascending order of their names, each name once.
-/
namespace Roster

/-- An integer that fits 64 bits, signed or unsigned: it is at least `-2 ^ 63` and below
`2 ^ 64`. -/
structure Integer where
  val : Int
  ge : -9223372036854775808 ≤ val
  lt : val < 18446744073709551616
  deriving DecidableEq

namespace Integer

/-- The integer of this value, if it is in range. -/
def ofInt? (z : Int) : Option Integer :=
  if h : -9223372036854775808 ≤ z ∧ z < 18446744073709551616 then some ⟨z, h.1, h.2⟩ else none

def zero : Integer := ⟨0, by decide, by decide⟩

instance : Inhabited Integer := ⟨zero⟩

def toDouble (z : Integer) : Double :=
  Double.ofInt z.val

end Integer

namespace Json

/-- The numbers of JSON values. -/
inductive Number where
  | int (z : Integer)
  | double (d : Double)
  deriving DecidableEq

namespace Number

def toDouble : Number → Double
  | int z => z.toDouble
  | double d => d

/-- Equality of numbers: an integer never equals a double, and the two zeros are equal. -/
def same : Number → Number → Bool
  | int a, int b => a == b
  | double a, double b => a.sameValue b
  | _, _ => false

end Number

end Json

/-- A JSON value. -/
inductive Json where
  | null
  | bool (b : Bool)
  | number (n : Json.Number)
  | string (s : String)
  | array (items : List Json)
  | object (fields : List (String × Json))
  deriving Inhabited

namespace Json

/-- The number of an integer, `null` for one that does not fit 64 bits. -/
def ofInt (z : Int) : Json :=
  match Integer.ofInt? z with
  | some i => number (.int i)
  | none => null

def ofNat (n : Nat) : Json :=
  ofInt n

def ofDouble (d : Double) : Json :=
  number (.double d)

def ofString? : Option String → Json
  | some s => string s
  | none => null

def strings (l : List String) : Json :=
  array (l.map string)

def ofMap (m : NameMap Json) : Json :=
  object m.entries

/-- The object with these fields in ascending order of their names. -/
def ofFields (fields : List (String × Json)) : Json :=
  ofMap (NameMap.ofList fields)

/-- The fields as a map, where a later field takes the place of an earlier one of its name. -/
def toMap? : Json → Option (NameMap Json)
  | object fields => some (NameMap.ofList fields)
  | _ => none

def field? (name : String) : Json → Option Json
  | object fields => (fields.find? fun f => f.1 == name).map (·.2)
  | _ => none

def string? : Json → Option String
  | string s => some s
  | _ => none

mutual

/-- Equality of values, with `Number.same` for numbers. -/
def same : Json → Json → Bool
  | null, null => true
  | bool a, bool b => a == b
  | number a, number b => a.same b
  | string a, string b => a == b
  | array a, array b => sameItems a b
  | object a, object b => sameFields a b
  | _, _ => false

def sameItems : List Json → List Json → Bool
  | [], [] => true
  | a :: as, b :: bs => same a b && sameItems as bs
  | _, _ => false

def sameFields : List (String × Json) → List (String × Json) → Bool
  | [], [] => true
  | a :: as, b :: bs => sameField a b && sameFields as bs
  | _, _ => false

def sameField : String × Json → String × Json → Bool
  | (k, a), (l, b) => k == l && same a b

end

end Json

end Roster
