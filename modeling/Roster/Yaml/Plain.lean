import Roster.Number.Decimal
import Roster.Number.Shortest
import Roster.Shape

/-! # Plain scalars

The value that a scalar without quotes stands for: null, a truth value, an
integer, a number with a point or an exponent, or else the text itself.
-/
namespace Roster.Yaml

/-- A number that need not be finite. -/
inductive Real where
  | finite (d : Double)
  | infinite (neg : Bool)
  | nan
  deriving DecidableEq

/-- What the text of a scalar stands for. -/
inductive Plain where
  | null
  | bool (b : Bool)
  | int (z : Int)
  | real (r : Real)
  | text
  deriving DecidableEq

namespace Real

/-- The number with all its digits and at least one place behind the point. -/
def text : Real → String
  | finite d => String.ofList (d.write ⟨false, false, true⟩)
  | infinite false => "inf"
  | infinite true => "-inf"
  | nan => "NaN"

end Real

namespace Plain

def isNull (s : List Char) : Bool :=
  [['n', 'u', 'l', 'l'], ['N', 'u', 'l', 'l'], ['N', 'U', 'L', 'L'], ['~']].contains s

def bool? (s : List Char) : Option Bool :=
  if ["true".toList, "True".toList, "TRUE".toList].contains s then some true
  else if ["false".toList, "False".toList, "FALSE".toList].contains s then some false
  else none

def digit? (base : Nat) (c : Char) : Option Nat :=
  let v :=
    if c.isDigit then c.toNat - 48
    else if 'a' ≤ c ∧ c ≤ 'z' then c.toNat - 87
    else if 'A' ≤ c ∧ c ≤ 'Z' then c.toNat - 55
    else 36
  if v < base then some v else none

/-- The number that digits write in some base; there is at least one digit. -/
def digits? (base : Nat) (s : List Char) : Option Nat :=
  if s.isEmpty then none
  else s.foldlM (fun n c => (digit? base c).map (n * base + ·)) 0

/-- The digits of a number that names its base, with the base. -/
def based? : List Char → Option (Nat × List Char)
  | '0' :: 'x' :: r => some (16, r)
  | '0' :: 'o' :: r => some (8, r)
  | '0' :: 'b' :: r => some (2, r)
  | _ => none

/-- Whether a text is all digits, at least two, the first a zero, behind at most one sign. Such a
text is no number. -/
def isPadded (s : List Char) : Bool :=
  let s := match s with
    | '+' :: r | '-' :: r => r
    | s => s
  match s with
  | '0' :: c :: r => (c :: r).all (·.isDigit)
  | _ => false

/-- The integer that a text writes. -/
def written? (s : List Char) : Option Int :=
  let magnitude? (r : List Char) : Option Nat :=
    match based? r with
    | some (base, ds) => digits? base ds
    | none => if isPadded s then none else digits? 10 r
  match s with
  | '-' :: r => (magnitude? r).map fun n => -(n : Int)
  | '+' :: r => (magnitude? r).map fun n => (n : Int)
  | r => (magnitude? r).map fun n => (n : Int)

/-- The integer of 128 bits that a text writes. -/
def int? (s : List Char) : Option Int :=
  (written? s).filter fun z => -(twoTo 127 : Int) ≤ z && z < twoTo 128

/-- The number that a text writes, which need not be finite. -/
def real? (s : List Char) : Option Real :=
  let unsigned := match s with
    | '+' :: r => r
    | s => s
  let twice := match s with
    | '+' :: '+' :: _ | '+' :: '-' :: _ => true
    | _ => false
  if twice then none
  else if [".inf".toList, ".Inf".toList, ".INF".toList].contains unsigned then
    some (.infinite false)
  else if ["-.inf".toList, "-.Inf".toList, "-.INF".toList].contains s then some (.infinite true)
  else if [".nan".toList, ".NaN".toList, ".NAN".toList].contains s then some .nan
  else (Double.parse? unsigned).map .finite

/-- What an unquoted scalar stands for. -/
def ofText (s : List Char) : Plain :=
  if s.isEmpty || isNull s then null
  else match bool? s with
    | some b => bool b
    | none =>
      match int? s with
      | some z => int z
      | none =>
        if isPadded s then text
        else match real? s with
          | some r => real r
          | none => text

/-- The value of a scalar as a message about its kind shows it. -/
def found (s : List Char) : Plain → Found
  | null => .unit
  | bool b => .bool b
  | int z => .integer z
  | real r => .float r.text
  | text => .string (String.ofList s)

end Plain

end Roster.Yaml
