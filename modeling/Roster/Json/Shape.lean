import Roster.Json.Basic
import Roster.NameMap
import Roster.Shape
import Roster.Text.Blank
import Roster.Text.Lines

/-! # Reading values of a given kind

Readers that take a JSON value of one kind and say what is wrong with any other.
An object is read field by field in the order of its names, so the first field
that is wrong is the one reported.
-/
namespace Roster

namespace Json

/-- A value as a message about its kind shows it. -/
def found : Json → Found
  | null => .null
  | bool b => .bool b
  | number (.int z) => .integer z.val
  | number (.double d) => .float (String.ofList (d.write Double.jsonLayout))
  | string s => .string s
  | array _ => .sequence
  | object _ => .map

end Json

/-- A reader of values of one kind. -/
abbrev Shape (α : Type) := Json → Except String α

namespace Shape

/-- The message for a value of the wrong kind. -/
def refuse (expected : String) (v : Json) : Except String α :=
  .error (v.found.wrongKind expected)

def string : Shape String
  | .string s => .ok s
  | v => refuse "a string" v

def bool : Shape Bool
  | .bool b => .ok b
  | v => refuse "a boolean" v

/-- An integer between two bounds. -/
def int (low high : Int) (name : String) : Shape Int
  | .number (.int z) =>
    if low ≤ z.val ∧ z.val ≤ high then .ok z.val
    else .error ((Found.integer z.val).wrongValue name)
  | v => refuse name v

def int64 : Shape Int := int (-9223372036854775808) 9223372036854775807 "i64"

/-- A natural number below a power of two. -/
def nat (bits : Nat) (name : String) : Shape Nat := fun v =>
  (int 0 (twoTo bits - 1) name v).map Int.toNat

def nat32 : Shape Nat := nat 32 "u32"
def nat64 : Shape Nat := nat 64 "u64"

/-- A number, rounded to a double. -/
def double : Shape Double
  | .number n => .ok n.toDouble
  | v => refuse "f64" v

/-- A value that may be missing; null counts as missing. -/
def optional (f : Shape α) : Shape (Option α)
  | .null => .ok none
  | v => (f v).map some

/-- The items of a comma separated text, trimmed, without the empty ones. -/
def splitList (s : String) : List String :=
  ((Text.splitOn ',' s.toList).map fun p => String.ofList (Text.trim p)).filter fun p => !p.isEmpty

/-- The texts of a list, trimmed, without the empty ones. -/
def trimList (l : List String) : List String :=
  (l.map Text.trimmed).filter fun p => !p.isEmpty

/-- A list of strings, which may also be written as one comma separated string or be missing. -/
def stringList : Shape (List String)
  | .null => .ok []
  | .string s => .ok (splitList s)
  | .array items =>
    match items.mapM Json.string? with
    | some l => .ok (trimList l)
    | none => .error "data did not match any variant of untagged enum StringOrList"
  | _ => .error "data did not match any variant of untagged enum StringOrList"

def strings : Shape (List String)
  | .array items => items.mapM string
  | v => refuse "a sequence" v

def map : Shape (NameMap Json)
  | .object fields => .ok (NameMap.ofList fields)
  | v => refuse "a map" v

def fields (set : α → String → Json → Except String α) (start : α) (m : NameMap Json) :
    Except String α :=
  m.entries.foldlM (fun a e => set a e.1 e.2) start

/-- An object of the structure `name`, which may also be written as the list of the values of its
first fields. -/
def recordOrList (name : String) (names : List String)
    (set : α → String → Json → Except String α) (start : α) : Shape α
  | .object l => fields set start (NameMap.ofList l)
  | .array items => do
    let a ← (names.zip items).foldlM (fun a e => set a e.1 e.2) start
    if items.length ≤ names.length then pure a
    else .error ("invalid length " ++ toString items.length ++
      ", expected fewer elements in array")
  | v => refuse ("struct " ++ name) v


/-- An object of the structure `name`, which may also be written as the list of the values of all
its fields. -/
def recordOrAllItems (name : String) (names : List String)
    (set : α → String → Json → Except String α) (start : α) : Shape α
  | .array items =>
    if items.length < names.length then do
      let _ ← (names.zip items).foldlM (fun a e => set a e.1 e.2) start
      .error ("invalid length " ++ toString items.length ++ ", expected struct " ++ name ++
        " with " ++ toString names.length ++ " elements")
    else recordOrList name names set start (.array items)
  | v => recordOrList name names set start v

def pathString : Shape String
  | .string s => .ok s
  | v => refuse "path string" v

/-- The value of a field that must be there. -/
def required (m : NameMap Json) (key : String) (f : Shape α) : Except String α :=
  match m.get? key with
  | some v => f v
  | none => .error ("missing field \x60" ++ key ++ "\x60")

end Shape

end Roster
