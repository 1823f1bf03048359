import Roster.Json.Shape

/-! # Records

A record is an object whose fields have meanings of their own. Its description
lists the fields, each with what its value does to the record that is read. The
fields of all other names are collected beside it.
-/
namespace Roster

/-- A field of a record: its name, and how its value is taken over. -/
structure Field (α : Type) where
  key : String
  put : α → Json → Except String α

def Field.of {α β : Type} (key : String) (shape : Shape β) (assign : α → β → α) : Field α :=
  ⟨key, fun a v => (shape v).map (assign a)⟩

/-- A field whose value has no meaning. -/
def Field.ignored {α : Type} (key : String) : Field α :=
  ⟨key, fun a _ => .ok a⟩

structure Record (α : Type) where
  name : String
  start : α
  fields : List (Field α)

/-- What a mapping writes, and the fields of other names beside it. -/
structure WithExtra (α : Type) where
  known : α
  extra : NameMap Json

namespace Record

variable {α : Type}

def names (r : Record α) : List String :=
  r.fields.map (·.key)

def field? (r : Record α) (key : String) : Option (Field α) :=
  r.fields.find? fun f => f.key == key

/-- Takes over a field, if it belongs to the record. -/
def set (r : Record α) (a : α) (key : String) (v : Json) : Except String α :=
  match r.field? key with
  | some f => f.put a v
  | none => .ok a

/-- The fields of a mapping that do not belong to the record. -/
def extra (r : Record α) (m : NameMap Json) : NameMap Json :=
  m.filter fun key _ => !r.names.contains key

def readKnown (r : Record α) (m : NameMap Json) : Except String α :=
  Shape.fields r.set r.start m

/-- The record that a mapping writes, and what is beside it. -/
def read (r : Record α) (m : NameMap Json) : Except String (WithExtra α) :=
  (r.readKnown m).map fun a => ⟨a, r.extra m⟩

def ofJson (r : Record α) : Shape (WithExtra α)
  | .object l => r.read (NameMap.ofList l)
  | v => Shape.refuse ("struct " ++ r.name) v

end Record

end Roster
