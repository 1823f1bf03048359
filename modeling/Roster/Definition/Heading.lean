import Roster.Definition.Issue
import Roster.Json.Record
import Roster.Timestamp.Reading

/-! # Headings

What the metadata of every kind of definition may say about it: author,
description, and when it was written and changed.
-/
namespace Roster

structure Heading where
  author : Option String
  version : Option String
  description : Option String
  createdAt : Option Timestamp
  updatedAt : Option Timestamp
  deriving DecidableEq

namespace Heading

structure Written where
  author : Option String
  description : Option String
  createdAt : Option String
  updatedAt : Option String
  deriving DecidableEq

namespace Written

/-- The fields of a heading. The first four belong to the document itself. -/
def record : Record Written where
  name := "CommonFields"
  start := ⟨none, none, none, none⟩
  fields := [
    .ignored "name", .ignored "scope", .ignored "tags", .ignored "version",
    .of "author" (Shape.optional Shape.string) fun w x => { w with author := x },
    .of "description" (Shape.optional Shape.string) fun w x => { w with description := x },
    .of "created_at" (Shape.optional Shape.string) fun w x => { w with createdAt := x },
    .of "updated_at" (Shape.optional Shape.string) fun w x => { w with updatedAt := x }]

def ofJson : Shape Written :=
  Shape.recordOrList record.name record.names record.set record.start

end Written

/-- The timestamp of a field, with an issue if it cannot be read. -/
def timestamp (field : String) : Option String → Option Timestamp × List Issue
  | none => (none, [])
  | some raw =>
    match Timestamp.parse? raw with
    | some t => (some t, [])
    | none =>
      (none, [.invalidValue field
        ("'" ++ raw ++ "' is not an RFC 3339 timestamp or YYYY-MM-DD date")])

/-- The heading that is written, with the version of the document. -/
def ofWritten (w : Written) (version : Option String) : Heading × List Issue :=
  let (createdAt, first) := timestamp "created_at" w.createdAt
  let (updatedAt, second) := timestamp "updated_at" w.updatedAt
  (⟨w.author, version, w.description, createdAt, updatedAt⟩, first ++ second)

/-- What metadata says about a definition with fields of its own, and the heading, which is read
from the rest. What is beside the heading has no meaning. -/
def ofMetadata {α : Type} (r : Record α) (m : NameMap Json) :
    Except String (α × WithExtra Written) := do
  let w ← r.read m
  let h ← Written.record.read w.extra
  pure (w.known, h)

def timestampJson (t : Option Timestamp) : Json :=
  .ofString? (t.map Timestamp.text)

def toJson (h : Heading) : Json :=
  .object [("author", .ofString? h.author), ("version", .ofString? h.version),
    ("description", .ofString? h.description), ("created_at", timestampJson h.createdAt),
    ("updated_at", timestampJson h.updatedAt)]

end Heading

end Roster
