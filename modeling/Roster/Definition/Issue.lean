import Roster.Vocabulary

/-! # Issues

What is noted while the metadata of a document is read, without making the
document useless: fields that have no meaning, and values that cannot be read,
in whose place a default is used.
-/
namespace Roster

inductive IssueKind where
  | unknownField | invalidValue
  deriving DecidableEq, Repr

instance : Vocabulary IssueKind where
  noun := "issue kind"
  values := [.unknownField, .invalidValue]
  word
    | .unknownField => "unknown_field"
    | .invalidValue => "invalid_value"
  spellings _ := []
  reads := id
  fallback := .unknownField

/-- Something noted about a field. -/
structure Issue where
  field : String
  kind : IssueKind
  message : String
  deriving DecidableEq, Repr

namespace Issue

def unknownField (field : String) : Issue :=
  ⟨field, .unknownField, "unknown front matter field '" ++ field ++ "' is ignored"⟩

def invalidValue (field message : String) : Issue :=
  ⟨field, .invalidValue, message⟩

/-- One issue for each of the fields, whose names are those of the block `block?` if there is one. -/
def unknownFields (block? : Option String) (extra : NameMap Json) : List Issue :=
  extra.names.map fun key =>
    unknownField (match block? with
      | some block => block ++ "." ++ key
      | none => key)

/-- The value that the word of a field asks for. The fallback stands for no word, and with an
issue for one that cannot be read. -/
def parseWord {α : Type} [Vocabulary α] (field : String) : Option String → α × List Issue
  | none => (Vocabulary.fallback, [])
  | some raw =>
    match Vocabulary.parse raw with
    | .ok a => (a, [])
    | .error message =>
      let a : α := Vocabulary.fallback
      (a, [invalidValue field (message ++ "; using '" ++ Vocabulary.word a ++ "'")])

def toJson (i : Issue) : Json :=
  .object [("field", .string i.field), ("kind", Vocabulary.toJson i.kind),
    ("message", .string i.message)]

/-- An issue from its JSON value. A field of the wrong kind is reported ahead of a missing one. -/
def ofJson : Shape Issue
  | .object l => do
    let m := NameMap.ofList l
    for e in m.entries do
      match e.1 with
      | "field" | "message" => let _ ← Shape.string e.2
      | "kind" => let _ ← (Vocabulary.ofJson e.2 : Except String IssueKind)
      | _ => pure ()
    pure ⟨← Shape.required m "field" Shape.string, ← Shape.required m "kind" Vocabulary.ofJson,
      ← Shape.required m "message" Shape.string⟩
  | v => Shape.refuse "struct MetadataIssue" v

end Issue

end Roster
