import Roster.Configuration

/-! # Sources

A source knows the documents of each tier. It can fail as a whole, and single
documents can be unreadable.
-/
namespace Roster

/-- Why a file cannot be read. -/
inductive FailureKind where
  | notFound
  | permissionDenied
  | invalidData
  | other
  deriving DecidableEq, Repr

namespace FailureKind

def word : FailureKind → String
  | notFound => "NotFound"
  | permissionDenied => "PermissionDenied"
  | invalidData => "InvalidData"
  | other => "Other"

end FailureKind

/-- A document that was found but cannot be read. -/
structure ReadFailure where
  kind : FailureKind
  message : String
  deriving DecidableEq, Repr

/-- The text of a document and when it was written. -/
structure DocumentText where
  text : String
  lastModified : Timestamp

structure SourceDocument where
  path : FilePath
  /-- The kind that the place of the document suggests. -/
  hint : Option DocumentKind
  content : Except ReadFailure DocumentText

namespace SourceDocument

/-- A document; one that cannot be read has no text and no time. -/
def toJson (d : SourceDocument) : Json :=
  let (text, time, failure) := match d.content with
    | .ok c => (c.text, Json.string c.lastModified.text, Json.null)
    | .error f => ("", .null,
      .object [("kind", .string f.kind.word), ("message", .string f.message)])
  .object [("path", .string d.path.text), ("content", .string text), ("last_modified", time),
    ("kind_hint", (d.hint.map Vocabulary.toJson).getD .null), ("read_error", failure)]

end SourceDocument

/-- Why documents cannot be loaded. -/
inductive LoadError where
  | malformed (path : FilePath) (e : DocumentError)
  | missingName (path : FilePath)
  | unreadable (scope : Scope) (path : FilePath) (f : ReadFailure)
  | source (scope : Scope) (reason : String)

namespace LoadError

def path? : LoadError → Option FilePath
  | malformed p _ | missingName p | unreadable _ p _ => some p
  | source _ _ => none

def line? : LoadError → Option Nat
  | malformed _ e => e.line?
  | missingName _ | unreadable _ _ _ | source _ _ => none

def message : LoadError → String
  | malformed p e => "failed to parse '" ++ p.text ++ "': " ++ e.message
  | missingName p => "'" ++ p.text ++ "': front matter is missing required field 'name'"
  | unreadable s p f =>
    "failed to read " ++ s.word ++ " document '" ++ p.text ++ "': " ++ f.message
  | source s reason => s.word ++ " configuration source failed: " ++ reason

/-- What caused an error, where that is an error of its own. -/
def cause? : LoadError → Option String
  | malformed _ e => some e.message
  | unreadable _ _ f => some f.message
  | missingName _ | source _ _ => none

end LoadError

/-- The documents of each tier, or why a tier has no answer. -/
abbrev Source := Scope → Except LoadError (List SourceDocument)

end Roster
