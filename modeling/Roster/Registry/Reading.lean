import Roster.Json.Printer
import Roster.Registry.Source

/-! # Reading documents of a tier

A document gets its name, tags, version and kind. What is odd about it without
making it useless is noted in warnings. How YAML is read is left open.
-/
namespace Roster

/-- Something odd about a document. -/
structure LoadWarning where
  scope : Scope
  path : FilePath
  text : String
  deriving DecidableEq, Repr

namespace LoadWarning

def message (w : LoadWarning) : String :=
  "[" ++ w.scope.word ++ "] " ++ w.path.text ++ ": " ++ w.text

def toJson (w : LoadWarning) : Json :=
  .object [("scope", Vocabulary.toJson w.scope), ("path", .string w.path.text),
    ("message", .string w.text)]

end LoadWarning

namespace Document

/-- The name that a document gives itself, if it is not blank. -/
def ownName? (d : Document) : Option String :=
  ((d.string? "name").map Text.trimmed).filter fun n => !n.isEmpty

/-- What is odd about the tier that a document says it belongs to. -/
def scopeWarnings (d : Document) (found : Scope) : List String :=
  match d.metadata.get? "scope" with
  | none => []
  | some (.string s) =>
    match (Vocabulary.parse s : Except String Scope) with
    | .ok declared =>
      if declared = found then []
      else ["declares scope '" ++ declared.word ++ "' but was found in the " ++ found.word ++
        " tier; using " ++ found.word]
    | .error reason => [reason]
  | some v => ["'scope' must be a string, found " ++ v.compact]

/-- The tags of a document, and what is odd about them. -/
def tags (d : Document) : List String × List String :=
  match d.metadata.get? "tags" with
  | none => ([], [])
  | some v =>
    match Shape.stringList v with
    | .ok l => (l, [])
    | .error reason => ([], ["ignoring malformed 'tags': " ++ reason])

/-- The version of a document, which may be written as a number. -/
def version? (d : Document) : Option String :=
  match d.metadata.get? "version" with
  | some (.string s) => some s
  | some (.number n) => some (Json.number n).compact
  | _ => none

end Document

namespace FilePath

/-- The name for a document that gives itself none. -/
def nameForUnnamed (p : FilePath) : String :=
  p.fileStem?.getD "unnamed"

end FilePath

namespace SourceDocument

/-- The document that a text at a path writes. -/
def parse (yaml : YamlReader) (scope : Scope) (d : SourceDocument) :
    Except LoadError (Document × Timestamp) :=
  match d.content with
  | .error f => .error (.unreadable scope d.path f)
  | .ok c =>
    match Document.parseWith yaml c.text.toList with
    | .error e => .error (.malformed d.path e)
    | .ok doc => .ok (doc, c.lastModified)

/-- The name of a document, and what is odd about it. Only a lenient load names a document after
its file. -/
def nameOf (strict : Bool) (path : FilePath) (doc : Document) :
    Except LoadError (String × List String) :=
  match doc.ownName? with
  | some n => .ok (n, [])
  | none =>
    if strict then .error (.missingName path)
    else
      let n := path.nameForUnnamed
      .ok (n, ["missing 'name'; using file name '" ++ n ++ "'"])

/-- The configuration that a document of a tier holds, and what is odd about it. -/
def read (yaml : YamlReader) (scope : Scope) (strict : Bool) (d : SourceDocument) :
    Except LoadError (Configuration × List LoadWarning) := do
  let (doc, lastModified) ← d.parse yaml scope
  let (name, nameNotes) ← nameOf strict d.path doc
  let (tags, tagNotes) := doc.tags
  let notes := nameNotes ++ doc.scopeWarnings scope ++ tagNotes
  return (
    { name
      scope
      kind := DocumentKind.classify doc tags d.hint
      tags
      version := doc.version?
      metadata := doc.metadata
      content := doc.body
      lastModified
      path := d.path },
    notes.map fun t => ⟨scope, d.path, t⟩)

end SourceDocument

end Roster
