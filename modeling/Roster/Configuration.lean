import Roster.Document.Basic
import Roster.FilePath
import Roster.Scope
import Roster.Timestamp.Basic

/-! # Configurations

A configuration is a document that was found in a tier and has been given a name
and a kind, before its metadata is read as that of an agent or a command.
-/
namespace Roster

inductive DocumentKind where
  | agent | command | unclassified
  deriving DecidableEq, Repr, Inhabited

namespace DocumentKind

instance : Vocabulary DocumentKind where
  noun := "kind"
  values := [agent, command, unclassified]
  word
    | agent => "agent"
    | command => "command"
    | unclassified => "unclassified"
  spellings _ := []
  reads := id
  fallback := unclassified

/-- Whether one of the tags is a word, without regard to the case of letters from A to Z. -/
def tagged (tags : List String) (word : String) : Bool :=
  tags.any fun t => t.toList.map Char.toLower == word.toList

/-- The kind of a document: by the key that only one kind has, then by its tags, then by the place
where it was found. -/
def classify (d : Document) (tags : List String) (hint : Option DocumentKind) : DocumentKind :=
  if d.hasKey "agent_type" then agent
  else if d.hasKey "command_type" then command
  else if tagged tags "agent" then agent
  else if tagged tags "command" then command
  else hint.getD unclassified

end DocumentKind

/-- A document with its name, its kind and the place where it was found. -/
structure Configuration where
  name : String
  scope : Scope
  kind : DocumentKind
  tags : List String
  version : Option String
  metadata : NameMap Json
  content : String
  lastModified : Timestamp
  path : FilePath

namespace Configuration

def hasTag (c : Configuration) (tag : String) : Bool :=
  c.tags.contains tag

def toJson (c : Configuration) : Json :=
  .object [("name", .string c.name), ("scope", Vocabulary.toJson c.scope),
    ("kind", Vocabulary.toJson c.kind), ("tags", .strings c.tags),
    ("version", .ofString? c.version), ("metadata", .ofMap c.metadata),
    ("content", .string c.content), ("last_modified", .string c.lastModified.text),
    ("source_path", .string c.path.text)]

end Configuration

end Roster
