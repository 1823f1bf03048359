import Roster.Document.Block
import Roster.Json.Basic
import Roster.Yaml.JsonTarget
import Roster.Yaml.Printer

/-! # Documents

A document is a mapping, its metadata, and a text, its body. It is written as a
front matter block that holds the metadata in YAML, an empty line, and the body.

How YAML is read and written is a parameter of the functions with `With` in
their names; the others read and write it as `Yaml.readJson` and `Yaml.print` do.
-/
namespace Roster

/-- Reads YAML: the value that a text writes, or why it writes none. -/
abbrev YamlReader := List Char → Except Yaml.Fault Json

/-- Prints metadata as YAML, or says why they cannot be. -/
abbrev YamlPrinter := NameMap Json → Except String (List Char)

/-- Metadata and a body. -/
structure Document where
  metadata : NameMap Json
  body : String

namespace Document

def empty : Document := ⟨∅, ""⟩

instance : Inhabited Document := ⟨empty⟩

def hasKey (d : Document) (key : String) : Bool :=
  d.metadata.contains key

def string? (d : Document) (key : String) : Option String :=
  (d.metadata.get? key).bind Json.string?

/-- A fault of the YAML in a block, with its place in the whole text. A fault without a place is
reported at the start of the block. -/
def placed (opening : Nat) (f : Yaml.Fault) : DocumentError :=
  match f.mark? with
  | some m => .invalidYaml (opening + 1 + m.line) (m.column + 1) f.message
  | none => .invalidYaml (opening + 1) 1 f.message

/-- The metadata of a block. A block without text has none. -/
def metadataWith (read : YamlReader) (b : Block) : Except DocumentError (NameMap Json) :=
  if Text.isAllBlank b.yaml then .ok ∅
  else match read b.yaml with
    | .error f => .error (placed b.opening f)
    | .ok v =>
      match v.toMap? with
      | some m => .ok m
      | none => .error (.notAMapping b.opening)

/-- The document that a divided text writes. -/
def ofBlockWith (read : YamlReader) (b : Block) : Except DocumentError Document :=
  (metadataWith read b).map fun m => ⟨m, String.ofList b.body⟩

def parseWith (read : YamlReader) (text : List Char) : Except DocumentError Document :=
  (Block.split text).bind (ofBlockWith read)

/-- The document that a text writes, where a text without a complete block is all body. -/
def parseLenientWith (read : YamlReader) (text : List Char) : Except DocumentError Document :=
  match Block.split text with
  | .ok b => ofBlockWith read b
  | .error _ => .ok ⟨∅, String.ofList (Block.withoutMark text)⟩

/-- A text that ends with a line feed, if it is not empty. -/
def endLine (s : List Char) : List Char :=
  match s.getLast? with
  | none => []
  | some c => if c = '\n' then s else s ++ ['\n']

def writeWith (print : YamlPrinter) (d : Document) : Except DocumentError (List Char) :=
  let block (yaml : List Char) : List Char :=
    Block.delimiter ++ '\n' :: (endLine yaml ++ (Block.delimiter ++ '\n' :: '\n' :: d.body.toList))
  if d.metadata.isEmpty then .ok (block [])
  else match print d.metadata with
    | .ok yaml => .ok (block yaml)
    | .error reason => .error (.unwritable reason)

def parse (text : String) : Except DocumentError Document :=
  parseWith Yaml.readJson text.toList

/-- The document that a text writes, where a text without a complete block is all body. -/
def parseLenient (text : String) : Except DocumentError Document :=
  parseLenientWith Yaml.readJson text.toList

/-- Prints metadata as `Yaml.print` does, which has no reason to fail. -/
def printYaml : YamlPrinter := fun m =>
  .ok (Yaml.print (.ofMap m))

def write (d : Document) : Except DocumentError String :=
  (writeWith printYaml d).map String.ofList

def toJson (d : Document) : Json :=
  .object [("metadata", .ofMap d.metadata), ("body", .string d.body)]

end Document

end Roster
