import Roster.FilePath
import Roster.Text.Utf8
import Roster.Timestamp.Basic

/-! # File trees

A file tree is a value: the directories, files and symbolic links at their
places. A place is the list of names on the way from the root, and the root is
always a directory.
-/
namespace Roster

/-- The names on the way from the root. -/
abbrev Place := List String

/-- A file: bytes, as many zero bytes behind them, and the time of the last change. -/
structure StoredFile where
  bytes : List UInt8
  padding : Nat
  lastModified : Timestamp

namespace StoredFile

def ofText (s : String) (lastModified : Timestamp) : StoredFile :=
  ⟨Text.Utf8.encode s.toList, 0, lastModified⟩

def size (f : StoredFile) : Nat :=
  f.bytes.length + f.padding

/-- The file cut or filled up with zero bytes to a size. -/
def resize (f : StoredFile) (size : Nat) : StoredFile :=
  { f with
    bytes := f.bytes.take size
    padding := min f.padding (size - f.bytes.length) + (size - f.size) }

def text (f : StoredFile) : Except Text.Utf8.Flaw String :=
  (Text.Utf8.decode (f.bytes ++ List.replicate f.padding 0)).map String.ofList

end StoredFile

inductive Node where
  | directory
  | file (f : StoredFile)
  | link (target : FilePath)

/-- What is at which place, except for the root. -/
structure FileTree where
  entries : List (Place × Node)

namespace FileTree

def empty : FileTree := ⟨[]⟩

def node? (t : FileTree) (p : Place) : Option Node :=
  if p.isEmpty then some .directory else (t.entries.find? fun e => e.1 == p).map (·.2)

/-- Puts something at a place, instead of what is there. -/
def put (t : FileTree) (p : Place) (n : Node) : FileTree :=
  ⟨(p, n) :: t.entries.filter fun e => e.1 != p⟩

def namesIn (t : FileTree) (dir : Place) : List String :=
  t.entries.filterMap fun e => if e.1.dropLast == dir then e.1.getLast? else none

/-- What is at places where an earlier tree had nothing, outer places before inner ones. -/
def since (t old : FileTree) : List (Place × Node) :=
  (t.entries.filter fun e => (old.node? e.1).isNone).reverse

end FileTree

end Roster
