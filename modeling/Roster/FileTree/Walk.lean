import Roster.FileTree.Basic

/-! # Finding places

A path is followed name by name. Two dots lead to the directory above the real
place reached so far, and a symbolic link is replaced by the path that it holds.
-/
namespace Roster

/-- Why an operation on files fails. -/
inductive FileFault where
  | notFound
  | alreadyThere
  | notADirectory
  | isADirectory
  | nameTooLong
  | tooManyLinks
  | nulInName
  deriving DecidableEq, Repr

namespace FileFault

def message : FileFault → String
  | notFound => "No such file or directory (os error 2)"
  | alreadyThere => "File exists (os error 17)"
  | notADirectory => "Not a directory (os error 20)"
  | isADirectory => "Is a directory (os error 21)"
  | nameTooLong => "File name too long (os error 36)"
  | tooManyLinks => "Too many levels of symbolic links (os error 40)"
  | nulInName => "file name contained an unexpected NUL byte"

def longestName : Nat := 255

def ofName? (name : String) : Option FileFault :=
  if name.toList.contains '\x00' then some nulInName
  else if longestName < name.utf8ByteSize then some nameTooLong
  else none

end FileFault

/-- Where a path leads. -/
inductive Arrival where
  /-- To something that is no link. -/
  | present (p : Place) (n : Node)
  /-- To a name that a directory does not have. -/
  | vacant (p : Place)

/-- The steps of a path. A slash at the end asks for a directory. -/
def FilePath.steps (p : FilePath) : List FilePath.Component :=
  p.components ++ if p.text.toList.getLast? = some '/' then [.here] else []

namespace FileTree

/-- How many links may be followed on one way. -/
def linkLimit : Nat := 40

/-- Follows steps from a directory. `links` bounds the links that may still be followed. -/
def walk (t : FileTree) (links : Nat) (dir : Place) : List FilePath.Component →
    Except FileFault Arrival
  | [] => .ok (.present dir .directory)
  | .root :: rest => walk t links [] rest
  | .here :: rest => walk t links dir rest
  | .up :: rest => walk t links dir.dropLast rest
  | .name s :: rest =>
    match FileFault.ofName? s with
    | some fault => .error fault
    | none =>
      let next := dir ++ [s]
      match t.node? next with
      | none => if rest.isEmpty then .ok (.vacant next) else .error .notFound
      | some .directory => walk t links next rest
      | some (.file f) => if rest.isEmpty then .ok (.present next (.file f)) else .error .notADirectory
      | some (.link target) =>
        match links with
        | 0 => .error .tooManyLinks
        | links + 1 => walk t links dir (target.steps ++ rest)
termination_by rest => (links, rest.length)

def locate (t : FileTree) (dir : Place) (p : FilePath) : Except FileFault Arrival :=
  if p.text.isEmpty then .error .notFound else t.walk linkLimit dir p.steps

end FileTree

end Roster
