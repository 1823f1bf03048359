import Roster.Text.Lines

/-! # File paths

A path is a text in which slashes stand between names. Paths are compared by
their components: repeated slashes and dots between slashes do not count, and
what comes first decides.
-/
namespace Roster

structure FilePath where
  text : String
  deriving DecidableEq, Repr, Inhabited

namespace FilePath

inductive Component where
  | root
  /-- A dot in front. -/
  | here
  /-- Two dots. -/
  | up
  | name (s : String)
  deriving DecidableEq, Repr

namespace Component

/-- The place of the kind of a component in their order. -/
def rank : Component → Nat
  | root => 0
  | here => 1
  | up => 2
  | name _ => 3

def text : Component → String
  | root => "/"
  | here => "."
  | up => ".."
  | name s => s

/-- The order of components: root, dot, two dots, names in the order of their characters. -/
def compare : Component → Component → Ordering
  | name a, name b => Ord.compare a b
  | a, b => Ord.compare a.rank b.rank

end Component

/-- The components that a part between slashes stands for, where a dot stands for none. -/
def ofPart (part : List Char) : List Component :=
  if part = [] ∨ part = ['.'] then []
  else if part = ['.', '.'] then [.up]
  else [.name (String.ofList part)]

/-- The components of a path. A dot counts only at the start of a path that does not begin at
the root. -/
def components (p : FilePath) : List Component :=
  let cs := p.text.toList
  let parts := (Text.splitOn '/' cs).flatMap ofPart
  match cs with
  | '/' :: _ => .root :: parts
  | '.' :: '/' :: _ | ['.'] => .here :: parts
  | _ => parts

def compareLists : List Component → List Component → Ordering
  | [], [] => .eq
  | [], _ :: _ => .lt
  | _ :: _, [] => .gt
  | a :: as, b :: bs => (a.compare b).then (compareLists as bs)

def compare (p q : FilePath) : Ordering :=
  compareLists p.components q.components

def le (p q : FilePath) : Bool :=
  (p.compare q).isLE

def isAbsolute (p : FilePath) : Bool :=
  p.text.toList.head? == some '/'

def fileName? (p : FilePath) : Option String :=
  match p.components.getLast? with
  | some (.name s) => some s
  | _ => none

/-- What stands before and behind the last dot of a name. A dot in front divides nothing. -/
def divide (name : String) : String × Option String :=
  let cs := name.toList
  match Text.cutAt '.' cs.reverse with
  | some (after, before) =>
    if before = [] then (name, none)
    else (String.ofList before.reverse, some (String.ofList after.reverse))
  | none => (name, none)

/-- The name at the end of a path without its extension. -/
def fileStem? (p : FilePath) : Option String :=
  p.fileName?.map fun n => (divide n).1

/-- The extension of the name at the end of a path. -/
def extension? (p : FilePath) : Option String :=
  p.fileName?.bind fun n => (divide n).2

def join (dir p : FilePath) : FilePath :=
  if p.isAbsolute || dir.text.isEmpty then p
  else if dir.text.toList.getLast? = some '/' then ⟨dir.text ++ p.text⟩
  else ⟨dir.text ++ "/" ++ p.text⟩

/-- Whether a part between slashes, with those before it, stands for a component. -/
def counts (absolute : Bool) (before : List (List Char)) (part : List Char) : Bool :=
  part ≠ [] && (part ≠ ['.'] || (before.isEmpty && !absolute))

/-- Parts, last first, up to the last that stands for a component. -/
def trimParts (absolute : Bool) : List (List Char) → List (List Char)
  | [] => []
  | p :: r => if counts absolute r p then p :: r else trimParts absolute r

/-- The parts of the paths above some parts, last first, nearest path first. -/
def partsAbove (absolute : Bool) : List (List Char) → List (List (List Char))
  | [] => []
  | p :: r =>
    if counts absolute r p then trimParts absolute r :: partsAbove absolute r
    else partsAbove absolute r

def ofParts (absolute : Bool) (parts : List (List Char)) : FilePath :=
  ⟨(if absolute then "/" else "") ++ Text.joinWith "/" (parts.reverse.map String.ofList)⟩

/-- The paths that are left when components are taken away from the end, one by one. -/
def ancestors (p : FilePath) : List FilePath :=
  let (absolute, body) := match p.text.toList with
    | '/' :: r => (true, r)
    | cs => (false, cs)
  (partsAbove absolute (Text.splitOn '/' body).reverse).map (ofParts absolute)

/-- The path without its last component. -/
def parent? (p : FilePath) : Option FilePath :=
  p.ancestors.head?

def ofComponents (cs : List Component) : FilePath :=
  match cs with
  | .root :: r => ⟨"/" ++ Text.joinWith "/" (r.map Component.text)⟩
  | r => ⟨Text.joinWith "/" (r.map Component.text)⟩

/-- The way from the end of one list of components to the end of another. -/
def wayBetween : List Component → List Component → List Component
  | b :: bs, a :: as =>
    if a = b then wayBetween bs as else List.replicate (bs.length + 1) .up ++ a :: as
  | bs, as => List.replicate bs.length .up ++ as

/-- An absolute path as it is seen from a directory, if that takes fewer components. -/
def shortestFrom (dir p : FilePath) : FilePath :=
  let way := wayBetween dir.components p.components
  if way.length < p.components.length then ofComponents way else p

end FilePath

end Roster
