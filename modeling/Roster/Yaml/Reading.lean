import Roster.NameMap
import Roster.Yaml.Event
import Roster.Yaml.Plain

/-! # Reading YAML

A YAML text is read into the values of a `Target`, which says what its scalars,
sequences and mappings become. Only the first document of a text may exist. A
name that refers to a node stands for a copy of that node.

The value is read before the text behind it is looked at, so a value that the
target refuses is reported ahead of a later fault of the text.
-/
namespace Roster.Yaml

/-- A step from a value to one of its parts. -/
inductive PathStep where
  | item (n : Nat)
  | field (name : String)
  /-- The value of a key that is no scalar. -/
  | unknown
  deriving DecidableEq

/-- The way from the top value to a part, last step first. -/
abbrev Path := List PathStep

namespace Path

def text : Path → String
  | [] => "."
  | .item n :: up => text up ++ "[" ++ toString n ++ "]"
  | [.field name] => name
  | .field name :: up => text up ++ "." ++ name
  | [.unknown] => "?"
  | .unknown :: up => text up ++ ".?"

end Path

/-- Why a text has no value. -/
inductive Fault where
  /-- A character that may not occur, after this many bytes. -/
  | unreadable (offset : Nat)
  | malformed (e : Malformed)
  | unknownAnchor (mark : Mark)
  | tooDeep (mark : Mark)
  | tooManyCopies
  | secondDocument
  | noValue
  /-- A value that the target refuses. -/
  | refused (text : String) (path : Path) (mark : Mark)

namespace Fault

def mark? : Fault → Option Mark
  | unreadable _ => some ⟨0, 0, 0⟩
  | malformed e => some e.mark
  | unknownAnchor m | tooDeep m | refused _ _ m => some m
  | tooManyCopies | secondDocument | noValue => none

def message (f : Fault) : String :=
  let at_ (m : Mark) := if m.isStart then "" else " at " ++ m.text
  match f with
  | unreadable offset =>
    "control characters are not allowed" ++
      (if offset = 0 then "" else " at position " ++ toString offset)
  | malformed e => e.message
  | unknownAnchor m => "unknown anchor" ++ at_ m
  | tooDeep m => "recursion limit exceeded" ++ at_ m
  | tooManyCopies => "repetition limit exceeded"
  | secondDocument =>
    "deserializing from YAML containing more than one document is not supported"
  | noValue => "EOF while parsing a value"
  | refused text path m =>
    (if path = [] then "" else path.text ++ ": ") ++ text ++ at_ m

end Fault

/-- What the parts of a text become. -/
structure Target (α : Type) where
  /-- The value of a scalar, or why there is none. -/
  scalar : List Char → Plain → Except String α
  sequence : List α → α
  mapping : NameMap α → α
  /-- What is expected in the place of a value. -/
  expected : String
  /-- What is expected in the place of the first key of a mapping. -/
  expectedKey : String

/-- A part of a document, where a name that refers to a node has become a number. -/
inductive PieceKind where
  | copy (anchor : Nat)
  | scalar (s : Scalar)
  | sequenceStart (tag : Option (List Char))
  | sequenceEnd
  | mappingStart (tag : Option (List Char))
  | mappingEnd
  /-- The whole of a text without documents. -/
  | nothing
  deriving DecidableEq

structure Piece where
  kind : PieceKind
  mark : Mark
  deriving DecidableEq

/-- A document up to its end or its first fault. -/
structure Body where
  pieces : Array Piece
  fault : Option Fault
  /-- The anchors so far, and the number that each has. -/
  anchors : List (List Char × Nat)
  /-- The places of the anchored pieces, the latest first. -/
  places : List (Nat × Nat)
  /-- Whether another document follows. -/
  more : Bool

namespace Body

/-- Adds a piece, which may have an anchor. Its number is the number of different anchors before
it, so that an anchor that is set again can take the number of another. -/
def add (b : Body) (anchor : Option (List Char)) (k : PieceKind) (m : Mark) : Body :=
  match anchor with
  | none => { b with pieces := b.pieces.push ⟨k, m⟩ }
  | some a =>
    let n := b.anchors.length
    { b with
      pieces := b.pieces.push ⟨k, m⟩
      anchors := (a, n) :: b.anchors.filter fun e => e.1 != a
      places := (n, b.pieces.size) :: b.places }

/-- The document that a sequence of events, and the fault behind it, begin. -/
def gather (fault : Option Malformed) (b : Body) : List Event → Body
  | [] => { b with fault := fault.map .malformed }
  | e :: rest =>
    match e.kind with
    | .streamStart | .documentStart => gather fault b rest
    | .streamEnd => if b.pieces.isEmpty then b.add none .nothing e.mark else b
    | .documentEnd =>
      { b with more := rest.head?.all fun e => e.kind ≠ .streamEnd }
    | .aliasOf name =>
      match b.anchors.find? fun a => a.1 == name with
      | some (_, n) => gather fault (b.add none (.copy n) e.mark) rest
      | none => { b with fault := some (.unknownAnchor e.mark) }
    | .scalar anchor s => gather fault (b.add anchor (.scalar s) e.mark) rest
    | .sequenceStart anchor tag => gather fault (b.add anchor (.sequenceStart tag) e.mark) rest
    | .sequenceEnd => gather fault (b.add none .sequenceEnd e.mark) rest
    | .mappingStart anchor tag => gather fault (b.add anchor (.mappingStart tag) e.mark) rest
    | .mappingEnd => gather fault (b.add none .mappingEnd e.mark) rest

def ofEvents (es : List Event) (fault : Option Malformed) : Body :=
  gather fault ⟨#[], none, [], [], false⟩ es

/-- The fault that a reader meets at the end of the pieces. -/
def end_ (b : Body) : Fault :=
  b.fault.getD .noValue

def piece (b : Body) (place : Nat) : Except Fault Piece :=
  match b.pieces[place]? with
  | some p => .ok p
  | none => .error b.end_

/-- How many pieces of a document may be read anew for each of its pieces. -/
def copyLimit (b : Body) : Nat :=
  b.pieces.size * 100

/-- The place of the node that a copy at some place repeats. Each copy counts. -/
def anchored (b : Body) (anchor copies : Nat) : Except Fault (Nat × Nat) :=
  if b.copyLimit < copies + 1 then .error .tooManyCopies
  else match b.places.find? fun p => p.1 == anchor with
    | some (_, place) => .ok (place, copies + 1)
    | none => .error .noValue

end Body

/-- Where a reader stands: the place of the next piece, and the copies read so far. -/
structure Reader where
  place : Nat
  copies : Nat

namespace Reader

/-- The scalar's text by its tag: one of the tags for truth values, numbers and null has to fit
the text, any other tag and any quotes make it text. -/
def plain (s : Scalar) : Except String Plain :=
  let core (name : String) : Bool := s.tag == some ("tag:yaml.org,2002:" ++ name).toList
  let need (expected : String) : Option Plain → Except String Plain
    | some p => .ok p
    | none => .error (Found.wrongValue (.string (String.ofList s.text)) expected)
  if core "bool" then need "a boolean" ((Plain.bool? s.text).map .bool)
  else if core "int" then need "an integer" ((Plain.int? s.text).map .int)
  else if core "float" then need "a float" ((Plain.real? s.text).map .real)
  else if core "null" then need "null" (if Plain.isNull s.text then some .null else none)
  else if s.tag.isNone && s.style == .plain then .ok (Plain.ofText s.text)
  else .ok .text

def isLocal (tag : Option (List Char)) : Bool :=
  match tag with
  | some ('!' :: _) => true
  | _ => false

/-- Follows a copy to the node that it repeats. The reader goes on behind the copy. -/
def follow (b : Body) (r : Reader) : Except Fault (Piece × Nat × Reader) := do
  let p ← b.piece r.place
  match p.kind with
  | .copy anchor =>
    let (place, copies) ← b.anchored anchor r.copies
    let q ← b.piece place
    pure (q, place, { place := r.place + 1, copies })
  | _ => pure (p, r.place, { r with place := r.place + 1 })

/-- What a piece is when a value of another kind was expected. -/
def found (p : Piece) : Except String Found :=
  match p.kind with
  | .scalar s => (plain s).map (Plain.found s.text)
  | .sequenceStart _ | .sequenceEnd => .ok .sequence
  | .mappingStart _ | .mappingEnd => .ok .map
  | _ => .ok .unit

/-- The fault of a piece in whose place `expected` should stand. -/
def refuse (expected : String) (path : Path) (p : Piece) : Fault :=
  match found p with
  | .ok f => .refused (f.wrongKind expected) path p.mark
  | .error e => .refused e path p.mark

/-- Reads a key, which is the text of a scalar. -/
def key (b : Body) (expected : String) (path : Path) (r : Reader) :
    Except Fault (String × PathStep × Reader) := do
  let first ← b.piece r.place
  let (p, _, next) ← r.follow b
  match p.kind with
  | .scalar s =>
    let text := String.ofList s.text
    let step : PathStep := match first.kind with
      | .copy _ => .unknown
      | _ => .field text
    pure (text, step, next)
  | _ => .error (refuse expected path p)

variable {α : Type}

mutual

/-- Reads a value. `depth` bounds the collections inside one another. -/
def value (t : Target α) (b : Body) (depth : Nat) (path : Path) (r : Reader) :
    Except Fault (α × Reader) := do
  let (p, place, next) ← r.follow b
  let inner : Reader := { place := place + 1, copies := next.copies }
  let copied := place + 1 != next.place
  match p.kind with
  | .scalar s =>
    if isLocal s.tag then .error (.refused (Found.enumeration.wrongKind t.expected) path p.mark)
    else match (plain s).bind (t.scalar s.text) with
      | .ok v => pure (v, next)
      | .error e => .error (.refused e path p.mark)
  | .sequenceStart tag =>
    if isLocal tag then .error (.refused (Found.enumeration.wrongKind t.expected) path p.mark)
    else match depth with
      | 0 => .error (.tooDeep p.mark)
      | depth + 1 =>
        let (vs, after) ← items t b depth path 0 inner (b.pieces.size + 1)
        pure (t.sequence vs, if copied then { next with copies := after.copies } else after)
  | .mappingStart tag =>
    if isLocal tag then .error (.refused (Found.enumeration.wrongKind t.expected) path p.mark)
    else match depth with
      | 0 => .error (.tooDeep p.mark)
      | depth + 1 =>
        let (m, after) ← fields t b depth t.expectedKey path ∅ inner (b.pieces.size + 1)
        pure (t.mapping m, if copied then { next with copies := after.copies } else after)
  | _ =>
    match t.scalar [] .null with
    | .ok v => pure (v, next)
    | .error e => .error (.refused e path p.mark)
termination_by (depth, 0)

/-- Reads the items of a sequence from the `n`-th on. -/
def items (t : Target α) (b : Body) (depth : Nat) (path : Path) (n : Nat) (r : Reader)
    (fuel : Nat) : Except Fault (List α × Reader) := do
  match fuel with
  | 0 => pure ([], r)
  | fuel + 1 =>
    let p ← b.piece r.place
    match p.kind with
    | .sequenceEnd => pure ([], { r with place := r.place + 1 })
    | _ =>
      let (v, r) ← value t b depth (.item n :: path) r
      let (vs, r) ← items t b depth path (n + 1) r fuel
      pure (v :: vs, r)
termination_by (depth, fuel + 1)

/-- Reads the entries of a mapping; a later entry takes the place of an earlier one of its name. -/
def fields (t : Target α) (b : Body) (depth : Nat) (expected : String) (path : Path)
    (m : NameMap α) (r : Reader) (fuel : Nat) : Except Fault (NameMap α × Reader) := do
  match fuel with
  | 0 => pure (m, r)
  | fuel + 1 =>
    let p ← b.piece r.place
    match p.kind with
    | .mappingEnd => pure (m, { r with place := r.place + 1 })
    | _ =>
      let (k, step, r) ← key b expected path r
      let (v, r) ← value t b depth (step :: path) r
      fields t b depth "a string" path (m.insert k v) r fuel
termination_by (depth, fuel + 1)

end

end Reader

/-- How many collections may stand inside one another. -/
def depthLimit : Nat := 128

/-- Whether a character may occur in a text. -/
def isReadable (c : Char) : Bool :=
  let n := c.toNat
  n == 9 || n == 10 || n == 13 || (32 ≤ n && n ≤ 0x7e) || n == 0x85
    || (0xa0 ≤ n && n ≤ 0xd7ff) || (0xe000 ≤ n && n ≤ 0xfffd) || 0x10000 ≤ n

/-- The number of bytes before the first character that may not occur. -/
def unreadableOffset? (s : List Char) : Option Nat :=
  if s.all isReadable then none
  else some ((s.takeWhile isReadable).foldl (fun n c => n + c.utf8Size) 0)

/-- Reads the one document of a text by a function that reads its top value. -/
def readDocument {α : Type} (top : Body → Except Fault α) (s : List Char) : Except Fault α := do
  if let some offset := unreadableOffset? s then .error (.unreadable offset)
  let (es, fault) := events s
  let b := Body.ofEvents es fault
  let v ← top b
  match b.fault with
  | some f => .error f
  | none => if b.more then .error .secondDocument else pure v

/-- The value that a text writes. -/
def read {α : Type} (t : Target α) (s : List Char) : Except Fault α :=
  readDocument (fun b => (·.1) <$> Reader.value t b depthLimit [] ⟨0, 0⟩) s

/-- The mapping that a text writes. A text without a value, or with an empty one, has no entries. -/
def readMapping {α : Type} (t : Target α) (s : List Char) : Except Fault (NameMap α) :=
  readDocument (fun b => do
    let p ← b.piece 0
    match p.kind with
    | .mappingStart _ =>
      (·.1) <$> Reader.fields t b (depthLimit - 1) "a string" [] ∅ ⟨1, 0⟩ (b.pieces.size + 1)
    | .nothing => pure ∅
    | .scalar ⟨_, [], .plain⟩ => pure ∅
    | _ => .error (Reader.refuse "a map" [] p)) s

end Roster.Yaml
