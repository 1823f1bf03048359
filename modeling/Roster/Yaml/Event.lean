import Roster.Yaml.Token.Stream

/-! # Events

The structure of a YAML text as a sequence of events: scalars, aliases, and the
starts and ends of sequences, mappings and documents. A node that is left out
where the grammar has one is an empty plain scalar.
-/
namespace Roster.Yaml

/-- A scalar with its style and its resolved tag. -/
structure Scalar where
  tag : Option (List Char)
  text : List Char
  style : ScalarStyle
  deriving DecidableEq

inductive EventKind where
  | streamStart | streamEnd | documentStart | documentEnd
  | aliasOf (name : List Char)
  | scalar (anchor : Option (List Char)) (s : Scalar)
  | sequenceStart (anchor tag : Option (List Char))
  | sequenceEnd
  | mappingStart (anchor tag : Option (List Char))
  | mappingEnd
  deriving DecidableEq

/-- An event and the place where it starts. -/
structure Event where
  kind : EventKind
  mark : Mark
  deriving DecidableEq

/-- What the grammar expects next. -/
inductive Expect where
  | streamStart | implicitDocumentStart | documentStart | documentContent | documentEnd
  | blockSequenceFirst | blockSequenceEntry | indentlessEntry
  | blockMappingFirst | blockMappingKey | blockMappingValue
  | flowSequenceFirst | flowSequenceEntry | flowPairKey | flowPairValue | flowPairEnd
  | flowMappingFirst | flowMappingKey | flowMappingValue | flowMappingEmptyValue
  | blockNode | finished
  deriving DecidableEq

/-- The state of the division of a token sequence into events. -/
structure Parse where
  /-- The tokens that follow. -/
  tokens : List Token
  /-- The fault after the last of them, if there is one. -/
  fault : Option Malformed
  expect : Expect
  /-- What is expected after the nodes that are open, innermost first. -/
  stack : List Expect
  /-- Where the open collections start, innermost first. -/
  marks : List Mark
  /-- The tag handles of the document and what they stand for. -/
  handles : List (List Char × List Char)

namespace Parse

/-- The next token, or the fault that stands in its place. -/
def peek (p : Parse) : Except Malformed Token :=
  match p.tokens with
  | t :: _ => .ok t
  | [] => .error (p.fault.getD ⟨.noToken, default, none⟩)

def drop (p : Parse) : Parse :=
  { p with tokens := p.tokens.tail }

/-- Goes on with what is expected after the current node. -/
def pop (p : Parse) : Parse :=
  match p.stack with
  | e :: r => { p with expect := e, stack := r }
  | [] => { p with expect := .finished }

def push (p : Parse) (e : Expect) : Parse :=
  { p with stack := e :: p.stack }

/-- The empty scalar for a node that is left out. -/
def emptyScalar (m : Mark) : Event :=
  ⟨.scalar none ⟨none, [], .plain⟩, m⟩

/-- A fault inside the innermost open collection. -/
def inside (p : Parse) (a : Activity) (cause : Cause) (at_ : Mark) : Malformed :=
  ⟨cause, at_, some (a, p.marks.headD default)⟩

/-- Enters a collection at its first token. -/
def enter (p : Parse) : Except Malformed Parse :=
  p.peek.map fun t => { p.drop with marks := t.start :: p.marks }

def leave (p : Parse) (k : EventKind) (t : Token) : Event × Parse :=
  (⟨k, t.start⟩, { p.pop.drop with marks := p.marks.tail })

def resolveTag (p : Parse) (start mark : Mark) (handle suffix : List Char) :
    Except Malformed (List Char) :=
  if handle = [] then .ok suffix
  else match p.handles.find? fun h => h.1 == handle with
    | some h => .ok (h.2 ++ suffix)
    | none => .error ⟨.tagHandle, mark, some (.node, start)⟩

/-- The anchor and the tag in front of a node, in either order, with the tag's place. -/
def properties (p : Parse) :
    Except Malformed (Option (List Char) × Option (List Char × List Char × Mark) × Parse) := do
  let t ← p.peek
  match t.kind with
  | .anchor a =>
    let p := p.drop
    let u ← p.peek
    match u.kind with
    | .tag h s => pure (some a, some (h, s, u.start), p.drop)
    | _ => pure (some a, none, p)
  | .tag h s =>
    let p := p.drop
    let u ← p.peek
    match u.kind with
    | .anchor a => pure (some a, some (h, s, t.start), p.drop)
    | _ => pure (none, some (h, s, t.start), p)
  | _ => pure (none, none, p)

/-- A node. In the block context it may be a block collection, after a key also a sequence that
is not indented. -/
def node (p : Parse) (block indentless : Bool) : Except Malformed (Event × Parse) := do
  let first ← p.peek
  match first.kind with
  | .aliasName n => pure (⟨.aliasOf n, first.start⟩, p.pop.drop)
  | _ =>
    let start := first.start
    let (anchor, tag?, p) ← p.properties
    let tag ← match tag? with
      | none => pure none
      | some (h, s, m) => some <$> p.resolveTag start m h s
    let t ← p.peek
    match t.kind, block, indentless with
    | .blockEntry, _, true =>
      pure (⟨.sequenceStart anchor tag, start⟩, { p with expect := .indentlessEntry })
    | .scalar text style, _, _ =>
      let tag := if tag = some ['!'] then none else tag
      pure (⟨.scalar anchor ⟨tag, text, style⟩, start⟩, p.pop.drop)
    | .flowSequenceStart, _, _ =>
      pure (⟨.sequenceStart anchor tag, start⟩, { p with expect := .flowSequenceFirst })
    | .flowMappingStart, _, _ =>
      pure (⟨.mappingStart anchor tag, start⟩, { p with expect := .flowMappingFirst })
    | .blockSequenceStart, true, _ =>
      pure (⟨.sequenceStart anchor tag, start⟩, { p with expect := .blockSequenceFirst })
    | .blockMappingStart, true, _ =>
      pure (⟨.mappingStart anchor tag, start⟩, { p with expect := .blockMappingFirst })
    | _, _, _ =>
      if anchor.isSome || tag.isSome then
        pure (⟨.scalar anchor ⟨tag, [], .plain⟩, start⟩, p.pop)
      else
        .error ⟨.nodeContent, t.start, some (if block then .blockNode else .flowNode, start)⟩

/-- A node that is followed by `next`, or an empty one at `m` if a token of `ends` is next. -/
def nodeOr (p : Parse) (ends : List TokenKind) (m : Mark) (next : Expect)
    (block indentless : Bool) : Except Malformed (Event × Parse) := do
  let t ← p.peek
  if ends.contains t.kind then pure (emptyScalar m, { p with expect := next })
  else (p.push next).node block indentless

def directives (version : Bool) (seen : List (List Char × List Char)) :
    Nat → Parse → Except Malformed (List (List Char × List Char) × Parse)
  | 0, p => .ok (seen, p)
  | fuel + 1, p => do
    let t ← p.peek
    match t.kind with
    | .versionDirective major minor =>
      if version then .error ⟨.versionTwice, t.start, none⟩
      else if major ≠ 1 ∨ (minor ≠ 1 ∧ minor ≠ 2) then
        .error ⟨.versionUnsupported, t.start, none⟩
      else directives true seen fuel p.drop
    | .tagDirective handle lead =>
      if seen.any fun h => h.1 == handle then .error ⟨.tagTwice, t.start, none⟩
      else directives version (seen ++ [(handle, lead)]) fuel p.drop
    | _ => pure (seen, p)

def defaultHandles : List (List Char × List Char) :=
  [(['!'], ['!']), (['!', '!'], "tag:yaml.org,2002:".toList)]

/-- Skips the lines of dots before a document. -/
def skipDocumentEnds : List Token → List Token
  | [] => []
  | t :: r => if t.kind = .documentEnd then skipDocumentEnds r else t :: r

def documentStart (p : Parse) (implicit : Bool) : Except Malformed (Event × Parse) := do
  let p := if implicit then p else { p with tokens := skipDocumentEnds p.tokens }
  let t ← p.peek
  let bare := match t.kind with
    | .versionDirective .. | .tagDirective .. | .documentStart | .streamEnd => false
    | _ => true
  if t.kind = .streamEnd then
    pure (⟨.streamEnd, t.start⟩, { p.drop with expect := .finished })
  else if implicit && bare then
    pure (⟨.documentStart, t.start⟩,
      { p.push .documentEnd with expect := .blockNode, handles := defaultHandles })
  else
    let (seen, p) ← directives false [] (p.tokens.length + 1) p
    let u ← p.peek
    if u.kind ≠ .documentStart then .error ⟨.documentStart, u.start, none⟩
    else
      let handles := seen ++ defaultHandles
      pure (⟨.documentStart, t.start⟩,
        { (p.push .documentEnd).drop with expect := .documentContent, handles })

def documentContent (p : Parse) : Except Malformed (Event × Parse) := do
  let t ← p.peek
  match t.kind with
  | .versionDirective .. | .tagDirective .. | .documentStart | .documentEnd | .streamEnd =>
    pure (emptyScalar t.start, p.pop)
  | _ => p.node true false

def documentEnd (p : Parse) : Except Malformed (Event × Parse) := do
  let t ← p.peek
  let q := if t.kind = .documentEnd then p.drop else p
  pure (⟨.documentEnd, t.start⟩, { q with expect := .documentStart, handles := [] })

def blockSequenceEntry (p : Parse) : Except Malformed (Event × Parse) := do
  let t ← p.peek
  match t.kind with
  | .blockEntry => p.drop.nodeOr [.blockEntry, .blockEnd] t.stop .blockSequenceEntry true false
  | .blockEnd => pure (p.leave .sequenceEnd t)
  | _ => .error (p.inside .blockCollection .blockEntry t.start)

def indentlessEntry (p : Parse) : Except Malformed (Event × Parse) := do
  let t ← p.peek
  if t.kind = .blockEntry then
    p.drop.nodeOr [.blockEntry, .key, .value, .blockEnd] t.stop .indentlessEntry true false
  else pure (⟨.sequenceEnd, t.start⟩, p.pop)

def blockMappingKey (p : Parse) : Except Malformed (Event × Parse) := do
  let t ← p.peek
  match t.kind with
  | .key => p.drop.nodeOr [.key, .value, .blockEnd] t.stop .blockMappingValue true true
  | .blockEnd => pure (p.leave .mappingEnd t)
  | _ => .error (p.inside .blockMapping .mappingKey t.start)

def blockMappingValue (p : Parse) : Except Malformed (Event × Parse) := do
  let t ← p.peek
  if t.kind = .value then
    p.drop.nodeOr [.key, .value, .blockEnd] t.stop .blockMappingKey true true
  else pure (emptyScalar t.start, { p with expect := .blockMappingKey })

/-- The comma between the entries of a flow collection, which only the first goes without. -/
def separator (p : Parse) (first : Bool) (stop : TokenKind) (a : Activity) (cause : Cause) :
    Except Malformed Parse := do
  let t ← p.peek
  if first || t.kind = stop then pure p
  else if t.kind = .flowEntry then pure p.drop
  else .error (p.inside a cause t.start)

def flowSequenceEntry (p : Parse) (first : Bool) : Except Malformed (Event × Parse) := do
  let p ← p.separator first .flowSequenceEnd .flowSequence .flowSequenceEnd
  let t ← p.peek
  match t.kind with
  | .key => pure (⟨.mappingStart none none, t.start⟩, { p.drop with expect := .flowPairKey })
  | .flowSequenceEnd => pure (p.leave .sequenceEnd t)
  | _ => (p.push .flowSequenceEntry).node false false

def flowPairKey (p : Parse) : Except Malformed (Event × Parse) := do
  let t ← p.peek
  match t.kind with
  | .value | .flowEntry | .flowSequenceEnd =>
    pure (emptyScalar t.stop, { p.drop with expect := .flowPairValue })
  | _ => (p.push .flowPairValue).node false false

def flowPairValue (p : Parse) : Except Malformed (Event × Parse) := do
  let t ← p.peek
  if t.kind = .value then
    let u ← p.drop.peek
    p.drop.nodeOr [.flowEntry, .flowSequenceEnd] u.start .flowPairEnd false false
  else pure (emptyScalar t.start, { p with expect := .flowPairEnd })

def flowMappingKey (p : Parse) (first : Bool) : Except Malformed (Event × Parse) := do
  let p ← p.separator first .flowMappingEnd .flowMapping .flowMappingEnd
  let t ← p.peek
  match t.kind with
  | .key =>
    let u ← p.drop.peek
    p.drop.nodeOr [.value, .flowEntry, .flowMappingEnd] u.start .flowMappingValue false false
  | .flowMappingEnd => pure (p.leave .mappingEnd t)
  | _ => (p.push .flowMappingEmptyValue).node false false

def flowMappingValue (p : Parse) : Except Malformed (Event × Parse) := do
  let t ← p.peek
  if t.kind = .value then
    let u ← p.drop.peek
    p.drop.nodeOr [.flowEntry, .flowMappingEnd] u.start .flowMappingKey false false
  else pure (emptyScalar t.start, { p with expect := .flowMappingKey })

def step (p : Parse) : Except Malformed (Event × Parse) :=
  match p.expect with
  | .streamStart =>
    p.peek.map fun t => (⟨.streamStart, t.start⟩, { p.drop with expect := .implicitDocumentStart })
  | .implicitDocumentStart => p.documentStart true
  | .documentStart => p.documentStart false
  | .documentContent => p.documentContent
  | .documentEnd => p.documentEnd
  | .blockNode => p.node true false
  | .blockSequenceFirst => p.enter.bind blockSequenceEntry
  | .blockSequenceEntry => p.blockSequenceEntry
  | .indentlessEntry => p.indentlessEntry
  | .blockMappingFirst => p.enter.bind blockMappingKey
  | .blockMappingKey => p.blockMappingKey
  | .blockMappingValue => p.blockMappingValue
  | .flowSequenceFirst => p.enter.bind (flowSequenceEntry · true)
  | .flowSequenceEntry => p.flowSequenceEntry false
  | .flowPairKey => p.flowPairKey
  | .flowPairValue => p.flowPairValue
  | .flowPairEnd =>
    p.peek.map fun t => (⟨.mappingEnd, t.start⟩, { p with expect := .flowSequenceEntry })
  | .flowMappingFirst => p.enter.bind (flowMappingKey · true)
  | .flowMappingKey => p.flowMappingKey false
  | .flowMappingValue => p.flowMappingValue
  | .flowMappingEmptyValue =>
    p.peek.map fun t => (emptyScalar t.start, { p with expect := .flowMappingKey })
  | .finished => p.peek.map fun t => (⟨.streamEnd, t.start⟩, p)

/-- The events up to the end of the text or a fault. -/
def run : Nat → Parse → List Event × Option Malformed
  | 0, _ => ([], none)
  | fuel + 1, p =>
    if p.expect = .finished then ([], none)
    else match p.step with
      | .error e => ([], some e)
      | .ok (e, q) =>
        let (es, f) := run fuel q
        (e :: es, f)

end Parse

/-- The events of a text up to its end or to a fault. -/
def events (s : List Char) : List Event × Option Malformed :=
  let (ts, fault) := tokens s
  Parse.run (8 * ts.length + 16) ⟨ts, fault, .streamStart, [], [], []⟩

end Roster.Yaml
