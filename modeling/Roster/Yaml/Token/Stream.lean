import Roster.Yaml.Token.Name

/-! # The token stream

Tokens are held back while the oldest of them may still turn out to be a key,
for which a key token has to be put in front of it. The stream therefore ends,
at a fault, with the last token that could no longer change.
-/
namespace Roster.Yaml

/-- A place where a key without an indicator may have begun. -/
structure KeyCandidate where
  possible : Bool
  /-- Whether the text would be malformed without the key. -/
  required : Bool
  /-- The number of the token that would be the key. -/
  number : Nat
  mark : Mark

/-- The state of the division of a text into tokens. -/
structure Scan where
  cursor : Cursor
  /-- The number of tokens handed out. -/
  handed : Nat
  /-- The tokens held back. -/
  held : List Token
  /-- The indentation of the innermost block collection, `-1` outside of any. -/
  indent : Int
  /-- The indentations of the collections around it. -/
  outer : List Int
  /-- Whether a key may begin here. -/
  keyAllowed : Bool
  /-- A candidate for the block context and one for each open bracket or brace, innermost first. -/
  keys : List KeyCandidate
  ended : Bool

namespace Scan

def noKey : KeyCandidate := ⟨false, false, 0, ⟨0, 0, 0⟩⟩

/-- The state at the start of a text, with the token for it. -/
def start (s : List Char) : Scan :=
  let c := Cursor.start s
  ⟨c, 0, [⟨.streamStart, c.mark, c.mark⟩], -1, [], true, [noKey], false⟩

/-- Whether a bracket or brace is open. -/
def inFlow (s : Scan) : Bool :=
  s.keys.length > 1

def hold (s : Scan) (k : TokenKind) (start stop : Mark) : Scan :=
  { s with held := s.held ++ [⟨k, start, stop⟩] }

/-- Puts a token in front of the one with this number. -/
def insertAt (s : Scan) (number : Nat) (t : Token) : Scan :=
  let n := number - s.handed
  { s with held := s.held.take n ++ t :: s.held.drop n }

/-- Puts a key candidate in place of the innermost one. -/
def setKey (s : Scan) (k : KeyCandidate) : Scan :=
  { s with keys := k :: s.keys.tail }

def missingColon (k : KeyCandidate) (m : Mark) : Malformed :=
  scalarFault .simpleKey k.mark .noColon m

/-- Gives up the candidates that the current place rules out: a key lies on one line and is at
most 1024 characters long. -/
def dropStaleKeys (s : Scan) : Except Malformed Scan := do
  let m := s.cursor.mark
  let stale (k : KeyCandidate) : Bool :=
    k.possible && (k.mark.line < m.line || k.mark.index + 1024 < m.index)
  -- the outermost candidate is judged first
  let checked ← s.keys.reverse.mapM fun k =>
    if stale k then
      if k.required then throw (missingColon k m) else pure { k with possible := false }
    else pure k
  pure { s with keys := checked.reverse }

/-- Gives up the innermost candidate. -/
def removeKey (s : Scan) : Except Malformed Scan :=
  match s.keys with
  | k :: r =>
    if k.possible && k.required then .error (missingColon k s.cursor.mark)
    else .ok { s with keys := { k with possible := false } :: r }
  | [] => .ok s

/-- Notes that a key may begin at the current place. -/
def saveKey (s : Scan) : Except Malformed Scan :=
  if s.keyAllowed then do
    let t ← s.removeKey
    let required := !s.inFlow && s.indent == s.cursor.mark.column
    pure (t.setKey ⟨true, required, s.handed + s.held.length, s.cursor.mark⟩)
  else .ok s

/-- Opens a block collection at a column, unless one is open there; its token goes in front of
the token with the given number, or to the end. -/
def rollIndent (s : Scan) (column : Nat) (number : Option Nat) (k : TokenKind) (m : Mark) : Scan :=
  if s.inFlow || s.indent ≥ column then s
  else
    let t := { s with indent := column, outer := s.indent :: s.outer }
    match number with
    | some n => t.insertAt n ⟨k, m, m⟩
    | none => t.hold k m m

/-- Closes the block collections whose indentation is deeper than a column. -/
def unrollIndent (column : Int) (s : Scan) : Scan :=
  if s.inFlow then s else close s.outer s.indent s
where
  close : List Int → Int → Scan → Scan
    | [], indent, s => { s with indent, outer := [] }
    | o :: outer, indent, s =>
      if column < indent then
        close outer o (s.hold .blockEnd s.cursor.mark s.cursor.mark)
      else { s with indent, outer := o :: outer }

/-- Moves on to the place of the next token, over white space, comments and line breaks. -/
def toNextToken : Nat → Scan → Scan
  | 0, s => s
  | fuel + 1, s =>
    let c := s.cursor
    let c := if c.mark.index == 0 && c.sees '\ufeff' then c.skip 1 else c
    let tabs := s.inFlow || !s.keyAllowed
    let c := c.skipWhile fun x => x == ' ' || (tabs && x == '\t')
    let c := if c.sees '#' then c.skipWhile fun x => !isBreak x else c
    match c.readBreak? with
    | some (_, d) =>
      toNextToken fuel { s with cursor := d, keyAllowed := s.keyAllowed || !s.inFlow }
    | none => { s with cursor := c }

/-- Holds a token of the next `n` characters. -/
def take (s : Scan) (k : TokenKind) (n : Nat) : Scan :=
  let d := s.cursor.skip n
  { s.hold k s.cursor.mark d.mark with cursor := d }

/-- The end of the text, which closes all collections. -/
def fetchEnd (s : Scan) : Except Malformed Scan := do
  let m := s.cursor.mark
  let m := if m.column = 0 then m else { m with line := m.line + 1, column := 0 }
  let s := unrollIndent (-1) { s with cursor := { s.cursor with mark := m } }
  let s ← s.removeKey
  pure { s.hold .streamEnd m m with keyAllowed := false, ended := true }

/-- A line of three hyphens or dots. -/
def fetchDocumentLine (s : Scan) (k : TokenKind) : Except Malformed Scan := do
  let s ← (unrollIndent (-1) s).removeKey
  pure ({ s with keyAllowed := false }.take k 3)

def fetchDirective (s : Scan) : Except Malformed Scan := do
  let s ← (unrollIndent (-1) s).removeKey
  let (t, d) ← readDirective s.cursor
  pure { s with keyAllowed := false, cursor := d, held := s.held ++ [t] }

/-- An opening bracket or brace. -/
def fetchFlowStart (s : Scan) (k : TokenKind) : Except Malformed Scan := do
  let s ← s.saveKey
  pure ({ s with keys := noKey :: s.keys, keyAllowed := true }.take k 1)

/-- A closing bracket or brace. -/
def fetchFlowEnd (s : Scan) (k : TokenKind) : Except Malformed Scan := do
  let s ← s.removeKey
  let keys := if s.inFlow then s.keys.tail else s.keys
  pure ({ s with keys, keyAllowed := false }.take k 1)

def fetchFlowEntry (s : Scan) : Except Malformed Scan := do
  let s ← s.removeKey
  pure ({ s with keyAllowed := true }.take .flowEntry 1)

/-- Opens the collection of an indicator in the block context, where it must be allowed. -/
def openBlock (s : Scan) (k : TokenKind) (cause : Cause) : Except Malformed Scan :=
  if s.inFlow then .ok s
  else if !s.keyAllowed then .error ⟨cause, s.cursor.mark, none⟩
  else .ok (s.rollIndent s.cursor.mark.column none k s.cursor.mark)

def fetchBlockEntry (s : Scan) : Except Malformed Scan := do
  let s ← s.openBlock .blockSequenceStart .blockEntryContext
  let s ← s.removeKey
  pure ({ s with keyAllowed := true }.take .blockEntry 1)

def fetchKey (s : Scan) : Except Malformed Scan := do
  let s ← s.openBlock .blockMappingStart .keyContext
  let s ← s.removeKey
  pure ({ s with keyAllowed := !s.inFlow }.take .key 1)

/-- The colon of a value, which makes the candidate before it a key. -/
def fetchValue (s : Scan) : Except Malformed Scan := do
  let k := s.keys.headD noKey
  if k.possible then
    let s := s.insertAt k.number ⟨.key, k.mark, k.mark⟩
    let s := s.rollIndent k.mark.column (some k.number) .blockMappingStart k.mark
    pure ({ s.setKey { k with possible := false } with keyAllowed := false }.take .value 1)
  else
    let s ← s.openBlock .blockMappingStart .valueContext
    pure ({ s with keyAllowed := !s.inFlow }.take .value 1)

/-- Holds a token that ends at the given cursor. -/
def put (s : Scan) (k : TokenKind) (d : Cursor) : Scan :=
  { s.hold k s.cursor.mark d.mark with cursor := d }

def fetchAnchor (s : Scan) (a : Activity) : Except Malformed Scan := do
  let s ← s.saveKey
  let (name, d) ← readAnchor a s.cursor
  let k := if a = .anchor then TokenKind.anchor name else .aliasName name
  pure ({ s with keyAllowed := false }.put k d)

def fetchTag (s : Scan) : Except Malformed Scan := do
  let s ← s.saveKey
  let (handle, suffix, d) ← readTag s.inFlow s.cursor
  pure ({ s with keyAllowed := false }.put (.tag handle suffix) d)

def fetchBlockScalar (s : Scan) (literal : Bool) : Except Malformed Scan := do
  let s ← s.removeKey
  let (text, stop, d) ← readBlock literal s.indent s.cursor
  let style := if literal then ScalarStyle.literal else .folded
  pure { s.hold (.scalar text style) s.cursor.mark stop with cursor := d, keyAllowed := true }

def fetchQuoted (s : Scan) (single : Bool) : Except Malformed Scan := do
  let s ← s.saveKey
  let c := s.cursor
  let (text, d) ← readQuoted single c.mark (c.rest.length + 1) [] (c.skip 1)
  let style := if single then ScalarStyle.singleQuoted else .doubleQuoted
  pure ({ s with keyAllowed := false }.put (.scalar text style) d)

def fetchPlain (s : Scan) : Except Malformed Scan := do
  let s ← s.saveKey
  let c := s.cursor
  let (text, stop, broken, d) ←
    readPlain s.inFlow (s.indent + 1).toNat c.mark (c.rest.length + 1) [] Gap.empty c.mark c
  pure { s.hold (.scalar text .plain) c.mark stop with cursor := d, keyAllowed := broken }

/-- The characters that start no plain scalar. -/
def isIndicator (c : Char) : Bool :=
  c == '-' || c == '?' || c == ':' || c == ',' || c == '[' || c == ']' || c == '{' || c == '}' ||
    c == '#' || c == '&' || c == '*' || c == '!' || c == '|' || c == '>' || c == '\x27' ||
    c == '"' || c == '%' || c == '@' || c == '\x60'

def startsPlain (flow : Bool) (c : Cursor) : Bool :=
  (!c.blankOrEnd 0 && !c.looks 0 isIndicator) ||
    (c.sees '-' && !c.looks 1 isSpaceOrTab) ||
    (!flow && (c.sees '?' || c.sees ':') && !c.blankOrEnd 1)

/-- Divides off the next token and holds it, with the tokens that go before it. -/
def fetch (s : Scan) : Except Malformed Scan := do
  let s ← (toNextToken (s.cursor.rest.length + 1) s).dropStaleKeys
  let c := s.cursor
  let s := unrollIndent c.mark.column s
  let flow := s.inFlow
  match c.rest.head? with
  | none => s.fetchEnd
  | some x =>
    if c.mark.column = 0 ∧ x = '%' then s.fetchDirective
    else if c.atDocumentLine then
      s.fetchDocumentLine (if x = '-' then .documentStart else .documentEnd)
    else if x = '[' then s.fetchFlowStart .flowSequenceStart
    else if x = '{' then s.fetchFlowStart .flowMappingStart
    else if x = ']' then s.fetchFlowEnd .flowSequenceEnd
    else if x = '}' then s.fetchFlowEnd .flowMappingEnd
    else if x = ',' then s.fetchFlowEntry
    else if x = '-' && c.blankOrEnd 1 then s.fetchBlockEntry
    else if x = '?' && (flow || c.blankOrEnd 1) then s.fetchKey
    else if x = ':' && (flow || c.blankOrEnd 1) then s.fetchValue
    else if x = '*' then s.fetchAnchor .aliasName
    else if x = '&' then s.fetchAnchor .anchor
    else if x = '!' then s.fetchTag
    else if x = '|' && !flow then s.fetchBlockScalar true
    else if x = '>' && !flow then s.fetchBlockScalar false
    else if x = '\x27' then s.fetchQuoted true
    else if x = '"' then s.fetchQuoted false
    else if startsPlain flow c then s.fetchPlain
    else .error (scalarFault .nextToken c.mark .noToken c.mark)

/-- Whether the oldest token held back may still become a key. -/
def mayBecomeKey (s : Scan) : Bool :=
  s.keys.any fun k => k.possible && k.number == s.handed

/-- Hands out tokens until the end of the text or a fault. -/
def run : Nat → Scan → List Token × Option Malformed
  | 0, _ => ([], none)
  | fuel + 1, s =>
    match s.held with
    | [] =>
      if s.ended then ([], none)
      else match s.fetch with
        | .ok t => run fuel t
        | .error e => ([], some e)
    | t :: r =>
      match s.dropStaleKeys with
      | .error e => ([], some e)
      | .ok s =>
        if s.mayBecomeKey then
          match s.fetch with
          | .ok u => run fuel u
          | .error e => ([], some e)
        else
          let (ts, e) := run fuel { s with held := r, handed := s.handed + 1 }
          (t :: ts, e)

end Scan

/-- The tokens of a text up to its end or to a fault. -/
def tokens (s : List Char) : List Token × Option Malformed :=
  Scan.run (8 * s.length + 16) (Scan.start s)

end Roster.Yaml
