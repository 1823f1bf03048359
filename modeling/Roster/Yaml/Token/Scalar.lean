import Roster.Yaml.Token

/-! # Reading scalars

Scalars span lines. Between two lines of a plain or quoted scalar a single line
break becomes a space, and of several breaks the first is dropped; white space
around the breaks is dropped as well. A block scalar keeps its lines, or folds
them in the same way.
-/
namespace Roster.Yaml

/-- The white space and the line breaks between two words of a scalar. -/
structure Gap where
  /-- The white space, as long as no line break was seen. -/
  spaces : List Char
  /-- Whether the gap goes over the end of a line. -/
  broken : Bool
  /-- The first line break. -/
  first : List Char
  /-- The line breaks after the first. -/
  more : List Char

namespace Gap

def empty : Gap := ⟨[], false, [], []⟩

/-- The gap after an escaped line break. -/
def escaped : Gap := ⟨[], true, [], []⟩

/-- Line breaks as they count in folded text. -/
def fold (first more : List Char) : List Char :=
  if first = ['\n'] then (if more = [] then [' '] else more) else first ++ more

def text (g : Gap) : List Char :=
  if g.broken then fold g.first g.more else g.spaces

end Gap

/-- Reads white space and line breaks. A tab before the column `limit` of a later line is a
fault, whose place is the error. -/
def readGap (limit : Nat) : Nat → Gap → Cursor → Except Mark (Gap × Cursor)
  | 0, g, c => .ok (g, c)
  | fuel + 1, g, c =>
    match c.rest with
    | [] => .ok (g, c)
    | x :: _ =>
      if isSpaceOrTab x then
        if g.broken then
          if x = '\t' ∧ c.mark.column < limit then .error c.mark
          else readGap limit fuel g (c.skip 1)
        else readGap limit fuel { g with spaces := g.spaces ++ [x] } (c.skip 1)
      else
        match c.readBreak? with
        | none => .ok (g, c)
        | some (b, d) =>
          if g.broken then readGap limit fuel { g with more := g.more ++ [b] } d
          else readGap limit fuel ⟨[], true, [b], []⟩ d

/-- A fault during the reading of a scalar that starts at `start`. -/
def scalarFault (a : Activity) (start : Mark) (cause : Cause) (at_ : Mark) : Malformed :=
  ⟨cause, at_, some (a, start)⟩

/-- The characters that end a plain scalar inside brackets or braces. -/
def isFlowEnd (c : Char) : Bool :=
  c == ',' || c == '[' || c == ']' || c == '{' || c == '}'

/-- The next word of a plain scalar: up to white space, a colon before white space and, inside
brackets or braces, up to one of their characters. -/
def plainWord (flow : Bool) : List Char → Except Nat (List Char)
  | [] => .ok []
  | x :: r =>
    if isSpaceOrTab x || isBreak x then .ok []
    else if flow && x == ':' && (r.head?.any fun y => isFlowEnd y || y == '?') then .error 0
    else if x == ':' && (r.head?.all fun y => isSpaceOrTab y || isBreak y) then .ok []
    else if flow && isFlowEnd x then .ok []
    else match plainWord flow r with
      | .ok w => .ok (x :: w)
      | .error n => .error (n + 1)

/-- Reads a plain scalar on from the text `acc` and the gap after it. The result holds the text,
the place where it ends, and whether the scalar was ended by a new line. -/
def readPlain (flow : Bool) (indent : Nat) (start : Mark) :
    Nat → List Char → Gap → Mark → Cursor → Except Malformed (List Char × Mark × Bool × Cursor)
  | 0, acc, g, stop, c => .ok (acc, stop, g.broken, c)
  | fuel + 1, acc, g, stop, c =>
    if c.atDocumentLine || c.sees '#' then .ok (acc, stop, g.broken, c)
    else
      match plainWord flow c.rest with
      | .error n => .error (scalarFault .plainScalar start .flowColon (c.skip n).mark)
      | .ok word =>
        let d := c.skip word.length
        let (acc, g, stop) :=
          if word = [] then (acc, g, stop) else (acc ++ g.text ++ word, Gap.empty, d.mark)
        if d.rest = [] || !d.blankOrEnd 0 then .ok (acc, stop, g.broken, d)
        else
          match readGap indent (d.rest.length + 1) g d with
          | .error m => .error (scalarFault .plainScalar start .tabIndentation m)
          | .ok (g, e) =>
            if !flow && e.mark.column < indent then .ok (acc, stop, g.broken, e)
            else readPlain flow indent start fuel acc g stop e

def escapeOf? (c : Char) : Option Char :=
  match c with
  | '0' => some '\x00'
  | 'a' => some '\x07'
  | 'b' => some '\x08'
  | 't' => some '\t'
  | '\t' => some '\t'
  | 'n' => some '\n'
  | 'v' => some '\x0b'
  | 'f' => some '\x0c'
  | 'r' => some '\r'
  | 'e' => some '\x1b'
  | ' ' => some ' '
  | '"' => some '"'
  | '/' => some '/'
  | '\\' => some '\\'
  | 'N' => some '\u0085'
  | '_' => some '\u00a0'
  | 'L' => some '\u2028'
  | 'P' => some '\u2029'
  | _ => none

/-- The number of digits of an escape by code point. -/
def escapeWidth? (c : Char) : Option Nat :=
  match c with
  | 'x' => some 2
  | 'u' => some 4
  | 'U' => some 8
  | _ => none

def hexDigit? (c : Char) : Option Nat :=
  if '0' ≤ c ∧ c ≤ '9' then some (c.toNat - 48)
  else if 'a' ≤ c ∧ c ≤ 'f' then some (c.toNat - 87)
  else if 'A' ≤ c ∧ c ≤ 'F' then some (c.toNat - 55)
  else none

/-- The value of the first `n` characters as hexadecimal digits. -/
def hexDigits? (acc : Nat) : Nat → List Char → Option Nat
  | 0, _ => some acc
  | _ + 1, [] => none
  | n + 1, c :: r => (hexDigit? c).bind fun v => hexDigits? (acc * 16 + v) n r

/-- Puts a character in front of a word that was read. -/
def consWord (x : Char) : List Char × Gap × Cursor → List Char × Gap × Cursor
  | (w, g, c) => (x :: w, g, c)

/-- Reads the next word of a quoted scalar: up to white space, the closing quote or an escaped
line break, after which the gap that follows is already broken. -/
def readQuotedWord (single : Bool) (start : Mark) :
    Nat → Cursor → Except Malformed (List Char × Gap × Cursor)
  | 0, c => .ok ([], Gap.empty, c)
  | fuel + 1, c =>
    if c.blankOrEnd 0 then .ok ([], Gap.empty, c)
    else
      match c.rest with
      | [] => .ok ([], Gap.empty, c)
      | x :: r =>
        let next (y : Char) (n : Nat) :=
          (readQuotedWord single start fuel (c.skip n)).map (consWord y)
        if single then
          if x = '\x27' then
            if r.head? = some '\x27' then next '\x27' 2 else .ok ([], Gap.empty, c)
          else next x 1
        else if x = '"' then .ok ([], Gap.empty, c)
        else if x = '\\' then
          match r with
          | [] => .error (scalarFault .quotedEscape start .unknownEscape c.mark)
          | y :: digits =>
            if isBreak y then .ok ([], Gap.escaped, (c.skip 1).skipBreak)
            else
              match escapeOf? y, escapeWidth? y with
              | some z, _ => next z 2
              | none, none => .error (scalarFault .quotedEscape start .unknownEscape c.mark)
              | none, some n =>
                match hexDigits? 0 n digits with
                | none => .error (scalarFault .quotedEscape start .badHexDigit (c.skip 2).mark)
                | some v =>
                  if (0xD800 ≤ v ∧ v ≤ 0xDFFF) ∨ 0x10FFFF < v then
                    .error (scalarFault .quotedEscape start .badCodePoint (c.skip 2).mark)
                  else next (Char.ofNat v) (2 + n)
        else next x 1

/-- Reads a quoted scalar on from the text `acc`, up to the closing quote. -/
def readQuoted (single : Bool) (start : Mark) :
    Nat → List Char → Cursor → Except Malformed (List Char × Cursor)
  | 0, acc, c => .ok (acc, c)
  | fuel + 1, acc, c =>
    if c.atDocumentLine then
      .error (scalarFault .quotedScalar start .documentLineInQuote c.mark)
    else if c.atEnd then .error (scalarFault .quotedScalar start .unclosedQuote c.mark)
    else
      match readQuotedWord single start (c.rest.length + 1) c with
      | .error e => .error e
      | .ok (word, g, d) =>
        let acc := acc ++ word
        if d.sees (if single then '\x27' else '"') then .ok (acc, d.skip 1)
        else
          match readGap 0 (d.rest.length + 1) g d with
          | .error m => .error (scalarFault .quotedScalar start .tabIndentation m)
          | .ok (g, e) => readQuoted single start fuel (acc ++ g.text) e

/-- Which line breaks at the end of a block scalar belong to it. -/
inductive Chomping where
  | strip | clip | keep
  deriving DecidableEq

/-- The indicators after the start of a block scalar: chomping and indentation in either order. -/
def readBlockHeader (start : Mark) (c : Cursor) :
    Except Malformed (Chomping × Nat × Cursor) :=
  let chomping? (c : Cursor) : Option (Chomping × Cursor) :=
    if c.sees '+' then some (.keep, c.skip 1)
    else if c.sees '-' then some (.strip, c.skip 1)
    else none
  let increment (c : Cursor) : Except Malformed (Nat × Cursor) :=
    match c.rest with
    | x :: _ =>
      if x = '0' then .error (scalarFault .blockScalar start .indentationZero c.mark)
      else if x.isDigit then .ok (x.toNat - 48, c.skip 1)
      else .ok (0, c)
    | [] => .ok (0, c)
  match chomping? c with
  | some (k, d) => (increment d).map fun (n, e) => (k, n, e)
  | none =>
    match increment c with
    | .error e => .error e
    | .ok (0, d) => .ok (.clip, 0, d)
    | .ok (n, d) =>
      match chomping? d with
      | some (k, e) => .ok (k, n, e)
      | none => .ok (.clip, n, d)

/-- Skips indentation and empty lines of a block scalar. Without a known indentation (`none`) the
deepest one seen is found as well. The result holds the line breaks and the place after the last. -/
def readEmptyLines (start : Mark) (indent : Option Nat) :
    Nat → List Char → Nat → Mark → Cursor → Except Malformed (List Char × Nat × Mark × Cursor)
  | 0, breaks, deepest, stop, c => .ok (breaks, deepest, stop, c)
  | fuel + 1, breaks, deepest, stop, c =>
    let room := match indent with
      | some n => n - c.mark.column
      | none => c.rest.length
    let d := c.skip ((c.rest.take room).takeWhile (· == ' ')).length
    let deepest := max deepest d.mark.column
    let inside := match indent with
      | some n => decide (d.mark.column < n)
      | none => true
    if inside && d.sees '\t' then .error (scalarFault .blockScalar start .tabInBlock d.mark)
    else
      match d.readBreak? with
      | none => .ok (breaks, deepest, stop, d)
      | some (b, e) => readEmptyLines start indent fuel (breaks ++ [b]) deepest e.mark e

/-- Reads the lines of a block scalar. `lead` is the line break before the line, `breaks` those
after it, and `wasBlank` tells whether the line before began with white space. -/
def readBlockLines (literal : Bool) (start : Mark) (indent : Nat) :
    Nat → List Char → List Char → List Char → Bool → Mark → Cursor →
      Except Malformed (List Char × List Char × List Char × Mark × Cursor)
  | 0, acc, lead, breaks, _, stop, c => .ok (acc, lead, breaks, stop, c)
  | fuel + 1, acc, lead, breaks, wasBlank, stop, c =>
    if c.mark.column != indent || c.atEnd then .ok (acc, lead, breaks, stop, c)
    else
      let blank := c.looks 0 isSpaceOrTab
      let joined :=
        if !literal && lead == ['\n'] && !wasBlank && !blank then
          (if breaks = [] then [' '] else breaks)
        else lead ++ breaks
      let (line, d) := c.span fun x => !isBreak x
      let (lead, e) := match d.readBreak? with
        | some (b, e) => ([b], e)
        | none => ([], d)
      match readEmptyLines start (some indent) (e.rest.length + 1) [] 0 e.mark e with
      | .error f => .error f
      | .ok (breaks, _, stop, f) =>
        readBlockLines literal start indent fuel (acc ++ joined ++ line) lead breaks blank stop f

/-- Reads a block scalar inside a collection indented by `parent`. -/
def readBlock (literal : Bool) (parent : Int) (c : Cursor) :
    Except Malformed (List Char × Mark × Cursor) := do
  let start := c.mark
  let (chomping, increment, d) ← readBlockHeader start (c.skip 1)
  let d := d.skipWhile isSpaceOrTab
  let d := if d.sees '#' then d.skipWhile fun x => !isBreak x else d
  if !d.breakOrEnd then .error (scalarFault .blockScalar start .notLineEnd d.mark)
  else
    let d := d.skipBreak
    let known : Option Nat :=
      if increment = 0 then none else some ((max parent 0).toNat + increment)
    let (breaks, deepest, stop, e) ←
      readEmptyLines start known (d.rest.length + 1) [] 0 d.mark d
    let indent := known.getD (max (max deepest (parent + 1).toNat) 1)
    let (text, lead, breaks, stop, f) ←
      readBlockLines literal start indent (e.rest.length + 1) [] [] breaks false stop e
    let tail := match chomping with
      | .strip => []
      | .clip => lead
      | .keep => lead ++ breaks
    .ok (text ++ tail, stop, f)

end Roster.Yaml
