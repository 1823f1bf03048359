/-! # Places in a text

A mark counts characters, line breaks, and characters since the last line break,
all from zero. A cursor is a mark together with the text that follows it.
-/
namespace Roster.Yaml

/-- A place in a text. -/
structure Mark where
  index : Nat
  line : Nat
  column : Nat
  deriving DecidableEq, Inhabited

/-- Line feed, carriage return, next line, line separator and paragraph separator. -/
def isBreak (c : Char) : Bool :=
  c == '\n' || c == '\r' || c == '\u0085' || c == '\u2028' || c == '\u2029'

def isSpaceOrTab (c : Char) : Bool :=
  c == ' ' || c == '\t'

/-- A place in a text and the text that follows it. -/
structure Cursor where
  rest : List Char
  mark : Mark
  deriving Inhabited

namespace Cursor

def start (s : List Char) : Cursor :=
  ⟨s, ⟨0, 0, 0⟩⟩

def peek? (c : Cursor) (n : Nat) : Option Char :=
  c.rest[n]?

def sees (c : Cursor) (x : Char) : Bool :=
  c.rest.head? == some x

/-- Whether the character `n` places on satisfies `p`. -/
def looks (c : Cursor) (n : Nat) (p : Char → Bool) : Bool :=
  (c.peek? n).any p

def atEnd (c : Cursor) : Bool :=
  c.rest.isEmpty

/-- Whether a space, a tab, a line break or the end of the text is `n` places on. -/
def blankOrEnd (c : Cursor) (n : Nat) : Bool :=
  (c.peek? n).all fun x => isSpaceOrTab x || isBreak x

/-- Whether a line break or the end of the text is next. -/
def breakOrEnd (c : Cursor) : Bool :=
  (c.peek? 0).all isBreak

/-- The cursor after `n` characters of the same line. -/
def skip (c : Cursor) (n : Nat) : Cursor :=
  ⟨c.rest.drop n, { c.mark with index := c.mark.index + n, column := c.mark.column + n }⟩

/-- The characters of the same line up to the first that does not satisfy `p`. -/
def span (c : Cursor) (p : Char → Bool) : List Char × Cursor :=
  let run := c.rest.takeWhile p
  (run, c.skip run.length)

def skipWhile (c : Cursor) (p : Char → Bool) : Cursor :=
  (c.span p).2

/-- The cursor after a line break, and the character the break stands for: a line feed, or the
line or paragraph separator itself. -/
def readBreak? (c : Cursor) : Option (Char × Cursor) :=
  let after (n : Nat) (rest : List Char) : Cursor :=
    ⟨rest, ⟨c.mark.index + n, c.mark.line + 1, 0⟩⟩
  match c.rest with
  | '\r' :: '\n' :: r => some ('\n', after 2 r)
  | x :: r =>
    if x = '\u2028' ∨ x = '\u2029' then some (x, after 1 r)
    else if isBreak x then some ('\n', after 1 r)
    else none
  | [] => none

/-- The cursor after a line break, if one is next. -/
def skipBreak (c : Cursor) : Cursor :=
  match c.readBreak? with
  | some (_, d) => d
  | none => c

/-- Whether a line of three hyphens or three dots starts here. -/
def atDocumentLine (c : Cursor) : Bool :=
  c.mark.column == 0 && c.blankOrEnd 3 &&
    (c.rest.take 3 == ['-', '-', '-'] || c.rest.take 3 == ['.', '.', '.'])

end Cursor

end Roster.Yaml
