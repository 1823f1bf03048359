import Roster.Document.Error
import Roster.Text.Blank
import Roster.Text.Lines
import Roster.Text.Slice

/-! # Front matter blocks

A front matter block stands between two delimiter lines. A delimiter line is
three hyphens with nothing but blank characters behind them. Only blank lines
may come before the first, and the next one ends the block. The block and what
follows it are slices of the text.
-/
namespace Roster

/-- A text divided at its front matter block. -/
structure Block where
  /-- The number of the opening delimiter line. -/
  opening : Nat
  /-- The lines between the delimiter lines. -/
  yaml : List Char
  /-- What follows the closing delimiter line. -/
  rest : List Char
  deriving DecidableEq, Repr

namespace Block

/-- The mark at the start of a text that only says how it is encoded. -/
def byteOrderMark : Char := '\ufeff'

/-- The text without a byte order mark in front. -/
def withoutMark : List Char → List Char
  | [] => []
  | c :: r => if c = byteOrderMark then r else c :: r

/-- The three hyphens of a delimiter line. -/
def delimiter : List Char := ['-', '-', '-']

def isDelimiter (line : List Char) : Bool :=
  Text.trimEnd line == delimiter

/-- The places at which a text is cut, with the number of the line that opens its block. -/
structure Places where
  opening : Nat
  /-- Where the opening delimiter line ends. -/
  yaml : Nat
  /-- Where the closing delimiter line begins. -/
  closing : Nat
  /-- Where the closing delimiter line ends. -/
  rest : Nat
  deriving DecidableEq, Repr

/-- The first line that is not blank, with its number, the place where it begins and the lines
behind it. The first line of all is the `number`-th and begins at `place`. -/
def firstLine (number place : Nat) :
    List (List Char) → Option (Nat × Nat × List Char × List (List Char))
  | [] => none
  | l :: after =>
    if Text.isAllBlank l then firstLine (number + 1) (place + Text.byteSize l) after
    else some (number, place, l, after)

/-- The places where the first delimiter line begins and ends. The first line of all begins at
`place`. -/
def closingLine (place : Nat) : List (List Char) → Option (Nat × Nat)
  | [] => none
  | l :: after =>
    if isDelimiter l then some (place, place + Text.byteSize l)
    else closingLine (place + Text.byteSize l) after

/-- Where a text without a byte order mark is cut. -/
def locate (s : List Char) : Except DocumentError Places :=
  match firstLine 1 0 (Text.lines s) with
  | none => .error .missingFrontMatter
  | some (number, place, line, after) =>
    if isDelimiter line then
      let yaml := place + Text.byteSize line
      match closingLine yaml after with
      | none => .error (.unterminated number)
      | some (closing, rest) => .ok ⟨number, yaml, closing, rest⟩
    else .error .missingFrontMatter

/-- The parts of a text that is cut at these places. -/
def cut (s : List Char) (p : Places) : Block :=
  ⟨p.opening, (Text.slice? p.yaml p.closing s).getD [],
    (Text.slice? p.rest (Text.byteSize s) s).getD []⟩

def split (text : List Char) : Except DocumentError Block :=
  (locate (withoutMark text)).map (cut (withoutMark text))

/-- Carriage return and line feed. -/
def isLineEnd (c : Char) : Bool :=
  c == '\r' || c == '\n'

/-- The text without the carriage returns and line feeds in front. -/
def dropLineEnds (s : List Char) : List Char :=
  s.dropWhile isLineEnd

theorem dropLineEnds_of_isLineEnd {c : Char} (hc : isLineEnd c = true) (r : List Char) :
    dropLineEnds (c :: r) = dropLineEnds r :=
  List.dropWhile_cons_of_pos hc

theorem dropLineEnds_of_other {c : Char} (hc : isLineEnd c = false) (r : List Char) :
    dropLineEnds (c :: r) = c :: r :=
  List.dropWhile_cons_of_neg (by simp [hc])

/-- What follows the block, without leading line ends. -/
def body (b : Block) : List Char :=
  dropLineEnds b.rest

end Block

end Roster
