import Roster.Yaml.Mark

/-! # The pen

The state of a text that is being written: what is written so far, the column of
the pen, and what stands right before it.
-/
namespace Roster.Yaml

/-- A text that is being written. -/
structure Pen where
  /-- What is written so far, last character first. -/
  written : List Char
  column : Nat
  /-- Whether the pen stands where no space is needed. -/
  spaced : Bool
  /-- Whether the line holds only indentation and the marks of items and keys. -/
  lineStart : Bool

namespace Pen

def start : Pen := ⟨[], 0, true, true⟩

def text (p : Pen) : List Char :=
  p.written.reverse

/-- Writes a character of a line. -/
def put (p : Pen) (c : Char) : Pen :=
  { p with written := c :: p.written, column := p.column + 1 }

def puts (p : Pen) (s : List Char) : Pen :=
  s.foldl put p

/-- Writes a character that ends a line. -/
def putBreak (p : Pen) (c : Char) : Pen :=
  { p with written := c :: p.written, column := 0 }

/-- Goes to the column `indent` of an empty line, which is the current one if it can be. -/
def indentTo (p : Pen) (indent : Nat) : Pen :=
  let fresh := p.lineStart && !(indent < p.column || (p.column == indent && !p.spaced))
  let p := if fresh then p else p.putBreak '\n'
  { p.puts (List.replicate (indent - p.column) ' ') with spaced := true, lineStart := true }

/-- Writes a mark, with a space before it if one is needed. `opens` says that more marks of items
and keys may follow on the line. -/
def mark (p : Pen) (s : List Char) (needsSpace spaced opens : Bool) : Pen :=
  let p := if needsSpace && !p.spaced then p.put ' ' else p
  { p.puts s with spaced := spaced, lineStart := p.lineStart && opens }

/-- Says that the last character belongs to a scalar. -/
def afterText (p : Pen) : Pen :=
  { p with spaced := false, lineStart := false }

end Pen

end Roster.Yaml
