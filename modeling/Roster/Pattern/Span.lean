/-! # Places in a pattern

A place counts lines and characters of a line from one. A span reaches from one
place up to another; it may be empty.
-/
namespace Roster.Pattern

structure Place where
  line : Nat
  column : Nat
  deriving DecidableEq, Inhabited

namespace Place

def first : Place := ⟨1, 1⟩

/-- The place after a character that stands here. -/
def after (p : Place) (c : Char) : Place :=
  if c = '\n' then ⟨p.line + 1, 1⟩ else ⟨p.line, p.column + 1⟩

/-- Whether a place does not come after another. -/
def le (p q : Place) : Bool :=
  p.line < q.line || (p.line == q.line && p.column ≤ q.column)

end Place

/-- The characters from one place up to, but not including, another. -/
structure Span where
  start : Place
  stop : Place
  deriving DecidableEq, Inhabited

namespace Span

def here (p : Place) : Span := ⟨p, p⟩

def ofChar (p : Place) (c : Char) : Span := ⟨p, p.after c⟩

def onOneLine (s : Span) : Bool :=
  s.start.line == s.stop.line

/-- Spans are ordered by where they start, then by where they end. -/
def le (s t : Span) : Bool :=
  if s.start = t.start then s.stop.le t.stop else s.start.le t.start

end Span

end Roster.Pattern
