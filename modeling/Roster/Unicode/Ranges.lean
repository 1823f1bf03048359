/-! # Sets of code points

A set of code points is an array of closed ranges in ascending order, without
overlap. Written out, a range is one hexadecimal code point, or two with a
hyphen between them, and ranges are separated by spaces.
-/
namespace Roster.Unicode

/-- A set of code points as closed ranges in ascending order. -/
structure Ranges where
  ranges : Array (Nat × Nat)
  deriving Inhabited, DecidableEq

namespace Ranges

/-- Adds a hexadecimal digit, if it is one, to a number. -/
def addHexDigit (n : Nat) (c : Char) : Nat :=
  if c.isDigit then n * 16 + (c.toNat - 48) else n * 16 + (c.toNat - 87)

/-- The state while ranges are read: those that are complete, and the numbers of the current. -/
structure Reading where
  done : Array (Nat × Nat)
  low : Nat
  high : Option Nat

namespace Reading

def finish (r : Reading) : Array (Nat × Nat) :=
  r.done.push (r.low, r.high.getD r.low)

def step (r : Reading) (c : Char) : Reading :=
  if c = ' ' then ⟨r.finish, 0, none⟩
  else if c = '-' then { r with high := some 0 }
  else match r.high with
    | none => { r with low := addHexDigit r.low c }
    | some h => { r with high := some (addHexDigit h c) }

end Reading

/-- The ranges of one line, put behind those of the lines before. -/
def parseLine (done : Array (Nat × Nat)) (line : String) : Array (Nat × Nat) :=
  (line.toList.foldl Reading.step ⟨done, 0, none⟩).finish

/-- The set that lines of text write out. -/
def parse (lines : List String) : Ranges :=
  ⟨lines.foldl parseLine #[]⟩

/-- Whether one of the ranges from place `low` up to, but not including, `high` holds `n`. -/
def search (a : Array (Nat × Nat)) (n : Nat) : Nat → Nat → Nat → Bool
  | 0, _, _ => false
  | fuel + 1, low, high =>
    if low ≥ high then false
    else
      let mid := (low + high) / 2
      match a[mid]? with
      | none => false
      | some (x, y) =>
        if n < x then search a n fuel low mid
        else if y < n then search a n fuel (mid + 1) high
        else true

/-- Whether a code point is in the set. -/
def contains (r : Ranges) (n : Nat) : Bool :=
  search r.ranges n (r.ranges.size + 1) 0 r.ranges.size

def has (r : Ranges) (c : Char) : Bool :=
  r.contains c.toNat

end Ranges

end Roster.Unicode
