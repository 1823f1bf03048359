import Roster.Timestamp.Calendar

/-! # Points in time

A timestamp counts the seconds since the start of 1970 and the nanoseconds since
the last of them. A leap second has the count of the second before it and at
least a thousand million nanoseconds.
-/
namespace Roster

/-- A point in time. -/
structure Timestamp where
  seconds : Int
  nanos : Nat
  deriving DecidableEq, Repr, Inhabited

namespace Timestamp

/-- The start of 1970. -/
def epoch : Timestamp := ⟨0, 0⟩

/-- The point in time so many seconds after the start of 1970. -/
def ofSeconds (s : Int) : Timestamp := ⟨s, 0⟩

/-- The start of a day. -/
def ofDate (d : Date) : Timestamp := ⟨d.number * 86400, 0⟩

/-- The day of a point in time. -/
def date (t : Timestamp) : Date :=
  Date.ofNumber (t.seconds / 86400)

/-- Chronological order. -/
def lt (a b : Timestamp) : Bool :=
  a.seconds < b.seconds || (a.seconds == b.seconds && a.nanos < b.nanos)

/-- A number with at least `width` digits. -/
def padded (width n : Nat) : String :=
  let ds := (toString n).toList
  String.ofList (List.replicate (width - ds.length) '0' ++ ds)

/-- A year has four digits; one outside `0` to `9999` has a sign. -/
def yearText (y : Int) : String :=
  if 0 ≤ y ∧ y ≤ 9999 then padded 4 y.toNat
  else (if y < 0 then "-" else "+") ++ padded 4 y.natAbs

/-- The fraction of a second with as many groups of three digits as it needs. -/
def fractionText (nanos : Nat) : String :=
  if nanos = 0 then ""
  else if nanos % 1000000 = 0 then "." ++ padded 3 (nanos / 1000000)
  else if nanos % 1000 = 0 then "." ++ padded 6 (nanos / 1000)
  else "." ++ padded 9 nanos

/-- Date and time in words of RFC 3339, in universal time. -/
def text (t : Timestamp) : String :=
  let d := t.date
  let clock := (t.seconds % 86400).toNat
  yearText d.year ++ "-" ++ padded 2 d.month ++ "-" ++ padded 2 d.day ++ "T" ++
    padded 2 (clock / 3600) ++ ":" ++ padded 2 (clock / 60 % 60) ++ ":" ++
    padded 2 (clock % 60 + t.nanos / 1000000000) ++ fractionText (t.nanos % 1000000000) ++ "Z"

end Timestamp

end Roster
