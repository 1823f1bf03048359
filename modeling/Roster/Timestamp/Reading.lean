import Roster.Number.Power
import Roster.Text.Blank
import Roster.Timestamp.Basic

/-! # Reading timestamps

The strict form is that of RFC 3339. The relaxed form allows blank characters
around its numbers, signed years, and `UTC` as a zone. A field of a document may
hold the strict form or a date alone.
-/
namespace Roster.Timestamp

/-- Why a text is no timestamp. -/
inductive Flaw where
  | invalid | tooShort | tooLong | outOfRange | impossible
  deriving DecidableEq

def Flaw.message : Flaw → String
  | invalid => "input contains invalid characters"
  | tooShort => "premature end of input"
  | tooLong => "trailing input"
  | outOfRange => "input is out of range"
  | impossible => "no possible date and time matching input"

/-- A reader of part of a text: a value and what follows. -/
abbrev Scan (α : Type) := List Char → Except Flaw (α × List Char)

namespace Scan

/-- The number that at most `max` digits write; at least `min` there must be. -/
def number (min max : Nat) : Scan Nat := fun s =>
  let ds := (s.take max).takeWhile (·.isDigit)
  if ds.length < min then
    .error (if s.length < min then .tooShort else .invalid)
  else
    let n := ds.foldl (fun n c => n * 10 + (c.toNat - 48)) 0
    if n < 9223372036854775808 then .ok (n, s.drop ds.length) else .error .outOfRange

def char (c : Char) : Scan Unit
  | [] => .error .tooShort
  | d :: r => if c = d then .ok ((), r) else .error .invalid

/-- Reads a number behind blank characters. -/
def spaced (max : Nat) : Scan Nat := fun s =>
  number 1 max (Text.trimStart s)

/-- A year behind blank characters; with a sign it may have any number of digits. -/
def year : Scan Int := fun s =>
  match Text.trimStart s with
  | '-' :: r => (number 1 r.length r).map fun (n, r) => (-(n : Int), r)
  | '+' :: r => (number 1 r.length r).map fun (n, r) => ((n : Int), r)
  | r => (number 1 4 r).map fun (n, r) => ((n : Int), r)

/-- A fraction of a second in nanoseconds; digits behind the ninth do not count. -/
def nanos : Scan Nat := fun s => do
  let (n, r) ← number 1 9 s
  pure (n * tenTo (9 - (s.length - r.length)), r.dropWhile (·.isDigit))

def fraction : Scan Nat
  | '.' :: r => nanos r
  | r => .ok (0, r)

/-- The minutes of the hours and minutes of a zone, behind its sign. -/
def zoneMinutes (colon : Scan Unit) : Scan Nat := fun s => do
  let two (s : List Char) : Except Flaw (Nat × List Char) :=
    match s with
    | a :: b :: r =>
      if a.isDigit && b.isDigit then .ok ((a.toNat - 48) * 10 + (b.toNat - 48), r)
      else .error .invalid
    | _ => .error .tooShort
  let (hours, s) ← two s
  let ((), s) ← colon s
  let (minutes, s) ← two s
  if minutes < 60 then pure (hours * 60 + minutes, s) else .error .outOfRange

/-- A zone as minutes east. -/
def zone (colon : Scan Unit) : Scan Int
  | 'Z' :: r | 'z' :: r => .ok (0, r)
  | '+' :: r => (zoneMinutes colon r).map fun (n, r) => ((n : Int), r)
  | '-' :: r | '\u2212' :: r => (zoneMinutes colon r).map fun (n, r) => (-(n : Int), r)
  | [] => .error .tooShort
  | _ => .error .invalid

/-- The letter or the space between date and time. -/
def divider : Scan Unit
  | 't' :: r | 'T' :: r | ' ' :: r => .ok ((), r)
  | [] => .error .tooShort
  | _ => .error .invalid

end Scan

/-- The point in time of a date, a time of day and a zone. -/
def assemble (d : Date) (hour minute second nanos : Nat) (zone : Int) : Except Flaw Timestamp :=
  if ¬ (1 ≤ d.month ∧ d.month ≤ 12 ∧ 1 ≤ d.day ∧ d.day ≤ 31 ∧ hour < 24 ∧ minute < 60 ∧
      second ≤ 60 ∧ -1440 < zone ∧ zone < 1440) then .error .outOfRange
  else if ¬ d.isValid then .error .outOfRange
  else
    let leap := second = 60
    let clock : Int := hour * 3600 + minute * 60 + (if leap then 59 else second)
    let t : Timestamp :=
      ⟨d.number * 86400 + clock - zone * 60, if leap then nanos + 1000000000 else nanos⟩
    if Date.firstYear - 1 ≤ t.date.year ∧ t.date.year ≤ Date.lastYear + 1 then .ok t
    else .error .impossible

def parseStrict (s : List Char) : Except Flaw Timestamp := do
  let (y, s) ← Scan.number 4 4 s
  let ((), s) ← Scan.char '-' s
  let (m, s) ← Scan.number 2 2 s
  let ((), s) ← Scan.char '-' s
  let (d, s) ← Scan.number 2 2 s
  let ((), s) ← Scan.divider s
  let (hour, s) ← Scan.number 2 2 s
  let ((), s) ← Scan.char ':' s
  let (minute, s) ← Scan.number 2 2 s
  let ((), s) ← Scan.char ':' s
  let (second, s) ← Scan.number 2 2 s
  let (nanos, s) ← Scan.fraction s
  let (zone, s) ← Scan.zone (Scan.char ':') s
  if s.isEmpty then assemble ⟨y, m, d⟩ hour minute second nanos zone else .error .tooLong

def parseRelaxed (s : List Char) : Except Flaw Timestamp := do
  let (y, s) ← Scan.year s
  let ((), s) ← Scan.char '-' (Text.trimStart s)
  let (m, s) ← Scan.spaced 2 s
  let ((), s) ← Scan.char '-' (Text.trimStart s)
  let (d, s) ← Scan.spaced 2 s
  let ((), s) ← Scan.divider s
  let (hour, s) ← Scan.spaced 2 s
  let ((), s) ← Scan.char ':' (Text.trimStart s)
  let (minute, s) ← Scan.spaced 2 s
  let ((), s) ← Scan.char ':' (Text.trimStart s)
  let (second, s) ← Scan.spaced 2 s
  let (nanos, s) ← Scan.fraction s
  let s := Text.trimStart s
  let colon : Scan Unit := fun s =>
    match s.dropWhile fun c => c == ':' || Text.isBlank c with
    | [] => .ok ((), [])
    | r => .ok ((), r)
  let (zone, s) ←
    match s with
    | a :: b :: c :: r =>
      if String.ofList ([a, b, c].map Char.toLower) = "utc" then .ok (0, r) else Scan.zone colon s
    | _ => Scan.zone colon s
  if (Text.trimStart s).isEmpty then assemble ⟨y, m, d⟩ hour minute second nanos zone
  else .error .tooLong

def parseDate? (s : List Char) : Option Timestamp :=
  let date : Except Flaw (Date × List Char) := do
    let (y, s) ← Scan.year s
    let ((), s) ← Scan.char '-' s
    let (m, s) ← Scan.spaced 2 s
    let ((), s) ← Scan.char '-' s
    let (d, s) ← Scan.spaced 2 s
    pure (⟨y, m, d⟩, s)
  match date with
  | .ok (d, []) => if d.isValid then some (ofDate d) else none
  | _ => none

/-- Reads the timestamp of a field: the strict form or a date, with blank characters around it. -/
def parse? (s : String) : Option Timestamp :=
  let s := Text.trim s.toList
  match parseStrict s with
  | .ok t => some t
  | .error _ => parseDate? s

end Roster.Timestamp
