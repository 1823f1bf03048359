import Roster.Pattern.Error
import Roster.Text.Blank

/-! # Going through a pattern

What is left of a pattern, the place where it starts, and what is remembered of
the part before. In verbose patterns blank characters and comments, which run
from a number sign to the end of the line, are passed over.
-/
namespace Roster.Pattern

/-- What is left of a pattern and what is known of the part before. -/
structure Scan where
  rest : List Char
  place : Place
  verbose : Bool
  names : List (String × Span)

/-- A step through a pattern, which can find a fault. -/
abbrev Steps := StateT Scan (Except Fault)

/-- The text behind blank characters and comments, and where it starts. -/
def passVerbose (inComment : Bool) : List Char → Place → List Char × Place
  | [], p => ([], p)
  | c :: r, p =>
    if inComment then passVerbose (c != '\n') r (p.after c)
    else if Text.isBlank c then passVerbose false r (p.after c)
    else if c = '#' then passVerbose true r (p.after c)
    else (c :: r, p)

namespace Scan

def start (pattern : List Char) : Scan :=
  ⟨pattern, Place.first, false, []⟩

/-- The scan behind the next character. -/
def bump (s : Scan) : Scan :=
  match s.rest with
  | [] => s
  | c :: r => { s with rest := r, place := s.place.after c }

/-- The scan behind what a verbose pattern passes over. -/
def pass (s : Scan) : Scan :=
  if s.verbose then
    let (rest, place) := passVerbose false s.rest s.place
    { s with rest := rest, place := place }
  else s

/-- The scan behind the next character and what is passed over after it. -/
def next (s : Scan) : Scan :=
  s.bump.pass

/-- The characters that satisfy `p` from here on and the scan behind them, at most `fuel`. -/
def collect (p : Char → Bool) : Nat → Scan → List Char × Scan
  | 0, s => ([], s)
  | fuel + 1, s =>
    match s.rest with
    | [] => ([], s)
    | c :: _ =>
      if p c then
        let (cs, t) := collect p fuel s.next
        (c :: cs, t)
      else ([], s)

/-- The character after the next one. -/
def second? (s : Scan) : Option Char :=
  s.rest[1]?

/-- The character after the next one, behind what a verbose pattern passes over; of a comment
only the sign that starts it is passed over. -/
def secondPassed? (s : Scan) : Option Char :=
  if s.verbose then
    let behind := s.rest.tail.dropWhile Text.isBlank
    let behind := match behind with
      | '#' :: r => r.dropWhile Text.isBlank
      | _ => behind
    match behind with
    | c :: _ => some c
    | [] => s.second?
  else s.second?

end Scan

namespace Steps

def fail {α : Type} (flaw : Flaw) (span : Span) : Steps α :=
  throw ⟨flaw, span, none⟩

def here : Steps Place :=
  return (← get).place

def spanFrom (start : Place) : Steps Span :=
  return ⟨start, (← get).place⟩

def peek? : Steps (Option Char) :=
  return (← get).rest.head?

/-- The span of the next character, or the empty span at the end. -/
def charSpan : Steps Span := do
  let s ← get
  return ⟨s.place, s.bump.place⟩

def atEnd : Steps Bool :=
  return (← get).rest.isEmpty

def bump : Steps Unit :=
  modify Scan.bump

def pass : Steps Unit :=
  modify Scan.pass

def next : Steps Unit :=
  modify Scan.next

/-- The characters from here on that satisfy `p`. -/
def collect (p : Char → Bool) : Steps (List Char) := do
  let s ← get
  let (cs, t) := s.collect p s.rest.length
  set t
  return cs

/-- Goes behind a text, if it is next. -/
def accept (text : List Char) : Steps Bool := do
  let s ← get
  if text.isPrefixOf s.rest then
    set (text.foldl (fun s _ => s.bump) s)
    return true
  else return false

end Steps

end Roster.Pattern
