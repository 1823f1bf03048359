import Roster.Pattern.Bracket
import Roster.Unicode.Category
import Roster.Unicode.Property

/-! # Reading patterns

A pattern is read from left to right. Open groups and alternations wait on a
stack until what belongs to them is complete.
-/
namespace Roster.Pattern

/-- Parts that follow each other, the last one first, and where they start. -/
structure Sequence where
  start : Place
  parts : List Form

namespace Sequence

def close (q : Sequence) (stop : Place) : Form :=
  .ofParts ⟨q.start, stop⟩ q.parts.reverse

def push (q : Sequence) (p : Form) : Sequence :=
  { q with parts := p :: q.parts }

end Sequence

/-- What the current sequence stands in. -/
inductive Frame where
  | group (before : Sequence) (opening : Span) (flags : FlagList) (captures wasVerbose : Bool)
  | alternation (start : Place) (branches : List Form)

/-- What an opening parenthesis starts. -/
inductive Opening where
  | flags (flags : FlagList)
  | group (flags : FlagList) (captures : Bool)

/-- Whether a character can stand in the name of a group. -/
def isNamePart (first : Bool) (c : Char) : Bool :=
  c = '_' || Unicode.Property.alphabetic.has c ||
    (!first && (c = '.' || c = '[' || c = ']' || Unicode.Category.decimalNumber.has c ||
      Unicode.Category.letterNumber.has c || Unicode.Category.otherNumber.has c))

/-- The number of levels that a pattern may be deep. -/
def mostLevels : Nat := 250

/-- The greatest number that a repetition can count to. -/
def greatestCount : Nat := 4294967295

namespace Steps

/-- The characters of a name up to the sign that ends it. -/
def groupNameFrom : Nat → Bool → Steps (List Char)
  | 0, _ => return []
  | fuel + 1, first => do
    match ← peek? with
    | none | some '>' => return []
    | some c =>
      if isNamePart first c then
        bump
        return c :: (← groupNameFrom fuel false)
      else fail .nameInvalid (← charSpan)

/-- The name of a group, which no group before may have. -/
def groupName : Steps Unit := do
  let start ← here
  let name ← groupNameFrom ((← get).rest.length + 1) true
  if ← atEnd then fail .nameEnd (.here (← here))
  let span ← spanFrom start
  bump
  if name.isEmpty then fail .nameEmpty (.here start)
  let s ← get
  let name := String.ofList name
  match s.names.find? (·.1 = name) with
  | some (_, other) => throw ⟨.nameRepeated, span, some other⟩
  | none => set { s with names := (name, span) :: s.names }

def flag? : Char → Option Flag
  | 'i' => some .caseless
  | 'm' => some .multiline
  | 's' => some .dotAll
  | 'U' => some .swapGreed
  | 'u' => some .unicode
  | 'R' => some .crlf
  | 'x' => some .verbose
  | _ => none

/-- Flags up to the colon or parenthesis that ends them. `seen` has those before. -/
def flagsFrom : Nat → FlagList → Steps FlagList
  | 0, seen => return seen
  | fuel + 1, seen => do
    let span ← charSpan
    match ← peek? with
    | none => fail .flagEnd span
    | some ':' | some ')' =>
      match seen.getLast? with
      | some (.negation, sign) => fail .flagDangling sign
      | _ => return seen
    | some c =>
      let item ← match c, flag? c with
        | '-', _ => pure FlagItem.negation
        | _, some f => pure (FlagItem.flag f)
        | _, none => fail .flagUnknown span
      match seen.find? (·.1 = item) with
      | some (_, other) =>
        throw ⟨if item = .negation then .flagNegatedTwice else .flagRepeated, span, some other⟩
      | none =>
        bump
        flagsFrom fuel (seen ++ [(item, span)])

/-- An opening parenthesis and the signs that say what it opens. -/
def opening : Steps (Opening × Span) := do
  let span ← charSpan
  bump
  pass
  for sign in ["?=", "?!", "?<=", "?<!"] do
    if ← accept sign.toList then fail .lookAround (← spanFrom span.start)
  let inner ← here
  if (← accept "?P<".toList) || (← accept "?<".toList) then
    groupName
    return (.group [] true, span)
  if ← accept ['?'] then
    if ← atEnd then fail .groupOpen span
    let flags ← flagsFrom ((← get).rest.length + 1) []
    let closes := (← peek?) = some ')'
    bump
    if closes then
      if flags.isEmpty then fail .nothingToRepeat (.here inner)
      return (.flags flags, span)
    return (.group flags false, span)
  return (.group [] true, span)

/-- A number that counts repetitions, or what is wrong with it. -/
def count? : Steps (Except Fault Nat) := do
  let skipBlank := do
    let s ← get
    set ((s.rest.takeWhile Text.isBlank).foldl (fun s _ => s.bump) s)
  skipBlank
  let start ← here
  let digits ← collect Char.isDigit
  let span ← spanFrom start
  let _ ← collect Text.isBlank
  if digits.isEmpty then return .error ⟨.countEmpty, span, none⟩
  let n := digits.foldl (fun n c => n * 10 + (c.toNat - 48)) 0
  if greatestCount < n then return .error ⟨.decimalInvalid, span, none⟩
  return .ok n

def counts : Steps (Nat × Option Nat) := do
  let start ← here
  let unclosed {α : Type} : Steps α := do fail .countOpen (← spanFrom start)
  next
  if ← atEnd then unclosed
  let least ← count?
  if ← atEnd then unclosed
  let range ←
    if (← peek?) = some ',' then
      next
      if ← atEnd then unclosed
      if (← peek?) = some '\x7d' then pure (← least, none)
      else
        let least ← least
        let most ← (← count?)
        pure (least, some most)
    else
      let n ← least
      pure (n, some n)
  if (← peek?) != some '\x7d' then unclosed
  next
  if (← peek?) = some '?' then bump
  match range with
  | (least, some most) =>
    if most < least then fail .countOrder (← spanFrom start) else return range
  | _ => return range

/-- The sequence without its last part, which is to be repeated. -/
def lastPart (q : Sequence) : Steps (Sequence × Form) := do
  match q.parts with
  | [] | .empty _ :: _ | .flags _ _ :: _ => fail .nothingToRepeat (.here (← here))
  | p :: r => return ({ q with parts := r }, p)

/-- The last part of a sequence, repeated as the sign that is next says. -/
def repeated (q : Sequence) (c : Char) : Steps Sequence := do
  let (q, p) ← lastPart q
  let (least, most) ←
    if c = '\x7b' then counts
    else do
      bump
      if (← peek?) = some '?' then bump
      pure (if c = '+' then 1 else 0, if c = '?' then some 1 else none)
  return q.push (.repetition (← spanFrom p.span.start) least most p)

/-- The end of a group: it is put behind what stands before it. -/
def closeGroup (frames : List Frame) (q : Sequence) : Steps (List Frame × Sequence) := do
  let stop ← here
  let (frames, part) := match frames with
    | .alternation start branches :: r =>
      (r, Form.alternation ⟨start, stop⟩ (q.close stop :: branches).reverse)
    | _ => (frames, q.close stop)
  match frames with
  | .group before span flags captures wasVerbose :: r =>
    modify fun s => { s with verbose := wasVerbose }
    bump
    return (r, before.push (.group (← spanFrom span.start) flags captures part))
  | _ => fail .groupClosed (← charSpan)

/-- The end of the pattern: no group may be open. -/
def closeAll (frames : List Frame) (q : Sequence) : Steps Form := do
  let stop ← here
  let (frames, form) := match frames with
    | .alternation start branches :: r =>
      (r, Form.alternation ⟨start, stop⟩ (q.close stop :: branches).reverse)
    | _ => (frames, q.close stop)
  match frames with
  | .group _ span _ _ _ :: _ => fail .groupOpen span
  | _ => return form

/-- Puts a branch that is complete to those before it. -/
def branch (frames : List Frame) (q : Sequence) : Steps (List Frame × Sequence) := do
  let stop ← here
  bump
  let next : Sequence := ⟨← here, []⟩
  match frames with
  | .alternation start branches :: r =>
    return (.alternation start (q.close stop :: branches) :: r, next)
  | _ => return (.alternation q.start [q.close stop] :: frames, next)

/-- Starts a group, or sets flags. -/
def openGroup (frames : List Frame) (q : Sequence) : Steps (List Frame × Sequence) := do
  let (kind, span) ← opening
  let s ← get
  match kind with
  | .flags flags =>
    set { s with verbose := (flags.state? .verbose).getD s.verbose }
    return (frames, q.push (.flags ⟨span.start, s.place⟩ flags))
  | .group flags captures =>
    set { s with verbose := (flags.state? .verbose).getD s.verbose }
    return (.group q span flags captures s.verbose :: frames, ⟨s.place, []⟩)

/-- A part that stands for itself. -/
def single (c : Char) : Steps Form := do
  let span ← charSpan
  if c = '\\' then return .primitive (← escape)
  bump
  match c with
  | '.' => return .primitive (.dot span)
  | '^' => return .primitive (.assertion span .lineStart)
  | '$' => return .primitive (.assertion span .lineEnd)
  | c => return .primitive (.literal ⟨c, false, span⟩)

def formFrom : Nat → List Frame → Sequence → Steps Form
  | 0, frames, q => closeAll frames q
  | fuel + 1, frames, q => do
    pass
    match ← peek? with
    | none => closeAll frames q
    | some '(' =>
      let (frames, q) ← openGroup frames q
      formFrom fuel frames q
    | some ')' =>
      let (frames, q) ← closeGroup frames q
      formFrom fuel frames q
    | some '|' =>
      let (frames, q) ← branch frames q
      formFrom fuel frames q
    | some '[' => formFrom fuel frames (q.push (← bracketed))
    | some c =>
      if c = '?' ∨ c = '*' ∨ c = '+' ∨ c = '\x7b' then formFrom fuel frames (← repeated q c)
      else formFrom fuel frames (q.push (← single c))

end Steps

namespace Form

def read (pattern : List Char) : Except Fault Form := do
  let (form, _) ←
    (Steps.formFrom (pattern.length + 1) [] ⟨Place.first, []⟩).run (Scan.start pattern)
  match form.tooDeep? mostLevels 0 with
  | some span => throw ⟨.tooDeep mostLevels, span, none⟩
  | none => return form

end Form

end Roster.Pattern
