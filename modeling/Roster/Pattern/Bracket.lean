import Roster.Pattern.Escape

/-! # Sets in brackets

A set in brackets lists characters, ranges and classes; sets can stand in sets,
and two sets can be combined. Operators bind to the left and weaker than the
items that stand next to each other.
-/
namespace Roster.Pattern

namespace AsciiClass

def ofName? : String → Option AsciiClass
  | "alnum" => some .alnum
  | "alpha" => some .alpha
  | "ascii" => some .ascii
  | "blank" => some .blank
  | "cntrl" => some .cntrl
  | "digit" => some .digit
  | "graph" => some .graph
  | "lower" => some .lower
  | "print" => some .print
  | "punct" => some .punct
  | "space" => some .space
  | "upper" => some .upper
  | "word" => some .word
  | "xdigit" => some .xdigit
  | _ => none

end AsciiClass

/-- The items of a set that have been read, the last one first. -/
abbrev Items := List ClassSet

namespace Items

/-- The items as one set; `place` is where a set without items is. -/
def toSet (place : Place) (items : Items) : ClassSet :=
  match items with
  | [] => .union (.here place) []
  | [i] => i
  | i :: r => .union ⟨((i :: r).getLastD i).span.start, i.span.stop⟩ (i :: r).reverse

end Items

/-- What a set that is being read stands in: the brackets that are open and the operators that
wait for their right side. -/
inductive SetFrame where
  | bracket (outer : Items) (start : Place) (unclosed : Span) (negated : Bool)
  | operator (op : SetOperator) (left : ClassSet)

namespace SetFrame

/-- The span that is shown if the innermost bracket is never closed. -/
def unclosed? : List SetFrame → Option Span
  | [] => none
  | .bracket _ _ s _ :: _ => some s
  | .operator _ _ :: r => unclosed? r

/-- Completes the operator that waits for its right side, if there is one. -/
def complete (frames : List SetFrame) (right : ClassSet) : List SetFrame × ClassSet :=
  match frames with
  | .operator op left :: r => (r, .combine ⟨left.span.start, right.span.stop⟩ op left right)
  | _ => (frames, right)

end SetFrame

namespace Steps

def asItem : Primitive → Steps ClassSet
  | .literal l => return .literal l
  | .shorthand s n c => return .shorthand s n c
  | .property s n q => return .property s n q
  | .dot s | .assertion s _ => fail .classEscape s

/-- A part of a set as a bound of a range. -/
def asBound : Primitive → Steps Literal
  | .literal l => return l
  | p => fail .classBound p.span

def setPart : Steps Primitive := do
  match ← peek? with
  | some '\\' => escape
  | some c =>
    let span ← charSpan
    bump
    return .literal ⟨c, false, span⟩
  | none => fail .classOpen (← charSpan)

/-- An item of a set: a single part, or a range of two. -/
def setItem (unclosed : Span) : Steps ClassSet := do
  let first ← setPart
  pass
  let s ← get
  match s.rest with
  | [] => fail .classOpen unclosed
  | '-' :: _ =>
    if s.secondPassed? = some ']' ∨ s.secondPassed? = some '-' then asItem first
    else
      next
      if ← atEnd then fail .classOpen unclosed
      let last ← setPart
      let span : Span := ⟨first.span.start, last.span.stop⟩
      let low ← asBound first
      let high ← asBound last
      if high.char < low.char then fail .classRange span
      return .range span low high
  | _ => asItem first

/-- The name of a class between colons, such as `[:alpha:]`; anything else is left as it is. -/
def asciiClass? : Steps (Option ClassSet) := do
  let before ← get
  let inside := before.rest.drop 2
  if before.second? != some ':' then return none
  let (negated, inside) := match inside with
    | '^' :: r => (true, r)
    | r => (false, r)
  let name := inside.takeWhile (· != ':')
  let behind := inside.drop name.length
  if !":]".toList.isPrefixOf behind then return none
  match AsciiClass.ofName? (String.ofList name) with
  | none => return none
  | some c =>
    let length := 2 + (if negated then 1 else 0) + name.length + 2
    set ((List.range length).foldl (fun s _ => s.bump) before)
    return some (.ascii (← spanFrom before.place) negated c)

def leadingHyphens (start : Place) : Nat → Items → Steps Items
  | 0, items => return items
  | fuel + 1, items => do
    if (← peek?) != some '-' then return items
    let span ← charSpan
    next
    if ← atEnd then fail .classOpen (.here start)
    leadingHyphens start fuel (.literal ⟨'-', false, span⟩ :: items)

/-- An opening bracket with the characters that are only there what they are: a caret that negates,
hyphens, and a closing bracket. -/
def openBracket (outer : Items) : Steps (SetFrame × Items) := do
  let start ← here
  next
  if ← atEnd then fail .classOpen (← spanFrom start)
  let negated := (← peek?) = some '^'
  if negated then
    next
    if ← atEnd then fail .classOpen (← spanFrom start)
  let items ← leadingHyphens start (← get).rest.length []
  if items.isEmpty ∧ (← peek?) = some ']' then
    let span ← charSpan
    next
    if ← atEnd then fail .classOpen (← spanFrom start)
    return (.bracket outer start (← spanFrom start) negated, [.literal ⟨']', false, span⟩])
  return (.bracket outer start (← spanFrom start) negated, items)

/-- The operator whose two equal signs come next. -/
def operator? : Steps (Option SetOperator) := do
  let s ← get
  match s.rest with
  | '&' :: '&' :: _ => return some .intersection
  | '-' :: '-' :: _ => return some .difference
  | '~' :: '~' :: _ => return some .symmetricDifference
  | _ => return none

/-- Reads on in a set until its first bracket is closed. -/
def setFrom : Nat → List SetFrame → Items → Steps ClassSet
  | 0, frames, _ => do fail .classOpen ((SetFrame.unclosed? frames).getD (.here (← here)))
  | fuel + 1, frames, items => do
    pass
    let unclosed := (SetFrame.unclosed? frames).getD (.here (← here))
    match ← peek? with
    | none => fail .classOpen unclosed
    | some '[' =>
      match ← asciiClass? with
      | some item => setFrom fuel frames (item :: items)
      | none =>
        let (frame, inner) ← openBracket items
        setFrom fuel (frame :: frames) inner
    | some ']' =>
      match SetFrame.complete frames (items.toSet (← here)) with
      | (.bracket outer start _ negated :: below, set) =>
        bump
        let closed := ClassSet.bracket (← spanFrom start) negated set
        if below.isEmpty then return closed else setFrom fuel below (closed :: outer)
      | (_, set) => return set
    | some _ =>
      match ← operator? with
      | some op =>
        let place ← here
        bump
        bump
        let (below, left) := SetFrame.complete frames (items.toSet place)
        setFrom fuel (.operator op left :: below) []
      | none =>
        let item ← setItem unclosed
        setFrom fuel frames (item :: items)

def bracketed : Steps Form := do
  let (frame, items) ← openBracket []
  match ← setFrom ((← get).rest.length + 1) [frame] items with
  | .bracket span negated set => return .set span negated set
  | set => return .set set.span false set

end Steps

end Roster.Pattern
