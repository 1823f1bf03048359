import Roster.Pattern.Span

/-! # The form of a pattern

A pattern as it is written, with the span of each part. What a part means can
depend on the flags that are set where it stands.
-/
namespace Roster.Pattern

inductive Flag where
  | caseless
  | multiline
  | dotAll
  | swapGreed
  | unicode
  | crlf
  | verbose
  deriving DecidableEq

/-- A part of a list of flags: a flag, or the sign that takes back those after it. -/
inductive FlagItem where
  | negation
  | flag (f : Flag)
  deriving DecidableEq

abbrev FlagList := List (FlagItem × Span)

namespace FlagList

def state? (f : Flag) : FlagList → Option Bool
  | [] => none
  | (.flag g, _) :: r => if g = f then some true else state? f r
  | (.negation, _) :: r => if r.any fun i => i.1 = .flag f then some false else none

end FlagList

/-- A character, and whether two hexadecimal digits write it as a byte. -/
structure Literal where
  char : Char
  isByte : Bool
  span : Span

/-- The classes that have a letter of their own. -/
inductive Shorthand where
  | digit
  | space
  | word
  deriving DecidableEq

/-- What a property class asks for: a property, or a value of a property. -/
inductive Query where
  | name (name : String)
  | value (name value : String)
  deriving DecidableEq

/-- A condition on a place between characters. -/
inductive Assertion where
  | lineStart
  | lineEnd
  | textStart
  | textEnd
  | wordBoundary
  | noWordBoundary
  | wordStart
  | wordEnd
  | wordStartHalf
  | wordEndHalf
  deriving DecidableEq

/-- A part without parts. -/
inductive Primitive where
  | literal (l : Literal)
  | dot (span : Span)
  | assertion (span : Span) (a : Assertion)
  | shorthand (span : Span) (negated : Bool) (s : Shorthand)
  | property (span : Span) (negated : Bool) (q : Query)

namespace Primitive

def span : Primitive → Span
  | literal l => l.span
  | dot s | assertion s _ | shorthand s _ _ | property s _ _ => s

end Primitive

/-- The classes of ASCII characters that have a name. -/
inductive AsciiClass where
  | alnum
  | alpha
  | ascii
  | blank
  | cntrl
  | digit
  | graph
  | lower
  | print
  | punct
  | space
  | upper
  | word
  | xdigit
  deriving DecidableEq

/-- How two sets make one. -/
inductive SetOperator where
  | intersection
  | difference
  | symmetricDifference
  deriving DecidableEq

/-- A set of characters in brackets. A `union` has no or at least two items. -/
inductive ClassSet where
  | literal (l : Literal)
  | range (span : Span) (first last : Literal)
  | ascii (span : Span) (negated : Bool) (c : AsciiClass)
  | shorthand (span : Span) (negated : Bool) (s : Shorthand)
  | property (span : Span) (negated : Bool) (q : Query)
  | bracket (span : Span) (negated : Bool) (set : ClassSet)
  | union (span : Span) (items : List ClassSet)
  | combine (span : Span) (op : SetOperator) (left right : ClassSet)

namespace ClassSet

def span : ClassSet → Span
  | literal l => l.span
  | range s _ _ | ascii s _ _ | shorthand s _ _ | property s _ _ | bracket s _ _ | union s _
  | combine s _ _ _ => s

end ClassSet

inductive Form where
  | empty (span : Span)
  | flags (span : Span) (flags : FlagList)
  | primitive (p : Primitive)
  | set (span : Span) (negated : Bool) (set : ClassSet)
  | repetition (span : Span) (least : Nat) (most : Option Nat) (part : Form)
  | group (span : Span) (flags : FlagList) (captures : Bool) (part : Form)
  | concat (span : Span) (parts : List Form)
  | alternation (span : Span) (parts : List Form)

namespace Form

def span : Form → Span
  | primitive p => p.span
  | empty s | flags s _ | set s _ _ | repetition s _ _ _ | group s _ _ _ | concat s _
  | alternation s _ => s

/-- Parts one after another; a single part stands for itself. -/
def ofParts (span : Span) : List Form → Form
  | [] => .empty span
  | [p] => p
  | ps => .concat span ps

end Form

namespace ClassSet

mutual

/-- The span of the first part of a set that lies deeper than `most` levels. -/
def tooDeep? (most depth : Nat) : ClassSet → Option Span
  | .bracket s _ inner => if most ≤ depth then some s else tooDeep? most (depth + 1) inner
  | .union s items =>
    if items.isEmpty then none
    else if most ≤ depth then some s
    else anyTooDeep? most (depth + 1) items
  | .combine s _ l r =>
    if most ≤ depth then some s
    else (tooDeep? most (depth + 1) l).or (tooDeep? most (depth + 1) r)
  | _ => none

def anyTooDeep? (most depth : Nat) : List ClassSet → Option Span
  | [] => none
  | c :: r => (tooDeep? most depth c).or (anyTooDeep? most depth r)

end

end ClassSet

namespace Form

mutual

/-- The span of the first part that lies deeper than `most` levels. -/
def tooDeep? (most depth : Nat) : Form → Option Span
  | .set s _ inner => if most ≤ depth then some s else inner.tooDeep? most (depth + 1)
  | .repetition s _ _ p => if most ≤ depth then some s else tooDeep? most (depth + 1) p
  | .group s _ _ p => if most ≤ depth then some s else tooDeep? most (depth + 1) p
  | .concat s ps => if most ≤ depth then some s else anyTooDeep? most (depth + 1) ps
  | .alternation s ps => if most ≤ depth then some s else anyTooDeep? most (depth + 1) ps
  | .empty _ | .flags _ _ | .primitive _ => none

def anyTooDeep? (most depth : Nat) : List Form → Option Span
  | [] => none
  | p :: r => (tooDeep? most depth p).or (anyTooDeep? most depth r)

end

end Form

end Roster.Pattern
