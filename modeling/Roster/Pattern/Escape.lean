import Roster.Pattern.Form
import Roster.Pattern.Scan

/-! # Escapes

What a backslash and the characters after it stand for.
-/
namespace Roster.Pattern

/-- The characters with a meaning of their own in a pattern. -/
def isMeta (c : Char) : Bool :=
  "\\.+*?()|[]\x7b\x7d^$#&-~".toList.contains c

/-- Whether a backslash before the character leaves it as it is. -/
def isEscapable (c : Char) : Bool :=
  isMeta c || (c.toNat < 128 && !c.isAlphanum && c != '<' && c != '>')

def isHexDigit (c : Char) : Bool :=
  c.isDigit || ('a' ≤ c && c ≤ 'f') || ('A' ≤ c && c ≤ 'F')

/-- The number that hexadecimal digits write. -/
def hexValue (cs : List Char) : Nat :=
  cs.foldl (fun n c =>
    n * 16 + (if c.isDigit then c.toNat - 48 else if c < 'a' then c.toNat - 55 else c.toNat - 87)) 0

def charOf? (n : Nat) : Option Char :=
  if h : n.isValidChar then some (Char.ofNatAux n h) else none

namespace Steps

/-- The character that hexadecimal digits stand for. -/
def hexChar (digits : List Char) (span : Span) : Steps Char :=
  match charOf? (hexValue digits) with
  | some c => return c
  | none => fail .hexInvalid span

def hexDigits : Nat → Steps (List Char)
  | 0 => return []
  | n + 1 => do
    match ← peek? with
    | none => fail .escapeEnd (.here (← here))
    | some c =>
      if isHexDigit c then
        next
        return c :: (← hexDigits n)
      else fail .hexDigit (← charSpan)

/-- A character code behind its letter: digits in braces, or as many as the letter asks for. -/
def hexEscape (letter : Char) : Steps (Char × Bool) := do
  next
  let start ← here
  match ← peek? with
  | none => fail .escapeEnd (.here start)
  | some '\x7b' =>
    let inner := (← charSpan).stop
    next
    let digits ← collect isHexDigit
    match ← peek? with
    | none => fail .escapeEnd (← spanFrom start)
    | some '\x7d' =>
      let span ← spanFrom inner
      next
      if digits.isEmpty then fail .hexEmpty (← spanFrom start)
      return (← hexChar digits span, false)
    | some _ => fail .hexDigit (← charSpan)
  | some _ =>
    let count := if letter = 'x' then 2 else if letter = 'u' then 4 else 8
    let digits ← hexDigits count
    return (← hexChar digits (← spanFrom start), letter = 'x')

/-- What stands before and after the first place where `mark` stands. -/
def cutAt (mark : List Char) : List Char → Option (List Char × List Char)
  | [] => none
  | c :: r =>
    if mark.isPrefixOf (c :: r) then some ([], (c :: r).drop mark.length)
    else (cutAt mark r).map fun (a, b) => (c :: a, b)

/-- What the text in the braces of a property class asks for. -/
def queryOf (text : List Char) : Query :=
  match (cutAt ['!', '='] text).or ((cutAt [':'] text).or (cutAt ['='] text)) with
  | some (name, value) => .value (String.ofList name) (String.ofList value)
  | none => .name (String.ofList text)

/-- The name of a property class behind its letter. -/
def propertyQuery : Steps Query := do
  next
  match ← peek? with
  | none => fail .escapeEnd (.here (← here))
  | some '\x7b' =>
    next
    let text ← collect (· != '\x7d')
    if ← atEnd then fail .escapeEnd (.here (← here))
    bump
    return queryOf text
  | some '\\' => fail .propertyInvalid (← charSpan)
  | some c =>
    next
    return .name c.toString

/-- A word boundary that is described in braces, if the braces do not hold a count. -/
def boundaryName? (start : Place) : Steps (Option Assertion) := do
  let before ← get
  let isPart (c : Char) : Bool := c.isAlpha || c = '-'
  next
  let inner ← here
  match ← peek? with
  | none => fail .boundaryEnd (← spanFrom start)
  | some c =>
    if isPart c then
      let name ← collect isPart
      if (← peek?) != some '\x7d' then fail .boundaryOpen (← spanFrom before.place)
      let span ← spanFrom inner
      bump
      match String.ofList name with
      | "start" => return some .wordStart
      | "end" => return some .wordEnd
      | "start-half" => return some .wordStartHalf
      | "end-half" => return some .wordEndHalf
      | _ => fail .boundaryUnknown span
    else
      set before
      return none

/-- The character that a letter stands for behind a backslash. -/
def control? : Char → Option Char
  | 'a' => some '\x07'
  | 'f' => some '\x0c'
  | 't' => some '\t'
  | 'n' => some '\n'
  | 'r' => some '\r'
  | 'v' => some '\x0b'
  | _ => none

/-- The condition that a character stands for behind a backslash. -/
def assertion? : Char → Option Assertion
  | 'A' => some .textStart
  | 'z' => some .textEnd
  | 'b' => some .wordBoundary
  | 'B' => some .noWordBoundary
  | '<' => some .wordStart
  | '>' => some .wordEnd
  | _ => none

/-- The class that a letter stands for behind a backslash. -/
def shorthand? : Char → Option Shorthand
  | 'd' => some .digit
  | 's' => some .space
  | 'w' => some .word
  | _ => none

/-- An escape without more than one character behind the backslash. -/
def shortEscape (start : Place) (c : Char) : Steps Primitive := do
  bump
  let span ← spanFrom start
  if isEscapable c then return .literal ⟨c, false, span⟩
  match control? c, assertion? c with
  | some x, _ => return .literal ⟨x, false, span⟩
  | none, some a =>
    if a = .wordBoundary ∧ (← peek?) = some '\x7b' then
      match ← boundaryName? start with
      | some a => return .assertion (← spanFrom start) a
      | none => return .assertion span a
    else return .assertion span a
  | none, none => fail .escapeUnknown span

def escape : Steps Primitive := do
  let start ← here
  bump
  match ← peek? with
  | none => fail .escapeEnd (← spanFrom start)
  | some c =>
    if c.isDigit then fail .backreference ⟨start, (← charSpan).stop⟩
    else if c = 'x' ∨ c = 'u' ∨ c = 'U' then
      let (x, isByte) ← hexEscape c
      return .literal ⟨x, isByte, ← spanFrom start⟩
    else if c = 'p' ∨ c = 'P' then
      let q ← propertyQuery
      return .property (← spanFrom start) (c = 'P') q
    else match shorthand? c.toLower with
      | some s =>
        bump
        return .shorthand (← spanFrom start) c.isUpper s
      | none => shortEscape start c

end Steps

end Roster.Pattern
