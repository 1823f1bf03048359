import Roster.Pattern.CharSet
import Roster.Pattern.Error

/-! # What a pattern means

The meaning of a pattern is an expression over sets of characters and conditions
on places. Each part of a pattern is read under the flags that are set where it
stands. Sets are kept in a table, and an expression names them by their number.
-/
namespace Roster.Pattern

/-- A condition on the characters before and after a place. -/
inductive Look where
  | textStart
  | textEnd
  | lineStart
  | lineEnd
  | breakStart
  | breakEnd
  | word (ascii : Bool) (a : Assertion)
  deriving DecidableEq

/-- What a text has to look like. `most` is absent from a repetition without bound. -/
inductive Expression where
  | empty
  | never
  | chars (set : Nat)
  | look (l : Look)
  | cat (first second : Expression)
  | alt (first second : Expression)
  | rep (least : Nat) (most : Option Nat) (part : Expression)
  deriving DecidableEq

namespace Expression

def cats : List Expression → Expression
  | [] => empty
  | [e] => e
  | e :: r => cat e (cats r)

def alts : List Expression → Expression
  | [] => never
  | [e] => e
  | e :: r => alt e (alts r)

end Expression

/-- The flags that say what a part means. -/
structure Modes where
  caseless : Bool
  multiline : Bool
  dotAll : Bool
  crlf : Bool
  unicode : Bool

namespace Modes

def initial : Modes := ⟨false, false, false, false, true⟩

def apply (m : Modes) (flags : FlagList) : Modes where
  caseless := (flags.state? .caseless).getD m.caseless
  multiline := (flags.state? .multiline).getD m.multiline
  dotAll := (flags.state? .dotAll).getD m.dotAll
  crlf := (flags.state? .crlf).getD m.crlf
  unicode := (flags.state? .unicode).getD m.unicode

/-- The condition that an assertion stands for. -/
def look (m : Modes) : Assertion → Look
  | .lineStart =>
    if !m.multiline then .textStart else if m.crlf then .breakStart else .lineStart
  | .lineEnd => if !m.multiline then .textEnd else if m.crlf then .breakEnd else .lineEnd
  | .textStart => .textStart
  | .textEnd => .textEnd
  | a => .word (!m.unicode) a

def dot (m : Modes) : CharSet :=
  if m.dotAll then CharSet.empty.compl
  else if m.crlf then (CharSet.union (.range '\n' '\n') (.range '\r' '\r')).compl
  else (CharSet.range '\n' '\n').compl

def closeCase (m : Modes) (s : CharSet) : CharSet :=
  if !m.caseless then s else if m.unicode then s.closeCase else s.closeAsciiCase

def fault {α : Type} (flaw : Flaw) (span : Span) : Except Fault α :=
  .error ⟨flaw, span, none⟩

/-- A set with the other cases of its characters, and then turned around if it is negated. Without
Unicode a set that is turned around would hold parts of characters. -/
def foldNegate (m : Modes) (span : Span) (negated : Bool) (s : CharSet) : Except Fault CharSet :=
  let s := m.closeCase s
  if !negated then .ok s
  else if m.unicode then .ok s.compl
  else fault .matchesNoText span

def shorthand (m : Modes) (span : Span) (negated : Bool) (s : Shorthand) : Except Fault CharSet :=
  if m.unicode then .ok (if negated then s.toSet.compl else s.toSet)
  else if negated then fault .matchesNoText span
  else .ok s.toAsciiSet

def property (m : Modes) (span : Span) (negated : Bool) (q : Query) : Except Fault CharSet :=
  if !m.unicode then fault .unicodeDisabled span
  else
    match q.resolve with
    | .error .name => fault .propertyUnknown span
    | .error .value => fault .propertyValueUnknown span
    | .ok s => m.foldNegate span negated s

/-- A character outside brackets. Without Unicode a byte must be ASCII. -/
def literal (m : Modes) (l : Literal) : Except Fault CharSet :=
  let one := CharSet.range l.char l.char
  if !m.unicode && l.isByte && l.char.toNat > 127 then fault .matchesNoText l.span
  else .ok (m.closeCase ⟨one.has, 32 * l.char.utf8Size⟩)

/-- A character in brackets. Without Unicode it must be ASCII. -/
def member (m : Modes) (l : Literal) : Except Fault Char :=
  if m.unicode || l.char.toNat < 128 then .ok l.char
  else if l.isByte then fault .matchesNoText l.span
  else fault .unicodeDisabled l.span

mutual

def classSet (m : Modes) : ClassSet → Except Fault CharSet
  | .literal l => do
    let c ← m.member l
    return .range c c
  | .range _ first last => do
    let low ← m.member first
    let high ← m.member last
    return .range low high
  | .ascii span negated c => m.foldNegate span negated c.toSet
  | .shorthand span negated s => m.shorthand span negated s
  | .property span negated q => m.property span negated q
  | .bracket span negated s => do m.foldNegate span negated (← classSet m s)
  | .union _ items => classSets m items
  | .combine _ op left right => do
    let a := m.closeCase (← classSet m left)
    let b := m.closeCase (← classSet m right)
    return match op with
      | .intersection => a.inter b
      | .difference => a.diff b
      | .symmetricDifference => a.symmDiff b

def classSets (m : Modes) : List ClassSet → Except Fault CharSet
  | [] => .ok .empty
  | s :: r => do
    let a ← classSet m s
    return a.union (← classSets m r)

end

end Modes

/-- An expression with the sets it names. -/
structure Meaning where
  sets : Array CharSet
  expression : Expression

/-- The flags that are set and the sets that have been met. -/
structure Context where
  modes : Modes
  sets : Array CharSet

/-- A step of giving meaning to parts. -/
abbrev Giving := StateT Context (Except Fault)

namespace Giving

def chars (s : Modes → Except Fault CharSet) : Giving Expression := do
  let c ← get
  let set' ← s c.modes
  set { c with sets := c.sets.push set' }
  return .chars c.sets.size

def primitive : Primitive → Giving Expression
  | .literal l => chars fun m => m.literal l
  | .dot span => chars fun m =>
    if m.unicode then .ok m.dot else Modes.fault .matchesNoText span
  | .assertion _ a => return .look ((← get).modes.look a)
  | .shorthand span negated s => chars fun m => m.shorthand span negated s
  | .property span negated q => chars fun m => m.property span negated q

mutual

/-- What a part means. Flags that a group sets end with it. -/
def form : Form → Giving Expression
  | .empty _ => return .empty
  | .flags _ flags => do
    modify fun c => { c with modes := c.modes.apply flags }
    return .empty
  | .primitive p => primitive p
  | .set span negated s => chars fun m => do m.foldNegate span negated (← m.classSet s)
  | .repetition _ least most p => return .rep least most (← form p)
  | .group _ flags _ p => do
    let outer := (← get).modes
    modify fun c => { c with modes := outer.apply flags }
    let e ← form p
    modify fun c => { c with modes := outer }
    return e
  | .concat _ ps => return .cats (← forms ps)
  | .alternation _ ps => return .alts (← forms ps)

/-- What the parts of a list mean, each under the flags that those before it leave. -/
def forms : List Form → Giving (List Expression)
  | [] => return []
  | p :: r => do
    let e ← form p
    return e :: (← forms r)

end

end Giving

namespace Form

def meaning (f : Form) : Except Fault Meaning := do
  let (e, c) ← (Giving.form f).run ⟨.initial, #[]⟩
  return ⟨c.sets, e⟩

end Form

namespace Expression

/-- About how many bytes an expression takes when it is compiled. Repetitions are written out. -/
def weight (sets : Array CharSet) : Expression → Nat
  | empty | never | look _ => 32
  | chars i => (sets[i]?.map (·.weight)).getD 0
  | cat a b => weight sets a + weight sets b
  | alt a b => 40 + weight sets a + weight sets b
  | rep least none part => max 1 least * weight sets part + 40
  | rep least (some most) part =>
    least * weight sets part + (most - least) * (weight sets part + 40)

end Expression

end Roster.Pattern
