import Roster.Pattern.Expression
import Roster.Pattern.Reading

/-! # Matching

A text matches a pattern if some part of it does. The parts that can follow are
kept as sequences of expressions: after a character each sequence gives way to
those that must match what is left.
-/
namespace Roster.Pattern

/-- The characters on both sides of a place. -/
structure Around where
  before : Option Char
  after : Option Char

namespace Around

/-- Whether a word boundary of some kind is at a place. -/
def boundary (a : Assertion) (before after : Bool) : Bool :=
  match a with
  | .wordBoundary => before != after
  | .noWordBoundary => before == after
  | .wordStart => !before && after
  | .wordEnd => before && !after
  | .wordStartHalf => !before
  | .wordEndHalf => !after
  | _ => false

/-- Whether a condition holds at a place. -/
def satisfies (p : Around) : Look → Bool
  | .textStart => p.before.isNone
  | .textEnd => p.after.isNone
  | .lineStart => p.before.all (· = '\n')
  | .lineEnd => p.after.all (· = '\n')
  | .breakStart =>
    p.before.all (· = '\n') || (p.before = some '\r' && p.after != some '\n')
  | .breakEnd => p.after.all (· = '\r') || (p.after = some '\n' && p.before != some '\r')
  | .word ascii a =>
    let has := if ascii then CharSet.asciiWord.has else CharSet.word.has
    boundary a (p.before.any has) (p.after.any has)

end Around

namespace Expression

/-- Whether an expression matches the empty text at a place. -/
def nullable (p : Around) : Expression → Bool
  | empty => true
  | never | chars _ => false
  | look l => p.satisfies l
  | cat a b => nullable p a && nullable p b
  | alt a b => nullable p a || nullable p b
  | rep least most part => most = some 0 || least = 0 || nullable p part

/-- The sequences of which one has to match behind a character, so that the expression matches
from before it. A repetition that can match nothing here may count all its required rounds as
done. -/
def after (sets : Array CharSet) (p : Around) (c : Char) : Expression → List (List Expression)
  | empty | never | look _ => []
  | chars i => if (sets[i]?.any fun s => s.has c) then [[]] else []
  | cat a b =>
    (after sets p c a).map (· ++ [b]) ++ (if nullable p a then after sets p c b else [])
  | alt a b => after sets p c a ++ after sets p c b
  | rep least most part =>
    if most = some 0 then []
    else
      let least := if nullable p part then 0 else least - 1
      (after sets p c part).map (· ++ [rep least (most.map (· - 1)) part])

end Expression

abbrev Continuation := List Expression

namespace Continuation

def nullable (p : Around) (k : Continuation) : Bool :=
  k.all (Expression.nullable p)

/-- The continuations behind a character. -/
def after (sets : Array CharSet) (p : Around) (c : Char) : Continuation → List Continuation
  | [] => []
  | e :: k =>
    (e.after sets p c).map (· ++ k) ++
      (if e.nullable p then after sets p c k else [])

end Continuation

namespace Meaning

/-- Whether one of the continuations, or the whole expression from a later place on, matches the
start of what is left. -/
def matchesFrom (m : Meaning) (before : Option Char) (ks : List Continuation) :
    List Char → Bool
  | [] => (([m.expression] :: ks).any (Continuation.nullable ⟨before, none⟩))
  | c :: r =>
    let p : Around := ⟨before, some c⟩
    let ks := [m.expression] :: ks
    ks.any (Continuation.nullable p) ||
      matchesFrom m (some c) ((ks.flatMap (Continuation.after m.sets p c)).eraseDups) r

def isMatch (m : Meaning) (text : String) : Bool :=
  m.matchesFrom none [] text.toList

end Meaning

/-- The number of bytes that a compiled pattern may take. -/
def mostBytes : Nat := 10485760

/-- The texts that a pattern matches, or why it cannot be used. -/
def compile (pattern : String) : Except String (String → Bool) :=
  match Form.read pattern.toList with
  | .error f => .error (f.message pattern)
  | .ok form =>
    match form.meaning with
    | .error f => .error (f.message pattern)
    | .ok m =>
      if mostBytes < m.expression.weight m.sets then
        .error ("Compiled regex exceeds size limit of " ++ toString mostBytes ++ " bytes.")
      else .ok m.isMatch

end Roster.Pattern
