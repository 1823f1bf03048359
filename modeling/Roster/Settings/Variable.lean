import Roster.Number.Decimal
import Roster.Settings.Value
import Roster.Text.Blank
import Roster.Text.Lines
import Roster.Unicode.Case

/-! # Settings in environment variables

A variable whose name begins with `LOADOUT_`, in letters of any case, holds a
setting. Its value may be a truth value, a number, a list in brackets, a mapping
in braces, a text in quotes, or any other text. A text that begins like one of
these but does not go on like it stands for itself.
-/
namespace Roster

namespace SettingValue

/-- Whether a character ends a value that is not in quotes. -/
def isSeparator (c : Char) : Bool :=
  [',', '\x7b', '\x7d', '[', ']'].contains c

def natural? (bound : Nat) (digits : List Char) : Option Nat :=
  match Double.readDigits 0 digits with
  | (_, 0, _) => none
  | (n, _, []) => if n < bound then some n else none
  | _ => none

/-- The value of a text without quotes. Only a text with a point can be a number with a
fraction. -/
def ofBareText (s : List Char) : SettingValue :=
  let fraction := if s.contains '.' then Double.readDecimal? s else none
  match fraction with
  | some (neg, digits, exp10) =>
    match Double.ofDecimal neg digits exp10 with
    | some d => real (realText d)
    | none => real (if neg then "-inf" else "inf")
  | none =>
    let (neg, digits) := Double.readSign s
    match natural? (twoTo 64) digits with
    | none => text (String.ofList s)
    | some n =>
      if !neg then unsigned n
      else if n ≤ twoTo 63 then signed (-n)
      else text (String.ofList s)

def ofHex? (digits : List Char) : Option Char := do
  let n ← digits.foldlM (fun n c => (Yaml.Plain.digit? 16 c).map fun d => n * 16 + d) 0
  if h : n.isValidChar then some (Char.ofNatAux n h) else none

/-- Reads a text in quotes, behind the first quote. -/
def readQuoted (found : List Char) : List Char → Option (List Char × List Char)
  | [] => none
  | '"' :: rest => some (found.reverse, rest)
  | '\\' :: '\\' :: rest => readQuoted ('\\' :: found) rest
  | '\\' :: '"' :: rest => readQuoted ('"' :: found) rest
  | '\\' :: 'b' :: rest => readQuoted ('\x08' :: found) rest
  | '\\' :: 'f' :: rest => readQuoted ('\x0c' :: found) rest
  | '\\' :: 'n' :: rest => readQuoted ('\n' :: found) rest
  | '\\' :: 'r' :: rest => readQuoted ('\r' :: found) rest
  | '\\' :: 't' :: rest => readQuoted ('\t' :: found) rest
  | '\\' :: 'u' :: a :: b :: c :: d :: rest =>
    match ofHex? [a, b, c, d] with
    | some x => readQuoted (x :: found) rest
    | none => none
  | '\\' :: 'U' :: a :: b :: c :: d :: e :: f :: g :: h :: rest =>
    match ofHex? [a, b, c, d, e, f, g, h] with
    | some x => readQuoted (x :: found) rest
    | none => none
  | '\\' :: _ => none
  | c :: rest => readQuoted (c :: found) rest

/-- What follows the key of an entry and its equals sign. -/
def afterKey? (s : List Char) : Option (List Char) :=
  let s := s.dropWhile Text.isAsciiBlank
  let rest : Option (List Char) := match s with
    | '"' :: r => (readQuoted [] r).map fun x => x.2
    | s =>
      let key := s.takeWhile fun c => !isSeparator c && c != '='
      if key.isEmpty then none else some (s.drop key.length)
  match rest.map (List.dropWhile Text.isAsciiBlank) with
  | some ('=' :: r) => some r
  | _ => none

mutual

/-- Reads a value and the blank characters around it. `fuel` bounds the parts inside one another
and beside one another. -/
def readValue : Nat → List Char → Option (SettingValue × List Char)
  | 0, _ => none
  | fuel + 1, s => do
    let (v, rest) ← match s.dropWhile Text.isAsciiBlank with
      | 't' :: 'r' :: 'u' :: 'e' :: r => some (bool true, r)
      | 'f' :: 'a' :: 'l' :: 's' :: 'e' :: r => some (bool false, r)
      | '\x7b' :: r => (readParts fuel true r).map fun r => (mapping, r)
      | '[' :: r => (readParts fuel false r).map fun r => (sequence, r)
      | '"' :: r => (readQuoted [] r).map fun (t, r) => (text (String.ofList t), r)
      | '\x27' :: c :: '\x27' :: r => some (character c, r)
      | '\x27' :: _ => none
      | r => some (ofBareText (Text.trim (r.takeWhile fun c => !isSeparator c)),
          r.dropWhile fun c => !isSeparator c)
    return (v, rest.dropWhile Text.isAsciiBlank)

/-- Reads the parts of a list, or of a mapping, and the bracket behind them. -/
def readParts (fuel : Nat) (isMapping : Bool) (s : List Char) : Option (List Char) :=
  let close := if isMapping then '\x7d' else ']'
  if s.head? = some close then some s.tail
  else match fuel with
    | 0 => none
    | fuel + 1 => do
      let (_, rest) ← readValue fuel (← if isMapping then afterKey? s else some s)
      match rest with
      | ',' :: r => readParts fuel isMapping r
      | c :: r => if c = close then some r else none
      | [] => none

end

def ofText (s : String) : SettingValue :=
  match readValue (2 * s.length + 2) s.toList with
  | some (v, []) => v
  | _ => text s

end SettingValue

namespace Settings.Variable

/-- How the names of variables with settings begin. -/
def marker : String := "LOADOUT_"

def key? (name : String) : Option String :=
  let n := Text.trim name.toList
  let k := n.take marker.length
  if k.map Char.toLower = marker.toList.map Char.toLower then
    some (Unicode.Case.lower (String.ofList (n.drop marker.length)))
  else none

/-- The setting of a variable. A key with a point in it is the key of a mapping. -/
def setting? (name value : String) : Option (String × SettingValue) := do
  let k ← key? name
  let parts := Text.splitOn '.' k.toList
  if parts.any List.isEmpty then none
  match parts with
  | [_] => return (k, SettingValue.ofText value)
  | p :: _ => return (String.ofList p, .mapping)
  | [] => none

/-- The settings of variables; a later one takes the place of an earlier one. -/
def settings (environment : List (String × String)) : NameMap SettingValue :=
  .ofList (environment.filterMap fun v => setting? v.1 v.2)

end Settings.Variable

end Roster
