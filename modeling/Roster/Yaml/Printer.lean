import Roster.Json.Basic
import Roster.Number.Shortest
import Roster.Yaml.Pen
import Roster.Yaml.Style

/-! # Writing YAML

A value becomes a document in block form. The items of a sequence stand under
the key they belong to, parts of other collections two columns to the right;
only empty collections are written in brackets. Lines are never folded.
-/
namespace Roster.Yaml

def upperHexDigit (n : Nat) : Char :=
  if n < 10 then Char.ofNat (n + 48) else Char.ofNat (n + 55)

/-- The last `width` hexadecimal digits of a number. -/
def upperHex : Nat → Nat → List Char
  | 0, _ => []
  | width + 1, n => upperHex width (n / 16) ++ [upperHexDigit (n % 16)]

/-- The letter that stands for a character behind a backslash. -/
def escapeLetter? (c : Char) : Option Char :=
  (["\x000", "\x07a", "\x08b", "\tt", "\nn", "\x0bv", "\x0cf", "\rr", "\x1be", "\"\"", "\\\\",
    "\u0085N", "\u2028L", "\u2029P"].find? fun e => e.toList.head? == some c).bind fun e =>
      e.toList[1]?

/-- A character as it stands in double quotes. -/
def escaped (c : Char) : List Char :=
  if isPrintable c && !isBreak c && c != '"' && c != '\\' then [c]
  else match escapeLetter? c with
    | some l => ['\\', l]
    | none =>
      let n := c.toNat
      if n ≤ 0xff then '\\' :: 'x' :: upperHex 2 n
      else if n ≤ 0xffff then '\\' :: 'u' :: upperHex 4 n
      else '\\' :: 'U' :: upperHex 8 n

namespace Pen

/-- Writes text without quotes. -/
def plain (p : Pen) (s : List Char) : Pen :=
  let p := if p.spaced || s.isEmpty then p else p.put ' '
  (p.puts s).afterText

/-- Writes the text between single quotes. `broken` says that a line break comes before it. -/
def singleQuotedText (indent : Nat) : Bool → Pen → List Char → Pen
  | broken, p, [] => if broken then p.indentTo indent else p
  | broken, p, c :: r =>
    if isBreak c then
      let p := if c == '\n' && !broken then p.putBreak '\n' else p
      singleQuotedText indent true { p.putBreak c with lineStart := true } r
    else
      let p := if broken then p.indentTo indent else p
      let p := if c == '\x27' then p.put c else p
      singleQuotedText indent false { p.put c with lineStart := false } r

def singleQuoted (p : Pen) (indent : Nat) (s : List Char) : Pen :=
  let p := singleQuotedText indent false (p.mark ['\x27'] true false false) s
  (p.mark ['\x27'] false false false).afterText

def doubleQuoted (p : Pen) (s : List Char) : Pen :=
  let p := (p.mark ['"'] true false false).puts (s.flatMap escaped)
  (p.mark ['"'] false false false).afterText

/-- The lines of a literal block. `broken` says that a line break comes before the text. -/
def literalText (indent : Nat) : Bool → Pen → List Char → Pen
  | _, p, [] => p
  | broken, p, c :: r =>
    if isBreak c then literalText indent true { p.putBreak c with lineStart := true } r
    else
      let p := if broken then p.indentTo indent else p
      literalText indent false { p.put c with lineStart := false } r

/-- What is said of the breaks at the end of a block: nothing if there is one break, `-` if there
is none, `+` if there are more or nothing but breaks. -/
def chomping (s : List Char) : List Char :=
  match s.reverse with
  | [] => ['-']
  | [c] => if isBreak c then ['+'] else ['-']
  | c :: d :: _ => if isBreak c then if isBreak d then ['+'] else [] else ['-']

def literal (p : Pen) (indent : Nat) (s : List Char) : Pen :=
  let width := if s.head?.any fun c => c == ' ' || isBreak c then ['2'] else []
  let p := p.mark ['|'] true false false
  let p := p.mark width false false false
  let p := (p.mark (chomping s) false false false).putBreak '\n'
  literalText indent true { p with spaced := true, lineStart := true } s

/-- Writes a string that belongs to a collection at the column `indent`. -/
def string (p : Pen) (indent : Nat) (s : String) : Pen :=
  let cs := s.toList
  match styleOf cs with
  | .plain => p.plain cs
  | .singleQuoted => p.singleQuoted indent cs
  | .doubleQuoted => p.doubleQuoted cs
  | .literal | .folded => p.literal indent cs

end Pen

/-- The column of the parts of a collection inside one at `indent`, or at the top. -/
def inner : Option Nat → Nat
  | none => 0
  | some n => n + 2

/-- The column of the lines of a scalar inside a collection at `indent`, or at the top. -/
def scalarColumn : Option Nat → Nat
  | none => 2
  | some n => n + 2

/-- Writes a key and what stands between it and its value. -/
def writeKey (indent : Nat) (key : String) (p : Pen) : Pen :=
  let p := p.indentTo indent
  if isSimpleKey key.toList then
    (p.string (indent + 2) key).mark [':'] false false false
  else
    let p := (p.mark ['?'] true false true).string (indent + 2) key
    (p.indentTo indent).mark [':'] true false true

mutual

/-- Writes a value inside a collection at the column `indent`. `keyed` says that a key of its own
stands before it. -/
def write (indent : Option Nat) (keyed : Bool) (p : Pen) : Json → Pen
  | .null => p.plain "null".toList
  | .bool b => p.plain (if b then "true".toList else "false".toList)
  | .number (.int z) => p.plain (toString z.val).toList
  | .number (.double d) => p.plain (d.write Double.yamlLayout)
  | .string s => p.string (scalarColumn indent) s
  | .array [] => (p.mark ['['] true true false).mark [']'] false false false
  | .array (v :: vs) =>
    let column := if keyed && !p.lineStart then indent.getD 0 else inner indent
    writeItems column p (v :: vs)
  | .object [] => (p.mark ['\x7b'] true true false).mark ['\x7d'] false false false
  | .object (f :: fs) => writeFields (inner indent) p (f :: fs)

def writeItems (indent : Nat) (p : Pen) : List Json → Pen
  | [] => p
  | v :: vs =>
    writeItems indent
      (write (some indent) false ((p.indentTo indent).mark ['-'] true false true) v) vs

def writeFields (indent : Nat) (p : Pen) : List (String × Json) → Pen
  | [] => p
  | f :: fs => writeFields indent (writeField indent p f) fs

def writeField (indent : Nat) (p : Pen) : String × Json → Pen
  | (k, v) => write (some indent) true (writeKey indent k p) v

end

/-- The document that holds a value. -/
def print (v : Json) : List Char :=
  ((write none false Pen.start v).indentTo 0).text

end Roster.Yaml
