import Roster.Yaml.Plain
import Roster.Yaml.Token

/-! # The style of a string

Which ways of writing a string read back as that string, and which of them is
used: without quotes where that is possible, several lines as a literal block,
then single quotes, and double quotes for what nothing else can show.
-/
namespace Roster.Yaml

/-- Whether a character stands for itself outside double quotes. -/
def isPrintable (c : Char) : Bool :=
  let n := c.toNat
  n == 10 || (32 ≤ n && n ≤ 0x7e) ||
    (0xa0 ≤ n && n != 0xfeff && n != 0xfffe && n != 0xffff)

/-- What the characters of a string say about the ways of writing it. -/
structure Traits where
  /-- A character that would be read as a mark. -/
  marks : Bool
  breaks : Bool
  unprintable : Bool
  /-- A space or a line break at an end. -/
  blankEdge : Bool
  spaceLast : Bool
  /-- A space right after a line break. -/
  breakThenSpace : Bool
  /-- A line break right after a space. -/
  spaceThenBreak : Bool

/-- Whether no character, a space, a tab or a line break is next. -/
def blankNext : List Char → Bool
  | [] => true
  | c :: _ => isSpaceOrTab c || isBreak c || c == '\x00'

/-- Whether the first character of a string, with `rest` behind it, would be read as a mark. -/
def marksFirst (c : Char) (rest : List Char) : Bool :=
  "#,[]\x7b\x7d&*!|>\x27\"%@\x60".toList.contains c
    || ((c == '?' || c == ':' || c == '-') && blankNext rest)

/-- Whether a later character, between `before` and `rest`, would be read as a mark. -/
def marksInside (before c : Char) (rest : List Char) : Bool :=
  (c == ':' && blankNext rest) || (c == '#' && blankNext [before])

/-- Whether a property of two neighbours holds somewhere in a string. -/
def anyNeighbours (p : Char → Char → Bool) : List Char → Bool
  | a :: b :: r => p a b || anyNeighbours p (b :: r)
  | _ => false

/-- Whether a character behind the first would be read as a mark. -/
def anyMarksInside : List Char → Bool
  | a :: b :: r => marksInside a b r || anyMarksInside (b :: r)
  | _ => false

namespace Traits

def of (s : List Char) : Traits where
  marks :=
    s.take 3 == ['-', '-', '-'] || s.take 3 == ['.', '.', '.'] || anyMarksInside s ||
      match s with
      | [] => false
      | c :: r => marksFirst c r
  breaks := s.any isBreak
  unprintable := s.any fun c => !isPrintable c
  blankEdge :=
    let blank (c : Char) : Bool := c == ' ' || isBreak c
    s.head?.any blank || s.getLast?.any blank
  spaceLast := s.getLast? == some ' '
  breakThenSpace := anyNeighbours (fun a b => isBreak a && b == ' ') s
  spaceThenBreak := anyNeighbours (fun a b => a == ' ' && isBreak b) s

/-- Whether a string can do without quotes. -/
def plainAllowed (t : Traits) : Bool :=
  !(t.blankEdge || t.breakThenSpace || t.spaceThenBreak || t.unprintable || t.breaks || t.marks)

/-- Whether a string can stand in single quotes. -/
def singleAllowed (t : Traits) : Bool :=
  !(t.breakThenSpace || t.spaceThenBreak || t.unprintable)

def blockAllowed (t : Traits) : Bool :=
  !(t.spaceLast || t.spaceThenBreak || t.unprintable)

end Traits

/-- Whether a string without quotes would be read as a value of another kind or as a padded
number. -/
def readsOtherwise (s : List Char) : Bool :=
  Plain.ofText s ≠ .text || Plain.isPadded s

def styleOf (s : List Char) : ScalarStyle :=
  let t := Traits.of s
  let quotes : ScalarStyle := if t.singleAllowed then .singleQuoted else .doubleQuoted
  if s.contains '\n' then if t.blockAllowed then .literal else .doubleQuoted
  else if readsOtherwise s then quotes
  else if t.plainAllowed then .plain
  else quotes

/-- Whether a string can be a key on one line with its value. -/
def isSimpleKey (s : List Char) : Bool :=
  !(s.any isBreak) && s.foldl (fun n c => n + c.utf8Size) 0 ≤ 128

end Roster.Yaml
