import Roster.Unicode.Category
import Roster.Unicode.Property

/-! # Quoted text

A text as messages quote it: between double quotes, with escapes for the quote,
the backslash, the control characters that have a letter, and every character
that cannot be seen on its own.
-/
namespace Roster.Text

/-- The categories of characters that cannot be seen: controls, formats, private and unassigned
code points, and separators. -/
def invisibleCategories : List Unicode.Ranges :=
  [Unicode.Category.control, Unicode.Category.format, Unicode.Category.privateUse,
   Unicode.Category.unassigned, Unicode.Category.lineSeparator,
   Unicode.Category.paragraphSeparator, Unicode.Category.spaceSeparator]

/-- Whether a character other than the space can be seen on its own. -/
def isVisible (c : Char) : Bool :=
  if c.toNat < 127 then 32 ≤ c.toNat
  else !(Unicode.Property.graphemeExtend.has c || invisibleCategories.any (·.has c))

/-- A character as it stands between quotes. -/
def quoteChar (c : Char) : List Char :=
  if c = '"' then ['\\', '"']
  else if c = '\\' then ['\\', '\\']
  else if c = '\n' then ['\\', 'n']
  else if c = '\r' then ['\\', 'r']
  else if c = '\t' then ['\\', 't']
  else if c = '\x00' then ['\\', '0']
  else if isVisible c then [c]
  else ['\\', 'u', '\x7b'] ++ Nat.toDigits 16 c.toNat ++ ['\x7d']

def quoted (s : String) : String :=
  String.ofList ('"' :: (s.toList.flatMap quoteChar ++ ['"']))

def quotedChar (c : Char) : String :=
  let body := if c = '\x27' then ['\\', '\x27'] else if c = '"' then ['"'] else quoteChar c
  String.ofList ('\x27' :: (body ++ ['\x27']))

end Roster.Text
