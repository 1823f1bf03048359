import Roster.Pattern.Form
import Roster.Text.Blank
import Roster.Unicode.Case
import Roster.Unicode.Category
import Roster.Unicode.Property
import Roster.Unicode.Script

/-! # Sets of characters

The sets that classes and properties stand for. A set is known by its members;
beside it stands about how much room it takes in a compiled pattern.
-/
namespace Roster.Pattern

/-- A set of characters, and its weight in a compiled pattern. -/
structure CharSet where
  has : Char → Bool
  weight : Nat

namespace CharSet

def empty : CharSet := ⟨fun _ => false, 0⟩

def range (low high : Char) : CharSet :=
  ⟨fun c => low ≤ c && c ≤ high, if high.toNat < 128 then 8 else 68⟩

def ofRanges (r : Unicode.Ranges) : CharSet :=
  ⟨r.has, 68 * r.ranges.size⟩

def union (a b : CharSet) : CharSet :=
  ⟨fun c => a.has c || b.has c, a.weight + b.weight⟩

def inter (a b : CharSet) : CharSet :=
  ⟨fun c => a.has c && b.has c, a.weight + b.weight⟩

def diff (a b : CharSet) : CharSet :=
  ⟨fun c => a.has c && !b.has c, a.weight + b.weight⟩

def symmDiff (a b : CharSet) : CharSet :=
  ⟨fun c => a.has c != b.has c, a.weight + b.weight⟩

/-- The characters that are not in a set; the weight is that of the set and of all characters. -/
def compl (a : CharSet) : CharSet :=
  ⟨fun c => !a.has c, a.weight + 1000⟩

/-- The set with all characters that differ from one of it only by case. -/
def closeCase (a : CharSet) : CharSet :=
  ⟨fun c => (Unicode.Case.alike c.toNat).any fun n => a.has (Char.ofNat n), 2 * a.weight⟩

/-- The set with both cases of its ASCII letters. -/
def closeAsciiCase (a : CharSet) : CharSet :=
  ⟨fun c => a.has c || (c.toNat < 128 && (a.has c.toLower || a.has c.toUpper)), 2 * a.weight⟩

def unions (l : List CharSet) : CharSet :=
  l.foldl union empty

/-- The letters, marks, decimal digits, connectors and joiners that words consist of. -/
def word : CharSet :=
  ⟨fun c =>
    if c.toNat < 128 then c.isAlphanum || c = '_'
    else
      Unicode.Property.alphabetic.has c || Unicode.Category.decimalNumber.has c ||
        Unicode.Category.nonspacingMark.has c || Unicode.Category.spacingMark.has c ||
        Unicode.Category.enclosingMark.has c || Unicode.Category.connectorPunctuation.has c ||
        Unicode.Property.joinControl.has c, 53000⟩

/-- The ASCII characters that words consist of. -/
def asciiWord : CharSet :=
  ⟨fun c => c.isAlphanum || c = '_', 32⟩

end CharSet

namespace AsciiClass

def toSet : AsciiClass → CharSet
  | alnum => .unions [.range '0' '9', .range 'A' 'Z', .range 'a' 'z']
  | alpha => .unions [.range 'A' 'Z', .range 'a' 'z']
  | ascii => .range '\x00' '\x7f'
  | blank => .unions [.range '\t' '\t', .range ' ' ' ']
  | cntrl => .unions [.range '\x00' '\x1f', .range '\x7f' '\x7f']
  | digit => .range '0' '9'
  | graph => .range '!' '~'
  | lower => .range 'a' 'z'
  | print => .range ' ' '~'
  | punct => .unions [.range '!' '/', .range ':' '@', .range '[' '\x60', .range '\x7b' '~']
  | space => .unions [.range '\t' '\r', .range ' ' ' ']
  | upper => .range 'A' 'Z'
  | word => .asciiWord
  | xdigit => .unions [.range '0' '9', .range 'A' 'F', .range 'a' 'f']

end AsciiClass

namespace Shorthand

def toSet : Shorthand → CharSet
  | digit => .ofRanges Unicode.Category.decimalNumber
  | space => .ofRanges Unicode.Property.whiteSpace
  | word => .word

def toAsciiSet : Shorthand → CharSet
  | digit => AsciiClass.digit.toSet
  | space => AsciiClass.space.toSet
  | word => .asciiWord

end Shorthand

/-- Why a query finds no property. -/
inductive QueryFlaw where
  | name
  | value
  deriving DecidableEq

namespace Query

/-- A name as it is compared: in lower case, without what stands between its words and without a
leading "is". The name "isc" does not lose it. -/
def normalize (name : String) : String :=
  let cs := name.toList
  let starts := (cs.take 2).map Char.toLower == ['i', 's']
  let cs := (if starts then cs.drop 2 else cs).filter fun c =>
    c != ' ' && c != '_' && c != '-' && c.toNat < 128
  let cs := cs.map Char.toLower
  if starts && cs == ['c'] then "isc" else String.ofList cs

/-- The sets that combine categories, by their names. -/
def groupedCategories : List (String × String × List String) := [
  ("lc", "casedletter", ["lu", "ll", "lt"]),
  ("l", "letter", ["lu", "ll", "lt", "lm", "lo"]),
  ("m", "mark", ["mn", "mc", "me"]),
  ("n", "number", ["nd", "nl", "no"]),
  ("p", "punctuation", ["pc", "pd", "ps", "pe", "pi", "pf", "po"]),
  ("s", "symbol", ["sm", "sc", "sk", "so"]),
  ("z", "separator", ["zs", "zl", "zp"]),
  ("c", "other", ["cc", "cf", "co", "cn"])]

def categoryAlias : String → String
  | "combiningmark" => "m"
  | "punct" => "p"
  | "digit" => "nd"
  | "cntrl" => "cc"
  | n => n

def category? (name : String) : Option CharSet :=
  let name := categoryAlias name
  if name = "any" then some CharSet.empty.compl
  else if name = "assigned" then some (CharSet.ofRanges Unicode.Category.unassigned).compl
  else if name = "ascii" then some AsciiClass.ascii.toSet
  else
    match Unicode.Category.table.find? fun e => e.1 = name || e.2.1 = name with
    | some (_, _, r) => some (.ofRanges r)
    | none =>
      (groupedCategories.find? fun e => e.1 = name || e.2.1 = name).map fun e =>
        .unions ((Unicode.Category.table.filter fun c => e.2.2.contains c.1).map fun c =>
          .ofRanges c.2.2)

/-- A script by one of its names, with or without the characters it shares with other scripts. -/
def script? (shared : Bool) (name : String) : Option CharSet :=
  (Unicode.Script.table.find? fun e => e.1 = name || e.2.1 = name).map fun e =>
    .ofRanges (if shared then e.2.2.2 else e.2.2.1)

/-- A property that a character has or has not, by one of its names. -/
def property? (name : String) : Option CharSet :=
  (Unicode.Property.table.find? fun e => e.1 = name || e.2.1 = name).map fun e => .ofRanges e.2.2

/-- Names of values that no character can have, or of which no set is kept. -/
def withoutSet (name : String) : Bool :=
  ["cs", "surrogate", "hrkt", "katakanaorhiragana"].contains name

/-- What is known by a name alone: a property, a category or a script. -/
def named (name : String) : Except QueryFlaw CharSet :=
  let name := normalize name
  let property := if ["cf", "sc", "lc"].contains name then none else property? name
  match property.or ((category? name).or (script? false name)) with
  | some s => .ok s
  | none => .error (if withoutSet name then .value else .name)

/-- Names of properties of which no value has a set here. -/
def otherProperties : List String := [
  "age", "blk", "block", "bc", "bidiclass", "bpt", "bidipairedbrackettype", "bmg",
  "bidimirroringglyph", "bpb", "bidipairedbracket", "ccc", "canonicalcombiningclass", "dm",
  "decompositionmapping", "dt", "decompositiontype", "ea", "eastasianwidth", "gcb",
  "graphemeclusterbreak", "hst", "hangulsyllabletype", "inpc", "indicpositionalcategory", "insc",
  "indicsyllabiccategory", "jg", "joininggroup", "jt", "joiningtype", "lb", "linebreak", "na",
  "name", "nt", "numerictype", "nv", "numericvalue", "sb", "sentencebreak", "vo",
  "verticalorientation", "wb", "wordbreak"]

def valued (name value : String) : Except QueryFlaw CharSet :=
  let name := normalize name
  let value := normalize value
  let found (s : Option CharSet) : Except QueryFlaw CharSet :=
    match s with
    | some s => .ok s
    | none => .error .value
  if name = "gc" ∨ name = "generalcategory" then found (category? value)
  else if name = "sc" ∨ name = "script" then found (script? false value)
  else if name = "scx" ∨ name = "scriptextensions" then found (script? true value)
  else
    let isKnown := (property? name).isSome || otherProperties.contains name
    .error (if isKnown then .value else .name)

def resolve : Query → Except QueryFlaw CharSet
  | name n => named n
  | value n v => valued n v

end Query

end Roster.Pattern
