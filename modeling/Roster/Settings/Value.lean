import Roster.Number.Shortest
import Roster.Text.Quoted
import Roster.Yaml.Reading

/-! # Values of settings

A setting has a truth value, a number or a text; of lists and mappings only that
they are there counts, since no setting takes one.
-/
namespace Roster

inductive SettingValue where
  | nothing
  | bool (b : Bool)
  | unsigned (n : Nat)
  | signed (z : Int)
  | real (text : String)
  | character (c : Char)
  | text (s : String)
  | sequence
  | mapping
  deriving DecidableEq, Repr

namespace SettingValue

def found : SettingValue → String
  | nothing => "unit"
  | bool b => "bool " ++ (if b then "true" else "false")
  | unsigned n => "unsigned int \x60" ++ toString n ++ "\x60"
  | signed z => "signed int \x60" ++ toString z ++ "\x60"
  | real t => "float \x60" ++ t ++ "\x60"
  | character c => "char " ++ Text.quotedChar c
  | text s => "string " ++ Text.quoted s
  | sequence => "sequence"
  | mapping => "map"

/-- The text of a number as messages show it. -/
def realText (d : Double) : String :=
  String.ofList (d.write Double.messageLayout)

/-- The value of a YAML scalar. An integer with a minus sign is a signed one. -/
def ofPlain (s : List Char) : Yaml.Plain → SettingValue
  | .null => nothing
  | .bool b => bool b
  | .int z => if s.head? = some '-' then signed z else unsigned z.toNat
  | .real (.finite d) => real (realText d)
  | .real r => real r.text
  | .text => text (String.ofList s)

def yamlTarget : Yaml.Target SettingValue where
  scalar s p := .ok (ofPlain s p)
  sequence _ := sequence
  mapping _ := mapping
  expected := "any valid figment value"
  expectedKey := "a string"

end SettingValue

end Roster
