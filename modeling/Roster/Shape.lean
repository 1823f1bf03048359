import Roster.Number.Shortest
import Roster.Text.Quoted

/-! # Values of the wrong kind

What was found where a value of another kind was expected, in the words of
messages.
-/
namespace Roster

/-- A value as a message about its kind shows it. -/
inductive Found where
  | null
  | unit
  | bool (b : Bool)
  | integer (z : Int)
  | float (text : String)
  | string (s : String)
  | sequence
  | map
  | enumeration
  deriving DecidableEq

namespace Found

def text : Found → String
  | null => "null"
  | unit => "unit value"
  | bool b => "boolean \x60" ++ (if b then "true" else "false") ++ "\x60"
  | integer z => "integer \x60" ++ toString z ++ "\x60"
  | float t => "floating point \x60" ++ t ++ "\x60"
  | string s => "string " ++ Text.quoted s
  | sequence => "sequence"
  | map => "map"
  | enumeration => "enum"

def wrongKind (f : Found) (expected : String) : String :=
  "invalid type: " ++ f.text ++ ", expected " ++ expected

/-- The message for a value of the right kind that cannot be used. -/
def wrongValue (f : Found) (expected : String) : String :=
  "invalid value: " ++ f.text ++ ", expected " ++ expected

end Found

/-- The message for a word that is none of the words of a list. -/
def unknownWord (kind word : String) (words : List String) : String :=
  let tick (s : String) := "\x60" ++ s ++ "\x60"
  "unknown " ++ kind ++ " " ++ tick word ++
    match words with
    | [] => ", there are no " ++ kind ++ "s"
    | [w] => ", expected " ++ tick w
    | [v, w] => ", expected " ++ tick v ++ " or " ++ tick w
    | ws => ", expected one of " ++ ", ".intercalate (ws.map tick)

end Roster
