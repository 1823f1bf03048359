import Roster.Json.Shape
import Roster.Text.Blank
import Roster.Unicode.Case

/-! # Words for values

A type whose values are named by words, with the words and other spellings by
which each value can be asked for. Case and surrounding blank characters do not
count when a word is read; in a field of a document they do.
-/
namespace Roster

/-- The words for the values of a type. -/
class Vocabulary (α : Type) where
  /-- What the values are called. -/
  noun : String
  /-- All values, in the order in which messages list them. -/
  values : List α
  /-- The word for a value. -/
  word : α → String
  /-- Other spellings of a value. -/
  spellings : α → List String
  /-- A character that is read as another. -/
  reads : Char → Char
  /-- The value that stands for a word that cannot be read. -/
  fallback : α

namespace Vocabulary

variable {α : Type} [Vocabulary α]

def words (α : Type) [Vocabulary α] : List String :=
  (values : List α).map word

/-- A text in the form in which words are compared. -/
def normalize (α : Type) [Vocabulary α] (s : String) : String :=
  String.ofList ((Unicode.Case.lower (Text.trimmed s)).toList.map (reads α))

/-- Whether a normalized text asks for a value. -/
def names (s : String) (a : α) : Bool :=
  s == word a || (spellings a).contains s

/-- Why a text is none of the words. -/
def unknown (α : Type) [Vocabulary α] (s : String) : String :=
  "unknown " ++ noun α ++ " '" ++ normalize α s ++ "', expected one of: " ++
    ", ".intercalate (words α)

/-- The value that a text asks for. -/
def parse (s : String) : Except String α :=
  match values.find? (names (normalize α s)) with
  | some a => .ok a
  | none => .error (unknown α s)

theorem eq_unknown_of_parse_eq_error {s reason : String}
    (h : (parse s : Except String α) = .error reason) : reason = unknown α s := by
  unfold parse at h
  split at h
  · cases h
  · exact (Except.error.inj h).symm

theorem prefix_unknown (s : String) :
    ("unknown " ++ noun α ++ " '").toList <+: (unknown α s).toList := by
  simp [unknown]

def ofWord? (s : String) : Option α :=
  values.find? fun a => word a == s

/-- The value whose word a field holds. A word may also be the only key of an object without a
value. -/
def ofJson : Shape α
  | .string s => named s
  | .object [(s, v)] => do
    let a ← named s
    match v with
    | .null => pure a
    | v => Shape.refuse "unit" v
  | .object _ => .error (Found.wrongValue .map "map with a single key")
  | v => Shape.refuse "string or map" v
where
  named (s : String) : Except String α :=
    match ofWord? s with
    | some a => .ok a
    | none => .error (unknownWord "variant" s (words α))

def toJson (a : α) : Json :=
  .string (word a)

end Vocabulary

end Roster
