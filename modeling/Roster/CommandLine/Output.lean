import Roster.CommandLine.Table
import Roster.Definition.Report
import Roster.Json.Printer
import Roster.Scope
import Roster.Yaml.Printer

/-! # Output

What a run answers: a status and the texts for the two output streams. Status 0
says that all is well, 1 that there is no answer, and 2 that what was checked is
not valid.
-/
namespace Roster.CommandLine

/-- The answer of a run. -/
structure Output where
  status : Nat
  out : String
  err : String
  deriving DecidableEq, Repr

namespace Output

def answer (text : String) : Output := ⟨0, text, ""⟩

def verdict (valid : Bool) (text : String) : Output := ⟨if valid then 0 else 2, text, ""⟩

def missing (reason : String) : Output := ⟨1, "", reason ++ "\n"⟩

def ofLines (l : List String) : String :=
  String.join (l.map (· ++ "\n"))

def jsonText (v : Json) : String :=
  v.pretty ++ "\n"

/-- A value as JSON or YAML text. -/
def shown (json : Bool) (v : Json) : String :=
  if json then jsonText v else String.ofList (Yaml.print v)

end Output

/-- A text of at most `max` characters: one that is too long loses its end, and three dots show
it. -/
def truncate (s : String) (max : Nat) : String :=
  let cs := s.toList
  if cs.length ≤ max then s else String.ofList (cs.take (max - 3)) ++ "..."

/-- How many characters of a description a table shows. -/
def longestDescription : Nat := 50

/-- The words for the tier that a definition comes from. -/
def tierLabel : Scope → String
  | .default => "📦 Built-in"
  | .global => "👤 User"
  | .project => "📁 Project"

def mark (valid : Bool) : String :=
  if valid then "✓ " else "✗ "

def reportLines (name : String) (r : Report) : List String :=
  (mark r.isValid ++ name) :: (r.errors.map ("    error: " ++ ·) ++
    r.warnings.map ("    warning: " ++ ·))

def reportJson (name : String) (r : Report) : Json :=
  .object [("name", .string name), ("validation", r.toJson)]

/-- A table of definitions and how many there are, or that there are none. -/
def listing (plural count : String) (header : List String) (rows : List (List String)) : String :=
  if rows.isEmpty then "No " ++ plural ++ " found.\n"
  else Output.ofLines [(Table.mk header rows).text, "", toString rows.length ++ " " ++ count]

end Roster.CommandLine
