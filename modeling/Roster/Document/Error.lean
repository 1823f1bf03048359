/-! # Faulty documents

Why a text is no document, or why a document cannot be written. Lines and
columns count from one, in the whole text.
-/
namespace Roster

inductive DocumentError where
  /-- No front matter block starts the text. -/
  | missingFrontMatter
  /-- The block that opens on this line has no end. -/
  | unterminated (line : Nat)
  | invalidYaml (line column : Nat) (reason : String)
  /-- The block that opens on this line holds something other than a mapping. -/
  | notAMapping (line : Nat)
  | unwritable (reason : String)
  deriving DecidableEq, Repr

namespace DocumentError

def message : DocumentError → String
  | missingFrontMatter => "document must start with a YAML front matter block (---)"
  | unterminated line =>
    "front matter opened on line " ++ toString line ++
      " is not terminated (missing closing ---)"
  | invalidYaml line column reason =>
    "invalid YAML in front matter at line " ++ toString line ++ ", column " ++
      toString column ++ ": " ++ reason
  | notAMapping line =>
    "front matter starting on line " ++ toString line ++
      " must be a mapping of keys to values"
  | unwritable reason => "failed to serialize front matter: " ++ reason

def line? : DocumentError → Option Nat
  | missingFrontMatter => some 1
  | unterminated line | invalidYaml line _ _ | notAMapping line => some line
  | unwritable _ => none

end DocumentError

end Roster
