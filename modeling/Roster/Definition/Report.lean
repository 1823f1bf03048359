import Roster.Definition.Issue

/-! # Reports

The errors and warnings about a definition, and whether it is valid, which is
noted beside the errors while they are added.
-/
namespace Roster

/-- The errors and warnings about a definition. -/
structure Report where
  /-- Whether no error was added. -/
  isValid : Bool
  errors : List String
  warnings : List String
  deriving DecidableEq, Repr

namespace Report

def empty : Report := ⟨true, [], []⟩

def error (r : Report) (message : String) : Report :=
  { r with errors := r.errors ++ [message], isValid := false }

def warning (r : Report) (message : String) : Report :=
  { r with warnings := r.warnings ++ [message] }

/-- Whether an issue is about the value of a field without which a definition is not what it
says. -/
def isEssential (essential : List String) (i : Issue) : Bool :=
  i.kind == .invalidValue && essential.contains i.field

def named (i : Issue) : String :=
  i.field ++ ": " ++ i.message

def failEssential (r : Report) (issues : List Issue) (essential : List String) : Report :=
  (issues.filter (isEssential essential)).foldl (fun r i => r.error (named i)) r

def warnOthers (r : Report) (issues : List Issue) (essential : List String) : Report :=
  (issues.filter fun i => !isEssential essential i).foldl
    (fun r i => r.warning (match i.kind with
      | .unknownField => i.message
      | .invalidValue => named i)) r

def toJson (r : Report) : Json :=
  .object [("is_valid", .bool r.isValid), ("errors", .strings r.errors),
    ("warnings", .strings r.warnings)]

end Report

end Roster
