import Roster.Vocabulary

/-! # Scopes

The tiers in which documents are found, in ascending order of precedence.
-/
namespace Roster

/-- A tier of documents. -/
inductive Scope where
  | default | global | project
  deriving DecidableEq, Repr, Inhabited

namespace Scope

/-- All tiers, each before those that take precedence over it. -/
def all : List Scope := [default, global, project]

def word : Scope → String
  | default => "default"
  | global => "global"
  | project => "project"

instance : Vocabulary Scope where
  noun := "scope"
  values := all
  word := word
  spellings
    | default => ["builtin"]
    | global => ["user"]
    | project => ["local"]
  reads := id
  fallback := default

end Scope

end Roster
