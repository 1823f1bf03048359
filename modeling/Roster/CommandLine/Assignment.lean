import Roster.Json.Basic
import Roster.Text.Lines

/-! # Parameters on the command line

A parameter of a command is written as `COMMAND.KEY=VALUE`. The first equals sign
ends the key and the first dot before it ends the command, so a key may have dots
and a value may have anything.
-/
namespace Roster.CommandLine

/-- A text that is given for a parameter of a command. -/
structure Assignment where
  command : String
  key : String
  value : String
  deriving DecidableEq, Repr

namespace Assignment

/-- The assignment that a text writes, or what is wrong with it. -/
def parse (arg : String) : Except String Assignment :=
  match Text.cutAt '=' arg.toList with
  | none => .error ("expected COMMAND.KEY=VALUE, got '" ++ arg ++ "'")
  | some (target, value) =>
    match Text.cutAt '.' target with
    | none => .error ("expected COMMAND.KEY before '=', got '" ++ String.ofList target ++ "'")
    | some (command, key) =>
      if command.isEmpty || key.isEmpty then
        .error ("command and key must not be empty in '" ++ arg ++ "'")
      else .ok ⟨String.ofList command, String.ofList key, String.ofList value⟩

/-- The parameters of each command; of several values for one of them the last counts. -/
def group (l : List Assignment) : NameMap (NameMap Json) :=
  l.foldl (fun m a => m.insert a.command (((m.get? a.command).getD ∅).insert a.key
    (.string a.value))) ∅

end Assignment

end Roster.CommandLine
