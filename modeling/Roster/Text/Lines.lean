/-! # Lines

A text is cut after each line feed. No character is lost: the lines put together
are the text, and only the last of them may lack its line feed.
-/
namespace Roster.Text

/-- The lines of a text, each with the line feed that ends it. -/
def lines : List Char → List (List Char)
  | [] => []
  | c :: r =>
    if c = '\n' then [c] :: lines r
    else match lines r with
      | [] => [[c]]
      | l :: ls => (c :: l) :: ls

@[simp]
theorem lines_nil : lines [] = [] := rfl

theorem lines_eq_nil_iff (s : List Char) : lines s = [] ↔ s = [] := by
  cases s with
  | nil => simp
  | cons c r =>
    rw [lines]
    split
    · simp
    · split <;> simp

/-- Cutting a text into lines loses nothing. -/
theorem flatten_lines (s : List Char) : (lines s).flatten = s := by
  induction s with
  | nil => rfl
  | cons c r ih =>
    rw [lines]
    split
    · simp [ih]
    · split
      · next h => rw [h] at ih; simp at ih; simp [ih]
      · next h => rw [h] at ih; simp at ih; simp [ih]

/-- The parts of a text between the characters `sep`. -/
def splitOn (sep : Char) : List Char → List (List Char)
  | [] => [[]]
  | c :: r =>
    if c = sep then [] :: splitOn sep r
    else match splitOn sep r with
      | [] => [[c]]
      | p :: ps => (c :: p) :: ps

/-- What stands before and after the first character `sep`, if there is one. -/
def cutAt (sep : Char) : List Char → Option (List Char × List Char)
  | [] => none
  | c :: r =>
    if c = sep then some ([], r)
    else (cutAt sep r).map fun (a, b) => (c :: a, b)

/-- Texts put together with `sep` between neighbours. -/
def joinWith (sep : String) : List String → String
  | [] => ""
  | [s] => s
  | s :: t :: r => s ++ sep ++ joinWith sep (t :: r)

end Roster.Text
