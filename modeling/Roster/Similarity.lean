/-! # How well a text matches another

A pattern matches a text if its characters occur in the text in their order. The
score of the best way to find them counts the characters, and more for those
that start a word or follow each other directly; gaps between them cost.
-/
namespace Roster.Similarity

/-- What a character is for the words of a text. -/
inductive Kind where
  | start
  | separator
  | sign
  | digit
  | upper
  | lower
  deriving DecidableEq

/-- Blanks, slashes and brackets separate words; other ASCII signs only part them. -/
def Kind.of (c : Char) : Kind :=
  if c = '\x00' then start
  else if " /\\|()[]\x7b\x7d".toList.contains c then separator
  else if c.isDigit then digit
  else if c.isUpper then upper
  else if '!' ≤ c ∧ c ≤ '~' ∧ !c.isAlpha then sign
  else lower

/-- What a character is worth because of the kind of the one before it. -/
def bonusBehind (before : Kind) (c : Char) : Int :=
  match before, Kind.of c with
  | .start, _ | .separator, _ => 8
  | .sign, _ => 7
  | .lower, .upper | .digit, .upper => 6
  | _, _ => 0

/-- The characters of a text, each with its bonus. -/
def bonusesBehind (before : Kind) : List Char → List (Char × Int)
  | [] => []
  | c :: r => (c, bonusBehind before c) :: bonusesBehind (Kind.of c) r

/-- The characters of a text, each with its bonus; that of the first counts twice. -/
def bonuses (text : List Char) : List (Char × Int) :=
  match bonusesBehind .start text with
  | [] => []
  | (c, b) :: r => (c, 2 * b) :: r

/-- The scores of the best ways to place some characters of the pattern into a start of the text:
with the last of them on the last character there, or before it. -/
structure Cell where
  placed : Option Int
  passed : Option Int

def better : Option Int → Option Int → Option Int
  | some a, some b => some (max a b)
  | some a, none => some a
  | none, b => b

/-- A score with something added. -/
def plus (s : Option Int) (n : Int) : Option Int :=
  s.map (· + n)

/-- What it is worth that a character of the pattern is found. -/
def found? (exact : Bool) (p c : Char) : Option Int :=
  if p = c then some 16
  else if !exact && p.toLower == c.toLower then some 14
  else none

/-- The cells for one more character of the pattern, behind the cell `left`. The list `above` has
the cells without it, from the one before the next character of the text on. -/
def row (exact : Bool) (p : Char) (left : Cell) : List (Char × Int) → List Cell → List Cell
  | (c, bonus) :: text, up :: above =>
    let before := better (plus up.placed (max bonus 4)) (plus up.passed bonus)
    let cell : Cell :=
      { placed := (found? exact p c).bind (plus before)
        passed := better (plus left.placed (-3)) (plus left.passed (-1)) }
    cell :: row exact p cell text above
  | _, _ => []

/-- The cells for a pattern of which nothing has been placed. -/
def blankRow (text : List Char) : List Cell :=
  (⟨none, some (-1)⟩ : Cell) :: text.map fun _ => ⟨none, some (-1)⟩

/-- How well a pattern matches a text. Capital letters in the pattern make case count. -/
def score (text pattern : String) : Option Int :=
  if pattern.isEmpty then some 0
  else
    let cs := text.toList
    let exact := pattern.toList.any Char.isUpper
    let columns := bonuses cs
    let last := pattern.toList.foldl
      (fun above p => (⟨none, none⟩ : Cell) :: row exact p ⟨none, none⟩ columns above)
      (blankRow cs)
    last.foldl (fun best c => better best c.placed) none

end Roster.Similarity
