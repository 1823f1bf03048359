/-! # White space

A character is blank when Unicode gives it the property `White_Space`. Trimming
removes blank characters from an end of a text and nothing else, so a trimmed
text neither starts nor ends with one.
-/
namespace Roster.Text

/-- The characters with the Unicode property `White_Space`. -/
def isBlank (c : Char) : Bool :=
  let n := c.val.toNat
  (9 ≤ n && n ≤ 13) || n == 0x20 || n == 0x85 || n == 0xA0 || n == 0x1680 ||
    (0x2000 ≤ n && n ≤ 0x200A) || n == 0x2028 || n == 0x2029 || n == 0x202F ||
    n == 0x205F || n == 0x3000

/-- Space, tab, line feed, form feed and carriage return. -/
def isAsciiBlank (c : Char) : Bool :=
  c == ' ' || c == '\t' || c == '\n' || c == '\x0c' || c == '\r'

/-- The text without its leading blank characters. -/
def trimStart (s : List Char) : List Char :=
  s.dropWhile isBlank

/-- The text without its trailing characters that satisfy `p`. -/
def dropTrailing (p : Char → Bool) : List Char → List Char
  | [] => []
  | c :: r =>
    match dropTrailing p r with
    | [] => if p c then [] else [c]
    | d :: t => c :: d :: t

/-- The text without its trailing blank characters. -/
def trimEnd (s : List Char) : List Char :=
  dropTrailing isBlank s

/-- The text without blank characters at either end. -/
def trim (s : List Char) : List Char :=
  trimEnd (trimStart s)

/-- Whether the text has blank characters only. -/
def isAllBlank (s : List Char) : Bool :=
  s.all isBlank

def trimmed (s : String) : String :=
  String.ofList (trim s.toList)

@[simp]
theorem trimStart_nil : trimStart [] = [] := rfl

@[simp]
theorem trimEnd_nil : trimEnd [] = [] := rfl

theorem trimStart_cons (c : Char) (r : List Char) :
    trimStart (c :: r) = if isBlank c then trimStart r else c :: r := by
  simp only [trimStart, List.dropWhile_cons]

theorem dropTrailing_eq_nil_iff (p : Char → Bool) (s : List Char) :
    dropTrailing p s = [] ↔ ∀ c ∈ s, p c = true := by
  induction s with
  | nil => simp [dropTrailing]
  | cons c r ih =>
    rw [dropTrailing]
    split
    · next h =>
      rw [ih] at h
      by_cases hc : p c
      · simpa [hc] using h
      · simp [hc]
    · next h =>
      have : ¬ ∀ c ∈ r, p c = true := by rw [← ih, h]; simp
      simp [this]

end Roster.Text
