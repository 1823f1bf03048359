/-! # Maps between characters

A map from code points to code points is a list of runs. In a run every
`stride`-th code point from `first` to `last` is moved by the same distance,
so that `first` goes to `target`. A code point of no run stays as it is.
-/
namespace Roster.Unicode

/-- Code points that are moved by the same distance. -/
structure Run where
  first : Nat
  last : Nat
  stride : Nat
  target : Nat
  deriving DecidableEq

namespace Run

/-- Where the run moves a code point that is in it. -/
def move? (r : Run) (n : Nat) : Option Nat :=
  if r.first ≤ n ∧ n ≤ r.last ∧ (n - r.first) % r.stride = 0 then some (n - r.first + r.target)
  else none

/-- The code point that the run moves to `n`, if there is one. -/
def source? (r : Run) (n : Nat) : Option Nat :=
  let back := n - r.target + r.first
  if r.target ≤ n ∧ back ≤ r.last ∧ (back - r.first) % r.stride = 0 then some back
  else none

/-- What the run moves to `n` is moved there by it. -/
theorem move?_source? {r : Run} {n m : Nat} (h : r.source? n = some m) : r.move? m = some n := by
  simp only [source?] at h
  split at h
  · rename_i hb
    cases h
    simp only [move?]
    rw [if_pos ⟨by omega, hb.2.1, hb.2.2⟩]
    congr 1
    omega
  · cases h

end Run

/-- A run of neighbours or of every `stride`-th code point. -/
def run (first last stride target : Nat) : Run := ⟨first, last, stride, target⟩

def one (n target : Nat) : Run := ⟨n, n, 1, target⟩

namespace CharMap

def move (m : List Run) (n : Nat) : Nat :=
  (m.findSome? (·.move? n)).getD n

/-- The code points that a list of runs moves to `n`. -/
def sources (m : List Run) (n : Nat) : List Nat :=
  m.filterMap (·.source? n)

end CharMap

end Roster.Unicode
