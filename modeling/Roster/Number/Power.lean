/-! # Powers of two and ten

The weights of binary and of decimal digits.
-/
namespace Roster

/-- The weight of a binary digit behind which `n` others stand. -/
def twoTo (n : Nat) : Nat := Nat.pow 2 n

/-- The weight of a decimal digit behind which `n` others stand. -/
def tenTo (n : Nat) : Nat := Nat.pow 10 n

end Roster
