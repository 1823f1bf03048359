import Roster.Json.Basic
import Roster.Proofs.Number.Decimal

/-! # Integers as doubles

A double has 53 binary digits. An integer with more of them is rounded to the
digits in front, half to even, and what comes out is an integer again.
-/
namespace Roster

namespace Double

/-- A natural number rounded to its first 53 binary digits, half to even. -/
def shorten (m : Nat) : Nat :=
  roundHalfEven m (2 ^ (m.log2 - 52)) * 2 ^ (m.log2 - 52)

/-- An integer rounded to its first 53 binary digits, half to even. -/
def nearest (z : Int) : Int :=
  if z < 0 then -shorten z.natAbs else shorten z.natAbs

variable {m sig : Nat} {exp : Int} {neg : Bool} {d : Double} {z : Int}

theorem shorten_of_lt (h : m < 2 ^ 53) : shorten m = m := by
  have hlog : m.log2 - 52 = 0 := by
    by_cases hm : m = 0
    · subst hm
      decide
    · have := (Nat.log2_lt hm).mpr h
      omega
  have hround := roundHalfEven_mul m Nat.one_pos
  rw [Nat.mul_one] at hround
  rw [shorten, hlog, pow_zero, hround, Nat.mul_one]

theorem toRat_of_ofParts? (h : ofParts? neg sig exp = some d) (hexp : 0 ≤ exp) :
    d.toRat = ((if neg then -(sig * 2 ^ exp.toNat : Nat) else (sig * 2 ^ exp.toNat : Nat) : Int)
      : ℚ) := by
  rw [ofParts?] at h
  split at h
  · cases h
    have hshift : (exp + 1074).toNat = exp.toNat + 1074 := by omega
    have hunits : (sig * twoTo (exp + 1074).toNat : Int) =
        (sig * 2 ^ exp.toNat : Nat) * twoTo 1074 := by
      rw [hshift, twoTo_add, twoTo_eq exp.toNat, Nat.cast_mul, Nat.cast_mul, mul_assoc]
    rw [toRat_eq_intCast_iff, units, hunits]
    cases neg with
    | false => rw [if_neg Bool.false_ne_true, if_neg Bool.false_ne_true]
    | true => rw [if_pos rfl, if_pos rfl, Int.neg_mul]
  · cases h

/-- A natural number with more than 53 digits is rounded to its first ones. -/
theorem toRat_of_ofRatio_one (hm : 2 ^ 52 ≤ m) (h : ofRatio neg m 1 = some d) :
    d.toRat = ((if neg then -(shorten m : Int) else shorten m : Int) : ℚ) := by
  have hne : m ≠ 0 := by
    rintro rfl
    simp at hm
  have hlog : 52 ≤ m.log2 := (Nat.le_log2 hne).mpr hm
  have he : (m.log2 : Int) - 52 = (m.log2 - 52 : Nat) := by omega
  generalize hk : m.log2 - 52 = k at he
  have hscale : scaleBy m 1 (k : Int) = (m, 2 ^ k) := by
    rw [scaleBy_one]
    simp
  rw [ofRatio_one_eq neg hne he, hscale] at h
  simp only [shorten, hk]
  -- all ones are rounded up to a power of two, which has its digits at the next exponent
  split at h
  · next hcarry =>
    have hvalue := toRat_of_ofParts? h (by omega)
    have hdouble : 4503599627370496 * 2 ^ ((k : Int) + 1).toNat = 9007199254740992 * 2 ^ k := by
      have hexp : ((k : Int) + 1).toNat = k + 1 := by omega
      rw [hexp, pow_succ]
      omega
    rw [hvalue, hdouble, hcarry]
  · have hvalue := toRat_of_ofParts? h (by omega)
    rw [hvalue]
    rfl

theorem toRat_ofInt_eq_nearest (h : z.natAbs.log2 < 1023) : (ofInt z).toRat = nearest z := by
  by_cases hsmall : z.natAbs < 2 ^ 53
  · rw [toRat_ofInt (.of_lt hsmall), nearest, shorten_of_lt hsmall]
    congr 1
    split <;> omega
  · have hvalue := toRat_of_ofRatio_one (by omega) (ofRatio_one_eq_ofInt h)
    simpa only [nearest, decide_eq_true_eq] using hvalue

theorem nearest_eq_self_iff (h : z.natAbs.log2 < 1023) : nearest z = z ↔ IsValue z.natAbs := by
  have hvalue := toRat_ofInt_eq_nearest h
  constructor
  · intro heq
    rw [heq] at hvalue
    exact isValue_of_toRat hvalue
  · intro hfew
    rw [toRat_ofInt hfew] at hvalue
    exact_mod_cast hvalue.symm

/-- Rounding does not take a number beyond the next power of two. -/
theorem shorten_le_of_lt {k : Nat} (h : m < 2 ^ k) : shorten m ≤ 2 ^ k := by
  by_cases hsmall : m < 2 ^ 53
  · rw [shorten_of_lt hsmall]
    exact h.le
  · have hne : m ≠ 0 := by
      rintro rfl
      simp at hsmall
    have hlog : 53 ≤ m.log2 := (Nat.le_log2 hne).mpr (not_lt.mp hsmall)
    have hlogk : m.log2 < k := (Nat.log2_lt hne).mpr h
    have hhigh : m < 2 ^ 53 * 2 ^ (m.log2 - 52) := by
      calc m < 2 ^ (m.log2 + 1) := Nat.lt_log2_self
        _ = 2 ^ 53 * 2 ^ (m.log2 - 52) := by
          rw [← pow_add]
          exact congrArg _ (by omega)
    have hround : roundHalfEven m (2 ^ (m.log2 - 52)) ≤ 2 ^ 53 :=
      (roundHalfEven_mem (Nat.zero_mul _ ▸ Nat.zero_le m) hhigh).2
    calc shorten m ≤ 2 ^ 53 * 2 ^ (m.log2 - 52) := Nat.mul_le_mul_right _ hround
      _ = 2 ^ (m.log2 + 1) := by
        rw [← pow_add]
        exact congrArg _ (by omega)
      _ ≤ 2 ^ k := Nat.pow_le_pow_right (by decide) hlogk

/-- An integer of 64 bits with a sign is rounded to one that is at most the next. -/
theorem nearest_bounds (h : -9223372036854775808 ≤ z ∧ z ≤ 9223372036854775807) :
    -9223372036854775808 ≤ nearest z ∧ nearest z ≤ 9223372036854775808 := by
  have hshort : shorten z.natAbs ≤ 9223372036854775808 := by
    by_cases hleast : z.natAbs = 9223372036854775808
    · rw [hleast]
      decide +kernel
    · exact shorten_le_of_lt (show z.natAbs < 2 ^ 63 by omega)
  rw [nearest]
  split <;> omega

end Double

namespace Integer

theorem natAbs_lt (i : Integer) : i.val.natAbs < 2 ^ 64 := by
  have hge := i.ge
  have hlt := i.lt
  omega

theorem natAbs_log2_lt (i : Integer) : i.val.natAbs.log2 < 1023 := by
  by_cases hzero : i.val.natAbs = 0
  · rw [hzero, Nat.log2_zero]
    decide
  · exact ((Nat.log2_lt hzero).mpr i.natAbs_lt).trans (by decide)

theorem toRat_toDouble (i : Integer) : i.toDouble.toRat = Double.nearest i.val :=
  Double.toRat_ofInt_eq_nearest i.natAbs_log2_lt

theorem toRat_toDouble_eq_iff (i j : Integer) :
    i.toDouble.toRat = j.toDouble.toRat ↔ Double.nearest i.val = Double.nearest j.val := by
  rw [toRat_toDouble, toRat_toDouble]
  exact Int.cast_inj

end Integer

end Roster
