import Roster.Number.Double
import Mathlib.Algebra.Order.Field.Rat
import Mathlib.Tactic.Positivity
import Mathlib.Tactic.Ring

/-! # Exact values

A double stands for a rational number, and doubles are compared as these. An
integer with at most 53 significant binary digits is a double: rounding does not
change it. In front of a large power of two there is a gap without any double.
-/
namespace Roster

theorem twoTo_eq (n : Nat) : twoTo n = 2 ^ n := rfl

theorem twoTo_pos (n : Nat) : 0 < twoTo n := Nat.two_pow_pos n

theorem twoTo_add (m n : Nat) : twoTo (m + n) = twoTo m * twoTo n := Nat.pow_add 2 m n

theorem twoTo_le_twoTo {m n : Nat} (h : m ≤ n) : twoTo m ≤ twoTo n :=
  Nat.pow_le_pow_right Nat.two_pos h

namespace Double

/-- The exact value of a number. -/
def toRat (d : Double) : ℚ := d.units / twoTo 1074

theorem unitsOfOne_pos : (0 : ℚ) < twoTo 1074 := Nat.cast_pos.mpr (twoTo_pos 1074)

theorem toRat_lt_toRat (a b : Double) : a.toRat < b.toRat ↔ a.units < b.units := by
  rw [toRat, toRat, div_lt_div_iff_of_pos_right unitsOfOne_pos]
  exact Int.cast_lt

theorem toRat_eq_toRat (a b : Double) : a.toRat = b.toRat ↔ a.units = b.units := by
  rw [toRat, toRat, div_left_inj' unitsOfOne_pos.ne']
  exact Int.cast_inj

theorem lt_iff (a b : Double) : a.lt b = true ↔ a.toRat < b.toRat := by
  rw [toRat_lt_toRat, lt, decide_eq_true_eq]

theorem sameValue_iff (a b : Double) : a.sameValue b = true ↔ a.toRat = b.toRat := by
  rw [toRat_eq_toRat, sameValue, beq_iff_eq]

theorem toRat_eq_intCast_iff (d : Double) (z : Int) : d.toRat = z ↔ d.units = z * twoTo 1074 := by
  rw [toRat, div_eq_iff unitsOfOne_pos.ne']
  norm_cast

theorem toInt?_eq_some_iff (d : Double) (z : Int) : d.toInt? = some z ↔ d.toRat = z := by
  have hpos : (0 : Int) < twoTo 1074 := Int.natCast_pos.mpr (twoTo_pos 1074)
  rw [toRat_eq_intCast_iff, toInt?]
  generalize (twoTo 1074 : Int) = one at hpos
  split
  · next h =>
    rw [Option.some_inj]
    constructor
    · rintro rfl
      rw [Int.ediv_mul_cancel (Int.dvd_of_emod_eq_zero h)]
    · intro hz
      rw [hz, Int.mul_ediv_cancel _ hpos.ne']
  · next h =>
    constructor
    · intro hz
      cases hz
    · intro hz
      rw [hz, Int.mul_emod_left] at h
      exact absurd rfl h

/-- The natural numbers that are values of numbers: they have at most 53 significant binary digits
and are not beyond the largest number. -/
def IsValue (m : Nat) : Prop :=
  ∃ sig e : Nat, sig < 2 ^ 53 ∧ e ≤ 971 ∧ m = sig * 2 ^ e

/-- The largest number. -/
def greatest : Nat := (2 ^ 53 - 1) * twoTo 971

namespace IsValue

variable {m : Nat}

theorem exists_dvd (h : IsValue m) (hm : m ≠ 0) :
    ∃ e : Nat, e ≤ 971 ∧ m.log2 < 53 + e ∧ 2 ^ e ∣ m := by
  obtain ⟨sig, e, hsig, he, rfl⟩ := h
  refine ⟨e, he, ?_, Nat.dvd_mul_left _ _⟩
  rw [Nat.log2_lt hm, pow_add]
  exact Nat.mul_lt_mul_of_pos_right hsig (Nat.two_pow_pos e)

theorem of_lt (h : m < 2 ^ 53) : IsValue m :=
  ⟨m, 0, h, by omega, by rw [pow_zero, Nat.mul_one]⟩

/-- Few digits in front of many zeros are a value if the largest number is not below it. -/
theorem of_le_greatest {sig e : Nat} (hsig : sig < 2 ^ 53) (h : sig * 2 ^ e ≤ greatest) :
    IsValue (sig * 2 ^ e) := by
  by_cases he : e ≤ 971
  · exact ⟨sig, e, hsig, he, rfl⟩
  · -- the zeros that are too many for an exponent belong to the digits
    obtain ⟨k, rfl⟩ := Nat.exists_eq_add_of_le' (not_le.mp he).le
    rw [pow_add, ← Nat.mul_assoc, ← twoTo_eq 971] at h ⊢
    have hle : sig * 2 ^ k ≤ 2 ^ 53 - 1 := Nat.le_of_mul_le_mul_right h (twoTo_pos 971)
    exact ⟨sig * 2 ^ k, 971, Nat.lt_of_le_sub_one (Nat.two_pow_pos 53) hle, le_rfl,
      by rw [twoTo_eq]⟩

end IsValue

theorem natAbs_units (d : Double) : d.units.natAbs = d.sig * twoTo (d.exp + 1074).toNat := by
  rw [units]
  split
  · rw [Int.natAbs_neg, ← Nat.cast_mul, Int.natAbs_natCast]
  · rw [← Nat.cast_mul, Int.natAbs_natCast]

theorem abs_toRat_le (d : Double) : |d.toRat| ≤ greatest := by
  have hsig : d.sig ≤ 2 ^ 53 - 1 := Nat.le_sub_one_of_lt d.sig_lt
  have hexp : (d.exp + 1074).toNat ≤ 971 + 1074 := by
    have hle := d.exp_le
    omega
  have hunits : d.units.natAbs ≤ greatest * twoTo 1074 := by
    calc d.units.natAbs = d.sig * twoTo (d.exp + 1074).toNat := natAbs_units d
      _ ≤ (2 ^ 53 - 1) * twoTo (971 + 1074) :=
        Nat.mul_le_mul hsig (twoTo_le_twoTo hexp)
      _ = greatest * twoTo 1074 := by rw [twoTo_add, ← Nat.mul_assoc, greatest]
  rw [toRat, abs_div, abs_of_pos unitsOfOne_pos, div_le_iff₀ unitsOfOne_pos, ← Int.cast_abs,
    Int.abs_eq_natAbs]
  exact_mod_cast hunits

theorem isValue_of_toRat {d : Double} {z : Int} (h : d.toRat = z) : IsValue z.natAbs := by
  have hunits : d.sig * twoTo (d.exp + 1074).toNat = z.natAbs * twoTo 1074 := by
    have hd := congrArg Int.natAbs ((toRat_eq_intCast_iff d z).mp h)
    rwa [natAbs_units, Int.natAbs_mul, Int.natAbs_natCast] at hd
  have hge := d.exp_ge
  have hle := d.exp_le
  by_cases hexp : 0 ≤ d.exp
  · have hsplit : (d.exp + 1074).toNat = d.exp.toNat + 1074 := by omega
    rw [hsplit, twoTo_add, ← Nat.mul_assoc] at hunits
    have hz := Nat.eq_of_mul_eq_mul_right (twoTo_pos 1074) hunits
    exact ⟨d.sig, d.exp.toNat, d.sig_lt, by omega, hz.symm⟩
  · -- the digits behind the point are zeros, so there are even fewer before it
    have hsplit : 1074 = (-d.exp).toNat + (d.exp + 1074).toNat := by omega
    generalize (d.exp + 1074).toNat = k at hunits hsplit
    rw [hsplit, twoTo_add, ← Nat.mul_assoc] at hunits
    have hz := Nat.eq_of_mul_eq_mul_right (twoTo_pos k) hunits
    have hzle : z.natAbs ≤ d.sig := hz ▸ Nat.le_mul_of_pos_right _ (twoTo_pos _)
    exact .of_lt (hzle.trans_lt d.sig_lt)

theorem roundHalfEven_mul (q : Nat) {den : Nat} (h : 0 < den) :
    roundHalfEven (q * den) den = q := by
  have hne : ¬ 0 = den := h.ne
  simp [roundHalfEven, Nat.mul_div_cancel q h, hne]

theorem scaleBy_one (m : Nat) (e : Int) :
    scaleBy m 1 e = (m * 2 ^ (-e).toNat, 2 ^ e.toNat) := by
  simp [scaleBy, twoTo_eq]

theorem exists_significand {m p n : Nat} (hm : m ≠ 0) (hp : p + 52 = m.log2 + n)
    (hdvd : 2 ^ p ∣ m) : ∃ q : Nat, m * 2 ^ n = q * 2 ^ p ∧ 2 ^ 52 ≤ q ∧ q < 2 ^ 53 := by
  obtain ⟨k, hk⟩ := hdvd
  have hq : m * 2 ^ n = k * 2 ^ n * 2 ^ p := by rw [hk]; ring
  refine ⟨k * 2 ^ n, hq, ?_, ?_⟩
  · refine Nat.le_of_mul_le_mul_right ?_ (Nat.two_pow_pos p)
    calc 2 ^ 52 * 2 ^ p = 2 ^ m.log2 * 2 ^ n := by rw [← pow_add, ← pow_add, Nat.add_comm 52, hp]
      _ ≤ m * 2 ^ n := Nat.mul_le_mul_right _ (Nat.log2_self_le hm)
      _ = k * 2 ^ n * 2 ^ p := hq
  · refine Nat.lt_of_mul_lt_mul_right (a := 2 ^ p) ?_
    calc k * 2 ^ n * 2 ^ p = m * 2 ^ n := hq.symm
      _ < 2 ^ (m.log2 + 1) * 2 ^ n :=
        Nat.mul_lt_mul_of_pos_right Nat.lt_log2_self (Nat.two_pow_pos n)
      _ = 2 ^ 53 * 2 ^ p := by
        rw [← pow_add, ← pow_add]
        exact congrArg _ (by omega)

/-- The first guess for the exponent of a natural number is too low by one. -/
theorem guess_quotient_large {m : Nat} (hm : m ≠ 0) {e : Int} (he : (m.log2 : Int) - 52 = e) :
    9007199254740992 ≤ (scaleBy m 1 (e - 1)).1 / (scaleBy m 1 (e - 1)).2 := by
  rw [scaleBy_one, Nat.le_div_iff_mul_le (Nat.two_pow_pos _)]
  calc 9007199254740992 * 2 ^ (e - 1).toNat = 2 ^ (53 + (e - 1).toNat) := by rw [pow_add]; rfl
    _ = 2 ^ m.log2 * 2 ^ (-(e - 1)).toNat := by
      rw [← pow_add]
      exact congrArg _ (by omega)
    _ ≤ m * 2 ^ (-(e - 1)).toNat := Nat.mul_le_mul_right _ (Nat.log2_self_le hm)

/-- A natural number is rounded at the exponent of the last of its first 53 binary digits. -/
theorem ofRatio_one_eq {m : Nat} (neg : Bool) (hm : m ≠ 0) {e : Int}
    (he : (m.log2 : Int) - 52 = e) :
    ofRatio neg m 1 =
      if roundHalfEven (scaleBy m 1 e).1 (scaleBy m 1 e).2 = 9007199254740992 then
        ofParts? neg 4503599627370496 (e + 1)
      else ofParts? neg (roundHalfEven (scaleBy m 1 e).1 (scaleBy m 1 e).2) e := by
  have hguess : max (-1074) ((m.log2 : Int) - (1 : Nat).log2 - 53) = e - 1 := by
    have hone : (1 : Nat).log2 = 0 := by decide
    omega
  simp only [ofRatio, if_neg hm, hguess, if_neg (guess_quotient_large hm he).not_gt,
    Int.sub_add_cancel]

theorem ofRatio_eq_ofParts? {m q : Nat} (neg : Bool) (hm : m ≠ 0) {e : Int}
    (he : (m.log2 : Int) - 52 = e) (hq : m * 2 ^ (-e).toNat = q * 2 ^ e.toNat)
    (hlt : q < 9007199254740992) : ofRatio neg m 1 = ofParts? neg q e := by
  have hsig : roundHalfEven (scaleBy m 1 e).1 (scaleBy m 1 e).2 = q := by
    rw [scaleBy_one, hq]
    exact roundHalfEven_mul q (Nat.two_pow_pos _)
  rw [ofRatio_one_eq neg hm he, hsig, if_neg hlt.ne]

theorem units_of_digits {m q : Nat} {e : Int} (he : -1074 ≤ e)
    (hq : m * 2 ^ (-e).toNat = q * 2 ^ e.toNat) :
    q * twoTo (e + 1074).toNat = m * twoTo 1074 := by
  rw [twoTo_eq, twoTo_eq]
  refine Nat.eq_of_mul_eq_mul_right (Nat.two_pow_pos (-e).toNat) ?_
  have hexp : (e + 1074).toNat + (-e).toNat = e.toNat + 1074 := by omega
  calc q * 2 ^ (e + 1074).toNat * 2 ^ (-e).toNat = q * 2 ^ e.toNat * 2 ^ 1074 := by
        rw [Nat.mul_assoc, ← pow_add, hexp, pow_add, Nat.mul_assoc]
    _ = m * 2 ^ 1074 * 2 ^ (-e).toNat := by rw [← hq, Nat.mul_right_comm]

/-- Rounding does not change a natural number that is the value of a number. -/
theorem ofRatio_one {m : Nat} (h : IsValue m) (neg : Bool) :
    ∃ d, ofRatio neg m 1 = some d ∧ d.toRat = if neg then -(m : ℚ) else m := by
  by_cases hm : m = 0
  · subst hm
    refine ⟨zero neg, if_pos rfl, ?_⟩
    have hunits : (zero neg).units = 0 :=
      Int.natAbs_eq_zero.mp ((natAbs_units _).trans (Nat.zero_mul _))
    rw [toRat, hunits, Int.cast_zero, zero_div, Nat.cast_zero, neg_zero, ite_self]
  · obtain ⟨k, hk, hlog, hdvd⟩ := h.exists_dvd hm
    generalize he : (m.log2 : Int) - 52 = e
    obtain ⟨q, hq, hlow, hhigh⟩ := exists_significand (p := e.toNat) (n := (-e).toNat) hm
      (by omega) ((pow_dvd_pow 2 (by omega)).trans hdvd)
    have hlt : q < 9007199254740992 := hhigh
    have hparts : q < 9007199254740992 ∧ -1074 ≤ e ∧ e ≤ 971 ∧
        (4503599627370496 ≤ q ∨ e = -1074) := ⟨hlt, by omega, by omega, .inl hlow⟩
    refine ⟨⟨neg, q, e, hlt, hparts.2.1, hparts.2.2.1, hparts.2.2.2⟩, ?_, ?_⟩
    · rw [ofRatio_eq_ofParts? neg hm he hq hlt, ofParts?, dif_pos hparts]
    · have hunits : (q * twoTo (e + 1074).toNat : Int) = m * twoTo 1074 := by
        exact_mod_cast units_of_digits hparts.2.1 hq
      cases neg with
      | false => exact (toRat_eq_intCast_iff _ m).mpr hunits
      | true =>
        have hneg := (toRat_eq_intCast_iff ⟨true, q, e, hlt, hparts.2.1, hparts.2.2.1,
          hparts.2.2.2⟩ (-m)).mpr (by rw [units, Int.neg_mul, ← hunits]; rfl)
        simpa using hneg

theorem toRat_ofInt {z : Int} (h : IsValue z.natAbs) : (ofInt z).toRat = z := by
  obtain ⟨d, hd, hvalue⟩ := ofRatio_one h (z < 0)
  rw [ofInt, hd, Option.getD_some, hvalue, ← Int.cast_natCast z.natAbs]
  by_cases hz : z < 0
  · have habs : (z.natAbs : Int) = -z := by omega
    rw [decide_eq_true hz, if_pos rfl, habs, Int.cast_neg, neg_neg]
  · have habs : (z.natAbs : Int) = z := by omega
    rw [decide_eq_false hz, if_neg Bool.false_ne_true, habs]

theorem intCast_le_toRat_iff (d : Double) (z : Int) : z ≤ d.toRat ↔ z * twoTo 1074 ≤ d.units := by
  rw [toRat, le_div_iff₀ unitsOfOne_pos]
  norm_cast

/-- A number whose last digit is not in front of the ones has at most 53 digits before the point. -/
theorem units_lt_of_exp_nonpos {d : Double} (h : d.exp ≤ 0) :
    d.units < 9007199254740992 * twoTo 1074 := by
  have habs : d.units.natAbs < 9007199254740992 * twoTo 1074 := by
    rw [natAbs_units]
    calc d.sig * twoTo (d.exp + 1074).toNat ≤ d.sig * twoTo 1074 :=
          Nat.mul_le_mul_left _ (twoTo_le_twoTo (by omega))
      _ < 9007199254740992 * twoTo 1074 := Nat.mul_lt_mul_of_pos_right d.sig_lt (twoTo_pos 1074)
  generalize twoTo 1074 = one at habs
  omega

/-- A number whose last digit is in front of the ones is an even integer. -/
theorem exists_units_eq_of_exp_pos {d : Double} (h : 0 < d.exp) :
    ∃ k : Int, d.units = 2 * k * twoTo 1074 := by
  have hexp : (d.exp + 1074).toNat = (d.exp - 1).toNat + 1 + 1074 := by omega
  have hsig : (d.sig * twoTo (d.exp + 1074).toNat : Int) =
      2 * (d.sig * twoTo (d.exp - 1).toNat) * twoTo 1074 := by
    rw [hexp, twoTo_add, twoTo_add, twoTo_eq 1]
    push_cast
    ring
  rw [units, hsig]
  split
  · exact ⟨-(d.sig * twoTo (d.exp - 1).toNat), by rw [mul_neg, Int.neg_mul]⟩
  · exact ⟨_, rfl⟩

/-- No number is between the last integer with 63 binary digits and the next one. -/
theorem le_toRat_of_le_toRat {d : Double} (h : (9223372036854775807 : Int) ≤ d.toRat) :
    (9223372036854775808 : Int) ≤ d.toRat := by
  have hone : (0 : Int) < twoTo 1074 := Int.natCast_pos.mpr (twoTo_pos 1074)
  rw [intCast_le_toRat_iff] at h ⊢
  rcases lt_or_ge 0 d.exp with hexp | hexp
  · obtain ⟨k, hk⟩ := exists_units_eq_of_exp_pos hexp
    rw [hk] at h ⊢
    have hle := le_of_mul_le_mul_right h hone
    exact mul_le_mul_of_nonneg_right (by omega) hone.le
  · have hlt := units_lt_of_exp_nonpos hexp
    generalize (twoTo 1074 : Int) = one at h hone hlt ⊢
    omega

theorem toRat_ne_of_gap (d : Double) : d.toRat ≠ (9223372036854775807 : Int) := by
  intro h
  have hle := le_toRat_of_le_toRat h.ge
  rw [h, Int.cast_le] at hle
  omega

end Double

end Roster
