import Roster.Number.Decimal
import Roster.Proofs.Number.Exact

/-! # Integers written in decimal

The decimal text of an integer writes the double nearest to it, and there is one
for every integer that is not too large.
-/
namespace Roster

namespace Double

/-- What is rounded from between two integers lies between them. -/
theorem roundHalfEven_mem {num den low high : Nat} (hlow : low * den ≤ num)
    (hhigh : num < high * den) :
    low ≤ roundHalfEven num den ∧ roundHalfEven num den ≤ high := by
  have hden : 0 < den := by
    rcases Nat.eq_zero_or_pos den with rfl | hden
    · rw [Nat.mul_zero] at hhigh
      omega
    · exact hden
  have hle : low ≤ num / den := (Nat.le_div_iff_mul_le hden).mpr hlow
  have hlt : num / den < high := (Nat.div_lt_iff_lt_mul hden).mpr hhigh
  unfold roundHalfEven
  dsimp only
  split <;> omega

/-- The quotient of a natural number by the weight of the last of its first 53 binary digits. -/
theorem scaleBy_log2 {m : Nat} (hm : m ≠ 0) {e : Int} (he : (m.log2 : Int) - 52 = e) :
    4503599627370496 * (scaleBy m 1 e).2 ≤ (scaleBy m 1 e).1 ∧
      (scaleBy m 1 e).1 < 9007199254740992 * (scaleBy m 1 e).2 := by
  rw [scaleBy_one]
  constructor
  · calc 4503599627370496 * 2 ^ e.toNat = 2 ^ (52 + e.toNat) := by rw [pow_add]; rfl
      _ = 2 ^ m.log2 * 2 ^ (-e).toNat := by
        rw [← pow_add]
        exact congrArg _ (by omega)
      _ ≤ m * 2 ^ (-e).toNat := Nat.mul_le_mul_right _ (Nat.log2_self_le hm)
  · calc m * 2 ^ (-e).toNat < 2 ^ (m.log2 + 1) * 2 ^ (-e).toNat :=
        Nat.mul_lt_mul_of_pos_right Nat.lt_log2_self (Nat.two_pow_pos _)
      _ = 2 ^ (53 + e.toNat) := by
        rw [← pow_add]
        exact congrArg _ (by omega)
      _ = 9007199254740992 * 2 ^ e.toNat := by rw [pow_add]; rfl

theorem ofParts?_isSome {sig : Nat} {exp : Int} (hlow : 4503599627370496 ≤ sig)
    (hhigh : sig < 9007199254740992) (hge : -1074 ≤ exp) (hle : exp ≤ 971) (neg : Bool) :
    (ofParts? neg sig exp).isSome = true := by
  rw [ofParts?, dif_pos ⟨hhigh, hge, hle, .inl hlow⟩]
  rfl

theorem ofRatio_one_isSome {m : Nat} (h : m.log2 < 1023) (neg : Bool) :
    (ofRatio neg m 1).isSome = true := by
  by_cases hm : m = 0
  · rw [ofRatio, if_pos hm]
    rfl
  · generalize he : (m.log2 : Int) - 52 = e
    obtain ⟨hlow, hhigh⟩ := scaleBy_log2 hm he
    obtain ⟨hge, hle⟩ := roundHalfEven_mem hlow hhigh
    rw [ofRatio_one_eq neg hm he]
    -- rounding up to the next power of two takes one more digit, so the exponent grows
    split
    · exact ofParts?_isSome le_rfl (by decide) (by omega) (by omega) neg
    · exact ofParts?_isSome hge (by omega) (by omega) (by omega) neg

theorem ofRatio_one_eq_ofInt {z : Int} (h : z.natAbs.log2 < 1023) :
    ofRatio (z < 0) z.natAbs 1 = some (ofInt z) := by
  obtain ⟨d, hd⟩ := Option.isSome_iff_exists.mp (ofRatio_one_isSome h (z < 0))
  rw [ofInt, hd, Option.getD_some]

theorem readDigits_of_isDigit {ds : List Char} (h : ∀ c ∈ ds, c.isDigit = true) (acc : Nat) :
    readDigits acc ds = (Nat.ofDigitChars 10 ds acc, ds.length, []) := by
  induction ds generalizing acc with
  | nil => rfl
  | cons c r ih =>
    obtain ⟨hc, hr⟩ := List.forall_mem_cons.mp h
    rw [readDigits, if_pos hc, ih hr, Nat.ofDigitChars_cons, Nat.mul_comm 10 acc]
    rfl

theorem isDigit_of_mem_toDigits {n : Nat} : ∀ c ∈ Nat.toDigits 10 n, c.isDigit = true :=
  fun _ hc => Nat.isDigit_of_mem_toDigits (by decide) (by decide) hc

theorem readDigits_toDigits (n : Nat) :
    readDigits 0 (Nat.toDigits 10 n) = (n, (Nat.toDigits 10 n).length, []) := by
  rw [readDigits_of_isDigit isDigit_of_mem_toDigits, Nat.ofDigitChars_ten_toDigits]

theorem readSign_of_isDigit {c : Char} (h : c.isDigit = true) (r : List Char) :
    readSign (c :: r) = (false, c :: r) := by
  unfold readSign
  split
  · next heq => cases heq; cases h
  · next heq => cases heq; cases h
  · rfl

theorem readDecimal?_of_readSign {s : List Char} {neg : Bool} {n : Nat}
    (h : readSign s = (neg, Nat.toDigits 10 n)) : readDecimal? s = some (neg, n, 0) := by
  have hne : (Nat.toDigits 10 n).length ≠ 0 := Nat.length_toDigits_pos.ne'
  simp only [readDecimal?, h, readDigits_toDigits, if_neg hne, readExponent?, Option.map_some]

end Double

theorem toList_toString_int (z : Int) :
    (toString z).toList =
      if z < 0 then '-' :: Nat.toDigits 10 z.natAbs else Nat.toDigits 10 z.natAbs := by
  cases z with
  | ofNat n => exact Nat.toList_repr
  | negSucc n =>
    change ("-" ++ Nat.repr (n + 1)).toList = _
    rw [String.toList_append, Nat.toList_repr, if_pos (Int.negSucc_lt_zero n)]
    rfl

namespace Double

theorem readSign_toString (z : Int) :
    readSign (toString z).toList = (decide (z < 0), Nat.toDigits 10 z.natAbs) := by
  rw [toList_toString_int]
  by_cases hz : z < 0
  · rw [if_pos hz, decide_eq_true hz]
    rfl
  · rw [if_neg hz, decide_eq_false hz]
    obtain ⟨c, r, hcr⟩ := List.exists_cons_of_ne_nil (Nat.toDigits_ne_nil (n := z.natAbs) (b := 10))
    have hc : c.isDigit = true :=
      isDigit_of_mem_toDigits (n := z.natAbs) c (hcr ▸ List.mem_cons_self)
    rw [hcr]
    exact readSign_of_isDigit hc r

theorem parse?_toString {z : Int} (h : (Nat.toDigits 10 z.natAbs).length ≤ 310) :
    parse? (toString z).toList = ofRatio (z < 0) z.natAbs 1 := by
  rw [parse?, readDecimal?_of_readSign (readSign_toString z)]
  change ofDecimal _ z.natAbs 0 = _
  by_cases hz : z.natAbs = 0
  · rw [ofDecimal, if_pos hz, ofRatio, if_pos hz]
  · rw [ofDecimal, if_neg hz, if_neg (by omega), if_neg (by omega)]
    exact congrArg (ofRatio _ · 1) (Nat.mul_one _)

end Double

end Roster
