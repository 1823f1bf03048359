import Roster.Proofs.Command.Coercion
import Roster.Proofs.Command.Text

/-! # Integers that are doubles

An integer with at most 53 significant binary digits is a double, if it is not
beyond the largest. Whether it is given as a number or as its decimal text, it is
not altered: it stays an integer if it has 64 bits, and is a double else. The only
exception is the first integer behind those of 64 bits, which is made the last
of them.
-/
namespace Roster

namespace Double

theorem length_toDigits_le_of_lt {m k : Nat} (hk : 0 < k) (h : m < tenTo k) :
    (Nat.toDigits 10 m).length ≤ k :=
  (Nat.length_toDigits_le_iff (by decide) hk).mpr h

theorem greatest_lt : greatest < tenTo 310 := by decide +kernel

theorem parse?_toString_of_isValue {z : Int} (hvalue : IsValue z.natAbs)
    (hfinite : z.natAbs ≤ greatest) : parse? (toString z).toList = some (ofInt z) := by
  obtain ⟨d, hd, -⟩ := ofRatio_one hvalue (z < 0)
  have hlength := length_toDigits_le_of_lt (by decide) (hfinite.trans_lt greatest_lt)
  rw [parse?_toString hlength, ofInt, hd, Option.getD_some]

end Double

namespace Coercion

/-- The values that say which integer is meant: its decimal text, and the numbers that are equal
to it. -/
inductive Shows (z : Int) : Json → Prop
  | text : Shows z (.string (toString z))
  | number {n : Json.Number} (value : n.toRat = z) : Shows z (.number n)

variable {z : Int} {v : Json} {d : Double} {n : Json.Number}

theorem trim_toString (z : Int) : Text.trim (toString z).toList = (toString z).toList :=
  Text.trim_eq_self (isBlank_of_mem_toString z)

theorem Shows.exists_double (h : Shows z v) (hvalue : Double.IsValue z.natAbs)
    (hfinite : z.natAbs ≤ Double.greatest) : ∃ d, double? v = some d ∧ d.toRat = z := by
  cases h with
  | text =>
    refine ⟨Double.ofInt z, ?_, Double.toRat_ofInt hvalue⟩
    rw [double?, trim_toString, Double.parse?_toString_of_isValue hvalue hfinite]
  | @number n value =>
    refine ⟨n.toDouble, rfl, ?_⟩
    cases n with
    | int i =>
      have hi : i.val = z := Int.cast_injective value
      subst hi
      exact Double.toRat_ofInt hvalue
    | double d => exact value

/-- What stands for a double that is an integer: an integer again, if it has 64 bits or is the
first behind these, and the integer itself in all cases but the last. -/
theorem StandsFor.of_integer (h : StandsFor d n) (hz : d.toRat = z) :
    (z ≠ 9223372036854775808 → n.toRat = z) ∧
      (z = 9223372036854775808 → n.toRat = (9223372036854775807 : Int)) ∧
      ((∃ i, n = .int i) ↔ -9223372036854775808 ≤ z ∧ z ≤ 9223372036854775808) := by
  cases h with
  | @integer i value small =>
    obtain rfl : z = i.val := by exact_mod_cast hz.symm.trans value
    have hge := i.ge
    refine ⟨fun _ => rfl, fun hlarge => ?_, fun _ => ⟨hge, by omega⟩, fun _ => ⟨i, rfl⟩⟩
    omega
  | beyond value =>
    obtain rfl : z = 9223372036854775808 := by exact_mod_cast hz.symm.trans value
    exact ⟨fun hne => absurd rfl hne, fun _ => rfl, fun _ => by decide, fun _ => ⟨largest, rfl⟩⟩
  | double other =>
    have hout := other z hz
    refine ⟨fun _ => hz, fun hlarge => ?_, fun hint => ?_, fun hin => ?_⟩
    · omega
    · obtain ⟨i, hi⟩ := hint
      cases hi
    · omega

/-- An integer with at most 53 significant binary digits that is not beyond the largest double is
coerced to a number of exactly its value, with one exception: the first integer behind those of 64
bits becomes the last of them. -/
theorem coerce_keeps_representable {m : Int} {e : Nat} (digits : m.natAbs < 2 ^ 53)
    (scaled : z = m * 2 ^ e) (finite : z.natAbs ≤ Double.greatest) (shows : Shows z v) :
    ∃ n : Json.Number, coerce v .number = .ok (.number n) ∧
      (z ≠ 9223372036854775808 → n.toRat = z) ∧
      (z = 9223372036854775808 → n.toRat = (9223372036854775807 : Int)) ∧
      ((∃ i, n = .int i) ↔ -9223372036854775808 ≤ z ∧ z ≤ 9223372036854775808) := by
  have habs : z.natAbs = m.natAbs * 2 ^ e := by
    rw [scaled, Int.natAbs_mul, Int.natAbs_pow]
    rfl
  have hvalue : Double.IsValue z.natAbs := by
    rw [habs] at finite ⊢
    exact .of_le_greatest digits finite
  obtain ⟨d, hd, hz⟩ := shows.exists_double hvalue finite
  obtain ⟨n, hn⟩ := exists_standsFor d
  refine ⟨n, ?_, hn.of_integer hz⟩
  rw [coerce, hd]
  exact congrArg Except.ok hn.numberOf_eq

/-- The first integer behind those of 64 bits, as a number. -/
def edge : Json := .number (.int ⟨9223372036854775808, by decide, by decide⟩)

/-- The powers of two at the edges of the integers of 64 bits: the lower edge is kept, and so is a
power beyond the upper one, but that edge itself becomes the integer in front of it. -/
theorem coerce_keeps_edges :
    (∃ n, coerce (.string "-9223372036854775808") .number = .ok (.number n) ∧
      n.toRat = (-9223372036854775808 : Int)) ∧
    (∃ n, coerce (.string "18446744073709551616") .number = .ok (.number n) ∧
      n.toRat = (18446744073709551616 : Int)) ∧
    ∃ n, coerce edge .number = .ok (.number n) ∧ n.toRat = (9223372036854775807 : Int) := by
  obtain ⟨low, hlow, hkept, -⟩ := coerce_keeps_representable (z := -9223372036854775808) (m := -1)
    (e := 63) (by decide) (by decide) (by decide +kernel) .text
  obtain ⟨high, hhigh, hkept', -⟩ := coerce_keeps_representable (z := 18446744073709551616)
    (m := 1) (e := 64) (by decide) (by decide) (by decide +kernel) .text
  obtain ⟨n, hn, -, haltered, -⟩ := coerce_keeps_representable (z := 9223372036854775808) (m := 1)
    (e := 63) (v := edge) (by decide) (by decide) (by decide +kernel) (.number rfl)
  exact ⟨⟨low, hlow, hkept (by decide)⟩, ⟨high, hhigh, hkept' (by decide)⟩, ⟨n, hn, haltered rfl⟩⟩

end Coercion

end Roster
