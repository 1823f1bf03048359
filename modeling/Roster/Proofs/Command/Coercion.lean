import Roster.Command.Coercion
import Roster.Proofs.Number.Exact

/-! # What coercion leaves

A coerced value is of the type to which it was coerced, and coercing it once
more does not change it. For numbers this rests on rounding being exact for the
integers that doubles stand for. A coerced number is as large as a double can be
at most.
-/
namespace Roster

namespace Json

/-- The type of parameter that a value is of. Null is of none. -/
def type? : Json → Option ParameterType
  | null => none
  | bool _ => some .boolean
  | number _ => some .number
  | string _ => some .string
  | array _ => some .array
  | object _ => some .object

theorem ne_null_of_type? {v : Json} {t : ParameterType} (h : v.type? = some t) : v ≠ null := by
  rintro rfl
  cases h

namespace Number

/-- The exact value of a number. -/
def toRat : Number → ℚ
  | int z => z.val
  | double d => d.toRat

/-- All numbers are finite: none is beyond the largest double. -/
theorem abs_toRat_le (n : Number) : |n.toRat| ≤ Double.greatest := by
  cases n with
  | int z =>
    have hbound : z.val.natAbs ≤ 2 ^ 64 := by
      have hge := z.ge
      have hlt := z.lt
      omega
    have hgreatest : 2 ^ 64 ≤ Double.greatest := by decide +kernel
    rw [toRat, ← Int.cast_abs, Int.abs_eq_natAbs]
    exact_mod_cast hbound.trans hgreatest
  | double d => exact d.abs_toRat_le

end Number

end Json

namespace Coercion

/-- The largest integer that a coerced number is. -/
def largest : Integer := ⟨9223372036854775807, by decide, by decide⟩

theorem toRat_largest : largest.toDouble.toRat = (9223372036854775808 : Int) := by
  refine (Double.toInt?_eq_some_iff _ _).mp ?_
  decide +kernel

variable {d : Double}

theorem numberOf_of_integer {i : Integer} (h : d.toRat = i.val)
    (hi : i.val ≤ 9223372036854775807) : numberOf d = .number (.int i) := by
  have hrange : -9223372036854775808 ≤ i.val ∧ i.val ≤ 9223372036854775808 := ⟨i.ge, by omega⟩
  simp only [numberOf, (Double.toInt?_eq_some_iff ..).mpr h, if_pos hrange, min_eq_left hi,
    Json.ofInt, Integer.ofInt?, dif_pos (And.intro i.ge i.lt)]

theorem numberOf_of_beyond_largest (h : d.toRat = (9223372036854775808 : Int)) :
    numberOf d = .number (.int largest) := by
  rw [numberOf, (Double.toInt?_eq_some_iff ..).mpr h]
  rfl

theorem numberOf_of_other
    (h : ∀ z : Int, d.toRat = z → z < -9223372036854775808 ∨ 9223372036854775808 < z) :
    numberOf d = .number (.double d) := by
  rw [numberOf]
  split
  · next z hz =>
    rw [if_neg]
    · rfl
    · have hz := h z ((Double.toInt?_eq_some_iff ..).mp hz)
      omega
  · rfl

/-- A double stands for the integer that it is, if that has 64 bits, and else for itself. The
first integer with more bits counts as the last with fewer. -/
inductive StandsFor (d : Double) : Json.Number → Prop
  | integer {i : Integer} (value : d.toRat = i.val) (small : i.val ≤ 9223372036854775807) :
      StandsFor d (.int i)
  | beyond (value : d.toRat = (9223372036854775808 : Int)) : StandsFor d (.int largest)
  | double (other : ∀ z : Int, d.toRat = z → z < -9223372036854775808 ∨ 9223372036854775808 < z) :
      StandsFor d (.double d)

theorem StandsFor.numberOf_eq {n : Json.Number} (h : StandsFor d n) : numberOf d = .number n := by
  cases h with
  | integer value small => exact numberOf_of_integer value small
  | beyond value => exact numberOf_of_beyond_largest value
  | double other => exact numberOf_of_other other

theorem exists_standsFor (d : Double) : ∃ n, StandsFor d n := by
  by_cases h : ∀ z : Int, d.toRat = z → z < -9223372036854775808 ∨ 9223372036854775808 < z
  · exact ⟨_, .double h⟩
  · simp only [not_forall, not_or, not_lt, exists_prop] at h
    obtain ⟨z, hz, hlow, hhigh⟩ := h
    rcases Int.lt_or_eq_of_le hhigh with hlt | rfl
    · have hsmall : z ≤ 9223372036854775807 := by omega
      exact ⟨_, .integer (i := ⟨z, hlow, by omega⟩) hz hsmall⟩
    · exact ⟨_, .beyond hz⟩

/-- The double of a number for which a double stands does so as well. -/
theorem StandsFor.toDouble {n : Json.Number} (h : StandsFor d n) : StandsFor n.toDouble n := by
  cases h with
  | integer value small =>
    exact .integer (Double.toRat_ofInt (Double.isValue_of_toRat value)) small
  | beyond value => exact .beyond toRat_largest
  | double other => exact .double other

theorem StandsFor.toRat_eq {n : Json.Number} (h : StandsFor d n) : n.toDouble.toRat = d.toRat := by
  cases h with
  | integer value small =>
    exact (Double.toRat_ofInt (Double.isValue_of_toRat value)).trans value.symm
  | beyond value => exact toRat_largest.trans value.symm
  | double other => rfl

variable {v w : Json} {t : ParameterType}

/-- A value is coerced to the number that its double stands for, if it has a double. -/
theorem coerce_number_eq_ok_iff :
    coerce v .number = .ok w ↔ ∃ d, double? v = some d ∧ numberOf d = w := by
  delta coerce
  dsimp only
  cases double? v <;> simp

theorem coerce_string_object (s : String) :
    coerce (.string s) .object =
      match Json.parse? s.toList with
      | some (.object fields) => .ok (.object fields)
      | _ => .error (failure "an object" (.string s)) :=
  rfl

theorem type?_of_coerce (h : coerce v t = .ok w) : w.type? = some t := by
  cases t with
  | string => cases h; rfl
  | boolean => cases h; rfl
  | number =>
    obtain ⟨d, -, rfl⟩ := coerce_number_eq_ok_iff.mp h
    obtain ⟨n, hn⟩ := exists_standsFor d
    rw [hn.numberOf_eq]
    rfl
  | array => cases v <;> cases h <;> rfl
  | object =>
    cases v with
    | object fields => cases h; rfl
    | string s =>
      rw [coerce_string_object] at h
      split at h <;> cases h
      rfl
    | null | bool | number | array => cases h

theorem coerce_of_coerce (h : coerce v t = .ok w) : coerce w t = .ok w := by
  have htype := type?_of_coerce h
  cases t with
  | string => cases h; rfl
  | boolean => cases h; rfl
  | number =>
    obtain ⟨d, -, rfl⟩ := coerce_number_eq_ok_iff.mp h
    obtain ⟨n, hn⟩ := exists_standsFor d
    rw [hn.numberOf_eq]
    exact coerce_number_eq_ok_iff.mpr ⟨n.toDouble, rfl, hn.toDouble.numberOf_eq⟩
  | array => cases w <;> cases htype; rfl
  | object => cases w <;> cases htype; rfl

/-- What a value is coerced to is of the type, finite if it is a number, and coerced to itself. To a
string and to a truth value any value is coerced. -/
theorem coerce_sound_and_idempotent (v : Json) (t : ParameterType) :
    (∀ w, coerce v t = .ok w →
      w.type? = some t ∧ w ≠ .null ∧ (∀ n, w = .number n → |n.toRat| ≤ Double.greatest) ∧
        coerce w t = .ok w) ∧
    (∃ s, coerce v .string = .ok (.string s)) ∧ ∃ b, coerce v .boolean = .ok (.bool b) := by
  refine ⟨fun w h => ?_, ⟨text v, rfl⟩, ⟨truth v, rfl⟩⟩
  have htype := type?_of_coerce h
  exact ⟨htype, Json.ne_null_of_type? htype, fun n _ => n.abs_toRat_le, coerce_of_coerce h⟩

/-- The text, with blanks around it, of an integer that is rounded up to the first one beyond the
largest. -/
def sampleText : Json := .string " 9223372036854775806 "

theorem coerce_sampleText_sound :
    coerce sampleText .number = .ok (.number (.int largest)) ∧
      coerce (.number (.int largest)) .number = .ok (.number (.int largest)) := by
  have hdouble : double? sampleText = some largest.toDouble := by decide +kernel
  have hcoerce : coerce sampleText .number = .ok (.number (.int largest)) := by
    rw [coerce, hdouble]
    exact congrArg Except.ok (numberOf_of_beyond_largest toRat_largest)
  obtain ⟨hsound, -⟩ := coerce_sound_and_idempotent sampleText .number
  exact ⟨hcoerce, (hsound _ hcoerce).2.2.2⟩

end Coercion

end Roster
