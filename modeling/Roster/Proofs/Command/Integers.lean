import Roster.Proofs.Command.Conditions
import Roster.Proofs.Number.Rounding

/-! # Integers as parameters

A number that is given for a parameter becomes a double on its way, and so do the
numbers of a choice. Integers with at most 53 binary digits come out as they went
in. Others are rounded, and those that are rounded to the same double are not told
apart.
-/
namespace Roster

/-- The integers of 64 bits with a sign. -/
def Integer.IsSigned (i : Integer) : Prop :=
  i.val ≤ 9223372036854775807

instance (i : Integer) : Decidable i.IsSigned := inferInstanceAs (Decidable (_ ≤ _))

namespace Integer

variable {i : Integer}

theorem eq_of_val_eq {i j : Integer} (h : i.val = j.val) : i = j := by
  cases i
  cases j
  cases h
  rfl

theorem IsSigned.nearest_bounds (h : i.IsSigned) :
    -9223372036854775808 ≤ Double.nearest i.val ∧
      Double.nearest i.val ≤ 9223372036854775808 :=
  Double.nearest_bounds ⟨i.ge, h⟩

theorem nearest_largest : Double.nearest 9223372036854775807 = 9223372036854775808 := by
  decide +kernel

/-- What an integer comes to is the integer itself if it has few digits, or is the largest. -/
theorem IsSigned.min_nearest_eq_iff (h : i.IsSigned) :
    min (Double.nearest i.val) 9223372036854775807 = i.val ↔
      Double.IsValue i.val.natAbs ∨ i.val = 9223372036854775807 := by
  have hsigned : i.val ≤ 9223372036854775807 := h
  rw [← Double.nearest_eq_self_iff i.natAbs_log2_lt]
  constructor
  · intro hmin
    by_cases hlarge : i.val = 9223372036854775807
    · exact .inr hlarge
    · exact .inl (by omega)
  · rintro (heq | heq)
    · omega
    · -- rounded up to the next integer, which is taken back to the largest
      rw [heq, nearest_largest]
      rfl

end Integer

namespace Coercion

/-- What an integer is coerced to: the integer that it is rounded to, but none beyond the
largest. -/
theorem coerce_integer {i : Integer} (h : i.IsSigned) :
    coerce (.number (.int i)) .number =
      .ok (.ofInt (min (Double.nearest i.val) 9223372036854775807)) := by
  have hvalue := (Double.toInt?_eq_some_iff ..).mpr i.toRat_toDouble
  simp only [coerce, double?, Json.Number.toDouble, numberOf, hvalue, if_pos h.nearest_bounds]

theorem exists_number_of_coerce_integer (i : Integer) :
    ∃ n : Json.Number, coerce (.number (.int i)) .number = .ok (.number n) ∧
      n.toDouble.toRat = i.toDouble.toRat := by
  obtain ⟨n, hn⟩ := exists_standsFor i.toDouble
  exact ⟨n, congrArg Except.ok hn.numberOf_eq, hn.toRat_eq⟩

end Coercion

/-- A number whose only condition, if there is one, is to be one of some integers. -/
structure Parameter.IsInteger (p : Parameter) (choices : Option (List Integer)) : Prop where
  type : p.type = .number
  conditions : p.conditions =
    (choices.map fun l => Condition.choice (l.map fun z => .number (.int z))).toList

/-- An integer that is given for a name is handled exactly: it is accepted if it is one of the
choices, and it is then left as it is. -/
structure Validation.IsExactAt (r : Validation) (n : String) (choices : Option (List Integer))
    (i : Integer) : Prop where
  accepted : r.errorsOf n = [] ↔ ∀ l, choices = some l → i ∈ l
  kept : r.errorsOf n = [] → r.normalized.get? n = some (.number (.int i))

theorem Json.ofInt_eq_int_iff {z : Int} {i : Integer} :
    ofInt z = .number (.int i) ↔ z = i.val := by
  rw [ofInt, Integer.ofInt?]
  constructor
  · intro h
    split at h
    · next j hj =>
      split at hj
      · cases hj
        cases h
        rfl
      · cases hj
    · cases h
  · rintro rfl
    rw [dif_pos ⟨i.ge, i.lt⟩]

namespace Command

variable {patterns : PatternReader} {matcher : Matcher} {c : Command} {given : NameMap Json}
  {n : String} {p : Parameter} {choices : Option (List Integer)} {i : Integer}

theorem passes_number_iff (h : p.IsInteger choices) (x : Json.Number) :
    p.Passes patterns (.number x) ↔
      ∀ l, choices = some l → ∃ z ∈ l, z.toDouble.toRat = x.toDouble.toRat := by
  have hagrees : ∀ z : Integer, (Json.number (.int z)).agreesAsDouble (.number x) =
      decide (z.toDouble.toRat = x.toDouble.toRat) := fun z => rfl
  rw [Parameter.Passes, h.type, h.conditions]
  cases choices with
  | none => simp [Json.type?]
  | some l => simp [Json.type?, Condition.appliesTo, Condition.passes, hagrees]

theorem decides_integer (patterns : PatternReader) (matcher : Matcher)
    (declared : c.schema.get? n = some p) (integer : p.IsInteger choices) (signed : i.IsSigned)
    (value : given.get? n = some (.number (.int i))) :
    ((c.checkParameters patterns matcher given).errorsOf n = [] ↔
        ∀ l, choices = some l → ∃ z ∈ l, Double.nearest z.val = Double.nearest i.val) ∧
      ((c.checkParameters patterns matcher given).errorsOf n = [] →
        (c.checkParameters patterns matcher given).normalized.get? n =
          some (.ofInt (min (Double.nearest i.val) 9223372036854775807))) := by
  obtain ⟨faults, hdecides, herrors⟩ := decides_of_declared patterns matcher given declared
    ((Parameter.supplied_eq_some_iff ..).mpr ⟨value, by simp⟩)
  obtain ⟨x, hx, hvalue⟩ := Coercion.exists_number_of_coerce_integer i
  have hcoerce := Coercion.coerce_integer signed
  -- the coerced number and the integer have the same double, so the choices see no difference
  have hentry := hdecides.eq_some_iff (.number x)
  rw [integer.type, passes_number_iff integer] at hentry
  simp only [hx, true_and, hvalue, Integer.toRat_toDouble_eq_iff] at hentry
  have hsome : (c.checkParameters patterns matcher given).errorsOf n = [] ↔
      (c.checkParameters patterns matcher given).normalized.get? n = some (.number x) := by
    rw [herrors, List.map_eq_nil_iff, ← hdecides.isSome_iff, Option.isSome_iff_exists]
    constructor
    · rintro ⟨w, hw⟩
      have hwx := ((hdecides.eq_some_iff w).mp hw).1
      rw [integer.type, hx] at hwx
      rw [hw, Except.ok.inj hwx]
    · intro hw
      exact ⟨_, hw⟩
  refine ⟨hsome.trans hentry, fun hnone => ?_⟩
  rw [hsome.mp hnone, ← Except.ok.inj (hx.symm.trans hcoerce)]

/-- What is accepted if it is rounded as a choice, and comes out rounded, is handled exactly if
rounding it does not matter. -/
theorem isExactAt_iff {r : Validation} (signed : i.IsSigned)
    (haccepted : r.errorsOf n = [] ↔
      ∀ l, choices = some l → ∃ z ∈ l, Double.nearest z.val = Double.nearest i.val)
    (hentry : r.errorsOf n = [] →
      r.normalized.get? n = some (.ofInt (min (Double.nearest i.val) 9223372036854775807))) :
    r.IsExactAt n choices i ↔
      ((∀ l, choices = some l → i ∈ l) →
        Double.IsValue i.val.natAbs ∨ i.val = 9223372036854775807) ∧
      ∀ l, choices = some l → i ∉ l → ∀ z ∈ l, Double.nearest z.val ≠ Double.nearest i.val := by
  rw [← signed.min_nearest_eq_iff]
  constructor
  · rintro ⟨hexact, hkept⟩
    refine ⟨fun hlisted => ?_, fun l hl hi z hz heq => ?_⟩
    · have hnone := hexact.mpr hlisted
      have hsame := (hentry hnone).symm.trans (hkept hnone)
      exact Json.ofInt_eq_int_iff.mp (Option.some.inj hsame)
    · -- the integer is accepted in place of the choice
      have hnone : r.errorsOf n = [] := by
        refine haccepted.mpr fun l' hl' => ?_
        cases hl.symm.trans hl'
        exact ⟨z, hz, heq⟩
      exact hi (hexact.mp hnone l hl)
  · rintro ⟨hkept, happart⟩
    have hlisted : r.errorsOf n = [] → ∀ l, choices = some l → i ∈ l := by
      intro hnone l hl
      obtain ⟨z, hz, heq⟩ := haccepted.mp hnone l hl
      by_contra hi
      exact happart l hl hi z hz heq
    refine ⟨⟨hlisted, fun hall => haccepted.mpr fun l hl => ⟨i, hall l hl, rfl⟩⟩, fun hnone => ?_⟩
    rw [hentry hnone, Json.ofInt_eq_int_iff.mpr (hkept (hlisted hnone))]

/-- An integer is accepted if there are no choices or one of them is rounded to the same double, and
it comes out rounded. It is handled exactly if and only if it has at most 53 binary digits or is the
largest, where it is to be accepted, and no choice is rounded to the same double, where it is not.
So where all integers have few digits, they are handled exactly. -/
theorem checkParameters_rounds_integers (patterns : PatternReader) (matcher : Matcher)
    (c : Command) (given : NameMap Json) {n : String} {p : Parameter}
    {choices : Option (List Integer)} {i : Integer} (declared : c.schema.get? n = some p)
    (integer : p.IsInteger choices) (signed : i.IsSigned)
    (value : given.get? n = some (.number (.int i))) :
    ((c.checkParameters patterns matcher given).errorsOf n = [] ↔
        ∀ l, choices = some l → ∃ z ∈ l, Double.nearest z.val = Double.nearest i.val) ∧
      ((c.checkParameters patterns matcher given).errorsOf n = [] →
        (c.checkParameters patterns matcher given).normalized.get? n =
          some (.ofInt (min (Double.nearest i.val) 9223372036854775807))) ∧
      ((c.checkParameters patterns matcher given).IsExactAt n choices i ↔
        ((∀ l, choices = some l → i ∈ l) →
          Double.IsValue i.val.natAbs ∨ i.val = 9223372036854775807) ∧
        ∀ l, choices = some l → i ∉ l → ∀ z ∈ l, Double.nearest z.val ≠ Double.nearest i.val) ∧
      ((∀ l, choices = some l → ∀ z ∈ l, Double.IsValue z.val.natAbs) →
        Double.IsValue i.val.natAbs →
          (c.checkParameters patterns matcher given).IsExactAt n choices i) := by
  obtain ⟨haccepted, hentry⟩ := decides_integer patterns matcher declared integer signed value
  have hexact := isExactAt_iff signed haccepted hentry
  refine ⟨haccepted, hentry, hexact, fun hchoices hfew => hexact.mpr ⟨fun _ => .inl hfew, ?_⟩⟩
  intro l hl hi z hz heq
  rw [(Double.nearest_eq_self_iff z.natAbs_log2_lt).mpr (hchoices l hl z hz),
    (Double.nearest_eq_self_iff i.natAbs_log2_lt).mpr hfew] at heq
  exact hi (Integer.eq_of_val_eq heq ▸ hz)

section Sample

def limit (choices : Option (List Integer)) : Parameter where
  type := .number
  required := false
  description := none
  default := none
  constraints := some { Constraints.free with
    allowed := choices.map fun l => l.map fun z => .number (.int z) }

theorem isInteger_limit (choices : Option (List Integer)) : (limit choices).IsInteger choices where
  type := rfl
  conditions := by cases choices <;> rfl

/-- A command whose only parameter is a limit. -/
def limitCommand (choices : Option (List Integer)) : Command :=
  .ofSchema ⟨[("limit", limit choices)], List.pairwise_singleton ..⟩

def limitGiven (i : Integer) : NameMap Json :=
  .ofList [("limit", .number (.int i))]

def checkLimit (choices : Option (List Integer)) (i : Integer) : Validation :=
  (limitCommand choices).checkParameters samplePatterns sampleMatcher (limitGiven i)

/-- The first integer whose successor is no double. -/
def beforeGap : Integer := ⟨9007199254740992, by decide, by decide⟩

def inGap : Integer := ⟨9007199254740993, by decide, by decide⟩

/-- The sample: the integer in the gap comes out as the one in front of it, and is accepted where
that is the only choice. The integer in front is handled exactly. -/
theorem checkLimit_rounds_sample :
    (checkLimit none inGap).normalized.get? "limit" = some (.number (.int beforeGap)) ∧
      ¬ (checkLimit none inGap).IsExactAt "limit" none inGap ∧
      (checkLimit (some [beforeGap]) inGap).errorsOf "limit" = [] ∧
      (checkLimit (some [beforeGap]) beforeGap).IsExactAt "limit" (some [beforeGap]) beforeGap := by
  have hround : Double.nearest inGap.val = Double.nearest beforeGap.val := by decide +kernel
  have hfew : Double.IsValue beforeGap.val.natAbs := ⟨1, 53, by decide, by decide, by decide⟩
  have hdeclared : ∀ choices, (limitCommand choices).schema.get? "limit" = some (limit choices) :=
    fun _ => rfl
  have hgiven : ∀ i, (limitGiven i).get? "limit" = some (.number (.int i)) := fun _ => rfl
  have hsigned : inGap.IsSigned := by decide
  have hsigned' : beforeGap.IsSigned := by decide
  obtain ⟨hfree, hentry, -⟩ := checkParameters_rounds_integers samplePatterns sampleMatcher
    (limitCommand none) (limitGiven inGap) (hdeclared _) (isInteger_limit _) hsigned (hgiven _)
  obtain ⟨hchoice, -⟩ := checkParameters_rounds_integers samplePatterns sampleMatcher
    (limitCommand (some [beforeGap])) (limitGiven inGap) (hdeclared _) (isInteger_limit _) hsigned
    (hgiven _)
  obtain ⟨-, -, -, hexact⟩ := checkParameters_rounds_integers samplePatterns sampleMatcher
    (limitCommand (some [beforeGap])) (limitGiven beforeGap) (hdeclared _) (isInteger_limit _)
    hsigned' (hgiven _)
  have hnone : (checkLimit none inGap).errorsOf "limit" = [] := hfree.mpr fun l hl => nomatch hl
  have hrounded : Json.ofInt (min (Double.nearest inGap.val) 9223372036854775807) =
      .number (.int beforeGap) :=
    Json.ofInt_eq_int_iff.mpr (by decide +kernel)
  have hfound : (checkLimit none inGap).normalized.get? "limit" =
      some (.number (.int beforeGap)) := (hentry hnone).trans (congrArg some hrounded)
  refine ⟨hfound, ?_, ?_, ?_⟩
  · rintro ⟨-, hkept⟩
    have hsame := hfound.symm.trans (hkept hnone)
    simp [beforeGap, inGap] at hsame
  · refine hchoice.mpr fun l hl => ?_
    cases hl
    exact ⟨beforeGap, by simp, hround.symm⟩
  · refine hexact (fun l hl z hz => ?_) hfew
    cases hl
    rw [List.mem_singleton.mp hz]
    exact hfew

end Sample

end Command

end Roster
