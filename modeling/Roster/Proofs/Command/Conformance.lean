import Roster.Proofs.Command.Conditions

/-! # Values that conform to a schema

What the constraints of a parameter say, with numbers taken as what they are. A
check compares numbers as doubles, so it may overlook that a value does not meet a
condition. It does so for the largest integer, which it takes for the next one,
and for numbers that are rounded to the same double as one of the choices. Apart
from these it accepts the values that conform, and no others.
-/
namespace Roster

/-- Values that are the same choice: numbers with the same value, or else equal values. -/
def Json.agrees : Json → Json → Bool
  | number a, number b => a.toRat = b.toRat
  | a, b => a.same b

namespace Condition

/-- Whether a value meets a condition. Nothing matches a text that is no pattern, and lengths are
numbers of characters or items. -/
def holds (patterns : PatternReader) : Condition → Json → Bool
  | pattern p, .string s =>
    match patterns p with
    | .ok accepts => accepts s
    | .error _ => false
  | minLength least, .string s => least ≤ s.length
  | minLength least, .array items => least ≤ items.length
  | maxLength most, .string s => s.length ≤ most
  | maxLength most, .array items => items.length ≤ most
  | minimum least, .number n => least.toRat ≤ n.toRat
  | maximum most, .number n => n.toRat ≤ most.toRat
  | choice allowed, v => allowed.any fun a => a.agrees v
  | _, _ => false

/-- A condition is about the values of a type, and a value does not meet it. -/
def fails (patterns : PatternReader) (t : ParameterType) (v : Json) (k : Condition) : Bool :=
  k.appliesTo t && !k.holds patterns v

/-- Whether a check overlooks that a value does not meet a condition. A minimum that is the first
integer behind those of 64 bits lets the last of these pass, and choices let pass what has the
double of one of them. -/
def overlooks : Condition → Json → Bool
  | minimum least, .number n =>
    least.toRat = (9223372036854775808 : Int) ∧ n.toRat = (9223372036854775807 : Int)
  | choice allowed, v =>
    (allowed.any fun a => a.agreesAsDouble v) && !allowed.any fun a => a.agrees v
  | _, _ => false

end Condition

namespace Json.Number

variable {m n : Number}

theorem toRat_toDouble_congr (h : m.toRat = n.toRat) : m.toDouble.toRat = n.toDouble.toRat := by
  cases m with
  | int i =>
    cases n with
    | int j =>
      have hval : i.val = j.val := Int.cast_injective h
      rw [toDouble, toDouble, Integer.toDouble, Integer.toDouble, hval]
    | double d =>
      have hd : d.toRat = i.val := h.symm
      exact (Double.toRat_ofInt (Double.isValue_of_toRat hd)).trans hd.symm
  | double d =>
    cases n with
    | int j =>
      have hd : d.toRat = j.val := h
      exact hd.trans (Double.toRat_ofInt (Double.isValue_of_toRat hd)).symm
    | double e => exact h

end Json.Number

theorem Json.agreesAsDouble_of_agrees {a v : Json} (h : a.agrees v = true) :
    a.agreesAsDouble v = true := by
  cases a <;> cases v <;> try exact h
  next m n =>
    simp only [agrees, agreesAsDouble, decide_eq_true_eq] at h ⊢
    exact Number.toRat_toDouble_congr h

namespace Coercion

variable {d : Double} {n : Json.Number} {v : Json} {t : ParameterType}

theorem exists_standsFor_of_coerce (h : coerce v t = .ok (.number n)) : ∃ d, StandsFor d n := by
  have ht : t = .number := (Option.some.inj (type?_of_coerce h)).symm
  subst ht
  obtain ⟨d, -, hd⟩ := coerce_number_eq_ok_iff.mp h
  obtain ⟨m, hm⟩ := exists_standsFor d
  cases hm.numberOf_eq.symm.trans hd
  exact ⟨d, hm⟩

/-- A number for which a double stands has the value of a double, or is the largest integer. -/
theorem StandsFor.toRat_toDouble_eq (h : StandsFor d n) :
    n.toDouble.toRat = n.toRat ∨ n = .int largest := by
  cases h with
  | integer value small =>
    exact .inl (Double.toRat_ofInt (Double.isValue_of_toRat value))
  | beyond value => exact .inr rfl
  | double other => exact .inl rfl

/-- A double is a lower bound of the double of a coerced number exactly if it is one of the number
itself, or the number is the largest integer and the bound is the next one. -/
theorem StandsFor.le_toDouble_iff (h : StandsFor d n) (least : Double) :
    least.toRat ≤ n.toDouble.toRat ↔ least.toRat ≤ n.toRat ∨
      least.toRat = (9223372036854775808 : Int) ∧ n.toRat = (9223372036854775807 : Int) := by
  rcases h.toRat_toDouble_eq with heq | rfl
  · have hne := n.toDouble.toRat_ne_of_gap
    rw [heq] at hne ⊢
    constructor
    · exact .inl
    · rintro (hle | ⟨-, hlargest⟩)
      · exact hle
      · exact absurd hlargest hne
  · have hvalue : Json.Number.toRat (.int largest) = (9223372036854775807 : Int) := rfl
    rw [Json.Number.toDouble, toRat_largest, hvalue]
    constructor
    · intro hle
      rcases le_or_gt least.toRat (9223372036854775807 : Int) with hlow | hhigh
      · exact .inl hlow
      · exact .inr ⟨le_antisymm hle (Double.le_toRat_of_le_toRat hhigh.le), rfl⟩
    · rintro (hle | ⟨heq, -⟩)
      · exact hle.trans (by decide +kernel)
      · exact heq.le

theorem StandsFor.toDouble_le_iff (h : StandsFor d n) (most : Double) :
    n.toDouble.toRat ≤ most.toRat ↔ n.toRat ≤ most.toRat := by
  rcases h.toRat_toDouble_eq with heq | rfl
  · rw [heq]
  · rw [Json.Number.toDouble, toRat_largest]
    constructor
    · intro hle
      exact le_trans (by decide +kernel) hle
    · exact Double.le_toRat_of_le_toRat

end Coercion

namespace Condition

variable {patterns : PatternReader} {v w : Json} {t : ParameterType} {k : Condition}

/-- What a value is coerced to passes a condition if it meets it, or if the check overlooks that it
does not. -/
theorem passes_eq_of_coerce (patterns : PatternReader) (h : Coercion.coerce v t = .ok w)
    (k : Condition) : k.passes patterns w = (k.holds patterns w || k.overlooks w) := by
  cases k with
  | pattern p => cases w <;> exact (Bool.or_false _).symm
  | minLength least | maxLength most => cases w <;> exact (Bool.or_false _).symm
  | minimum least =>
    cases w with
    | number n =>
      obtain ⟨d, hd⟩ := Coercion.exists_standsFor_of_coerce h
      rw [Bool.eq_iff_iff]
      simpa [passes, holds, overlooks] using hd.le_toDouble_iff least
    | null | bool | string | array | object => rfl
  | maximum most =>
    cases w with
    | number n =>
      obtain ⟨d, hd⟩ := Coercion.exists_standsFor_of_coerce h
      rw [Bool.eq_iff_iff]
      simpa [passes, holds, overlooks] using hd.toDouble_le_iff most
    | null | bool | string | array | object => rfl
  | choice allowed =>
    have hmono : (allowed.any fun a => a.agrees w) = true →
        (allowed.any fun a => a.agreesAsDouble w) = true := by
      simp only [List.any_eq_true]
      rintro ⟨a, ha, hw⟩
      exact ⟨a, ha, Json.agreesAsDouble_of_agrees hw⟩
    rw [passes, holds, overlooks]
    revert hmono
    generalize (allowed.any fun a => a.agrees w) = exact
    generalize (allowed.any fun a => a.agreesAsDouble w) = rounded
    cases exact <;> cases rounded <;> simp

theorem fails_of_overlooks (htype : w.type? = some t) (h : k.overlooks w = true) :
    k.fails patterns t w = true := by
  cases k with
  | pattern p => cases w <;> cases h
  | minLength least | maxLength most | maximum most => cases w <;> cases h
  | minimum least =>
    cases w <;> cases htype <;> try cases h
    next n =>
      obtain ⟨hleast, hn⟩ : least.toRat = (9223372036854775808 : Int) ∧
        n.toRat = (9223372036854775807 : Int) := by simpa [overlooks] using h
      have hgt : n.toRat < least.toRat := by
        rw [hleast, hn]
        decide +kernel
      simpa [fails, appliesTo, holds] using hgt
  | choice allowed =>
    simp only [overlooks, Bool.and_eq_true, Bool.not_eq_true'] at h
    simp [fails, appliesTo, holds, h.2]

theorem countP_refuses_add_countP_overlooks (patterns : PatternReader)
    (h : Coercion.coerce v t = .ok w) (l : List Condition) :
    l.countP (refuses patterns t w) + l.countP (overlooks · w) = l.countP (fails patterns t w) := by
  induction l with
  | nil => rfl
  | cons k l ih =>
    have hstep : (refuses patterns t w k).toNat + (k.overlooks w).toNat =
        (fails patterns t w k).toNat := by
      have hfails : k.overlooks w = true → k.fails patterns t w = true :=
        fails_of_overlooks (Coercion.type?_of_coerce h)
      rw [refuses, passes_eq_of_coerce patterns h, fails] at *
      cases hoverlooked : k.overlooks w with
      | false => simp
      | true => simp [hfails hoverlooked]
    simp only [List.countP_cons, ← ih]
    revert hstep
    cases refuses patterns t w k <;> cases k.overlooks w <;> cases fails patterns t w k <;> simp <;>
      omega

end Condition

namespace Parameter

/-- A value is of the type of a parameter and meets the conditions on that type. -/
def Conforms (patterns : PatternReader) (p : Parameter) (v : Json) : Prop :=
  v.type? = some p.type ∧
    ∀ k ∈ p.conditions, k.appliesTo p.type = true → k.holds patterns v = true

/-- All numbers among the choices are doubles. -/
def HasDoubleChoices (p : Parameter) : Prop :=
  ∀ allowed, .choice allowed ∈ p.conditions →
    ∀ m : Json.Number, .number m ∈ allowed → m.toDouble.toRat = m.toRat

variable {patterns : PatternReader} {p : Parameter} {v w : Json}

/-- What is coerced to a type conforms exactly if it passes and nothing is overlooked. -/
theorem passes_iff_of_coerce (h : Coercion.coerce v p.type = .ok w) :
    p.Passes patterns w ↔ w.type? = some p.type ∧ ∀ k ∈ p.conditions,
      k.appliesTo p.type = true → k.holds patterns w = true ∨ k.overlooks w = true := by
  simp only [Passes, Condition.passes_eq_of_coerce patterns h, Bool.or_eq_true]

/-- Nothing is overlooked in a number other than the largest integer, if the choices are doubles. -/
theorem HasDoubleChoices.overlooks_eq_false (hchoices : p.HasDoubleChoices)
    (h : Coercion.coerce v p.type = .ok w) (hne : w ≠ .number (.int Coercion.largest)) :
    ∀ k ∈ p.conditions, k.overlooks w = false := by
  intro k hk
  rw [Bool.eq_false_iff]
  intro hoverlooked
  have hexact : ∀ n, w = .number n → n.toDouble.toRat = n.toRat := by
    rintro n rfl
    obtain ⟨d, hd⟩ := Coercion.exists_standsFor_of_coerce h
    rcases hd.toRat_toDouble_eq with heq | rfl
    · exact heq
    · exact absurd rfl hne
  cases k with
  | pattern p => cases w <;> cases hoverlooked
  | minLength least | maxLength most | maximum most => cases w <;> cases hoverlooked
  | minimum least =>
    cases w <;> try cases hoverlooked
    next n =>
      obtain ⟨-, hlargest⟩ : least.toRat = (9223372036854775808 : Int) ∧
        n.toRat = (9223372036854775807 : Int) := by simpa [Condition.overlooks] using hoverlooked
      exact n.toDouble.toRat_ne_of_gap ((hexact n rfl).trans hlargest)
  | choice allowed =>
    simp only [Condition.overlooks, Bool.and_eq_true, Bool.not_eq_true', List.any_eq_true,
      List.any_eq_false] at hoverlooked
    obtain ⟨⟨a, ha, hsame⟩, hnone⟩ := hoverlooked
    refine hnone a ha ?_
    cases a <;> cases w <;> try exact hsame
    next m n =>
      simp only [Json.agreesAsDouble, Json.agrees, decide_eq_true_eq] at hsame ⊢
      rw [← hchoices allowed hk m ha, hsame, hexact n rfl]

end Parameter

/-- A check judges exactly what is given for a name and is coerced to a value: an entry is this
value, there is one if the value conforms, and each condition that the value does not meet is one
error. -/
structure Validation.JudgesExactly (r : Validation) (patterns : PatternReader) (n : String)
    (p : Parameter) (w : Json) : Prop where
  entry : ∀ x, r.normalized.get? n = some x ↔ x = w ∧ p.Conforms patterns w
  errors : (r.errorsOf n).length = p.conditions.countP (Condition.fails patterns p.type w)

/-- If an entry is what is coerced and passes, and the errors are the conditions that it does not
pass, then a check judges exactly unless it overlooks something. -/
theorem Validation.judgesExactly_iff {r : Validation} {patterns : PatternReader} {n : String}
    {p : Parameter} {v w : Json} (hw : Coercion.coerce v p.type = .ok w)
    (hentry : ∀ x, r.normalized.get? n = some x ↔
      Coercion.coerce v p.type = .ok x ∧ x.type? = some p.type ∧ ∀ k ∈ p.conditions,
        k.appliesTo p.type = true → k.holds patterns x = true ∨ k.overlooks x = true)
    (hcount : (r.errorsOf n).length + p.conditions.countP (fun k => k.overlooks w) =
      p.conditions.countP (Condition.fails patterns p.type w)) :
    r.JudgesExactly patterns n p w ↔ ∀ k ∈ p.conditions, k.overlooks w = false := by
  have hzero : p.conditions.countP (fun k => k.overlooks w) = 0 ↔
      ∀ k ∈ p.conditions, k.overlooks w = false := by
    simp [List.countP_eq_zero]
  constructor
  · rintro ⟨-, hall⟩
    exact hzero.mp (by omega)
  · intro hnone
    have herrors := hzero.mpr hnone
    refine ⟨fun x => ?_, by omega⟩
    rw [hentry x]
    constructor
    · rintro ⟨hx, htype, hall⟩
      cases hw.symm.trans hx
      exact ⟨rfl, htype, fun k hk happlies => by simpa [hnone k hk] using hall k hk happlies⟩
    · rintro ⟨rfl, htype, hall⟩
      exact ⟨hw, htype, fun k hk happlies => .inl (hall k hk happlies)⟩

namespace Command

section Given

variable (patterns : PatternReader) (matcher : Matcher) {c : Command} {given : NameMap Json}
  {n : String} {p : Parameter} {v w : Json} (declared : c.schema.get? n = some p)
  (value : given.get? n = some v) (notNull : v ≠ .null)

include declared value notNull

theorem entry_eq_some_iff (w : Json) :
    (c.checkParameters patterns matcher given).normalized.get? n = some w ↔
      Coercion.coerce v p.type = .ok w ∧ w.type? = some p.type ∧ ∀ k ∈ p.conditions,
        k.appliesTo p.type = true → k.holds patterns w = true ∨ k.overlooks w = true := by
  obtain ⟨faults, h, -⟩ := decides_of_declared patterns matcher given declared
    ((Parameter.supplied_eq_some_iff ..).mpr ⟨value, notNull⟩)
  rw [h.eq_some_iff w]
  exact and_congr_right fun hw => Parameter.passes_iff_of_coerce hw

theorem length_errorsOf_add_countP_overlooks (hw : Coercion.coerce v p.type = .ok w) :
    ((c.checkParameters patterns matcher given).errorsOf n).length +
        p.conditions.countP (fun k => k.overlooks w) =
      p.conditions.countP (Condition.fails patterns p.type w) := by
  obtain ⟨faults, h, herrors⟩ := decides_of_declared patterns matcher given declared
    ((Parameter.supplied_eq_some_iff ..).mpr ⟨value, notNull⟩)
  rw [herrors, List.length_map, h.length_faults hw]
  exact Condition.countP_refuses_add_countP_overlooks patterns hw p.conditions

end Given

/-- A value that is given for a declared parameter leaves an entry exactly if what it is coerced to
is of the declared type and each condition on that type is met, or it is overlooked that it is not;
the entry is then what it is coerced to. Each condition that is not met is one error, apart from the
overlooked ones. So values are judged exactly if and only if nothing is overlooked. That is so for
all but the largest integer, if the numbers among the choices are doubles. -/
theorem checkParameters_accepts_up_to_rounding (patterns : PatternReader) (matcher : Matcher)
    (c : Command) (given : NameMap Json) {n : String} {p : Parameter} {v : Json}
    (declared : c.schema.get? n = some p) (value : given.get? n = some v) (notNull : v ≠ .null) :
    (∀ w, (c.checkParameters patterns matcher given).normalized.get? n = some w ↔
        Coercion.coerce v p.type = .ok w ∧ w.type? = some p.type ∧ ∀ k ∈ p.conditions,
          k.appliesTo p.type = true → k.holds patterns w = true ∨ k.overlooks w = true) ∧
      ∀ w, Coercion.coerce v p.type = .ok w →
        ((c.checkParameters patterns matcher given).errorsOf n).length +
            p.conditions.countP (fun k => k.overlooks w) =
          p.conditions.countP (fun k => k.appliesTo p.type && !k.holds patterns w) ∧
        ((c.checkParameters patterns matcher given).JudgesExactly patterns n p w ↔
          ∀ k ∈ p.conditions, k.overlooks w = false) ∧
        (w ≠ .number (.int Coercion.largest) → p.HasDoubleChoices →
          (c.checkParameters patterns matcher given).JudgesExactly patterns n p w) := by
  have hentry := entry_eq_some_iff patterns matcher declared value notNull
  refine ⟨hentry, fun w hw => ?_⟩
  have hcount := length_errorsOf_add_countP_overlooks patterns matcher declared value notNull hw
  have hexact := Validation.judgesExactly_iff hw hentry hcount
  exact ⟨hcount, hexact, fun hne hchoices => hexact.mpr (hchoices.overlooks_eq_false hw hne)⟩

section Sample

/-- A number that is at least the first integer behind those of 64 bits. -/
def farLimit : Parameter where
  type := .number
  required := false
  description := none
  default := none
  constraints := some { Constraints.free with minimum := some (.ofInt 9223372036854775808) }

/-- A command whose only parameter is this one. -/
def farCommand : Command :=
  .ofSchema ⟨[("limit", farLimit)], List.pairwise_singleton ..⟩

/-- The sample: the largest integer is accepted although it is below the least that is allowed, so
it is not judged exactly. A text of one capital letter is, and is two errors: it is too short and
does not match. -/
theorem check_of_sample_overlooks_minimum :
    (farCommand.checkParameters samplePatterns sampleMatcher
        (.ofList [("limit", .number (.int Coercion.largest))])).normalized.get? "limit" =
        some (.number (.int Coercion.largest)) ∧
      ¬ (farCommand.checkParameters samplePatterns sampleMatcher
        (.ofList [("limit", .number (.int Coercion.largest))])).JudgesExactly samplePatterns "limit"
          farLimit (.number (.int Coercion.largest)) ∧
      ((checkSample (.ofList [("service", .string "X")])).errorsOf "service").length = 2 := by
  have hcoerce : Coercion.coerce (.number (.int Coercion.largest)) .number =
      .ok (.number (.int Coercion.largest)) :=
    congrArg Except.ok (Coercion.numberOf_of_beyond_largest Coercion.toRat_largest)
  have hoverlooked : (Condition.minimum (.ofInt 9223372036854775808)).overlooks
      (.number (.int Coercion.largest)) = true := by decide +kernel
  obtain ⟨hentry, hjudged⟩ := checkParameters_accepts_up_to_rounding samplePatterns sampleMatcher
    farCommand (.ofList [("limit", .number (.int Coercion.largest))]) (n := "limit") (p := farLimit)
    rfl rfl (by simp)
  obtain ⟨-, hservice⟩ := checkParameters_accepts_up_to_rounding samplePatterns sampleMatcher
    .sample (.ofList [("service", .string "X")]) (n := "service") rfl rfl (by simp)
  refine ⟨?_, ?_, ?_⟩
  · refine (hentry _).mpr ⟨hcoerce, rfl, fun k hk _ => .inr ?_⟩
    cases List.mem_singleton.mp hk
    exact hoverlooked
  · intro hexact
    have hnone := (hjudged _ hcoerce).2.1.mp hexact _ (List.mem_singleton.mpr rfl)
    rw [hoverlooked] at hnone
    cases hnone
  · obtain ⟨-, -, hexact⟩ := hservice _ rfl
    refine (hexact (by simp) (fun allowed hallowed => ?_)).errors.trans (by decide +kernel)
    have hmem : Condition.choice allowed ∈ [.pattern "^[a-z]+$", .minLength 2] := hallowed
    simp at hmem

end Sample

end Command

end Roster
