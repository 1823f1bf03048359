import Roster.Proofs.Command.Coercion
import Roster.Proofs.Command.Parameters

/-! # Values that pass a check

The constraints of a parameter are a list of conditions. Which types a condition
is about and which values pass it is said here condition by condition, without
regard to the order in which a check goes about it; numbers are compared as their
doubles. A value is accepted exactly if it is of the type of its parameter and
passes the conditions on that type, and each condition that it does not pass is
one error.
-/
namespace Roster

/-- Values that a check takes for the same choice: numbers with the same double, or else equal
values. -/
def Json.agreesAsDouble : Json → Json → Bool
  | number a, number b => a.toDouble.toRat = b.toDouble.toRat
  | a, b => a.same b

/-- A condition on the value of a parameter. -/
inductive Condition where
  | pattern (p : String)
  | minLength (least : Nat)
  | maxLength (most : Nat)
  | minimum (least : Double)
  | maximum (most : Double)
  | choice (allowed : List Json)

namespace Condition

/-- Whether a condition is about the values of a type. -/
def appliesTo : Condition → ParameterType → Bool
  | pattern _, t => t = .string
  | minLength _, t | maxLength _, t => t = .string ∨ t = .array
  | minimum _, t | maximum _, t => t = .number
  | choice _, _ => true

/-- Whether a check lets a value pass a condition. Nothing matches a text that is no pattern,
lengths are numbers of characters or items, and numbers are compared as doubles. -/
def passes (patterns : PatternReader) : Condition → Json → Bool
  | pattern p, .string s =>
    match patterns p with
    | .ok accepts => accepts s
    | .error _ => false
  | minLength least, .string s => least ≤ s.length
  | minLength least, .array items => least ≤ items.length
  | maxLength most, .string s => s.length ≤ most
  | maxLength most, .array items => items.length ≤ most
  | minimum least, .number n => least.toRat ≤ n.toDouble.toRat
  | maximum most, .number n => n.toDouble.toRat ≤ most.toRat
  | choice allowed, v => allowed.any fun a => a.agreesAsDouble v
  | _, _ => false

/-- A condition is about the values of a type, and a value does not pass it. -/
def refuses (patterns : PatternReader) (t : ParameterType) (v : Json) (k : Condition) : Bool :=
  k.appliesTo t && !k.passes patterns v

end Condition

namespace Constraints

/-- The conditions that are declared. -/
def conditions (c : Constraints) : List Condition :=
  (c.pattern.map .pattern).toList ++ (c.minLength.map .minLength).toList ++
    (c.maxLength.map .maxLength).toList ++ (c.minimum.map .minimum).toList ++
    (c.maximum.map .maximum).toList ++ (c.allowed.map .choice).toList

theorem length_toList_filter_map {α : Type} {o : Option α} {q : α → Bool} {g : α → Violation}
    {f : α → Condition} {refuses : Condition → Bool} (h : ∀ a, refuses (f a) = q a) :
    ((o.filter q).map g).toList.length = (o.map f).toList.countP refuses := by
  cases o with
  | none => rfl
  | some a => cases hq : q a <;> simp [Option.filter, h, hq]

theorem countP_toList_map_eq_zero {α : Type} {o : Option α} {f : α → Condition}
    {refuses : Condition → Bool} (h : ∀ a, refuses (f a) = false) :
    (o.map f).toList.countP refuses = 0 := by
  cases o with
  | none => rfl
  | some a => simp [h]

variable (patterns : PatternReader) (c : Constraints) {v : Json} {t : ParameterType}

theorem length_patternViolations (h : v.type? = some t) :
    (c.patternViolations patterns v).length =
      (c.pattern.map Condition.pattern).toList.countP (Condition.refuses patterns t v) := by
  cases v with
  | string s =>
    cases h
    cases hp : c.pattern with
    | none => simp [patternViolations, hp]
    | some p =>
      simp only [patternViolations, hp]
      split
      · next reason he => simp [Condition.refuses, Condition.appliesTo, Condition.passes, he]
      · next accepts he =>
        cases ha : accepts s <;>
          simp [Condition.refuses, Condition.appliesTo, Condition.passes, he, ha]
  | null => cases h
  | bool | number | array | object =>
    cases h
    exact (countP_toList_map_eq_zero fun p => rfl).symm

theorem length_lengthViolations (h : v.type? = some t) :
    (c.lengthViolations v).length =
      (c.minLength.map Condition.minLength).toList.countP (Condition.refuses patterns t v) +
        (c.maxLength.map Condition.maxLength).toList.countP (Condition.refuses patterns t v) := by
  cases v with
  | string s | array items =>
    cases h
    rw [lengthViolations, length?, List.length_append]
    congr 1
    · refine length_toList_filter_map fun least => ?_
      rw [Bool.eq_iff_iff]
      simp [Condition.refuses, Condition.appliesTo, Condition.passes]
    · refine length_toList_filter_map fun most => ?_
      rw [Bool.eq_iff_iff]
      simp [Condition.refuses, Condition.appliesTo, Condition.passes]
  | null => cases h
  | bool | number | object =>
    cases h
    rw [countP_toList_map_eq_zero fun least => rfl, countP_toList_map_eq_zero fun most => rfl]
    rfl

theorem length_boundViolations (h : v.type? = some t) :
    (c.boundViolations v).length =
      (c.minimum.map Condition.minimum).toList.countP (Condition.refuses patterns t v) +
        (c.maximum.map Condition.maximum).toList.countP (Condition.refuses patterns t v) := by
  cases v with
  | number n =>
    cases h
    rw [boundViolations, List.length_append]
    congr 1
    · refine length_toList_filter_map fun least => ?_
      rw [Bool.eq_iff_iff, Double.lt_iff]
      simp [Condition.refuses, Condition.appliesTo, Condition.passes]
    · refine length_toList_filter_map fun most => ?_
      rw [Bool.eq_iff_iff, Double.lt_iff]
      simp [Condition.refuses, Condition.appliesTo, Condition.passes]
  | null => cases h
  | bool | string | array | object =>
    cases h
    rw [countP_toList_map_eq_zero fun least => rfl, countP_toList_map_eq_zero fun most => rfl]
    rfl

theorem sameChoice_eq_agrees (a b : Json) : sameChoice a b = a.agreesAsDouble b := by
  cases a <;> cases b <;> try rfl
  next m n =>
    rw [Bool.eq_iff_iff, sameChoice, Double.sameValue_iff, Json.agreesAsDouble, decide_eq_true_eq]

theorem length_choiceViolations (t : ParameterType) (v : Json) :
    (c.choiceViolations v).length =
      (c.allowed.map Condition.choice).toList.countP (Condition.refuses patterns t v) := by
  unfold choiceViolations
  split
  · next h => simp [h]
  · next allowed h =>
    rw [h]
    simp only [sameChoice_eq_agrees]
    cases ha : allowed.any fun a => a.agreesAsDouble v <;>
      simp [Condition.refuses, Condition.appliesTo, Condition.passes, ha]

/-- Each condition on its type that a value does not pass is one violation. -/
theorem length_violations (h : v.type? = some t) :
    (c.violations patterns v).length = c.conditions.countP (Condition.refuses patterns t v) := by
  simp only [violations, conditions, List.length_append, List.countP_append,
    c.length_patternViolations patterns h, c.length_lengthViolations patterns h,
    c.length_boundViolations patterns h, c.length_choiceViolations patterns t v]
  omega

end Constraints

namespace Parameter

/-- The conditions on the value of a parameter. -/
def conditions (p : Parameter) : List Condition :=
  match p.constraints with
  | none => []
  | some c => c.conditions

/-- A value is of the type of a parameter and passes the conditions on that type. -/
def Passes (patterns : PatternReader) (p : Parameter) (v : Json) : Prop :=
  v.type? = some p.type ∧
    ∀ k ∈ p.conditions, k.appliesTo p.type = true → k.passes patterns v = true

theorem length_faults (patterns : PatternReader) (p : Parameter) {v : Json}
    (h : v.type? = some p.type) :
    (p.faults patterns v).length = p.conditions.countP (Condition.refuses patterns p.type v) := by
  cases hc : p.constraints with
  | none =>
    simp only [faults, conditions, hc]
    rfl
  | some c =>
    simp only [faults, conditions, hc, List.length_map]
    exact c.length_violations patterns h

theorem passes_iff (patterns : PatternReader) (p : Parameter) {v : Json}
    (h : v.type? = some p.type) : p.Passes patterns v ↔ p.faults patterns v = [] := by
  rw [← List.length_eq_zero_iff, length_faults patterns p h, List.countP_eq_zero]
  simp only [Passes, h, true_and, Condition.refuses, Bool.and_eq_true, Bool.not_eq_true',
    not_and, Bool.not_eq_false]

/-- A value that is given is accepted as what it is coerced to, if that passes. -/
theorem Decides.eq_some_iff {patterns : PatternReader} {p : Parameter} {v : Json}
    {entry : Option Json} {faults : List ParameterFault}
    (h : Decides patterns p (some v) entry faults) (w : Json) :
    entry = some w ↔ Coercion.coerce v p.type = .ok w ∧ p.Passes patterns w := by
  cases h with
  | mistyped coerce => simp [coerce]
  | @accepted v w' coerce sound =>
    have hpasses := (p.passes_iff patterns (Coercion.type?_of_coerce coerce)).mpr sound
    constructor
    · intro heq
      cases heq
      exact ⟨coerce, hpasses⟩
    · rintro ⟨heq, -⟩
      cases coerce.symm.trans heq
      rfl
  | @violated v w' coerce faulty =>
    constructor
    · intro heq
      cases heq
    · rintro ⟨heq, hpasses⟩
      cases coerce.symm.trans heq
      exact absurd ((p.passes_iff patterns hpasses.1).mp hpasses) faulty

theorem Decides.length_faults {patterns : PatternReader} {p : Parameter} {v w : Json}
    {entry : Option Json} {faults : List ParameterFault}
    (h : Decides patterns p (some v) entry faults) (hw : Coercion.coerce v p.type = .ok w) :
    faults.length = p.conditions.countP (Condition.refuses patterns p.type w) := by
  rw [← p.length_faults patterns (Coercion.type?_of_coerce hw)]
  cases h with
  | mistyped coerce => cases hw.symm.trans coerce
  | accepted coerce sound =>
    cases hw.symm.trans coerce
    rw [sound]
  | violated coerce faulty =>
    cases hw.symm.trans coerce
    rfl

end Parameter

end Roster
