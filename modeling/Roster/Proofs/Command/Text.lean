import Roster.Proofs.Command.Coercion
import Roster.Proofs.Json.RoundTrip
import Roster.Proofs.Number.Rounding
import Roster.Proofs.Text.Lines

/-! # Values and their texts

A value can be given as itself or as its compact text, as on a command line,
where everything is text. Coercing either to the type of the value gives the
same result: an integer and its digits are rounded to the same double.
-/
namespace Roster

theorem Text.isBlank_of_isDigit {c : Char} (h : c.isDigit = true) : isBlank c = false := by
  simp only [Char.isDigit, Bool.and_eq_true, decide_eq_true_eq, UInt32.le_iff_toNat_le] at h
  have hlow : 48 ≤ c.toNat := h.1
  have hhigh : c.toNat ≤ 57 := h.2
  simp [isBlank]
  omega

theorem isBlank_of_mem_toString (z : Int) : ∀ c ∈ (toString z).toList, Text.isBlank c = false := by
  have hdigits : ∀ c ∈ Nat.toDigits 10 z.natAbs, Text.isBlank c = false :=
    fun c hc => Text.isBlank_of_isDigit (Double.isDigit_of_mem_toDigits c hc)
  rw [toList_toString_int]
  split
  · exact List.forall_mem_cons.mpr ⟨rfl, hdigits⟩
  · exact hdigits

namespace Integer

theorem parse?_toString (z : Integer) :
    Double.parse? (toString z.val).toList = some z.toDouble := by
  have hlength : (Nat.toDigits 10 z.val.natAbs).length ≤ 20 := by
    rw [Nat.length_toDigits_le_iff (by decide) (by decide)]
    exact z.natAbs_lt.trans (by decide)
  rw [Double.parse?_toString (hlength.trans (by decide)),
    Double.ofRatio_one_eq_ofInt z.natAbs_log2_lt]
  rfl

end Integer

namespace Coercion

theorem double?_compact_int (z : Integer) :
    double? (.string (Json.number (.int z)).compact) = double? (.number (.int z)) := by
  have htrim : Text.trim (toString z.val).toList = (toString z.val).toList :=
    Text.trim_eq_self (isBlank_of_mem_toString z.val)
  change Double.parse? (Text.trim (String.ofList (toString z.val).toList).toList) = _
  rw [String.toList_ofList, htrim, z.parse?_toString]
  rfl

/-- The items or fields that a text reads back as are those to which it is coerced. -/
theorem coerce_array_of_parse? {s : String} {items : List Json}
    (h : Json.parse? s.toList = some (.array items)) :
    coerce (.string s) .array = coerce (.array items) .array := by
  have hitems : itemsOf s = items := by rw [itemsOf, h]
  exact congrArg (fun l => Except.ok (Json.array l)) hitems

theorem coerce_object_of_parse? {s : String} {fields : List (String × Json)}
    (h : Json.parse? s.toList = some (.object fields)) :
    coerce (.string s) .object = coerce (.object fields) .object := by
  rw [coerce_string_object, h]
  rfl

/-- A value and its text mean the same: coerced to the type of the value, if it is an integer, a
truth value, or an array or object that its text reads back as, and coerced to a string, if it is
any value but a string or null. -/
theorem coerce_compact_eq :
    (∀ z : Integer, coerce (.string (Json.number (.int z)).compact) .number =
      coerce (.number (.int z)) .number) ∧
    (∀ b, coerce (.string (Json.bool b).compact) .boolean = coerce (.bool b) .boolean) ∧
    (∀ items, Json.parse? (Json.array items).compact.toList = some (.array items) →
      coerce (.string (Json.array items).compact) .array = coerce (.array items) .array) ∧
    (∀ fields, Json.parse? (Json.object fields).compact.toList = some (.object fields) →
      coerce (.string (Json.object fields).compact) .object = coerce (.object fields) .object) ∧
    (∀ v, v ≠ .null → (∀ s, v ≠ .string s) →
      coerce (.string v.compact) .string = coerce v .string) := by
  refine ⟨fun z => ?_, fun b => ?_, fun items => coerce_array_of_parse?,
    fun fields => coerce_object_of_parse?, fun v hnull hstring => ?_⟩
  · have hdouble := double?_compact_int z
    cases hd : double? (.number (.int z)) with
    | none => cases hd
    | some d => simp only [coerce, hdouble, hd]
  · cases b <;> rfl
  · cases v with
    | null => exact absurd rfl hnull
    | string s => exact absurd rfl (hstring s)
    | bool | number | array | object => rfl

/-- An integer below zero, a text with a comma and a line feed, and an object with an array. -/
def sampleItems : List Json :=
  [.number (.int ⟨-7, by decide, by decide⟩), .string "a,\n b", .object [("k", .array [])]]

theorem readsBack_sampleItems : Json.ReadsBack 3 (.array sampleItems) := by
  have hempty : Json.ReadsBack 1 (.array []) := .array (by simp)
  have hobject : Json.ReadsBack 2 (.object [("k", .array [])]) :=
    .object (by simpa using hempty) (by simp)
  refine .array fun v hv => ?_
  simp only [sampleItems, List.mem_cons, List.not_mem_nil, or_false] at hv
  rcases hv with rfl | rfl | rfl
  · exact .number 2 (Json.Number.readsBack_int _)
  · exact .string 2 _
  · exact hobject

theorem coerce_sampleItems_compact_eq :
    Json.parse? (Json.array sampleItems).compact.toList = some (.array sampleItems) ∧
      coerce (.string (Json.array sampleItems).compact) .array = .ok (.array sampleItems) ∧
      coerce (.string (Json.object [("items", .array sampleItems)]).compact) .object =
        .ok (.object [("items", .array sampleItems)]) ∧
      coerce (.string (Json.array sampleItems).compact) .string =
        coerce (.array sampleItems) .string := by
  have hitems := readsBack_sampleItems.parse?_compact (by decide)
  have hobject : Json.ReadsBack 4 (.object [("items", .array sampleItems)]) :=
    .object (by simpa using readsBack_sampleItems) (by simp)
  obtain ⟨-, -, harray, hfields, hstring⟩ := coerce_compact_eq
  refine ⟨hitems, harray sampleItems hitems, hfields _ (hobject.parse?_compact (by decide)), ?_⟩
  exact hstring (.array sampleItems) (fun h => by cases h) (fun _ h => by cases h)

end Coercion

end Roster
