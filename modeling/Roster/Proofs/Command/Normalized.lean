import Roster.Proofs.Command.Conditions

/-! # Checking what was checked

The values with which a valid check comes out are a fixed point: checked again
they are all accepted, as they are. An entry is what some value was coerced to,
or a default, and either is coerced to itself.
-/
namespace Roster

namespace Parameter

/-- A value that is accepted as it is. -/
structure IsSettled (patterns : PatternReader) (p : Parameter) (v : Json) : Prop where
  coerce : Coercion.coerce v p.type = .ok v
  passes : p.Passes patterns v

variable {patterns : PatternReader} {p : Parameter} {v : Json} {entry : Option Json}
  {faults : List ParameterFault}

theorem IsSettled.ne_null (h : p.IsSettled patterns v) : v ≠ .null :=
  Json.ne_null_of_type? h.passes.1

theorem Decides.of_settled (h : Decides patterns p (some v) entry faults)
    (hv : p.IsSettled patterns v) : entry = some v ∧ faults = [] := by
  have hentry := (h.eq_some_iff v).mpr ⟨hv.coerce, hv.passes⟩
  exact ⟨hentry, h.isSome_iff.mp (by rw [hentry]; rfl)⟩

/-- What is decided without faults is a settled value, or there is none and none is needed. -/
theorem Decides.settled_or_left_out {s : Option Json} (h : Decides patterns p s entry [])
    (hdefault : ∀ d, p.default = some d → p.IsSettled patterns d) :
    (∃ w, entry = some w ∧ p.IsSettled patterns w) ∨
      entry = none ∧ p.default = none ∧ p.required = false := by
  generalize hf : ([] : List ParameterFault) = faults at h
  cases h with
  | @defaulted d default => exact .inl ⟨d, rfl, hdefault d default⟩
  | refused => cases hf
  | leftOut default optional => exact .inr ⟨rfl, default, optional⟩
  | mistyped => cases hf
  | @accepted v w coerce sound =>
    have htype := Coercion.type?_of_coerce coerce
    have hpasses := (p.passes_iff patterns htype).mpr sound
    exact .inl ⟨w, rfl, Coercion.coerce_of_coerce coerce, hpasses⟩
  | violated coerce faulty => exact absurd hf.symm faulty

end Parameter

namespace Command

open Parameter

variable {patterns : PatternReader} {matcher : Matcher} {c : Command} {given : NameMap Json}

/-- A second check leaves the entry of each name as it is and finds nothing wrong with it. -/
theorem entry_and_errors_of_normalized
    (defaults : ∀ n p d, c.schema.get? n = some p → p.default = some d → p.IsSettled patterns d)
    (valid : (c.checkParameters patterns matcher given).isValid = true) (n : String) :
    (c.checkParameters patterns matcher
        (c.checkParameters patterns matcher given).normalized).normalized.get? n =
      (c.checkParameters patterns matcher given).normalized.get? n ∧
    (c.checkParameters patterns matcher
        (c.checkParameters patterns matcher given).normalized).errorsOf n = [] := by
  cases hn : c.schema.get? n with
  | none =>
    obtain ⟨hfirst, -⟩ := of_undeclared patterns matcher given hn
    obtain ⟨hsecond, herrors⟩ := of_undeclared patterns matcher
      (c.checkParameters patterns matcher given).normalized hn
    exact ⟨hsecond.trans hfirst.symm, herrors⟩
  | some p =>
    obtain ⟨faults, hfirst, herrors⟩ := decides_of_declared patterns matcher given hn rfl
    have hnone := (isValid_iff_errorsOf ..).mp valid n
    rw [herrors, List.map_eq_nil_iff] at hnone
    subst hnone
    -- what the first check decided is what is given for the name in the second
    rcases hfirst.settled_or_left_out fun d hd => defaults n p d hn hd with
      ⟨w, hw, hsettled⟩ | ⟨hw, hdefault, hoptional⟩
    · obtain ⟨faults, hsecond, herrors⟩ := decides_of_declared patterns matcher _ hn
        ((supplied_eq_some_iff ..).mpr ⟨hw, hsettled.ne_null⟩)
      obtain ⟨hentry, rfl⟩ := hsecond.of_settled hsettled
      exact ⟨hentry.trans hw.symm, herrors⟩
    · obtain ⟨faults, hsecond, herrors⟩ := decides_of_declared patterns matcher _ hn
        ((supplied_eq_none_iff ..).mpr (.inl hw))
      obtain ⟨hentry, rfl⟩ := hsecond.of_no_default hdefault
      rw [hoptional] at herrors
      exact ⟨hentry.trans hw.symm, herrors⟩

/-- If all defaults are accepted as they are, the values that come out of a valid check are a fixed
point of checking. -/
theorem checkParameters_fixes_normalized (patterns : PatternReader) (matcher : Matcher)
    {c : Command} {given : NameMap Json}
    (defaults : ∀ n p d, c.schema.get? n = some p → p.default = some d →
      Coercion.coerce d p.type = .ok d ∧
        ∀ k ∈ p.conditions, k.appliesTo p.type = true → k.passes patterns d = true)
    (valid : (c.checkParameters patterns matcher given).isValid = true) :
    (c.checkParameters patterns matcher
        (c.checkParameters patterns matcher given).normalized).isValid = true ∧
      (c.checkParameters patterns matcher
        (c.checkParameters patterns matcher given).normalized).warnings = [] ∧
      (c.checkParameters patterns matcher
        (c.checkParameters patterns matcher given).normalized).normalized =
        (c.checkParameters patterns matcher given).normalized := by
  have hdefaults : ∀ n p d, c.schema.get? n = some p → p.default = some d →
      p.IsSettled patterns d := by
    intro n p d hp hd
    obtain ⟨hcoerce, hpasses⟩ := defaults n p d hp hd
    exact ⟨hcoerce, Coercion.type?_of_coerce hcoerce, hpasses⟩
  have hsame := entry_and_errors_of_normalized hdefaults valid
  have hfirst := decidesEach_checkParameters patterns matcher c given
  have hsecond := decidesEach_checkParameters patterns matcher c
    (c.checkParameters patterns matcher given).normalized
  refine ⟨?_, ?_, ?_⟩
  · exact (isValid_iff_errorsOf ..).mpr fun n => (hsame n).2
  · -- a name that is warned about would be an entry without a declaration
    refine List.eq_nil_iff_forall_not_mem.mpr fun w hw => ?_
    obtain ⟨hentry, hunknown⟩ := hsecond.warnings_unknown w hw
    rw [hfirst.entries_declared w.name hentry] at hunknown
    cases hunknown
  · exact NameMap.ext_get? fun n => (hsame n).1

/-- The sample: with the service named, its default for the replicas is given in the second check
and accepted as it is. -/
theorem checkSample_fixes_normalized :
    (checkSample (.ofList [("service", .string "web")])).normalized.get? "replicas" =
        some (.ofNat 2) ∧
      (checkSample (checkSample (.ofList [("service", .string "web")])).normalized).normalized =
        (checkSample (.ofList [("service", .string "web")])).normalized := by
  have htwo : Coercion.coerce (.ofNat 2) .number = .ok (.ofNat 2) :=
    congrArg Except.ok (Coercion.numberOf_of_integer (i := ⟨2, by decide, by decide⟩)
      (Double.toRat_ofInt (.of_lt (by decide))) (by decide))
  have hdefaults : ∀ n p d, Command.sample.schema.get? n = some p → p.default = some d →
      Coercion.coerce d p.type = .ok d ∧
        ∀ k ∈ p.conditions, k.appliesTo p.type = true → k.passes samplePatterns d = true := by
    intro n p d hp hd
    have hmem := (NameMap.mem_entries_iff ..).mpr hp
    simp only [sample, ofSchema, List.mem_cons, List.not_mem_nil, or_false, Prod.mk.injEq] at hmem
    rcases hmem with ⟨rfl, rfl⟩ | ⟨rfl, rfl⟩
    · cases hd
      refine ⟨htwo, ?_⟩
      decide +kernel
    · cases hd
  have hvalid : (checkSample (.ofList [("service", .string "web")])).isValid = true := by
    decide +kernel
  obtain ⟨-, -, hfixed⟩ := checkParameters_fixes_normalized samplePatterns sampleMatcher hdefaults
    hvalid
  exact ⟨by rfl, hfixed⟩

end Command

end Roster
