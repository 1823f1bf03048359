import Roster.Command.Validation
import Roster.Proofs.Command.Conditions
import Roster.Proofs.Definition.Report

/-! # Contradictions in parameters

A command can be checked before any value is given for its parameters. What this
finds are conditions that no value meets, and it finds each of them: such a
parameter refuses every value that it is ever given, and patterns that are found
to be in order never fail to be read later.
-/
namespace Roster

/-- What no value can meet: a text that is no pattern, and bounds in the wrong order. -/
inductive Contradiction where
  | badPattern (pattern reason : String)
  | lengths (least most : Nat)
  | bounds (least most : Double)

namespace Contradiction

/-- What is said of the parameter of a name. -/
def text (name : String) (k : Contradiction) : String :=
  let label := "parameter '" ++ name ++ "' has "
  match k with
  | badPattern p reason => label ++ "an invalid pattern '" ++ p ++ "': " ++ reason
  | lengths least most =>
    label ++ "min_length " ++ toString least ++ " greater than max_length " ++ toString most
  | bounds least most =>
    label ++ "minimum " ++ Violation.numberText least ++ " greater than maximum " ++
      Violation.numberText most

/-- Whether values of a type are subject to the conditions that contradict each other. -/
def concerns : Contradiction → ParameterType → Bool
  | badPattern _ _, t => t = .string
  | lengths _ _, t => t = .string ∨ t = .array
  | bounds _ _, t => t = .number

end Contradiction

/-- The contradictions in the conditions on a value. -/
inductive Constraints.Contradicts (patterns : PatternReader) (c : Constraints) :
    Contradiction → Prop
  | badPattern {p reason : String} (pattern : c.pattern = some p)
      (unreadable : patterns p = .error reason) : Contradicts patterns c (.badPattern p reason)
  | lengths {least most : Nat} (minLength : c.minLength = some least)
      (maxLength : c.maxLength = some most) (wrong : most < least) :
      Contradicts patterns c (.lengths least most)
  | bounds {least most : Double} (minimum : c.minimum = some least)
      (maximum : c.maximum = some most) (wrong : most.toRat < least.toRat) :
      Contradicts patterns c (.bounds least most)

/-- The contradictions in the declaration of a parameter. -/
def Parameter.Contradicts (patterns : PatternReader) (p : Parameter) (k : Contradiction) : Prop :=
  ∃ c, p.constraints = some c ∧ c.Contradicts patterns k

/-! ## What is found beforehand -/

namespace Command

variable {patterns : PatternReader} {name message : String}

theorem mem_constraintFaults_iff (c : Constraints) :
    message ∈ constraintFaults patterns name c ↔
      ∃ k, c.Contradicts patterns k ∧ k.text name = message := by
  simp only [constraintFaults, List.mem_append]
  constructor
  · rintro ((h | h) | h)
    · split at h
      · cases h
      · next p hp =>
        split at h
        · cases h
        · next reason hreason =>
          rw [List.mem_singleton] at h
          exact ⟨_, .badPattern hp hreason, h.symm⟩
    · split at h
      · next least most hleast hmost =>
        split at h
        · next hwrong =>
          rw [List.mem_singleton] at h
          exact ⟨_, .lengths hleast hmost hwrong, h.symm⟩
        · cases h
      · cases h
    · split at h
      · next least most hleast hmost =>
        split at h
        · next hwrong =>
          rw [List.mem_singleton] at h
          exact ⟨_, .bounds hleast hmost ((Double.lt_iff ..).mp hwrong), h.symm⟩
        · cases h
      · cases h
  · rintro ⟨k, hk, rfl⟩
    cases hk with
    | badPattern hp hreason =>
      refine .inl (.inl ?_)
      rw [hp]
      dsimp only
      rw [hreason]
      exact List.mem_singleton.mpr rfl
    | lengths hleast hmost hwrong =>
      refine .inl (.inr ?_)
      rw [hleast, hmost]
      dsimp only
      rw [if_pos hwrong]
      exact List.mem_singleton.mpr rfl
    | bounds hleast hmost hwrong =>
      refine .inr ?_
      rw [hleast, hmost]
      dsimp only
      rw [if_pos ((Double.lt_iff ..).mpr hwrong)]
      exact List.mem_singleton.mpr rfl

theorem mem_parameterFaults_iff (p : Parameter) :
    message ∈ parameterFaults patterns name p ↔
      ∃ k, p.Contradicts patterns k ∧ k.text name = message := by
  cases hp : p.constraints with
  | none => simp [parameterFaults, Parameter.Contradicts, hp]
  | some c => simp [parameterFaults, Parameter.Contradicts, hp, mem_constraintFaults_iff]

/-- What a report says of a command: what is wrong with it and with its parameters, and what is
questionable about both, with the issues between the errors and behind the warnings. -/
theorem says_validate (patterns : PatternReader) (c : Command) :
    (c.validate patterns).Says
      (c.faults ++ (c.issues.filter fun i => i.IsEssential essentialFields).map Issue.text ++
        c.schema.entries.flatMap fun e => parameterFaults patterns e.1 e.2)
      ((c.schema.entries.flatMap fun e => parameterDoubts e.1 e.2) ++ c.doubts ++
        (c.issues.filter fun i => ¬ i.IsEssential essentialFields).map Issue.text) := by
  have hfaults := Report.says_empty.foldl_error c.faults
  have hessential := hfaults.failEssential c.issues essentialFields
  have hparameters := hessential.foldl_error
    (c.schema.entries.flatMap fun e => parameterFaults patterns e.1 e.2)
  have hdoubts := (hparameters.foldl_warning
    (c.schema.entries.flatMap fun e => parameterDoubts e.1 e.2)).foldl_warning c.doubts
  exact hdoubts.warnOthers c.issues essentialFields

variable {c : Command} {p : Parameter} {k : Contradiction}

theorem text_mem_errors_validate (declared : c.schema.get? name = some p)
    (h : p.Contradicts patterns k) : k.text name ∈ (c.validate patterns).errors := by
  rw [(says_validate patterns c).errors]
  refine List.mem_append_right _ (List.mem_flatMap.mpr ⟨(name, p), ?_, ?_⟩)
  · exact (NameMap.mem_entries_iff ..).mpr declared
  · exact (mem_parameterFaults_iff p).mpr ⟨k, h, rfl⟩

theorem not_contradicts_of_isValid (valid : (c.validate patterns).isValid = true)
    (declared : c.schema.get? name = some p) : ¬ p.Contradicts patterns k := by
  intro h
  have hmem := text_mem_errors_validate declared h
  rw [(says_validate patterns c).valid.mp valid] at hmem
  cases hmem

end Command

/-! ## What is refused later -/

namespace Constraints

variable {patterns : PatternReader} {c : Constraints} {v : Json} {p reason : String}

theorem contradicts_of_mem_violations (h : .badPattern p reason ∈ c.violations patterns v) :
    c.Contradicts patterns (.badPattern p reason) := by
  simp only [violations, List.mem_append] at h
  rcases h with ((h | h) | h) | h
  · unfold patternViolations at h
    split at h
    · split at h
      · cases h
      · next q hq =>
        split at h
        · next reason' hreason =>
          rw [List.mem_singleton] at h
          cases h
          exact .badPattern hq hreason
        · split at h <;> simp at h
    · cases h
  · unfold lengthViolations at h
    split at h
    · cases h
    · simp at h
  · unfold boundViolations at h
    split at h
    · simp at h
    · cases h
  · unfold choiceViolations at h
    split at h
    · cases h
    · split at h <;> simp at h

/-- No value of a type meets conditions on it that contradict each other. -/
theorem Contradicts.not_all_pass {k : Contradiction} {t : ParameterType}
    (h : c.Contradicts patterns k) (concerns : k.concerns t = true) (htype : v.type? = some t) :
    ¬ ∀ x ∈ c.conditions, x.appliesTo t = true → x.passes patterns v = true := by
  intro hall
  cases h with
  | @badPattern p reason pattern unreadable =>
    have ht : t = .string := by simpa [Contradiction.concerns] using concerns
    subst ht
    have hp := hall (.pattern p) (by simp [conditions, pattern]) rfl
    cases v <;> cases htype
    simp [Condition.passes, unreadable] at hp
  | @lengths least most minLength maxLength wrong =>
    have hleast := hall (.minLength least) (by simp [conditions, minLength]) concerns
    have hmost := hall (.maxLength most) (by simp [conditions, maxLength]) concerns
    cases v <;> simp [Condition.passes] at hleast hmost <;> omega
  | @bounds least most minimum maximum wrong =>
    have hleast := hall (.minimum least) (by simp [conditions, minimum]) concerns
    have hmost := hall (.maximum most) (by simp [conditions, maximum]) concerns
    cases v <;> simp [Condition.passes] at hleast hmost
    exact absurd (hleast.trans hmost) wrong.not_ge

end Constraints

namespace Parameter

variable {patterns : PatternReader} {p : Parameter} {k : Contradiction}

theorem Contradicts.not_passes (h : p.Contradicts patterns k)
    (concerns : k.concerns p.type = true) (v : Json) : ¬ p.Passes patterns v := by
  rintro ⟨htype, hpasses⟩
  obtain ⟨c, hc, hk⟩ := h
  rw [conditions, hc] at hpasses
  exact hk.not_all_pass concerns htype hpasses

/-- A pattern that a check of values finds at fault is a contradiction in the declaration. -/
theorem Decides.contradicts_of_badPattern {s entry : Option Json} {faults : List ParameterFault}
    (h : Decides patterns p s entry faults) {q reason : String} {v : Json}
    (hmem : .violated (.badPattern q reason) v ∈ faults) :
    p.Contradicts patterns (.badPattern q reason) := by
  cases h with
  | defaulted => cases hmem
  | refused => simp at hmem
  | leftOut => cases hmem
  | mistyped => simp at hmem
  | accepted => cases hmem
  | violated coerce faulty =>
    cases hc : p.constraints with
    | none => simp [faults, hc] at hmem
    | some c =>
      simp only [faults, hc, List.mem_map, ParameterFault.violated.injEq] at hmem
      obtain ⟨x, hx, rfl, -⟩ := hmem
      exact ⟨c, hc, Constraints.contradicts_of_mem_violations hx⟩

end Parameter

namespace Command

variable {patterns : PatternReader} {c : Command} {n : String} {p : Parameter} {k : Contradiction}

theorem fault_ne_badPattern_of_isValid (valid : (c.validate patterns).isValid = true)
    (matcher : Matcher) (given : NameMap Json) {e : ParameterError}
    (he : e ∈ (c.checkParameters patterns matcher given).errors) (q reason : String) (v : Json) :
    e.fault ≠ .violated (.badPattern q reason) v := by
  intro hfault
  rw [errors_eq_flatMap] at he
  obtain ⟨⟨n, p⟩, hp, he⟩ := List.mem_flatMap.mp he
  obtain ⟨fault, hmem, rfl⟩ := List.mem_map.mp he
  have hdecides := Parameter.decides_decide patterns p (Parameter.supplied given n)
  obtain rfl : fault = .violated (.badPattern q reason) v := hfault
  have hk := hdecides.contradicts_of_badPattern hmem
  exact not_contradicts_of_isValid valid ((NameMap.mem_entries_iff ..).mp hp) hk

/-- A parameter with a contradiction that concerns its type refuses what it is given. -/
theorem refuses_of_contradicts (matcher : Matcher) (given : NameMap Json)
    (declared : c.schema.get? n = some p) (h : p.Contradicts patterns k)
    (concerns : k.concerns p.type = true) {v : Json} (value : given.get? n = some v)
    (notNull : v ≠ .null) :
    (c.checkParameters patterns matcher given).normalized.get? n = none ∧
      (c.checkParameters patterns matcher given).errorsOf n ≠ [] := by
  obtain ⟨faults, hdecides, herrors⟩ := decides_of_declared patterns matcher given declared
    ((Parameter.supplied_eq_some_iff ..).mpr ⟨value, notNull⟩)
  have hnone : (c.checkParameters patterns matcher given).normalized.get? n = none := by
    refine Option.eq_none_iff_forall_ne_some.mpr fun w hw => ?_
    exact h.not_passes concerns w ((hdecides.eq_some_iff w).mp hw).2
  refine ⟨hnone, fun hnil => ?_⟩
  rw [herrors, List.map_eq_nil_iff] at hnil
  have hsome := hdecides.isSome_iff.mpr hnil
  rw [hnone] at hsome
  cases hsome

/-- What is found in a command beforehand is what is found later. If the command is valid then no
check of parameters ever finds a pattern at fault. What is reported of a parameter are its
contradictions, all of them, and with one that concerns its type the parameter refuses every value
that it is given. -/
theorem validate_foresees_checks (patterns : PatternReader) (c : Command) :
    ((c.validate patterns).isValid = true → ∀ (matcher : Matcher) (given : NameMap Json),
        ∀ e ∈ (c.checkParameters patterns matcher given).errors, ∀ q reason v,
          e.fault ≠ .violated (.badPattern q reason) v) ∧
      ∀ n p, c.schema.get? n = some p →
        (∀ message, message ∈ parameterFaults patterns n p ↔
          ∃ k, p.Contradicts patterns k ∧ k.text n = message) ∧
        ∀ k, p.Contradicts patterns k →
          k.text n ∈ (c.validate patterns).errors ∧
          (k.concerns p.type = true → ∀ (matcher : Matcher) (given : NameMap Json) (v : Json),
            given.get? n = some v → v ≠ .null →
              (c.checkParameters patterns matcher given).normalized.get? n = none ∧
                (c.checkParameters patterns matcher given).errorsOf n ≠ []) := by
  refine ⟨fun valid matcher given e he => fault_ne_badPattern_of_isValid valid matcher given he,
    fun n p declared => ⟨fun message => mem_parameterFaults_iff p, fun k hk => ⟨?_, ?_⟩⟩⟩
  · exact text_mem_errors_validate declared hk
  · intro concerns matcher given v value notNull
    exact refuses_of_contradicts matcher given declared hk concerns value notNull

section Sample

/-- A code that has to be longer than it may be, and a size between bounds in the wrong order. -/
def contrarySample : Command :=
  .ofSchema {
    entries := [
      ("code", ⟨.string, false, none, none,
        some ⟨some "(", some 5, some 2, none, none, none⟩⟩),
      ("size", ⟨.number, false, none, none,
        some ⟨none, none, none, some (.ofInt 10), some (.ofInt 1), none⟩⟩)]
    ordered := by decide +kernel }

/-- The sample: the size is reported, and refused when it is given; the other sample is valid with
some text, and the pattern for its service is never at fault. -/
theorem validate_foresees_checks_of_samples :
    "parameter 'size' has minimum 10 greater than maximum 1" ∈
        (contrarySample.validate samplePatterns).errors ∧
      (contrarySample.checkParameters samplePatterns sampleMatcher
        (.ofList [("size", .string "5")])).errorsOf "size" ≠ [] ∧
      ∀ e ∈ (checkSample (.ofList [("service", .string "X")])).errors, ∀ q reason v,
        e.fault ≠ .violated (.badPattern q reason) v := by
  obtain ⟨-, hcontrary⟩ := validate_foresees_checks samplePatterns contrarySample
  obtain ⟨hvalid, -⟩ := validate_foresees_checks samplePatterns { sample with content := "Deploy" }
  have hwrong : (Double.ofInt 1).toRat < (Double.ofInt 10).toRat :=
    (Double.lt_iff ..).mp (by decide +kernel)
  obtain ⟨-, hrefuses⟩ := hcontrary "size" _ rfl
  obtain ⟨hreported, hrefused⟩ := hrefuses (.bounds (.ofInt 10) (.ofInt 1))
    ⟨_, rfl, .bounds rfl rfl hwrong⟩
  have htext : (Contradiction.bounds (.ofInt 10) (.ofInt 1)).text "size" =
      "parameter 'size' has minimum 10 greater than maximum 1" := by decide +kernel
  rw [htext] at hreported
  have hok : (({ sample with content := "Deploy" } : Command).validate samplePatterns).isValid =
      true := by decide +kernel
  refine ⟨hreported, ?_, ?_⟩
  · exact (hrefused rfl sampleMatcher (.ofList [("size", .string "5")]) (.string "5") rfl
      (by simp)).2
  · exact hvalid hok sampleMatcher (.ofList [("service", .string "X")])

end Sample

end Command

end Roster
