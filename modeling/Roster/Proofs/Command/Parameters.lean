import Roster.Command.Parameters
import Roster.Proofs.NameMap
import Mathlib.Data.List.Nodup

/-! # Parameters are decided one by one

What a check of parameters says about a name, its entry, its errors and its
warnings, depends on nothing but the declaration of that name and the value that
is given for it. The outcome is built decision by decision, together with the note
of whether it is valid, and is followed step by step first. Then come the three
laws of the dependence; everything else follows from them.
-/
namespace Roster

namespace Validation

/-- What is wrong with a parameter, in the order in which it is reported. -/
def errorsOf (r : Validation) (n : String) : List ParameterError :=
  r.errors.filter fun e => e.name = n

def warningsOf (r : Validation) (n : String) : List UnknownParameter :=
  r.warnings.filter fun w => w.name = n

/-- Two outcomes say the same about a name. -/
structure AgreeAt (n : String) (r r' : Validation) : Prop where
  entry : r.normalized.get? n = r'.normalized.get? n
  errors : r.errorsOf n = r'.errorsOf n
  warnings : r.warningsOf n = r'.warningsOf n

theorem errors_eq_nil_iff_errorsOf (r : Validation) : r.errors = [] ↔ ∀ n, r.errorsOf n = [] := by
  constructor
  · intro h n
    rw [errorsOf, h, List.filter_nil]
  · intro h
    refine List.eq_nil_iff_forall_not_mem.mpr fun e he => ?_
    exact List.filter_eq_nil_iff.mp (h e.name) e he (decide_eq_true rfl)

/-- The errors, warnings and entries of an outcome, which is valid if it has no errors. -/
structure Tells (r : Validation) (errors : List ParameterError)
    (warnings : List UnknownParameter) (entries : List (String × Json)) : Prop where
  errors : r.errors = errors
  warnings : r.warnings = warnings
  normalized : r.normalized = .ofList entries
  valid : r.isValid = true ↔ r.errors = []

namespace Tells

variable {r : Validation} {errors : List ParameterError} {warnings : List UnknownParameter}
  {entries : List (String × Json)}

theorem empty : Validation.empty.Tells [] [] [] :=
  ⟨rfl, rfl, rfl, iff_of_true rfl rfl⟩

theorem error (h : r.Tells errors warnings entries) (e : ParameterError) :
    (r.error e).Tells (errors ++ [e]) warnings entries := by
  refine ⟨congrArg (· ++ [e]) h.errors, h.warnings, h.normalized, ?_⟩
  simp [Validation.error]

theorem warning (h : r.Tells errors warnings entries) (w : UnknownParameter) :
    (r.warning w).Tells errors (warnings ++ [w]) entries :=
  ⟨h.errors, congrArg (· ++ [w]) h.warnings, h.normalized, h.valid⟩

theorem insert (h : r.Tells errors warnings entries) (n : String) (v : Json) :
    (r.insert n v).Tells errors warnings (entries ++ [(n, v)]) := by
  refine ⟨h.errors, h.warnings, ?_, h.valid⟩
  rw [NameMap.ofList_append_singleton, ← h.normalized]
  rfl

theorem foldl_error (h : r.Tells errors warnings entries) (n : String)
    (faults : List ParameterFault) :
    (faults.foldl (fun r f => r.error ⟨n, f⟩) r).Tells
      (errors ++ faults.map fun f => ⟨n, f⟩) warnings entries := by
  induction faults generalizing r errors with
  | nil => simpa using h
  | cons f faults ih =>
    have hrest := ih (h.error ⟨n, f⟩)
    rwa [List.append_assoc, List.singleton_append] at hrest

theorem settle (h : r.Tells errors warnings entries) (n : String)
    (decision : Option Json × List ParameterFault) :
    (r.settle n decision).Tells (errors ++ decision.2.map fun f => ⟨n, f⟩) warnings
      (entries ++ (decision.1.map fun v => (n, v)).toList) := by
  have hjudged := h.foldl_error n decision.2
  rw [Validation.settle]
  cases decision.1 with
  | none => simpa using hjudged
  | some v => exact hjudged.insert n v

theorem foldl_settle (h : r.Tells errors warnings entries)
    (ds : List (String × Option Json × List ParameterFault)) :
    (ds.foldl (fun r d => r.settle d.1 d.2) r).Tells
      (errors ++ ds.flatMap fun d => d.2.2.map fun f => ⟨d.1, f⟩) warnings
      (entries ++ ds.filterMap fun d => d.2.1.map fun v => (d.1, v)) := by
  induction ds generalizing r errors entries with
  | nil => simpa using h
  | cons d ds ih =>
    have hrest := ih (h.settle d.1 d.2)
    rw [List.append_assoc, List.append_assoc] at hrest
    rw [List.filterMap_cons, List.flatMap_cons]
    cases hd : d.2.1 <;> simpa [hd] using hrest

theorem foldl_warning (h : r.Tells errors warnings entries) {α : Type} (f : α → UnknownParameter)
    (l : List α) :
    (l.foldl (fun r a => r.warning (f a)) r).Tells errors (warnings ++ l.map f) entries := by
  induction l generalizing r warnings with
  | nil => simpa using h
  | cons a l ih =>
    have hrest := ih (h.warning (f a))
    rwa [List.append_assoc, List.singleton_append] at hrest

end Tells

end Validation

namespace Parameter

/-- Nothing is given for a parameter, or null is. -/
def IsMissing (given : NameMap Json) (n : String) : Prop :=
  given.get? n = none ∨ given.get? n = some .null

theorem supplied_congr {given given' : NameMap Json} {n : String}
    (h : given.get? n = given'.get? n) : supplied given n = supplied given' n := by
  rw [supplied, supplied, h]

theorem supplied_eq_none_iff (given : NameMap Json) (n : String) :
    supplied given n = none ↔ IsMissing given n := by
  unfold supplied IsMissing
  split
  · next h => simp [h]
  · next h =>
    constructor
    · exact .inl
    · rintro (hnone | hnull)
      · exact hnone
      · exact absurd hnull h

theorem supplied_eq_some_iff (given : NameMap Json) (n : String) (v : Json) :
    supplied given n = some v ↔ given.get? n = some v ∧ v ≠ .null := by
  unfold supplied
  split
  · next h =>
    constructor
    · intro hv
      cases hv
    · rintro ⟨hv, hne⟩
      rw [h, Option.some_inj] at hv
      exact absurd hv.symm hne
  · next h =>
    constructor
    · intro hv
      exact ⟨hv, fun hnull => h (hnull ▸ hv)⟩
    · exact And.left

/-- What is decided about a parameter: its entry and its faults. -/
inductive Decides (patterns : PatternReader) (p : Parameter) :
    Option Json → Option Json → List ParameterFault → Prop
  | defaulted {d : Json} (default : p.default = some d) : Decides patterns p none (some d) []
  | refused (default : p.default = none) (required : p.required = true) :
      Decides patterns p none none [.missing]
  | leftOut (default : p.default = none) (optional : p.required = false) :
      Decides patterns p none none []
  | mistyped {v : Json} {reason : String} (coerce : Coercion.coerce v p.type = .error reason) :
      Decides patterns p (some v) none [.wrongType p.type reason v]
  | accepted {v w : Json} (coerce : Coercion.coerce v p.type = .ok w)
      (sound : p.faults patterns w = []) : Decides patterns p (some v) (some w) []
  | violated {v w : Json} (coerce : Coercion.coerce v p.type = .ok w)
      (faulty : p.faults patterns w ≠ []) :
      Decides patterns p (some v) none (p.faults patterns w)

theorem decides_decide (patterns : PatternReader) (p : Parameter) (s : Option Json) :
    Decides patterns p s (p.decide patterns s).1 (p.decide patterns s).2 := by
  cases s with
  | none =>
    cases hd : p.default with
    | some d =>
      simp only [decide, hd]
      exact .defaulted hd
    | none =>
      simp only [decide, hd]
      split
      · next hr => exact .refused hd hr
      · next hr => exact .leftOut hd (Bool.eq_false_iff.mpr hr)
  | some v =>
    cases hc : Coercion.coerce v p.type with
    | error reason =>
      simp only [decide, hc]
      exact .mistyped hc
    | ok w =>
      simp only [decide, hc]
      split
      · next hf => exact .accepted hc hf
      · next hf => exact .violated hc hf

namespace Decides

variable {patterns : PatternReader} {p : Parameter} {entry : Option Json}
  {faults : List ParameterFault}

theorem of_default (h : Decides patterns p none entry faults) {d : Json}
    (hd : p.default = some d) : entry = some d ∧ faults = [] := by
  cases h with
  | defaulted default =>
    exact ⟨default.symm.trans hd, rfl⟩
  | refused default => rw [hd] at default; cases default
  | leftOut default => rw [hd] at default; cases default

theorem of_no_default (h : Decides patterns p none entry faults) (hd : p.default = none) :
    entry = none ∧ faults = if p.required then [.missing] else [] := by
  cases h with
  | defaulted default => rw [hd] at default; cases default
  | refused default required => exact ⟨rfl, by rw [required, if_pos rfl]⟩
  | leftOut default optional => exact ⟨rfl, by rw [optional, if_neg Bool.false_ne_true]⟩

theorem isSome_iff {v : Json} (h : Decides patterns p (some v) entry faults) :
    entry.isSome = true ↔ faults = [] := by
  cases h with
  | mistyped => simp
  | accepted => simp
  | violated coerce faulty => simp [faulty]

end Decides

end Parameter

namespace Command

open Parameter

variable {patterns : PatternReader} {matcher : Matcher} {c : Command} {given : NameMap Json}
  {n : String} {p : Parameter}

theorem decisions_ordered (patterns : PatternReader) (schema : NameMap Parameter)
    (given : NameMap Json) :
    (decisions patterns schema given).Pairwise fun a b => a.1 < b.1 := by
  rw [decisions, List.pairwise_map]
  exact schema.ordered

/-- What a check of parameters tells: the faults that are decided, the names that are given without
being declared, and the entries that are decided. -/
theorem tells_checkParameters (patterns : PatternReader) (matcher : Matcher) (c : Command)
    (given : NameMap Json) :
    (c.checkParameters patterns matcher given).Tells
      ((decisions patterns c.schema given).flatMap fun d => d.2.2.map fun f => ⟨d.1, f⟩)
      ((given.names.filter fun n => !c.schema.contains n).map fun n =>
        ⟨n, suggestion matcher c.schema.names n⟩)
      ((decisions patterns c.schema given).filterMap fun d => d.2.1.map fun v => (d.1, v)) :=
  (Validation.Tells.empty.foldl_settle (decisions patterns c.schema given)).foldl_warning
    (fun n => ⟨n, suggestion matcher c.schema.names n⟩) _

section Laws

variable (patterns : PatternReader) (matcher : Matcher) (c : Command) (given : NameMap Json)
  (n : String)

theorem get?_normalized :
    (c.checkParameters patterns matcher given).normalized.get? n =
      (c.schema.get? n).bind fun p => (p.decide patterns (supplied given n)).1 := by
  -- entries come in the order of their names, so to look a name up is to find its entry
  have hordered : ((decisions patterns c.schema given).filterMap fun d =>
      d.2.1.map fun v => (d.1, v)).Pairwise fun a b => a.1 < b.1 := by
    refine (decisions_ordered patterns c.schema given).filterMap _ fun a b hab e he e' he' => ?_
    obtain ⟨v, -, rfl⟩ := Option.map_eq_some_iff.mp he
    obtain ⟨v', -, rfl⟩ := Option.map_eq_some_iff.mp he'
    exact hab
  refine Option.ext fun v => ?_
  rw [(tells_checkParameters patterns matcher c given).normalized,
    NameMap.get?_ofList_eq_some_iff hordered, List.mem_filterMap, Option.bind_eq_some_iff]
  constructor
  · rintro ⟨d, hd, he⟩
    obtain ⟨w, hw, heq⟩ := Option.map_eq_some_iff.mp he
    cases heq
    obtain ⟨⟨m, p⟩, hp, rfl⟩ := List.mem_map.mp hd
    exact ⟨p, (NameMap.mem_entries_iff ..).mp hp, hw⟩
  · rintro ⟨p, hp, hv⟩
    refine ⟨_, List.mem_map.mpr ⟨(n, p), (NameMap.mem_entries_iff ..).mpr hp, rfl⟩, ?_⟩
    exact Option.map_eq_some_iff.mpr ⟨v, hv, rfl⟩

theorem errors_eq_flatMap :
    (c.checkParameters patterns matcher given).errors =
      c.schema.entries.flatMap fun e =>
        (e.2.decide patterns (supplied given e.1)).2.map fun f => ⟨e.1, f⟩ :=
  (tells_checkParameters patterns matcher c given).errors.trans (List.flatMap_map ..)

theorem errorsOf_checkParameters :
    (c.checkParameters patterns matcher given).errorsOf n =
      ((c.schema.get? n).map fun p =>
        (p.decide patterns (supplied given n)).2.map fun f => ⟨n, f⟩).getD [] := by
  rw [Validation.errorsOf, errors_eq_flatMap]
  refine NameMap.filter_flatMap_entries c.schema
    (f := fun k p => (p.decide patterns (supplied given k)).2.map fun f => ParameterError.mk k f)
    (fun k p e he => ?_) n
  obtain ⟨f, -, rfl⟩ := List.mem_map.mp he
  rfl

theorem warningsOf_checkParameters :
    (c.checkParameters patterns matcher given).warningsOf n =
      if given.contains n = true ∧ c.schema.contains n = false then
        [⟨n, suggestion matcher c.schema.names n⟩]
      else [] := by
  have hname : ((fun w : UnknownParameter => Decidable.decide (w.name = n)) ∘
      fun m => ⟨m, suggestion matcher c.schema.names m⟩) = fun m => m == n := rfl
  rw [Validation.warningsOf, (tells_checkParameters patterns matcher c given).warnings,
    List.filter_map, hname, List.filter_beq]
  -- a name is given at most once, so it is counted once or not at all
  split
  · next h =>
    have hmem : n ∈ given.names.filter fun m => !c.schema.contains m :=
      List.mem_filter.mpr ⟨(given.mem_names_iff n).mpr h.1, by simp [h.2]⟩
    rw [List.count_eq_one_of_mem (given.nodup_names.filter _) hmem]
    rfl
  · next h =>
    have hmem : n ∉ given.names.filter fun m => !c.schema.contains m := by
      intro hn
      obtain ⟨hg, hc⟩ := List.mem_filter.mp hn
      exact h ⟨(given.mem_names_iff n).mp hg, by simpa using hc⟩
    rw [List.count_eq_zero_of_not_mem hmem]
    rfl

theorem isValid_iff_errorsOf :
    (c.checkParameters patterns matcher given).isValid = true ↔
      ∀ n, (c.checkParameters patterns matcher given).errorsOf n = [] :=
  (tells_checkParameters patterns matcher c given).valid.trans
    (Validation.errors_eq_nil_iff_errorsOf _)

theorem errors_ordered :
    (c.checkParameters patterns matcher given).errors.Pairwise fun a b => a.name ≤ b.name := by
  rw [errors_eq_flatMap, List.pairwise_flatMap]
  constructor
  · rintro e -
    rw [List.pairwise_map]
    exact List.pairwise_of_forall fun _ _ => String.le_refl _
  · refine c.schema.ordered.imp fun {a b} hab e he e' he' => ?_
    obtain ⟨f, -, rfl⟩ := List.mem_map.mp he
    obtain ⟨f', -, rfl⟩ := List.mem_map.mp he'
    exact String.not_lt.mp (String.lt_asymm hab)

variable {c n}

/-- What the outcome says about a declared parameter is what is decided about the value that is
given for it. -/
theorem decides_of_declared (hp : c.schema.get? n = some p) {s : Option Json}
    (hs : supplied given n = s) :
    ∃ faults : List ParameterFault,
      Decides patterns p s ((c.checkParameters patterns matcher given).normalized.get? n) faults ∧
      (c.checkParameters patterns matcher given).errorsOf n = faults.map fun f => ⟨n, f⟩ := by
  subst hs
  refine ⟨(p.decide patterns (supplied given n)).2, ?_, ?_⟩
  · rw [get?_normalized, hp]
    exact decides_decide patterns p _
  · rw [errorsOf_checkParameters, hp]
    rfl

theorem of_undeclared (hn : c.schema.get? n = none) :
    (c.checkParameters patterns matcher given).normalized.get? n = none ∧
      (c.checkParameters patterns matcher given).errorsOf n = [] := by
  rw [get?_normalized, errorsOf_checkParameters, hn]
  exact ⟨rfl, rfl⟩

end Laws

/-- What a check of parameters comes to, name by name. -/
structure DecidesEach (c : Command) (given : NameMap Json) (r : Validation) : Prop where
  /-- A default stands for what is missing, as it is. -/
  defaulted : ∀ n p d, c.schema.get? n = some p → IsMissing given n → p.default = some d →
    r.normalized.get? n = some d ∧ r.errorsOf n = []
  refused : ∀ n p, c.schema.get? n = some p → IsMissing given n → p.default = none →
    p.required = true → r.normalized.get? n = none ∧ r.errorsOf n = [⟨n, .missing⟩]
  leftOut : ∀ n p, c.schema.get? n = some p → IsMissing given n → p.default = none →
    p.required = false → r.normalized.get? n = none ∧ r.errorsOf n = []
  supplied : ∀ n p, c.schema.get? n = some p → ¬ IsMissing given n →
    ((r.normalized.get? n).isSome = true ↔ r.errorsOf n = [])
  /-- A name that is not declared is warned about once, also if null is given for it. -/
  unknown : ∀ n, given.contains n = true → c.schema.contains n = false →
    (∃ w, r.warningsOf n = [w]) ∧ r.normalized.get? n = none ∧ r.errorsOf n = []
  errors_declared : ∀ e ∈ r.errors, c.schema.contains e.name = true
  entries_declared : ∀ n, r.normalized.contains n = true → c.schema.contains n = true
  warnings_unknown : ∀ w ∈ r.warnings,
    given.contains w.name = true ∧ c.schema.contains w.name = false
  ordered : r.errors.Pairwise fun a b => a.name ≤ b.name
  valid : r.isValid = true ↔ r.errors = []

theorem decidesEach_checkParameters (patterns : PatternReader) (matcher : Matcher) (c : Command)
    (given : NameMap Json) : c.DecidesEach given (c.checkParameters patterns matcher given) where
  defaulted n p d hp hmissing hd := by
    obtain ⟨faults, h, herrors⟩ :=
      decides_of_declared patterns matcher given hp ((supplied_eq_none_iff ..).mpr hmissing)
    obtain ⟨hentry, rfl⟩ := h.of_default hd
    exact ⟨hentry, herrors⟩
  refused n p hp hmissing hd hrequired := by
    obtain ⟨faults, h, herrors⟩ :=
      decides_of_declared patterns matcher given hp ((supplied_eq_none_iff ..).mpr hmissing)
    obtain ⟨hentry, rfl⟩ := h.of_no_default hd
    rw [hrequired] at herrors
    exact ⟨hentry, herrors⟩
  leftOut n p hp hmissing hd hoptional := by
    obtain ⟨faults, h, herrors⟩ :=
      decides_of_declared patterns matcher given hp ((supplied_eq_none_iff ..).mpr hmissing)
    obtain ⟨hentry, rfl⟩ := h.of_no_default hd
    rw [hoptional] at herrors
    exact ⟨hentry, herrors⟩
  supplied n p hp hsupplied := by
    obtain ⟨v, hv⟩ := Option.ne_none_iff_exists'.mp (mt (supplied_eq_none_iff given n).mp hsupplied)
    obtain ⟨faults, h, herrors⟩ := decides_of_declared patterns matcher given hp hv
    rw [h.isSome_iff, herrors, List.map_eq_nil_iff]
  unknown n hgiven hn := by
    obtain ⟨hentry, herrors⟩ :=
      of_undeclared patterns matcher given ((NameMap.get?_eq_none_iff ..).mpr hn)
    rw [warningsOf_checkParameters, if_pos ⟨hgiven, hn⟩]
    exact ⟨⟨_, rfl⟩, hentry, herrors⟩
  errors_declared e he := by
    rw [errors_eq_flatMap] at he
    obtain ⟨d, hd, he⟩ := List.mem_flatMap.mp he
    obtain ⟨f, -, rfl⟩ := List.mem_map.mp he
    exact (c.schema.mem_names_iff d.1).mp (List.mem_map.mpr ⟨d, hd, rfl⟩)
  entries_declared n hn := by
    by_contra hc
    have hnone := (NameMap.get?_eq_none_iff c.schema n).mpr (Bool.eq_false_iff.mpr hc)
    obtain ⟨hentry, -⟩ := of_undeclared patterns matcher given hnone
    rw [(NameMap.get?_eq_none_iff ..).mp hentry] at hn
    cases hn
  warnings_unknown w hw := by
    rw [(tells_checkParameters patterns matcher c given).warnings] at hw
    obtain ⟨n, hn, rfl⟩ := List.mem_map.mp hw
    obtain ⟨hgiven, hunknown⟩ := List.mem_filter.mp hn
    exact ⟨(given.mem_names_iff n).mp hgiven, by simpa using hunknown⟩
  ordered := errors_ordered ..
  valid := (tells_checkParameters patterns matcher c given).valid

theorem agreeAt_of_get?_eq (patterns : PatternReader) (matcher : Matcher) (c : Command)
    {given given' : NameMap Json} {n : String} (h : given.get? n = given'.get? n) :
    Validation.AgreeAt n (c.checkParameters patterns matcher given)
      (c.checkParameters patterns matcher given') where
  entry := by rw [get?_normalized, get?_normalized, supplied_congr h]
  errors := by rw [errorsOf_checkParameters, errorsOf_checkParameters, supplied_congr h]
  warnings := by
    rw [warningsOf_checkParameters, warningsOf_checkParameters, given.contains_eq_isSome,
      given'.contains_eq_isSome, h]

/-- Each parameter is decided on its own, by its declaration and the value that is given for it.
What is given for one name has no effect on the others. -/
theorem checkParameters_decides_each (patterns : PatternReader) (matcher : Matcher) (c : Command)
    (given : NameMap Json) :
    c.DecidesEach given (c.checkParameters patterns matcher given) ∧
      (∀ (matcher' : Matcher) (c' : Command) (given' : NameMap Json) (n : String) (p : Parameter),
        c.schema.get? n = some p → c'.schema.get? n = some p →
        supplied given n = supplied given' n →
        (c.checkParameters patterns matcher given).normalized.get? n =
            (c'.checkParameters patterns matcher' given').normalized.get? n ∧
          (c.checkParameters patterns matcher given).errorsOf n =
            (c'.checkParameters patterns matcher' given').errorsOf n) ∧
      ∀ (given' : NameMap Json) (k : String), (∀ n, n ≠ k → given.get? n = given'.get? n) →
        ∀ n, n ≠ k → Validation.AgreeAt n (c.checkParameters patterns matcher given)
          (c.checkParameters patterns matcher given') := by
  refine ⟨decidesEach_checkParameters patterns matcher c given, ?_, ?_⟩
  · intro matcher' c' given' n p hp hp' hsupplied
    rw [get?_normalized, get?_normalized, errorsOf_checkParameters, errorsOf_checkParameters, hp,
      hp', hsupplied]
    exact ⟨rfl, rfl⟩
  · intro given' k same n hn
    exact agreeAt_of_get?_eq patterns matcher c (same n hn)

end Command

section Sample

def Command.ofSchema (schema : NameMap Parameter) : Command where
  name := "deploy"
  scope := .default
  tags := []
  version := none
  content := ""
  lastModified := .epoch
  path := ⟨"deploy.md"⟩
  type := .deployment
  format := .markdown
  schema
  execution := .standard .deployment
  errorHandling := .standard
  contextRequirements := []
  security := .standard
  priority := 0
  heading := ⟨none, none, none, none, none⟩
  issues := []

/-- A service and how often it runs: a required text of small letters, and a number from one to
five that is two if nothing is said. -/
def Command.sample : Command :=
  .ofSchema {
    entries := [
      ("replicas", ⟨.number, false, none, some (.ofNat 2),
        some { Constraints.free with minimum := some (.ofInt 1), maximum := some (.ofInt 5) }⟩),
      ("service", ⟨.string, true, none, none,
        some { Constraints.free with pattern := some "^[a-z]+$", minLength := some 2 }⟩)]
    ordered := by decide +kernel }

/-- Reads the one pattern of the sample. -/
def samplePatterns : PatternReader := fun p =>
  if p = "^[a-z]+$" then .ok fun s => !s.isEmpty && s.toList.all fun c => 'a' ≤ c && c ≤ 'z'
  else .error "another pattern"

/-- No name matches another one. -/
def sampleMatcher : Matcher := fun _ _ => none

def Command.checkSample (given : NameMap Json) : Validation :=
  Command.sample.checkParameters samplePatterns sampleMatcher given

/-- Null for the service, and for a name that is not declared. -/
def sampleGiven : NameMap Json := .ofList [("service", .null), ("verbose", .null)]

/-- The sample: the service is missing, its replicas have their default, and naming the service
leaves what is said about the unknown name as it is. -/
theorem Command.checkSample_decides_each :
    (checkSample sampleGiven).errorsOf "service" = [⟨"service", .missing⟩] ∧
      (checkSample sampleGiven).normalized.get? "replicas" = some (.ofNat 2) ∧
      (∃ w, (checkSample sampleGiven).warningsOf "verbose" = [w]) ∧
      Validation.AgreeAt "verbose" (checkSample sampleGiven)
        (checkSample (sampleGiven.insert "service" (.string "web"))) := by
  obtain ⟨hdecides, -, hagree⟩ :=
    checkParameters_decides_each samplePatterns sampleMatcher .sample sampleGiven
  refine ⟨?_, ?_, ?_, ?_⟩
  · exact (hdecides.refused "service" _ rfl (.inr rfl) rfl rfl).2
  · exact (hdecides.defaulted "replicas" _ _ rfl (.inl rfl) rfl).1
  · exact (hdecides.unknown "verbose" rfl rfl).1
  · refine hagree _ "service" (fun n hn => ?_) "verbose" (by decide)
    rw [NameMap.get?_insert, if_neg hn.symm]

end Sample

end Roster
