import Roster.Proofs.NameMap
import Roster.Proofs.Registry.Reading

/-! # Runs of a load

A load takes documents one at a time. The outcome of a document is its fate
together with the warnings about it, and a run is the list of outcomes that leads
from one state of a tier to another. Entries and warnings at the end of a run are
described by its outcomes alone.
-/
namespace Roster

namespace Fate

def isEntered : Fate → Bool
  | entered _ => true
  | skipped _ | duplicate _ _ => false

def isSkipped : Fate → Bool
  | skipped _ => true
  | entered _ | duplicate _ _ => false

def isDuplicate : Fate → Bool
  | duplicate _ _ => true
  | entered _ | skipped _ => false

/-- The configuration that a document holds, whether its name is free or not. -/
def configuration? : Fate → Option Configuration
  | entered c | duplicate c _ => some c
  | skipped _ => none

end Fate

/-- What became of a document of a tier, and what was odd about it. -/
structure Outcome where
  scope : Scope
  document : SourceDocument
  fate : Fate
  notes : List LoadWarning

namespace Outcome

/-- The configurations that documents hold, in the order of the documents. -/
def configurations (xs : List Outcome) : List Configuration :=
  xs.filterMap fun x => x.fate.configuration?

theorem find?_configurations_cons (x : Outcome) (xs : List Outcome)
    (p : Configuration → Bool) :
    (configurations (x :: xs)).find? p =
      (x.fate.configuration?.filter p).or ((configurations xs).find? p) := by
  cases hc : x.fate.configuration? with
  | none => simp [configurations, hc]
  | some c => by_cases hp : p c <;> simp [configurations, hc, hp, Option.filter]

end Outcome

namespace Tier

variable {yaml : YamlReader} {s : Scope} {strict : Bool}

/-- The fates of a document behind those of a tier. -/
inductive Settles (yaml : YamlReader) (s : Scope) (strict : Bool) (t : Tier) (d : SourceDocument) :
    Fate → List LoadWarning → Prop
  | skipped {e : LoadError} (policy : strict = false) (read : d.read yaml s strict = .error e) :
      Settles yaml s strict t d (.skipped e) [⟨s, d.path, e.message⟩]
  | entered {c : Configuration} {notes : List LoadWarning}
      (read : d.read yaml s strict = .ok (c, notes)) (free : t.entries.get? c.name = none) :
      Settles yaml s strict t d (.entered c) notes
  | duplicate {c k : Configuration} {notes : List LoadWarning}
      (read : d.read yaml s strict = .ok (c, notes)) (taken : t.entries.get? c.name = some k) :
      Settles yaml s strict t d (.duplicate c k.path) (notes ++ [.duplicate s d.path c.name k.path])

theorem fate_eq_ok_iff (t : Tier) (d : SourceDocument) (f : Fate) (notes : List LoadWarning) :
    t.fate yaml s strict d = .ok (f, notes) ↔ Settles yaml s strict t d f notes := by
  constructor
  · intro h
    unfold fate at h
    split at h
    · next e he =>
      cases strict with
      | true => cases h
      | false => cases h; exact .skipped rfl he
    · next c ns hr =>
      split at h
      · next hfree => cases h; exact .entered hr hfree
      · next k hk => cases h; exact .duplicate hr hk
  · intro h
    cases h with
    | skipped policy read => subst policy; simp [fate, read]
    | entered read free => simp [fate, read, free]
    | duplicate read taken => simp [fate, read, taken, LoadWarning.duplicate]

theorem fate_eq_error_iff (t : Tier) (d : SourceDocument) (e : LoadError) :
    t.fate yaml s strict d = .error e ↔ strict = true ∧ d.read yaml s strict = .error e := by
  unfold fate
  split
  · next e' he => cases strict <;> simp [he]
  · next c ns hr => split <;> simp [hr]

theorem Settles.scope_and_path {t : Tier} {d : SourceDocument} {f : Fate}
    {notes : List LoadWarning} (h : Settles yaml s strict t d f notes) :
    ∀ w ∈ notes, w.scope = s ∧ w.path = d.path := by
  intro w hw
  cases h with
  | skipped policy read =>
    rw [List.mem_singleton] at hw
    exact hw ▸ ⟨rfl, rfl⟩
  | entered read free =>
    obtain ⟨hs, hp, -⟩ := d.quiet_of_read read w hw
    exact ⟨hs, hp⟩
  | duplicate read taken =>
    rcases List.mem_append.mp hw with hw | hw
    · obtain ⟨hs, hp, -⟩ := d.quiet_of_read read w hw
      exact ⟨hs, hp⟩
    · rw [List.mem_singleton] at hw
      exact hw ▸ ⟨rfl, rfl⟩

theorem Settles.configuration?_eq_some_iff {t : Tier} {d : SourceDocument} {f : Fate}
    {notes : List LoadWarning} (h : Settles yaml s strict t d f notes) (c : Configuration) :
    f.configuration? = some c ↔ ∃ remarks, d.read yaml s strict = .ok (c, remarks) := by
  have hsome : ∀ k remarks, d.read yaml s strict = .ok (k, remarks) →
      (some k = some c ↔ ∃ remarks, d.read yaml s strict = .ok (c, remarks)) := by
    intro k remarks hread
    simp [hread]
  cases h with
  | skipped policy read => simp [Fate.configuration?, read]
  | entered read free => exact hsome _ _ read
  | duplicate read taken => exact hsome _ _ read

/-- The tier behind a document with an outcome. -/
def after (t : Tier) (x : Outcome) : Tier :=
  ⟨match x.fate with
    | .entered c => t.entries.insert c.name c
    | .skipped _ | .duplicate _ _ => t.entries,
   t.warnings ++ x.notes⟩

theorem take_of_fate {t : Tier} {d : SourceDocument} {f : Fate} {notes : List LoadWarning}
    (h : t.fate yaml s strict d = .ok (f, notes)) :
    t.take yaml s strict d = .ok (t.after ⟨s, d, f, notes⟩) := by
  simp only [take, h, bind, Except.bind, pure, Except.pure]
  rfl

theorem take_of_fate_error {t : Tier} {d : SourceDocument} {e : LoadError}
    (h : t.fate yaml s strict d = .error e) : t.take yaml s strict d = .error e := by
  simp only [take, h, bind, Except.bind]

theorem get?_after {t : Tier} {d : SourceDocument} {f : Fate} {notes : List LoadWarning}
    (h : Settles yaml s strict t d f notes) (n : String) :
    (t.after ⟨s, d, f, notes⟩).entries.get? n =
      (t.entries.get? n).or (f.configuration?.filter fun c => c.name == n) := by
  cases h with
  | skipped policy read => simp [after, Fate.configuration?]
  | @entered c _ read free =>
    simp only [after, Fate.configuration?, NameMap.get?_insert]
    by_cases hn : c.name = n
    · subst hn
      simp [free, Option.filter]
    · simp [hn, Option.filter]
  | @duplicate c k _ read taken =>
    simp only [after, Fate.configuration?]
    by_cases hn : c.name = n
    · subst hn
      simp [taken]
    · simp [hn, Option.filter]

theorem size_after {t : Tier} {d : SourceDocument} {f : Fate} {notes : List LoadWarning}
    (h : Settles yaml s strict t d f notes) :
    (t.after ⟨s, d, f, notes⟩).entries.size =
      t.entries.size + if f.isEntered then 1 else 0 := by
  cases h with
  | skipped policy read => rfl
  | entered read free => simp [after, Fate.isEntered, NameMap.size_insert free]
  | duplicate read taken => rfl

/-- Documents of a tier with their outcomes, one behind the other. -/
inductive Run (yaml : YamlReader) (s : Scope) (strict : Bool) : Tier → List Outcome → Tier → Prop
  | done (t : Tier) : Run yaml s strict t [] t
  | step {t u : Tier} {x : Outcome} {xs : List Outcome} (scope : x.scope = s)
      (settles : Settles yaml s strict t x.document x.fate x.notes)
      (rest : Run yaml s strict (t.after x) xs u) : Run yaml s strict t (x :: xs) u

/-- Taking documents succeeds exactly when there is a run over them. -/
theorem foldlM_take_eq_ok_iff (l : List SourceDocument) (t u : Tier) :
    l.foldlM (take yaml s strict) t = .ok u ↔
      ∃ xs : List Outcome, xs.map (·.document) = l ∧ Run yaml s strict t xs u := by
  induction l generalizing t with
  | nil =>
    constructor
    · intro h
      cases h
      exact ⟨[], rfl, .done _⟩
    · rintro ⟨xs, hxs, hrun⟩
      rw [List.map_eq_nil_iff] at hxs
      subst hxs
      cases hrun
      rfl
  | cons d r ih =>
    rw [List.foldlM_cons]
    constructor
    · intro h
      cases hf : t.fate yaml s strict d with
      | error e => rw [take_of_fate_error hf] at h; cases h
      | ok p =>
        rw [take_of_fate hf] at h
        obtain ⟨xs, rfl, hrun⟩ := (ih _).mp h
        exact ⟨_ :: xs, rfl, .step rfl ((fate_eq_ok_iff ..).mp hf) hrun⟩
    · rintro ⟨xs, hxs, hrun⟩
      -- the list of documents is not empty, so the run has a first step
      cases hrun with
      | done => cases hxs
      | @step _ _ x xs scope settles rest =>
        obtain ⟨s', d', f, notes⟩ := x
        obtain ⟨rfl, rfl⟩ := List.cons.inj hxs
        cases scope
        rw [take_of_fate ((fate_eq_ok_iff ..).mpr settles)]
        exact (ih _).mpr ⟨xs, rfl, rest⟩

namespace Run

variable {t u : Tier} {xs ys : List Outcome}

theorem of_append (h : Run yaml s strict t (xs ++ ys) u) :
    ∃ m, Run yaml s strict t xs m ∧ Run yaml s strict m ys u := by
  induction xs generalizing t with
  | nil => exact ⟨t, .done t, h⟩
  | cons x xs ih =>
    cases h with
    | step scope settles rest =>
      obtain ⟨m, hxs, hys⟩ := ih rest
      exact ⟨m, .step scope settles hxs, hys⟩

theorem settles_of_append {x : Outcome} (h : Run yaml s strict t (xs ++ x :: ys) u) :
    ∃ m, Run yaml s strict t xs m ∧ x.scope = s ∧
      Settles yaml s strict m x.document x.fate x.notes := by
  obtain ⟨m, hxs, hys⟩ := h.of_append
  cases hys with
  | step scope settles rest => exact ⟨m, hxs, scope, settles⟩

theorem warnings (h : Run yaml s strict t xs u) :
    u.warnings = t.warnings ++ xs.flatMap (·.notes) := by
  induction h with
  | done t => simp
  | step scope settles rest ih => simp [ih, after]

/-- A name stands for what it stood for before, or else for the first configuration that has it. -/
theorem get? (h : Run yaml s strict t xs u) (n : String) :
    u.entries.get? n =
      (t.entries.get? n).or ((Outcome.configurations xs).find? fun c => c.name == n) := by
  induction h with
  | done t => simp [Outcome.configurations]
  | step scope settles rest ih =>
    cases scope
    -- a name that is taken stays so: what the document adds goes behind what the tier has
    rw [ih, get?_after settles, Option.or_assoc, Outcome.find?_configurations_cons]

theorem size (h : Run yaml s strict t xs u) :
    u.entries.size = t.entries.size + xs.countP (·.fate.isEntered) := by
  induction h with
  | done t => rfl
  | step scope settles rest ih =>
    cases scope
    rw [ih, size_after settles, List.countP_cons]
    omega

end Run

/-- The outcomes of a tier of a source. A tier that is not included has none. -/
inductive Loaded (yaml : YamlReader) (source : Source) (o : LoadOptions) (s : Scope) :
    List Outcome → Tier → Prop
  | excluded (policy : o.includes s = false) : Loaded yaml source o s [] empty
  | included {docs : List SourceDocument} {xs : List Outcome} {t : Tier}
      (policy : o.includes s = true) (answer : source s = .ok docs)
      (documents : xs.map (·.document) = inOrder docs) (run : Run yaml s o.strict empty xs t) :
      Loaded yaml source o s xs t

theorem load_of_excluded {o : LoadOptions} (h : o.includes s = false) (source : Source) :
    load yaml source o s = .ok empty := by
  simp [load, h, pure, Except.pure]

theorem load_of_included {o : LoadOptions} (h : o.includes s = true) (source : Source) :
    load yaml source o s = source s >>= ofDocuments yaml s o.strict := by
  simp [load, h]

theorem load_eq_ok_iff (source : Source) (o : LoadOptions) (s : Scope) (t : Tier) :
    load yaml source o s = .ok t ↔ ∃ xs, Loaded yaml source o s xs t := by
  cases hi : o.includes s with
  | false =>
    rw [load_of_excluded hi]
    constructor
    · intro h
      cases h
      exact ⟨[], .excluded hi⟩
    · rintro ⟨xs, hxs⟩
      cases hxs with
      | excluded => rfl
      | included policy => rw [hi] at policy; cases policy
  | true =>
    rw [load_of_included hi]
    constructor
    · intro h
      cases ha : source s with
      | error e => rw [ha] at h; cases h
      | ok docs =>
        rw [ha] at h
        obtain ⟨xs, hxs, hrun⟩ := (foldlM_take_eq_ok_iff ..).mp h
        exact ⟨xs, .included hi ha hxs hrun⟩
    · rintro ⟨xs, hxs⟩
      cases hxs with
      | excluded policy => rw [hi] at policy; cases policy
      | included policy answer documents run =>
        rw [answer]
        exact (foldlM_take_eq_ok_iff ..).mpr ⟨xs, documents, run⟩

namespace Loaded

variable {source : Source} {o : LoadOptions} {xs : List Outcome} {t : Tier}

theorem warnings (h : Loaded yaml source o s xs t) : t.warnings = xs.flatMap (·.notes) := by
  cases h with
  | excluded => rfl
  | included policy answer documents run => simpa [empty] using run.warnings

theorem get? (h : Loaded yaml source o s xs t) (n : String) :
    t.entries.get? n = (Outcome.configurations xs).find? fun c => c.name == n := by
  cases h with
  | excluded => rfl
  | included policy answer documents run => simpa [empty] using run.get? n

theorem size (h : Loaded yaml source o s xs t) :
    t.entries.size = xs.countP (·.fate.isEntered) := by
  cases h with
  | excluded => rfl
  | included policy answer documents run =>
    rw [run.size]
    exact Nat.zero_add _

theorem exists_documents (h : Loaded yaml source o s xs t) (policy : o.includes s = true) :
    ∃ docs, source s = .ok docs ∧ xs.map (·.document) = inOrder docs := by
  cases h with
  | excluded excluded =>
    rw [policy] at excluded
    cases excluded
  | @included docs _ _ policy answer documents run => exact ⟨docs, answer, documents⟩

theorem settles_of_append {x : Outcome} {before rest : List Outcome}
    (h : Loaded yaml source o s (before ++ x :: rest) t) :
    ∃ m : Tier, x.scope = s ∧ Settles yaml s o.strict m x.document x.fate x.notes ∧
      ∀ n, m.entries.get? n = (Outcome.configurations before).find? fun c => c.name == n := by
  generalize hxs : before ++ x :: rest = xs at h
  cases h with
  | excluded => simp at hxs
  | included policy answer documents run =>
    subst hxs
    obtain ⟨m, hm, hscope, hsettles⟩ := run.settles_of_append
    exact ⟨m, hscope, hsettles, fun n => by simpa [empty] using hm.get? n⟩

theorem settles_of_mem {x : Outcome} (h : Loaded yaml source o s xs t) (hx : x ∈ xs) :
    ∃ m : Tier, x.scope = s ∧ Settles yaml s o.strict m x.document x.fate x.notes := by
  obtain ⟨before, rest, rfl⟩ := List.append_of_mem hx
  obtain ⟨m, hscope, hsettles, -⟩ := h.settles_of_append
  exact ⟨m, hscope, hsettles⟩

theorem scope_of_mem_warnings (h : Loaded yaml source o s xs t) :
    ∀ w ∈ t.warnings, w.scope = s := by
  intro w hw
  rw [h.warnings] at hw
  obtain ⟨x, hx, hw⟩ := List.mem_flatMap.mp hw
  obtain ⟨m, -, hsettles⟩ := h.settles_of_mem hx
  exact (hsettles.scope_and_path w hw).1

end Loaded

end Tier

namespace Hierarchy

variable {yaml : YamlReader}

theorem load_eq_ok_iff (source : Source) (o : LoadOptions) (h : Hierarchy) :
    loadWith yaml source o = .ok h ↔ ∀ s, Tier.load yaml source o s = .ok (h.tier s) := by
  obtain ⟨d, g, p⟩ := h
  unfold loadWith
  constructor
  · intro hl
    cases hd : Tier.load yaml source o .default with
    | error e => rw [hd] at hl; cases hl
    | ok d' =>
      rw [hd] at hl
      cases hg : Tier.load yaml source o .global with
      | error e => rw [hg] at hl; cases hl
      | ok g' =>
        rw [hg] at hl
        cases hp : Tier.load yaml source o .project with
        | error e => rw [hp] at hl; cases hl
        | ok p' =>
          rw [hp] at hl
          cases hl
          intro s
          cases s
          · exact hd
          · exact hg
          · exact hp
  · intro hs
    rw [hs .default, hs .global, hs .project]
    rfl

/-- The outcomes of all tiers, in the order in which a load takes the documents. -/
def Loaded (yaml : YamlReader) (source : Source) (o : LoadOptions) (xs : List Outcome)
    (h : Hierarchy) : Prop :=
  ∃ f : Scope → List Outcome,
    xs = Scope.all.flatMap f ∧ ∀ s, Tier.Loaded yaml source o s (f s) (h.tier s)

theorem exists_loaded_iff (source : Source) (o : LoadOptions) (h : Hierarchy) :
    loadWith yaml source o = .ok h ↔ ∃ xs, Loaded yaml source o xs h := by
  rw [load_eq_ok_iff]
  constructor
  · intro hs
    have hx : ∀ s, ∃ xs, Tier.Loaded yaml source o s xs (h.tier s) :=
      fun s => (Tier.load_eq_ok_iff ..).mp (hs s)
    exact ⟨_, fun s => (hx s).choose, rfl, fun s => (hx s).choose_spec⟩
  · rintro ⟨xs, f, -, hf⟩ s
    exact (Tier.load_eq_ok_iff ..).mpr ⟨f s, hf s⟩

theorem warnings_eq_flatMap (h : Hierarchy) :
    h.warnings = Scope.all.flatMap fun s => (h.tier s).warnings := by
  simp [warnings, Scope.all, tier]

/-- The warnings that carry some scopes are those of the tiers of these scopes. -/
theorem filter_warnings {source : Source} {o : LoadOptions} {h : Hierarchy}
    (hl : loadWith yaml source o = .ok h) (p : Scope → Bool) :
    (h.warnings.filter fun w => p w.scope) =
      (Scope.all.filter p).flatMap fun s => (h.tier s).warnings := by
  have htier : ∀ s, ((h.tier s).warnings.filter fun w => p w.scope) =
      if p s then (h.tier s).warnings else [] := by
    intro s
    obtain ⟨xs, hxs⟩ := (Tier.load_eq_ok_iff ..).mp ((load_eq_ok_iff ..).mp hl s)
    have hscope := hxs.scope_of_mem_warnings
    split
    · next hp => exact List.filter_eq_self.mpr fun w hw => by rwa [hscope w hw]
    · next hp => exact List.filter_eq_nil_iff.mpr fun w hw => by rwa [hscope w hw]
  rw [warnings_eq_flatMap, List.filter_flatMap]
  -- any list of scopes will do, as long as both sides walk over the same one
  induction Scope.all with
  | nil => rfl
  | cons s r ih =>
    rw [List.flatMap_cons, htier, ih]
    by_cases hp : p s = true <;> simp [hp]

end Hierarchy

section Sample

/-- A document with empty front matter, which gives itself no name. -/
def SourceDocument.unnamed (p : FilePath) : SourceDocument :=
  ⟨p, none, .ok ⟨"---\n---\nBody", .epoch⟩⟩

def SourceDocument.lost (p : FilePath) : SourceDocument :=
  ⟨p, none, .error ⟨.notFound, "gone"⟩⟩

/-- What a document with empty front matter is read as. -/
def Configuration.unnamed (s : Scope) (p : FilePath) (name : String) : Configuration :=
  (SourceDocument.unnamed p).configuration s ⟨∅, "Body"⟩ .epoch name

/-- A source that fails for the default tier. Two documents of its project tier have one name. -/
def Source.sample : Source
  | .default => .error (.source .default "down")
  | .global => .ok [.unnamed ⟨"g/x.md"⟩]
  | .project => .ok [.unnamed ⟨"b/x.md"⟩, .lost ⟨"c/y.md"⟩, .unnamed ⟨"a/x.md"⟩]

/-- The tiers for which the sample has an answer, leniently. -/
def LoadOptions.sample : LoadOptions := ⟨false, true, true, false⟩

def Hierarchy.sample : Hierarchy where
  default := .empty
  global :=
    ⟨NameMap.empty.insert "x" (.unnamed .global ⟨"g/x.md"⟩ "x"),
      [⟨.global, ⟨"g/x.md"⟩, "missing 'name'; using file name 'x'"⟩]⟩
  project :=
    ⟨NameMap.empty.insert "x" (.unnamed .project ⟨"a/x.md"⟩ "x"),
      [⟨.project, ⟨"a/x.md"⟩, "missing 'name'; using file name 'x'"⟩,
        ⟨.project, ⟨"b/x.md"⟩, "missing 'name'; using file name 'x'"⟩,
        ⟨.project, ⟨"b/x.md"⟩, "duplicate name 'x' in project tier; keeping a/x.md"⟩,
        ⟨.project, ⟨"c/y.md"⟩, "failed to read project document 'c/y.md': gone"⟩]⟩

theorem load_sample_global (strict : Bool) :
    Tier.load Yaml.readJson .sample { LoadOptions.sample with strict } .global =
      if strict then .error (.missingName ⟨"g/x.md"⟩) else .ok Hierarchy.sample.global := by
  rw [Tier.load_of_included rfl]
  change (Tier.inOrder [_]).foldlM _ _ = _
  rw [Tier.inOrder, List.mergeSort_singleton]
  cases strict <;> rfl

theorem load_sample_project :
    Tier.load Yaml.readJson .sample .sample .project = .ok Hierarchy.sample.project := by
  have hbc : (FilePath.mk "b/x.md").le ⟨"c/y.md"⟩ = true := by decide +kernel
  have hba : (FilePath.mk "b/x.md").le ⟨"a/x.md"⟩ = false := by decide +kernel
  have horder : Tier.inOrder [.unnamed ⟨"b/x.md"⟩, .lost ⟨"c/y.md"⟩, .unnamed ⟨"a/x.md"⟩] =
      [.unnamed ⟨"a/x.md"⟩, .unnamed ⟨"b/x.md"⟩, .lost ⟨"c/y.md"⟩] := by
    simp [Tier.inOrder, List.mergeSort, List.MergeSort.Internal.splitInTwo,
      SourceDocument.unnamed, SourceDocument.lost, hbc, hba]
  rw [Tier.load_of_included rfl]
  change (Tier.inOrder _).foldlM _ _ = _
  rw [horder]
  rfl

theorem Hierarchy.load_sample : load .sample .sample = .ok .sample := by
  refine (load_eq_ok_iff ..).mpr fun s => ?_
  cases s
  · rfl
  · exact load_sample_global false
  · exact load_sample_project

end Sample

end Roster
