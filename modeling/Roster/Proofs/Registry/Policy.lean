import Roster.Proofs.Registry.Run

/-! # Strict and lenient loads

A strict load is compared with the lenient load of the same tiers, document by
document. As long as the lenient load meets no faulty document both are in the
same state; at the first one the strict load stops with the error that the
lenient load notes there. The comparison is made for one document and carried
over whatever is done one after the other: documents, and then tiers.
-/
namespace Roster

namespace Outcome

variable {yaml : YamlReader}

/-- The document was skipped, or gave itself no name and was named after its file. -/
def IsFaulty (yaml : YamlReader) (x : Outcome) : Prop :=
  x.fate.isSkipped = true ∨ x.document.IsNameless yaml x.scope

/-- The error with which a strict load refuses the document, and the warning that a lenient load
has for it. -/
inductive Refused (yaml : YamlReader) (x : Outcome) (e : LoadError) (w : LoadWarning) : Prop
  | skipped (fate : x.fate = .skipped e) (notes : x.notes = [w])
      (warning : w = ⟨x.scope, x.document.path, e.message⟩)
      (path : e.path? = some x.document.path) (fatal : w.reportsSkip = true)
  | nameless {rest : List LoadWarning} (document : x.document.IsNameless yaml x.scope)
      (error : e = .missingName x.document.path) (notes : x.notes = w :: rest)
      (warning : w = .fileName x.scope x.document.path)

theorem Refused.isFaulty {x : Outcome} {e : LoadError} {w : LoadWarning} (h : x.Refused yaml e w) :
    x.IsFaulty yaml := by
  cases h with
  | skipped fate => exact .inl (by rw [fate]; rfl)
  | nameless document => exact .inr document

theorem Refused.warning_facts {x : Outcome} {e : LoadError} {w : LoadWarning}
    (h : x.Refused yaml e w) :
    (∃ rest, x.notes = w :: rest) ∧ w.isFatal = true ∧ w.scope = x.scope ∧
      w.path = x.document.path ∧ e.path? = some x.document.path := by
  cases h with
  | skipped fate notes warning path fatal =>
    refine ⟨⟨[], notes⟩, ?_, by rw [warning], by rw [warning], path⟩
    rw [LoadWarning.isFatal, fatal, Bool.true_or]
  | @nameless rest document error notes warning =>
    refine ⟨⟨rest, notes⟩, ?_, by rw [warning]; rfl, by rw [warning]; rfl, by rw [error]; rfl⟩
    have hw := (LoadWarning.reports_fileName x.scope x.document.path).1
    rw [LoadWarning.isFatal, warning, hw, Bool.or_true]

/-- The error is what the warning says: that of a skipped document, or that there is no name. -/
theorem Refused.error_cases {x : Outcome} {e : LoadError} {w : LoadWarning}
    (h : x.Refused yaml e w) :
    x.fate = .skipped e ∧ w.text = e.message ∨
      x.document.IsNameless yaml x.scope ∧ w.reportsFileName = true ∧
        e = .missingName x.document.path := by
  cases h with
  | skipped fate notes warning => exact .inl ⟨fate, by rw [warning]⟩
  | nameless document error notes warning =>
    exact .inr ⟨document, warning ▸ (LoadWarning.reports_fileName _ _).1, error⟩

end Outcome

/-- What a strict load comes to beside a lenient load with some outcomes and an answer. -/
inductive Mirrors (yaml : YamlReader) {α : Type} (xs : List Outcome) (a : α) :
    Except LoadError α → Prop
  | agrees (sound : ∀ x ∈ xs, ¬ x.IsFaulty yaml) : Mirrors yaml xs a (.ok a)
  | stops {before rest : List Outcome} {x : Outcome} {e : LoadError} {w : LoadWarning}
      (outcomes : xs = before ++ x :: rest) (sound : ∀ y ∈ before, ¬ y.IsFaulty yaml)
      (refused : x.Refused yaml e w) : Mirrors yaml xs a (.error e)

namespace Mirrors

variable {yaml : YamlReader} {α β : Type} {xs ys : List Outcome} {a : α} {b : β}

theorem bind {r : Except LoadError α} {f : α → Except LoadError β} (h : Mirrors yaml xs a r)
    (hf : Mirrors yaml ys b (f a)) : Mirrors yaml (xs ++ ys) b (r >>= f) := by
  cases h with
  | stops outcomes sound refused =>
    exact .stops (by rw [outcomes, List.append_assoc, List.cons_append]) sound refused
  | agrees sound =>
    -- nothing stopped the first load, so the second one decides
    change Mirrors yaml (xs ++ ys) b (f a)
    generalize f a = r at hf
    cases hf with
    | agrees sound' =>
      have hall : ∀ x ∈ xs ++ ys, ¬ x.IsFaulty yaml := by
        intro x hx
        rcases List.mem_append.mp hx with hx | hx
        · exact sound x hx
        · exact sound' x hx
      exact .agrees hall
    | @stops before rest x e w outcomes sound' refused =>
      have hall : ∀ y ∈ xs ++ before, ¬ y.IsFaulty yaml := by
        intro y hy
        rcases List.mem_append.mp hy with hy | hy
        · exact sound y hy
        · exact sound' y hy
      exact .stops (by rw [outcomes, List.append_assoc]) hall refused

end Mirrors

namespace Tier

variable {yaml : YamlReader} {s : Scope}

theorem mirrors_take_of_ownName {t : Tier} {d : SourceDocument} {f : Fate}
    {notes : List LoadWarning} {doc : Document} {time : Timestamp} {name : String}
    (parse : d.parse yaml s = .ok (doc, time)) (own : doc.ownName? = some name)
    (strict : Settles yaml s true t d f notes) (hf : f.isSkipped = false) :
    Mirrors yaml [⟨s, d, f, notes⟩] (t.after ⟨s, d, f, notes⟩) (t.take yaml s true d) := by
  rw [take_of_fate ((fate_eq_ok_iff ..).mpr strict)]
  refine .agrees fun x hx => ?_
  rw [List.mem_singleton] at hx
  subst hx
  rintro (h | ⟨doc', time', h, hn⟩)
  · rw [hf] at h
    cases h
  · rw [parse] at h
    cases h
    rw [own] at hn
    cases hn

/-- A document that a strict load refuses ends it. -/
theorem mirrors_take_of_refused {t u : Tier} {x : Outcome} {e : LoadError} {w : LoadWarning}
    (h : x.document.read yaml s true = .error e) (hx : x.Refused yaml e w) :
    Mirrors yaml [x] u (t.take yaml s true x.document) := by
  rw [take_of_fate_error ((fate_eq_error_iff ..).mpr ⟨rfl, h⟩)]
  exact .stops (List.nil_append _).symm (by simp) hx

/-- One document: either both policies settle it alike, or the strict one refuses it. -/
theorem mirrors_take {t : Tier} {d : SourceDocument} {f : Fate} {notes : List LoadWarning}
    (h : Settles yaml s false t d f notes) :
    Mirrors yaml [⟨s, d, f, notes⟩] (t.after ⟨s, d, f, notes⟩) (t.take yaml s true d) := by
  cases h with
  | @skipped e policy read =>
    cases d.reads_of_read read with
    | refused policy => cases policy
    | faulty parse =>
      exact mirrors_take_of_refused (SourceDocument.Reads.faulty parse).read_eq
        (.skipped rfl rfl rfl (d.path?_of_parse_error parse) (d.reports_parse_error parse).1)
  | entered read free =>
    cases d.reads_of_read read with
    | named parse own =>
      exact mirrors_take_of_ownName parse own
        (.entered (SourceDocument.Reads.named parse own).read_eq free) rfl
    | @fileNamed doc time policy parse own =>
      exact mirrors_take_of_refused (SourceDocument.Reads.refused rfl parse own).read_eq
        (.nameless ⟨doc, time, parse, own⟩ rfl rfl rfl)
  | duplicate read taken =>
    cases d.reads_of_read read with
    | named parse own =>
      exact mirrors_take_of_ownName parse own
        (.duplicate (SourceDocument.Reads.named parse own).read_eq taken) rfl
    | @fileNamed doc time policy parse own =>
      exact mirrors_take_of_refused (SourceDocument.Reads.refused rfl parse own).read_eq
        (.nameless ⟨doc, time, parse, own⟩ rfl rfl rfl)

theorem Run.mirrors {t u : Tier} {xs : List Outcome} (h : Run yaml s false t xs u) :
    Mirrors yaml xs u ((xs.map (·.document)).foldlM (Tier.take yaml s true) t) := by
  induction h with
  | done t => exact .agrees (by simp)
  | @step t u x xs scope settles rest ih =>
    cases scope
    rw [List.map_cons, List.foldlM_cons]
    exact (mirrors_take settles).bind ih

theorem Settles.isFatal {t : Tier} {d : SourceDocument} {f : Fate} {notes : List LoadWarning}
    (h : Settles yaml s false t d f notes) (hx : ¬ Outcome.IsFaulty yaml ⟨s, d, f, notes⟩) :
    ∀ w ∈ notes, w.isFatal = false := by
  have hn : ¬ d.IsNameless yaml s := fun hn => hx (.inr hn)
  intro w hw
  cases h with
  | skipped policy read => exact absurd (.inl rfl) hx
  | entered read free => exact d.isFatal_of_read read hn w hw
  | duplicate read taken =>
    rcases List.mem_append.mp hw with hw | hw
    · exact d.isFatal_of_read read hn w hw
    · rw [List.mem_singleton] at hw
      obtain ⟨-, hskip, hfile⟩ := LoadWarning.reports_duplicate s d.path _ _
      rw [hw, LoadWarning.isFatal, hskip, hfile]
      rfl

theorem includes_eq (o : LoadOptions) (strict : Bool) (s : Scope) :
    ({ o with strict } : LoadOptions).includes s = o.includes s := by
  cases s <;> rfl

theorem Loaded.mirrors {source : Source} {o : LoadOptions} {xs : List Outcome} {t : Tier}
    (h : Loaded yaml source { o with strict := false } s xs t) :
    Mirrors yaml xs t (load yaml source { o with strict := true } s) := by
  cases h with
  | excluded policy =>
    rw [load_of_excluded (by rw [includes_eq]; rwa [includes_eq] at policy)]
    exact .agrees (by simp)
  | included policy answer documents run =>
    rw [load_of_included (by rw [includes_eq]; rwa [includes_eq] at policy), answer]
    change Mirrors yaml xs t ((inOrder _).foldlM _ _)
    rw [← documents]
    exact run.mirrors

theorem exists_lenient_fold (l : List SourceDocument) (t : Tier) :
    ∃ u, l.foldlM (take yaml s false) t = .ok u := by
  induction l generalizing t with
  | nil => exact ⟨t, rfl⟩
  | cons d r ih =>
    rw [List.foldlM_cons]
    cases hf : t.fate yaml s false d with
    | error e => cases ((fate_eq_error_iff ..).mp hf).1
    | ok p =>
      rw [take_of_fate hf]
      exact ih _

theorem exists_lenient_load {source : Source} {o : LoadOptions}
    (answers : o.includes s = true → ∃ docs, source s = .ok docs) :
    ∃ t, load yaml source { o with strict := false } s = .ok t := by
  cases hi : o.includes s with
  | false => exact ⟨_, load_of_excluded (by rwa [includes_eq]) source⟩
  | true =>
    obtain ⟨docs, hd⟩ := answers hi
    obtain ⟨u, hu⟩ := exists_lenient_fold (s := s) (inOrder docs) empty
    refine ⟨u, ?_⟩
    rw [load_of_included (by rwa [includes_eq]), hd]
    exact hu

end Tier

namespace Hierarchy

variable {yaml : YamlReader}

theorem Loaded.mirrors {source : Source} {o : LoadOptions} {xs : List Outcome} {h : Hierarchy}
    (hl : Loaded yaml source { o with strict := false } xs h) :
    Mirrors yaml xs h (loadWith yaml source { o with strict := true }) := by
  obtain ⟨f, rfl, hf⟩ := hl
  have hnil : Mirrors yaml [] h (.ok h) := .agrees (by simp)
  exact (hf .default).mirrors.bind ((hf .global).mirrors.bind ((hf .project).mirrors.bind hnil))

theorem Loaded.warnings {source : Source} {o : LoadOptions} {xs : List Outcome} {h : Hierarchy}
    (hl : Loaded yaml source o xs h) : h.warnings = xs.flatMap (·.notes) := by
  obtain ⟨f, rfl, hf⟩ := hl
  rw [warnings_eq_flatMap, List.flatMap_assoc]
  simp only [fun s => (hf s).warnings]

theorem Loaded.isFatal {source : Source} {o : LoadOptions} {xs ys : List Outcome}
    {h : Hierarchy} (hl : Loaded yaml source { o with strict := false } xs h) (hys : ys ⊆ xs)
    (sound : ∀ y ∈ ys, ¬ y.IsFaulty yaml) : ∀ w ∈ ys.flatMap (·.notes), w.isFatal = false := by
  intro w hw
  obtain ⟨y, hy, hw⟩ := List.mem_flatMap.mp hw
  obtain ⟨f, rfl, hf⟩ := hl
  obtain ⟨s, -, hys⟩ := List.mem_flatMap.mp (hys hy)
  obtain ⟨m, hscope, hsettles⟩ := (hf s).settles_of_mem hys
  cases hscope
  exact hsettles.isFatal (sound y hy) w hw

theorem exists_lenient_load {source : Source} {o : LoadOptions}
    (answers : ∀ s, o.includes s = true → ∃ docs, source s = .ok docs) :
    ∃ h, loadWith yaml source { o with strict := false } = .ok h := by
  obtain ⟨d, hd⟩ := Tier.exists_lenient_load (answers .default)
  obtain ⟨g, hg⟩ := Tier.exists_lenient_load (answers .global)
  obtain ⟨p, hp⟩ := Tier.exists_lenient_load (answers .project)
  refine ⟨⟨d, g, p⟩, (load_eq_ok_iff ..).mpr fun s => ?_⟩
  cases s
  · exact hd
  · exact hg
  · exact hp

/-- The strict load and the lenient load of a source that answers for every included tier. The
lenient load succeeds. The strict one succeeds exactly if the lenient one skipped no document and
named none after its file, and then with the same hierarchy. Otherwise it stops at the first such
document with the error that the first such warning is about. -/
theorem strict_load_agrees_with_lenient_load (yaml : YamlReader) (source : Source)
    (o : LoadOptions) (answers : ∀ s, o.includes s = true → ∃ docs, source s = .ok docs) :
    ∃ (h : Hierarchy) (xs : List Outcome),
      loadWith yaml source { o with strict := false } = .ok h ∧
      Loaded yaml source { o with strict := false } xs h ∧
      ((∃ h', loadWith yaml source { o with strict := true } = .ok h') ↔
        ∀ x ∈ xs, ¬ x.IsFaulty yaml) ∧
      ((∃ h', loadWith yaml source { o with strict := true } = .ok h') ↔
        ∀ w ∈ h.warnings, w.isFatal = false) ∧
      (∀ h', loadWith yaml source { o with strict := true } = .ok h' → h' = h) ∧
      ∀ e, loadWith yaml source { o with strict := true } = .error e →
        ∃ before x rest w later,
          xs = before ++ x :: rest ∧ (∀ y ∈ before, ¬ y.IsFaulty yaml) ∧ x.IsFaulty yaml ∧
          h.warnings = before.flatMap (·.notes) ++ w :: later ∧
          (∀ v ∈ before.flatMap (·.notes), v.isFatal = false) ∧ w.isFatal = true ∧
          w ∈ x.notes ∧ w.scope = x.scope ∧ w.path = x.document.path ∧
          e.path? = some x.document.path ∧
          (x.fate = .skipped e ∧ w.text = e.message ∨
            x.document.IsNameless yaml x.scope ∧ w.reportsFileName = true ∧
              e = .missingName x.document.path) := by
  obtain ⟨h, hlenient⟩ := exists_lenient_load answers
  obtain ⟨xs, hxs⟩ := (exists_loaded_iff ..).mp hlenient
  refine ⟨h, xs, hlenient, hxs, ?_⟩
  have hmirrors := hxs.mirrors
  -- all that is said of the strict load follows from how it mirrors the lenient one
  generalize loadWith yaml source { o with strict := true } = r at hmirrors
  cases hmirrors with
  | agrees sound =>
    have hquiet : ∀ w ∈ h.warnings, w.isFatal = false := by
      rw [hxs.warnings]
      exact hxs.isFatal (List.Subset.refl _) sound
    refine ⟨⟨fun _ => sound, fun _ => ⟨h, rfl⟩⟩, ⟨fun _ => hquiet, fun _ => ⟨h, rfl⟩⟩, ?_, ?_⟩
    · intro h' he
      exact (Except.ok.inj he).symm
    · intro e he
      cases he
  | @stops before rest x e w outcomes sound refused =>
    obtain ⟨⟨notes, hnotes⟩, hfatal, hscope, hpath, herror⟩ := refused.warning_facts
    have hwarnings : h.warnings =
        before.flatMap (·.notes) ++ w :: (notes ++ rest.flatMap (·.notes)) := by
      rw [hxs.warnings, outcomes, List.flatMap_append, List.flatMap_cons, hnotes,
        List.cons_append]
    have hx : x ∈ xs := by simp [outcomes]
    have hw : w ∈ h.warnings := by simp [hwarnings]
    refine ⟨⟨?_, ?_⟩, ⟨?_, ?_⟩, ?_, ?_⟩
    · rintro ⟨h', he⟩
      cases he
    · intro hsound
      exact absurd refused.isFaulty (hsound x hx)
    · rintro ⟨h', he⟩
      cases he
    · intro hquiet
      rw [hquiet w hw] at hfatal
      cases hfatal
    · intro h' he
      cases he
    · intro e' he
      cases he
      have hbefore : before ⊆ xs := fun y hy => by simp [outcomes, hy]
      exact ⟨before, x, rest, w, _, outcomes, sound, refused.isFaulty, hwarnings,
        hxs.isFatal hbefore sound, hfatal, by simp [hnotes], hscope, hpath, herror,
        refused.error_cases⟩

/-- The sample: the strict load stops at the document that the first warning is about. -/
theorem strict_load_of_sample_stops :
    (∀ s, LoadOptions.sample.includes s = true → ∃ docs, Source.sample s = .ok docs) ∧
      ∃ before w later, Hierarchy.sample.warnings = before ++ w :: later ∧
        (∀ v ∈ before, v.isFatal = false) ∧ w.isFatal = true ∧ w.path = ⟨"g/x.md"⟩ ∧
        load .sample { LoadOptions.sample with strict := true } =
          .error (.missingName w.path) := by
  have answers : ∀ s, LoadOptions.sample.includes s = true →
      ∃ docs, Source.sample s = .ok docs := by
    intro s hs
    cases s
    · cases hs
    · exact ⟨_, rfl⟩
    · exact ⟨_, rfl⟩
  have hstrict : load .sample { LoadOptions.sample with strict := true } =
      .error (.missingName ⟨"g/x.md"⟩) := by
    unfold load loadWith
    rw [load_sample_global true]
    rfl
  obtain ⟨h, xs, hlenient, -, -, -, -, hstop⟩ :=
    strict_load_agrees_with_lenient_load Yaml.readJson .sample .sample answers
  obtain rfl := Except.ok.inj (hlenient.symm.trans load_sample)
  obtain ⟨before, x, rest, w, later, -, -, -, hwarnings, hquiet, hfatal, -, -, hpath, herror, -⟩ :=
    hstop _ hstrict
  have hw : w.path = ⟨"g/x.md"⟩ := hpath.trans (Option.some.inj herror).symm
  exact ⟨answers, _, w, later, hwarnings, hquiet, hfatal, hw, hw ▸ hstrict⟩

end Hierarchy

end Roster
