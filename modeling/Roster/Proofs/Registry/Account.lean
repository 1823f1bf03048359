import Roster.Proofs.Counting
import Roster.Proofs.PathOrder
import Roster.Proofs.Registry.Run

/-! # Where documents go

No document of a loaded tier is lost. Each of them is entered under its name,
skipped with a warning that carries its error, or dropped with a warning that
names the document kept in its place; which of these it is depends on the
documents before it that can be read. The numbers of entries and of these
warnings therefore add up to the number of documents.
-/
namespace Roster

/-- No document of a list is read as a configuration of some name. -/
def IsFree (yaml : YamlReader) (s : Scope) (strict : Bool) (l : List SourceDocument)
    (name : String) : Prop :=
  ∀ d ∈ l, ∀ c notes, d.read yaml s strict = .ok (c, notes) → c.name ≠ name

/-- The fate of a document behind others, and the warnings about it, seen from the end of the load
of its tier. -/
inductive Accounted (yaml : YamlReader) (s : Scope) (strict : Bool) (t : Tier)
    (before : List SourceDocument) (d : SourceDocument) : Fate → List LoadWarning → Prop
  | entered {c : Configuration} {notes : List LoadWarning}
      (read : d.read yaml s strict = .ok (c, notes)) (free : IsFree yaml s strict before c.name)
      (entry : t.entries.get? c.name = some c) :
      Accounted yaml s strict t before d (.entered c) notes
  | skipped {e : LoadError} (policy : strict = false) (read : d.read yaml s strict = .error e) :
      Accounted yaml s strict t before d (.skipped e) [⟨s, d.path, e.message⟩]
  | duplicate {c k : Configuration} {notes : List LoadWarning}
      (read : d.read yaml s strict = .ok (c, notes)) (taken : ¬ IsFree yaml s strict before c.name)
      (kept : t.entries.get? c.name = some k) :
      Accounted yaml s strict t before d (.duplicate c k.path)
        (notes ++ [.duplicate s d.path c.name k.path])

namespace Accounted

variable {yaml : YamlReader} {s : Scope} {strict : Bool} {t : Tier} {before : List SourceDocument}
  {d : SourceDocument} {f : Fate} {notes : List LoadWarning}

/-- A document that can be read is entered exactly if its name is free. -/
theorem entered_iff (h : Accounted yaml s strict t before d f notes) {c : Configuration}
    {remarks : List LoadWarning} (hread : d.read yaml s strict = .ok (c, remarks)) :
    f = .entered c ↔ IsFree yaml s strict before c.name := by
  cases h with
  | entered read free entry =>
    cases read.symm.trans hread
    exact ⟨fun _ => free, fun _ => rfl⟩
  | skipped policy read => cases read.symm.trans hread
  | duplicate read taken kept =>
    cases read.symm.trans hread
    constructor
    · intro h
      cases h
    · intro h
      exact absurd h taken

/-- A skipped document has one warning that it is skipped, and a dropped one has one warning that
it is a duplicate. Other documents have no such warnings. -/
theorem countP_notes (h : Accounted yaml s strict t before d f notes) :
    notes.countP (·.reportsSkip) = (if f.isSkipped then 1 else 0) ∧
      notes.countP (·.reportsDuplicate) = if f.isDuplicate then 1 else 0 := by
  have hquiet : ∀ c remarks, d.read yaml s strict = .ok (c, remarks) →
      remarks.countP (·.reportsSkip) = 0 ∧ remarks.countP (·.reportsDuplicate) = 0 := by
    intro c remarks hread
    have hq := d.quiet_of_read hread
    rw [List.countP_eq_zero, List.countP_eq_zero]
    exact ⟨fun w hw => by simp [(hq w hw).2.2.1], fun w hw => by simp [(hq w hw).2.2.2]⟩
  cases h with
  | entered read free entry => exact hquiet _ _ read
  | skipped policy read =>
    subst policy
    cases d.reads_of_read read with
    | refused policy => cases policy
    | faulty parse =>
      obtain ⟨hskip, -, hduplicate⟩ := d.reports_parse_error parse
      simp [Fate.isSkipped, Fate.isDuplicate, hskip, hduplicate]
  | @duplicate c k remarks read taken kept =>
    obtain ⟨hskip, hduplicate⟩ := hquiet _ _ read
    obtain ⟨hd, hs, -⟩ := LoadWarning.reports_duplicate s d.path c.name k.path
    simp [List.countP_append, Fate.isSkipped, Fate.isDuplicate, hskip, hduplicate, hd, hs]

end Accounted

namespace Outcome

theorem length_eq_add (xs : List Outcome) :
    xs.length = xs.countP (·.fate.isEntered) + xs.countP (·.fate.isSkipped) +
      xs.countP (·.fate.isDuplicate) := by
  refine length_eq_countP_add fun x _ => ?_
  cases x.fate with
  | entered c => rfl
  | skipped e => rfl
  | duplicate c kept => rfl

end Outcome

namespace Tier

variable {yaml : YamlReader} {s : Scope} {strict : Bool}

theorem isFree_iff_find?_eq_none {xs : List Outcome}
    (h : ∀ x ∈ xs, ∃ m, Settles yaml s strict m x.document x.fate x.notes) (n : String) :
    IsFree yaml s strict (xs.map (·.document)) n ↔
      ((Outcome.configurations xs).find? fun c => c.name == n) = none := by
  rw [List.find?_eq_none]
  constructor
  · intro hfree c hc hcn
    obtain ⟨x, hx, hxc⟩ := List.mem_filterMap.mp hc
    obtain ⟨m, hsettles⟩ := h x hx
    obtain ⟨notes, hread⟩ := (hsettles.configuration?_eq_some_iff c).mp hxc
    exact hfree x.document (List.mem_map.mpr ⟨x, hx, rfl⟩) c notes hread (eq_of_beq hcn)
  · intro hnone d hd c notes hread hcn
    obtain ⟨x, hx, rfl⟩ := List.mem_map.mp hd
    obtain ⟨m, hsettles⟩ := h x hx
    have hxc := (hsettles.configuration?_eq_some_iff c).mpr ⟨notes, hread⟩
    exact hnone c (List.mem_filterMap.mpr ⟨x, hx, hxc⟩) (beq_iff_eq.mpr hcn)

/-- The tier in which a document is settled knows the names before it, and passes its entries on to
the tier at the end. -/
theorem Settles.accounted {m t : Tier} {before : List SourceDocument} {d : SourceDocument}
    {f : Fate} {notes : List LoadWarning} {later : String → Option Configuration}
    (h : Settles yaml s strict m d f notes)
    (hfree : ∀ n, IsFree yaml s strict before n ↔ m.entries.get? n = none)
    (hentry : ∀ n, t.entries.get? n =
      (m.entries.get? n).or ((f.configuration?.filter fun c => c.name == n).or (later n))) :
    Accounted yaml s strict t before d f notes := by
  cases h with
  | skipped policy read => exact .skipped policy read
  | @entered c _ read free =>
    have hc : t.entries.get? c.name = some c := by
      rw [hentry, free]
      simp [Fate.configuration?, Option.filter]
    exact .entered read ((hfree c.name).mpr free) hc
  | @duplicate c k _ read taken =>
    have hk : t.entries.get? c.name = some k := by
      rw [hentry, taken]
      rfl
    have hn : ¬ IsFree yaml s strict before c.name := by
      rw [hfree, taken]
      exact Option.some_ne_none k
    exact .duplicate read hn hk

namespace Loaded

variable {source : Source} {o : LoadOptions} {t : Tier} {xs before rest : List Outcome}
  {x : Outcome}

theorem accounted (h : Loaded yaml source o s (before ++ x :: rest) t) :
    Accounted yaml s o.strict t (before.map (·.document)) x.document x.fate x.notes := by
  obtain ⟨m, -, hsettles, hm⟩ := h.settles_of_append
  have hbefore : ∀ y ∈ before, ∃ m, Settles yaml s o.strict m y.document y.fate y.notes := by
    intro y hy
    obtain ⟨m, -, hsettles⟩ := h.settles_of_mem (List.mem_append_left _ hy)
    exact ⟨m, hsettles⟩
  have hentry : ∀ n, t.entries.get? n = (m.entries.get? n).or
      ((x.fate.configuration?.filter fun c => c.name == n).or
        ((Outcome.configurations rest).find? fun c => c.name == n)) := by
    intro n
    -- the entries at the end are the first of their names in the whole tier
    rw [h.get?, hm, Outcome.configurations, List.filterMap_append, List.find?_append]
    exact congrArg _ (Outcome.find?_configurations_cons x rest _)
  refine hsettles.accounted (fun n => ?_) hentry
  rw [hm]
  exact isFree_iff_find?_eq_none hbefore n

theorem length_eq (h : Loaded yaml source o s xs t) :
    xs.length = t.entries.size + t.warnings.countP (·.reportsSkip) +
      t.warnings.countP (·.reportsDuplicate) := by
  have hnotes : ∀ x ∈ xs, x.notes.countP (·.reportsSkip) = (if x.fate.isSkipped then 1 else 0) ∧
      x.notes.countP (·.reportsDuplicate) = if x.fate.isDuplicate then 1 else 0 := by
    intro x hx
    obtain ⟨before, rest, rfl⟩ := List.append_of_mem hx
    exact h.accounted.countP_notes
  have hskips := countP_flatMap_eq fun x hx => (hnotes x hx).1
  have hduplicates := countP_flatMap_eq fun x hx => (hnotes x hx).2
  rw [h.warnings, h.size, hskips, hduplicates]
  exact Outcome.length_eq_add xs

end Loaded

end Tier

namespace Hierarchy

/-- The documents of an included tier, in the order of their paths, and where each of them went. -/
theorem load_accounts_for_documents {source : Source} {o : LoadOptions} {h : Hierarchy}
    (hl : loadWith yaml source o = .ok h) {s : Scope} (hs : o.includes s = true) :
    ∃ (docs : List SourceDocument) (xs : List Outcome),
      source s = .ok docs ∧ InPathOrder docs (xs.map (·.document)) ∧
      (h.warnings.filter fun w => w.scope = s) = xs.flatMap (·.notes) ∧
      (∀ before x rest, xs = before ++ x :: rest →
        Accounted yaml s o.strict (h.tier s) (before.map (·.document)) x.document x.fate x.notes ∧
        (∀ c notes, x.document.read yaml s o.strict = .ok (c, notes) →
          (x.fate = .entered c ↔ IsFree yaml s o.strict (before.map (·.document)) c.name)) ∧
        x.notes.countP (·.reportsSkip) = (if x.fate.isSkipped then 1 else 0) ∧
        x.notes.countP (·.reportsDuplicate) = if x.fate.isDuplicate then 1 else 0) ∧
      docs.length = (h.tier s).entries.size +
        (h.warnings.filter fun w => w.scope = s).countP (·.reportsSkip) +
        (h.warnings.filter fun w => w.scope = s).countP (·.reportsDuplicate) := by
  obtain ⟨xs, hxs⟩ := (Tier.load_eq_ok_iff ..).mp ((load_eq_ok_iff ..).mp hl s)
  obtain ⟨docs, hanswer, hdocs⟩ := hxs.exists_documents hs
  have hwarnings : (h.warnings.filter fun w => w.scope = s) = (h.tier s).warnings := by
    have hscope : (Scope.all.filter fun r => r = s) = [s] := by cases s <;> decide
    rw [filter_warnings hl fun r => r = s, hscope, List.flatMap_singleton]
  have hlength : docs.length = xs.length := by
    rw [← (Tier.inOrder_perm docs).length_eq, ← hdocs, List.length_map]
  refine ⟨docs, xs, hanswer, hdocs ▸ Tier.inPathOrder_inOrder docs, ?_, ?_, ?_⟩
  · rw [hwarnings, hxs.warnings]
  · intro before x rest hsplit
    subst hsplit
    have ha := hxs.accounted
    exact ⟨ha, fun c notes hread => ha.entered_iff hread, ha.countP_notes⟩
  · rw [hwarnings, hlength]
    exact hxs.length_eq

/-- The sample: of three documents one is entered, one is dropped and one is skipped. -/
theorem load_of_sample_accounts :
    LoadOptions.sample.includes .project = true ∧
      ∃ docs, Source.sample .project = .ok docs ∧ docs.length = 3 ∧
        Hierarchy.sample.project.entries.size = 1 ∧
        docs.length = Hierarchy.sample.project.entries.size +
          (Hierarchy.sample.warnings.filter fun w => w.scope = .project).countP (·.reportsSkip) +
          (Hierarchy.sample.warnings.filter fun w => w.scope = .project).countP
            (·.reportsDuplicate) := by
  obtain ⟨docs, xs, hdocs, -, -, -, hlength⟩ := load_accounts_for_documents load_sample
    (show LoadOptions.sample.includes .project = true from rfl)
  cases hdocs
  exact ⟨rfl, _, rfl, rfl, rfl, hlength⟩

end Hierarchy

end Roster
