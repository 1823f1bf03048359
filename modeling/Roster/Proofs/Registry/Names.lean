import Roster.Proofs.Registry.Single
import Roster.Proofs.Text.Lines

/-! # Names of documents

A name that a document gives itself is trimmed. The name that a lenient load takes
from the file is not, so that a load has a name with blank ends exactly if one of its
nameless documents lies in a file with such a name. No name is empty.
-/
namespace Roster

/-- A name has characters, and neither the first nor the last is blank. -/
structure IsProperName (n : String) : Prop where
  nonempty : n ≠ ""
  start : ∀ c, n.toList.head? = some c → Text.isBlank c = false
  finish : ∀ c, n.toList.getLast? = some c → Text.isBlank c = false

theorem Document.isProperName_of_ownName? {doc : Document} {n : String}
    (h : doc.ownName? = some n) : IsProperName n := by
  obtain ⟨h, hne⟩ := Option.filter_eq_some_iff.mp h
  obtain ⟨raw, -, rfl⟩ := Option.map_eq_some_iff.mp h
  refine ⟨?_, fun c hc => ?_, fun c hc => ?_⟩
  · simpa using hne
  · rw [Text.trimmed, String.toList_ofList] at hc
    exact Text.isBlank_of_head?_trim hc
  · rw [Text.trimmed, String.toList_ofList] at hc
    exact Text.getLast?_dropTrailing hc

namespace FilePath

theorem ne_empty_of_mem_components {p : FilePath} {s : String} (h : .name s ∈ p.components) :
    s ≠ "" := by
  have hpart : ∀ part, Component.name s ∈ ofPart part → s ≠ "" := by
    intro part hs
    unfold ofPart at hs
    split_ifs at hs with hnone hup
    · cases hs
    · cases List.mem_singleton.mp hs
    · rw [not_or] at hnone
      cases List.mem_singleton.mp hs
      exact fun he => hnone.1 (String.ofList_eq_empty_iff.mp he)
  have hparts : Component.name s ∈ (Text.splitOn '/' p.text.toList).flatMap ofPart → s ≠ "" := by
    intro hs
    obtain ⟨part, -, hs⟩ := List.mem_flatMap.mp hs
    exact hpart part hs
  dsimp only [components] at h
  split at h
  · exact hparts (by simpa using h)
  · exact hparts (by simpa using h)
  · exact hparts (by simpa using h)
  · exact hparts h

theorem divide_ne_empty {name : String} (h : name ≠ "") : (divide name).1 ≠ "" := by
  dsimp only [divide]
  split
  · split_ifs with hbefore
    · exact h
    · simpa using hbefore
  · exact h

theorem nameForUnnamed_ne_empty (p : FilePath) : p.nameForUnnamed ≠ "" := by
  unfold nameForUnnamed fileStem? fileName?
  split
  · next s hlast => exact divide_ne_empty (ne_empty_of_mem_components (List.mem_of_getLast? hlast))
  · decide

end FilePath

namespace SourceDocument

variable {yaml : YamlReader} {s : Scope} {d : SourceDocument}

/-- A document that is read names itself, or else the load is lenient and the document is named
after its file. -/
theorem name_of_read {strict : Bool} {c : Configuration} {notes : List LoadWarning}
    (h : d.read yaml s strict = .ok (c, notes)) :
    IsProperName c.name ∨ d.IsNameless yaml s ∧ c.name = d.path.nameForUnnamed := by
  cases reads_of_read h with
  | named parse own => exact .inl (Document.isProperName_of_ownName? own)
  | @fileNamed doc time policy parse own => exact .inr ⟨⟨doc, time, parse, own⟩, rfl⟩

theorem read_of_isNameless (strict : Bool) (h : d.IsNameless yaml s) :
    if strict then d.read yaml s strict = .error (.missingName d.path)
    else ∃ c notes, d.read yaml s strict = .ok (c, notes) ∧ c.name = d.path.nameForUnnamed := by
  obtain ⟨doc, time, hparse, hown⟩ := h
  cases strict with
  | true => exact (Reads.refused rfl hparse hown).read_eq
  | false => exact ⟨_, _, (Reads.fileNamed rfl hparse hown).read_eq, rfl⟩

end SourceDocument

namespace Tier.Loaded

variable {yaml : YamlReader} {s : Scope} {source : Source} {o : LoadOptions} {xs : List Outcome}
  {t : Tier} {docs : List SourceDocument} {d : SourceDocument}

theorem exists_settles (h : Loaded yaml source o s xs t) (policy : o.includes s = true)
    (answer : source s = .ok docs) (hd : d ∈ docs) :
    ∃ x ∈ xs, ∃ m, x.document = d ∧ Settles yaml s o.strict m d x.fate x.notes := by
  obtain ⟨docs', hanswer, hdocs⟩ := h.exists_documents policy
  cases answer.symm.trans hanswer
  have hmem : d ∈ xs.map (·.document) := hdocs ▸ (inOrder_perm docs).mem_iff.mpr hd
  obtain ⟨x, hx, rfl⟩ := List.mem_map.mp hmem
  obtain ⟨m, -, hsettles⟩ := h.settles_of_mem hx
  exact ⟨x, hx, m, rfl, hsettles⟩

theorem contains_of_read (h : Loaded yaml source o s xs t) (policy : o.includes s = true)
    (answer : source s = .ok docs) (hd : d ∈ docs) {c : Configuration}
    {notes : List LoadWarning} (read : d.read yaml s o.strict = .ok (c, notes)) :
    t.entries.contains c.name = true := by
  obtain ⟨x, hx, m, -, hsettles⟩ := h.exists_settles policy answer hd
  have hc : c ∈ Outcome.configurations xs :=
    List.mem_filterMap.mpr ⟨x, hx, (hsettles.configuration?_eq_some_iff c).mpr ⟨notes, read⟩⟩
  rw [NameMap.contains_eq_isSome, h.get?, List.find?_isSome]
  exact ⟨c, hc, beq_self_eq_true _⟩

theorem exists_read_of_strict (h : Loaded yaml source o s xs t) (policy : o.includes s = true)
    (answer : source s = .ok docs) (hd : d ∈ docs) (strict : o.strict = true) :
    ∃ c notes, d.read yaml s o.strict = .ok (c, notes) := by
  obtain ⟨x, -, m, -, hsettles⟩ := h.exists_settles policy answer hd
  generalize x.fate = f, x.notes = notes at hsettles
  cases hsettles with
  | skipped lenient read =>
    rw [strict] at lenient
    cases lenient
  | entered read free => exact ⟨_, _, read⟩
  | duplicate read taken => exact ⟨_, _, read⟩

end Tier.Loaded

namespace Hierarchy

variable {yaml : YamlReader} {source : Source} {o : LoadOptions} {h : Hierarchy}

/-- A name is a key of a tier, or of what all tiers resolve to. -/
def IsKey (h : Hierarchy) (n : String) : Prop :=
  h.resolved.contains n = true ∨ ∃ s, (h.tier s).entries.contains n = true

theorem isKey_iff (h : Hierarchy) (n : String) :
    h.IsKey n ↔ ∃ s, (h.tier s).entries.contains n = true := by
  rw [IsKey, contains_resolved_iff, or_self]

/-- A document of an included tier gives itself no name. -/
def Nameless (yaml : YamlReader) (source : Source) (o : LoadOptions) (d : SourceDocument) : Prop :=
  ∃ s docs, o.includes s = true ∧ source s = .ok docs ∧ d ∈ docs ∧ d.IsNameless yaml s

/-- A name that is a key is proper, or else it is the name of the file of a nameless document. -/
theorem key_cases (hl : loadWith yaml source o = .ok h) {n : String} (hn : h.IsKey n) :
    IsProperName n ∨ ∃ d, Nameless yaml source o d ∧ n = d.path.nameForUnnamed := by
  obtain ⟨s, hs⟩ := (h.isKey_iff n).mp hn
  obtain ⟨xs, hxs⟩ := (Tier.load_eq_ok_iff ..).mp ((load_eq_ok_iff ..).mp hl s)
  cases hi : o.includes s with
  | false =>
    rw [hxs.entries_of_excluded hi] at hs
    cases hs
  | true =>
    rw [NameMap.contains_eq_isSome, Option.isSome_iff_exists] at hs
    obtain ⟨c, hc⟩ := hs
    obtain ⟨rfl, -, docs, d, notes, hanswer, hd, hread⟩ :=
      hxs.entry_of_mem ((NameMap.mem_entries_iff ..).mpr hc)
    exact (d.name_of_read hread).imp id fun hd' => ⟨d, ⟨s, docs, hi, hanswer, hd, hd'.1⟩, hd'.2⟩

/-- A load with a nameless document is lenient and has the name of the file as a key. -/
theorem lenient_of_nameless (hl : loadWith yaml source o = .ok h) {d : SourceDocument}
    (hd : Nameless yaml source o d) : o.strict = false ∧ h.IsKey d.path.nameForUnnamed := by
  obtain ⟨s, docs, hi, hanswer, hmem, hnameless⟩ := hd
  obtain ⟨xs, hxs⟩ := (Tier.load_eq_ok_iff ..).mp ((load_eq_ok_iff ..).mp hl s)
  have hread := d.read_of_isNameless o.strict hnameless
  cases hs : o.strict with
  | true =>
    obtain ⟨c, notes, hok⟩ := hxs.exists_read_of_strict hi hanswer hmem hs
    rw [hs] at hread hok
    cases hok.symm.trans hread
  | false =>
    rw [hs] at hread
    obtain ⟨c, notes, hok, hname⟩ := hread
    rw [← hs] at hok
    exact ⟨rfl, (h.isKey_iff _).mpr ⟨s, hname ▸ hxs.contains_of_read hi hanswer hmem hok⟩⟩

/-- No key of a load is empty, and all keys of a strict load are proper names. Those of a lenient
load are exactly if each of its nameless documents lies in a file with a proper name. -/
theorem keys_are_proper_iff (hl : loadWith yaml source o = .ok h) :
    (∀ n, h.IsKey n → n ≠ "") ∧ (o.strict = true → ∀ n, h.IsKey n → IsProperName n) ∧
      ((∀ n, h.IsKey n → IsProperName n) ↔
        ∀ d, Nameless yaml source o d → IsProperName d.path.nameForUnnamed) := by
  refine ⟨fun n hn => ?_, fun hs n hn => ?_, fun hkeys d hd => ?_, fun hfiles n hn => ?_⟩
  · rcases key_cases hl hn with hproper | ⟨d, -, rfl⟩
    · exact hproper.nonempty
    · exact d.path.nameForUnnamed_ne_empty
  · rcases key_cases hl hn with hproper | ⟨d, hd, -⟩
    · exact hproper
    · rw [(lenient_of_nameless hl hd).1] at hs
      cases hs
  · exact hkeys _ (lenient_of_nameless hl hd).2
  · rcases key_cases hl hn with hproper | ⟨d, hd, rfl⟩
    · exact hproper
    · exact hfiles d hd

end Hierarchy

/-- A source with a nameless document in a file whose name has blank ends. -/
def Source.spaced : Source
  | .project => .ok [.unnamed ⟨" x .md"⟩]
  | .default | .global => .ok []

/-- What that source is loaded as, leniently. -/
def Hierarchy.spaced : Hierarchy :=
  single .project (.unnamed .project ⟨" x .md"⟩ " x ") [.fileName .project ⟨" x .md"⟩]

theorem Hierarchy.keys_of_spaced_are_not_proper :
    load .spaced .sample = .ok .spaced ∧ (∀ n, Hierarchy.spaced.IsKey n → n ≠ "") ∧
      ¬ ∀ n, Hierarchy.spaced.IsKey n → IsProperName n := by
  have hread : (SourceDocument.unnamed ⟨" x .md"⟩).read Yaml.readJson .project false =
      .ok (.unnamed .project ⟨" x .md"⟩ " x ", [.fileName .project ⟨" x .md"⟩]) := rfl
  have hl : load .spaced .sample = .ok .spaced :=
    load_of_single rfl rfl hread fun s hs _ => by cases s <;> first | rfl | exact absurd rfl hs
  obtain ⟨hnonempty, -, hproper⟩ := keys_are_proper_iff hl
  refine ⟨hl, hnonempty, fun hkeys => ?_⟩
  have hnameless : Nameless Yaml.readJson .spaced .sample (.unnamed ⟨" x .md"⟩) :=
    ⟨.project, _, rfl, rfl, List.mem_singleton_self _, _, _, rfl, rfl⟩
  have hfile := hproper.mp hkeys _ hnameless
  have hblank : Text.isBlank ' ' = false := hfile.start ' ' rfl
  cases hblank

end Roster
