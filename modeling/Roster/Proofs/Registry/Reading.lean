import Roster.Registry.Hierarchy

/-! # What documents of a tier are worth

A document is faulty, lacks a name of its own, or is sound. A lenient load and a
strict load read a sound document alike; the strict load refuses the others,
while the lenient load skips a faulty document and names a nameless one after
its file. The text of a warning tells which of these things it reports.
-/
namespace Roster

namespace LoadWarning

/-- Whether the text of a warning starts with some words. -/
def opensWith (words : String) (w : LoadWarning) : Bool :=
  words.toList.isPrefixOf w.text.toList

/-- The warning reports that its document is skipped. -/
def reportsSkip (w : LoadWarning) : Bool :=
  w.opensWith "failed to "

/-- The warning reports that its document is named after its file. -/
def reportsFileName (w : LoadWarning) : Bool :=
  w.opensWith "missing 'name'"

/-- The warning reports that the name of its document is taken. -/
def reportsDuplicate (w : LoadWarning) : Bool :=
  w.opensWith "duplicate name '"

/-- The warning reports what stops a strict load. -/
def isFatal (w : LoadWarning) : Bool :=
  w.reportsSkip || w.reportsFileName

/-- A warning about a document that is neither skipped nor named after its file, nor dropped for
its name. -/
structure IsRemark (s : Scope) (p : FilePath) (w : LoadWarning) : Prop where
  scope : w.scope = s
  path : w.path = p
  notSkip : w.reportsSkip = false
  notFileName : w.reportsFileName = false
  notDuplicate : w.reportsDuplicate = false

theorem IsRemark.isFatal {s : Scope} {p : FilePath} {w : LoadWarning} (h : w.IsRemark s p) :
    w.isFatal = false := by
  rw [LoadWarning.isFatal, h.notSkip, h.notFileName]
  rfl

/-- The warning about a document that is named after its file. -/
def fileName (s : Scope) (p : FilePath) : LoadWarning :=
  ⟨s, p, "missing 'name'; using file name '" ++ p.nameForUnnamed ++ "'"⟩

/-- The warning about a document whose name is taken by the one at a path. -/
def duplicate (s : Scope) (p : FilePath) (name : String) (kept : FilePath) : LoadWarning :=
  ⟨s, p, "duplicate name '" ++ name ++ "' in " ++ s.word ++ " tier; keeping " ++ kept.text⟩

theorem reports_fileName (s : Scope) (p : FilePath) :
    (fileName s p).reportsFileName = true ∧ (fileName s p).reportsSkip = false ∧
      (fileName s p).reportsDuplicate = false := by
  simp [fileName, reportsFileName, reportsSkip, reportsDuplicate, opensWith, List.isPrefixOf]

theorem reports_duplicate (s : Scope) (p : FilePath) (name : String) (kept : FilePath) :
    (duplicate s p name kept).reportsDuplicate = true ∧
      (duplicate s p name kept).reportsSkip = false ∧
      (duplicate s p name kept).reportsFileName = false := by
  simp [duplicate, reportsFileName, reportsSkip, reportsDuplicate, opensWith, List.isPrefixOf]

end LoadWarning

namespace LoadError

theorem message_malformed (p : FilePath) (e : DocumentError) :
    (malformed p e).message = "failed to parse '" ++ p.text ++ "': " ++ e.message := rfl

theorem message_unreadable (s : Scope) (p : FilePath) (f : ReadFailure) :
    (unreadable s p f).message =
      "failed to read " ++ s.word ++ " document '" ++ p.text ++ "': " ++ f.message := rfl

end LoadError

namespace Document

/-- What is odd about a document apart from its name. -/
def remarks (d : Document) (found : Scope) : List String :=
  d.scopeWarnings found ++ d.tags.2

/-- The words with which remarks start. -/
def openings : List String :=
  ["declares scope '", "unknown scope '", "'scope' must be a string", "ignoring malformed 'tags'"]

theorem exists_opening_of_mem_scopeWarnings {d : Document} {s : Scope} {t : String}
    (h : t ∈ d.scopeWarnings s) : ∃ words ∈ openings, words.toList <+: t.toList := by
  unfold scopeWarnings at h
  split at h
  · cases h
  · split at h
    · split at h
      · cases h
      · rw [List.mem_singleton] at h
        exact ⟨"declares scope '", by simp [openings], by simp [h]⟩
    · next hr =>
      rw [List.mem_singleton, Vocabulary.eq_unknown_of_parse_eq_error hr] at h
      subst h
      have hwords : "unknown scope '" = "unknown " ++ Vocabulary.noun Scope ++ " '" := by decide
      exact ⟨"unknown scope '", by simp [openings], hwords ▸ Vocabulary.prefix_unknown _⟩
  · rw [List.mem_singleton] at h
    exact ⟨"'scope' must be a string", by simp [openings], by simp [h]⟩

theorem exists_opening_of_mem_tags {d : Document} {t : String} (h : t ∈ d.tags.2) :
    ∃ words ∈ openings, words.toList <+: t.toList := by
  unfold tags at h
  split at h
  · cases h
  · split at h
    · cases h
    · rw [List.mem_singleton] at h
      exact ⟨"ignoring malformed 'tags'", by simp [openings], by simp [h]⟩

/-- No remark starts with the words of another warning. -/
theorem opensWith_of_mem_remarks {d : Document} {s : Scope} {t : String} (h : t ∈ d.remarks s)
    (p : FilePath) {words : String}
    (hw : ∀ o ∈ openings, ¬ words.toList <+: o.toList ∧ ¬ o.toList <+: words.toList) :
    (LoadWarning.mk s p t).opensWith words = false := by
  obtain ⟨o, ho, hot⟩ : ∃ o ∈ openings, o.toList <+: t.toList := by
    rcases List.mem_append.mp h with h | h
    · exact exists_opening_of_mem_scopeWarnings h
    · exact exists_opening_of_mem_tags h
  rw [LoadWarning.opensWith, Bool.eq_false_iff, ne_eq, List.isPrefixOf_iff_prefix]
  intro hwt
  rcases List.prefix_or_prefix_of_prefix hwt hot with hwo | how
  · exact (hw o ho).1 hwo
  · exact (hw o ho).2 how

end Document

namespace SourceDocument

variable {yaml : YamlReader}

/-- The configuration of a document that reads as `doc`, with a name. -/
def configuration (s : Scope) (d : SourceDocument) (doc : Document) (time : Timestamp)
    (name : String) : Configuration where
  name
  scope := s
  kind := DocumentKind.classify doc doc.tags.1 d.hint
  tags := doc.tags.1
  version := doc.version?
  metadata := doc.metadata
  content := doc.body
  lastModified := time
  path := d.path

/-- The warnings about what is odd about a document apart from its name. -/
def remarks (s : Scope) (d : SourceDocument) (doc : Document) : List LoadWarning :=
  (doc.remarks s).map fun t => ⟨s, d.path, t⟩

theorem isRemark_of_mem_remarks {s : Scope} {d : SourceDocument} {doc : Document}
    {w : LoadWarning} (h : w ∈ d.remarks s doc) : w.IsRemark s d.path := by
  obtain ⟨t, ht, rfl⟩ := List.mem_map.mp h
  exact {
    scope := rfl
    path := rfl
    notSkip := Document.opensWith_of_mem_remarks ht d.path (by decide)
    notFileName := Document.opensWith_of_mem_remarks ht d.path (by decide)
    notDuplicate := Document.opensWith_of_mem_remarks ht d.path (by decide) }

/-- The document can be read but gives itself no name. -/
def IsNameless (yaml : YamlReader) (s : Scope) (d : SourceDocument) : Prop :=
  ∃ doc time, d.parse yaml s = .ok (doc, time) ∧ doc.ownName? = none

/-- What reading a document of a tier can come to. -/
inductive Reads (yaml : YamlReader) (s : Scope) (strict : Bool) (d : SourceDocument) :
    Except LoadError (Configuration × List LoadWarning) → Prop
  | faulty {e : LoadError} (parse : d.parse yaml s = .error e) : Reads yaml s strict d (.error e)
  | named {doc : Document} {time : Timestamp} {name : String}
      (parse : d.parse yaml s = .ok (doc, time)) (own : doc.ownName? = some name) :
      Reads yaml s strict d (.ok (d.configuration s doc time name, d.remarks s doc))
  | refused {doc : Document} {time : Timestamp} (policy : strict = true)
      (parse : d.parse yaml s = .ok (doc, time)) (own : doc.ownName? = none) :
      Reads yaml s strict d (.error (.missingName d.path))
  | fileNamed {doc : Document} {time : Timestamp} (policy : strict = false)
      (parse : d.parse yaml s = .ok (doc, time)) (own : doc.ownName? = none) :
      Reads yaml s strict d (.ok (d.configuration s doc time d.path.nameForUnnamed,
        .fileName s d.path :: d.remarks s doc))

theorem Reads.read_eq {s : Scope} {strict : Bool} {d : SourceDocument}
    {r : Except LoadError (Configuration × List LoadWarning)} (h : Reads yaml s strict d r) :
    d.read yaml s strict = r := by
  cases h with
  | faulty parse => simp [read, parse, Bind.bind, Except.bind]
  | named parse own =>
    simp [read, parse, nameOf, own, Bind.bind, Except.bind, pure, Except.pure, configuration,
      remarks, Document.remarks]
  | refused policy parse own => simp [read, parse, nameOf, own, policy, Bind.bind, Except.bind]
  | fileNamed policy parse own =>
    simp [read, parse, nameOf, own, policy, Bind.bind, Except.bind, pure, Except.pure,
      configuration, remarks, Document.remarks, LoadWarning.fileName]

theorem reads_of_read {s : Scope} {strict : Bool} {d : SourceDocument}
    {r : Except LoadError (Configuration × List LoadWarning)} (h : d.read yaml s strict = r) :
    Reads yaml s strict d r := by
  obtain ⟨r', hr'⟩ : ∃ r', Reads yaml s strict d r' := by
    cases hp : d.parse yaml s with
    | error e => exact ⟨_, .faulty hp⟩
    | ok p =>
      cases hn : p.1.ownName? with
      | some name => exact ⟨_, .named hp hn⟩
      | none =>
        cases hs : strict with
        | true => exact ⟨_, .refused rfl hp hn⟩
        | false => exact ⟨_, .fileNamed rfl hp hn⟩
  have hrr : r = r' := h.symm.trans hr'.read_eq
  exact hrr ▸ hr'

theorem scope_and_path_of_read {s : Scope} {strict : Bool} {d : SourceDocument}
    {c : Configuration} {notes : List LoadWarning} (h : d.read yaml s strict = .ok (c, notes)) :
    c.scope = s ∧ c.path = d.path := by
  cases reads_of_read h with
  | named => exact ⟨rfl, rfl⟩
  | fileNamed => exact ⟨rfl, rfl⟩

/-- Only a document without a name of its own has a warning that would stop a strict load. -/
theorem isFatal_of_read {s : Scope} {strict : Bool} {d : SourceDocument} {c : Configuration}
    {notes : List LoadWarning} (h : d.read yaml s strict = .ok (c, notes))
    (hn : ¬ d.IsNameless yaml s) :
    ∀ w ∈ notes, w.isFatal = false := by
  cases reads_of_read h with
  | named parse own => exact fun w hw => (isRemark_of_mem_remarks hw).isFatal
  | @fileNamed doc time policy parse own => exact absurd ⟨doc, time, parse, own⟩ hn

theorem quiet_of_read {s : Scope} {strict : Bool} {d : SourceDocument} {c : Configuration}
    {notes : List LoadWarning} (h : d.read yaml s strict = .ok (c, notes)) :
    ∀ w ∈ notes, w.scope = s ∧ w.path = d.path ∧ w.reportsSkip = false ∧
      w.reportsDuplicate = false := by
  have hremark : ∀ doc : Document, ∀ w ∈ d.remarks s doc, w.scope = s ∧ w.path = d.path ∧
      w.reportsSkip = false ∧ w.reportsDuplicate = false := by
    intro doc w hw
    have hr := isRemark_of_mem_remarks hw
    exact ⟨hr.scope, hr.path, hr.notSkip, hr.notDuplicate⟩
  cases reads_of_read h with
  | named parse own => exact hremark _
  | fileNamed policy parse own =>
    intro w hw
    rcases List.mem_cons.mp hw with rfl | hw
    · have hf := LoadWarning.reports_fileName s d.path
      exact ⟨rfl, rfl, hf.2.1, hf.2.2⟩
    · exact hremark _ w hw

/-- A document that is skipped cannot be read at all, or is not written as a document. -/
theorem parse_error_cases {s : Scope} {d : SourceDocument} {e : LoadError}
    (h : d.parse yaml s = .error e) :
    (∃ f, e = .unreadable s d.path f) ∨ ∃ flaw, e = .malformed d.path flaw := by
  unfold parse at h
  split at h
  · next f _ => exact .inl ⟨f, (Except.error.inj h).symm⟩
  · split at h
    · next flaw _ => exact .inr ⟨flaw, (Except.error.inj h).symm⟩
    · cases h

theorem path?_of_parse_error {s : Scope} {d : SourceDocument} {e : LoadError}
    (h : d.parse yaml s = .error e) : e.path? = some d.path := by
  rcases parse_error_cases h with ⟨f, rfl⟩ | ⟨flaw, rfl⟩ <;> rfl

theorem reports_parse_error {s : Scope} {d : SourceDocument} {e : LoadError}
    (h : d.parse yaml s = .error e) :
    (LoadWarning.mk s d.path e.message).reportsSkip = true ∧
      (LoadWarning.mk s d.path e.message).reportsFileName = false ∧
      (LoadWarning.mk s d.path e.message).reportsDuplicate = false := by
  rcases parse_error_cases h with ⟨f, rfl⟩ | ⟨flaw, rfl⟩
  · simp [LoadWarning.reportsSkip, LoadWarning.reportsFileName, LoadWarning.reportsDuplicate,
      LoadWarning.opensWith, LoadError.message_unreadable, List.isPrefixOf]
  · simp [LoadWarning.reportsSkip, LoadWarning.reportsFileName, LoadWarning.reportsDuplicate,
      LoadWarning.opensWith, LoadError.message_malformed, List.isPrefixOf]

end SourceDocument

end Roster
