import Roster.Proofs.Document.Division
import Roster.Proofs.Text.Lines

/-! # Where faults are reported

The lines of errors are counted in the whole text, although YAML is read from the
block alone: the number of the opening line is carried along, and the lines of the
block are counted on from it. So a text that stands a few blank lines further down
has the same outcome, with the lines of its errors further down as well.
-/
namespace Roster

namespace Text

/-- A line of blank characters with its line feed. -/
def IsBlankLine (l : List Char) : Prop :=
  ∃ s, l = s ++ ['\n'] ∧ '\n' ∉ s ∧ isAllBlank s = true

theorem IsBlankLine.isAllBlank {l : List Char} (h : IsBlankLine l) : isAllBlank l = true := by
  obtain ⟨s, rfl, -, hs⟩ := h
  rw [Text.isAllBlank, List.all_append, ← Text.isAllBlank, hs]
  rfl

theorem lines_of_ended {s : List Char} (h : '\n' ∉ s) : lines (s ++ ['\n']) = [s ++ ['\n']] := by
  induction s with
  | nil => rfl
  | cons c r ih =>
    obtain ⟨hc, hr⟩ := List.ne_and_not_mem_of_not_mem_cons h
    rw [List.cons_append, lines, if_neg hc.symm, ih hr]

theorem lines_append_of_blankLines {lead : List (List Char)} (h : ∀ l ∈ lead, IsBlankLine l)
    (s : List Char) : lines (lead.flatten ++ s) = lead ++ lines s := by
  induction lead with
  | nil => rfl
  | cons l lead ih =>
    obtain ⟨hl, hlead⟩ := List.forall_mem_cons.mp h
    obtain ⟨t, rfl, ht, -⟩ := hl
    rw [List.flatten_cons, List.append_assoc, List.append_assoc, List.singleton_append,
      lines_append_lineFeed, lines_of_ended ht, ih hlead]
    rfl

end Text

namespace DocumentError

/-- The error of the same text `k` lines further down. -/
def lowered (k : Nat) : DocumentError → DocumentError
  | missingFrontMatter => missingFrontMatter
  | unterminated line => unterminated (line + k)
  | invalidYaml line column reason => invalidYaml (line + k) column reason
  | notAMapping line => notAMapping (line + k)
  | unwritable reason => unwritable reason

end DocumentError

namespace Yaml.Fault

/-- The line of a fault in the YAML text, counted from one. A fault without a place is taken to be
on the first. -/
def line (f : Fault) : Nat :=
  f.mark?.elim 1 (·.line + 1)

/-- The column of a fault, counted from one. -/
def column (f : Fault) : Nat :=
  f.mark?.elim 1 (·.column + 1)

end Yaml.Fault

namespace Block

/-- The block of the same text `k` lines further down. -/
def lowered (k : Nat) (b : Block) : Block :=
  { b with opening := b.opening + k }

/-- A delimiter line opens a block on this line: what stands above it is blank. -/
def OpensOn (lines : List (List Char)) (line : Nat) : Prop :=
  ∃ lead opening after, lines = lead ++ opening :: after ∧
    (∀ l ∈ lead, Text.isAllBlank l = true) ∧ isDelimiter opening = true ∧ line = lead.length + 1

variable {lines : List (List Char)}

theorem Divides.opensOn {b : Block} (h : Divides lines (.ok b)) : OpensOn lines b.opening := by
  cases h with
  | closed blank opens others closes => exact ⟨_, _, _, rfl, blank, opens, rfl⟩

theorem Divides.error_cases {e : DocumentError} (h : Divides lines (.error e)) :
    e = .missingFrontMatter ∨ ∃ line, e = .unterminated line ∧ OpensOn lines line := by
  cases h with
  | blank blank => exact .inl rfl
  | unopened blank first other => exact .inl rfl
  | unterminated blank opens others => exact .inr ⟨_, rfl, _, _, _, rfl, blank, opens, rfl⟩

variable {lead : List (List Char)} {text : List Char}

/-- Blank lines above move the opening line and nothing else. -/
theorem Divides.lowered (above : ∀ l ∈ lead, Text.isAllBlank l = true)
    {outcome : Except DocumentError Block} (h : Divides lines outcome) :
    Divides (lead ++ lines)
      ((outcome.mapError (.lowered lead.length)).map (.lowered lead.length)) := by
  have hblank {ls : List (List Char)} (blank : ∀ l ∈ ls, Text.isAllBlank l = true) :
      ∀ l ∈ lead ++ ls, Text.isAllBlank l = true :=
    List.forall_mem_append.mpr ⟨above, blank⟩
  have hnumber (ls : List (List Char)) :
      (lead ++ ls).length + 1 = ls.length + 1 + lead.length := by
    rw [List.length_append]
    omega
  cases h with
  | blank blank => exact .blank (hblank blank)
  | unopened blank first other =>
    rw [← List.append_assoc]
    exact .unopened (hblank blank) first other
  | @unterminated ls opening after blank opens others =>
    have hdivides := Divides.unterminated (hblank blank) opens others
    rwa [hnumber, List.append_assoc] at hdivides
  | @closed ls opening inner closing after blank opens others closes =>
    have hdivides := @Divides.closed (lead ++ ls) opening inner closing after (hblank blank) opens
      others closes
    rwa [hnumber, List.append_assoc] at hdivides

theorem withoutMark_eq_self {s : List Char} (h : s.head? ≠ some byteOrderMark) :
    withoutMark s = s := by
  cases s with
  | nil => rfl
  | cons c r => exact if_neg fun hc => h (congrArg some hc)

/-- A byte order mark is not blank, so none comes to the front of a text with blank lines. -/
theorem head?_append_ne (above : ∀ l ∈ lead, Text.IsBlankLine l)
    (hmark : text.head? ≠ some byteOrderMark) :
    (lead.flatten ++ text).head? ≠ some byteOrderMark := by
  cases lead with
  | nil => exact hmark
  | cons l lead =>
    obtain ⟨s, rfl, -, hs⟩ := above l List.mem_cons_self
    cases s with
    | nil => simp [byteOrderMark]
    | cons c r =>
      intro hc
      obtain rfl : c = byteOrderMark := by simpa using hc
      cases hs

/-- A text with blank lines above it is divided like the text. -/
theorem split_append_of_blankLines (above : ∀ l ∈ lead, Text.IsBlankLine l)
    (hmark : text.head? ≠ some byteOrderMark) :
    split (lead.flatten ++ text) =
      ((split text).mapError (.lowered lead.length)).map (.lowered lead.length) := by
  obtain ⟨outcome, hdivides⟩ := exists_divides (Text.lines (withoutMark text))
  rw [hdivides.split_eq]
  apply Divides.split_eq
  rw [withoutMark_eq_self hmark] at hdivides
  rw [withoutMark_eq_self (head?_append_ne above hmark), Text.lines_append_of_blankLines above]
  exact hdivides.lowered fun l hl => (above l hl).isAllBlank

end Block

namespace Document

open Block

theorem placed_eq (opening : Nat) (f : Yaml.Fault) :
    placed opening f = .invalidYaml (opening + f.line) f.column f.message := by
  rw [placed, Yaml.Fault.line, Yaml.Fault.column]
  cases f.mark? with
  | none => rfl
  | some m => simp [Nat.add_right_comm, Nat.add_assoc]

theorem placed_lowered (opening k : Nat) (f : Yaml.Fault) :
    (placed opening f).lowered k = placed (opening + k) f := by
  rw [placed_eq, placed_eq, Nat.add_right_comm]
  rfl

variable {read : List Char → Except Yaml.Fault Json} {text : List Char}

theorem metadataWith_lowered (b : Block) (k : Nat) :
    metadataWith read (b.lowered k) = (metadataWith read b).mapError (.lowered k) := by
  apply ReadsTo.metadataWith_eq
  cases hm : metadataWith read b with
  | ok m =>
    cases readsTo_of_metadataWith hm with
    | blank blank => exact .blank blank
    | mapping filled value mapping => exact .mapping filled value mapping
  | error e =>
    cases readsTo_of_metadataWith hm with
    | fault filled faulty =>
      rw [Except.mapError, placed_lowered]
      exact .fault filled faulty
    | other filled value other => exact .other filled value other

/-- What the errors of a text say about its lines. -/
inductive Reports (read : List Char → Except Yaml.Fault Json) (text : List Char) :
    DocumentError → Prop
  | missingFrontMatter : Reports read text .missingFrontMatter
  | unterminated {line : Nat} (opens : OpensOn (Text.lines (withoutMark text)) line) :
    Reports read text (.unterminated line)
  | notAMapping {line : Nat} (opens : OpensOn (Text.lines (withoutMark text)) line) :
    Reports read text (.notAMapping line)
  /-- The line of a fault in the block is counted on from the opening line. -/
  | invalidYaml {b : Block} {f : Yaml.Fault} (divided : split text = .ok b)
    (opens : OpensOn (Text.lines (withoutMark text)) b.opening) (faulty : read b.yaml = .error f) :
    Reports read text (.invalidYaml (b.opening + f.line) f.column f.message)

theorem reports_of_parseWith {e : DocumentError} (h : parseWith read text = .error e) :
    Reports read text e := by
  rcases error_cases_of_parseWith h with hsplit | ⟨b, hsplit, hm⟩
  · rcases ((split_eq_iff ..).mp hsplit).error_cases with rfl | ⟨line, rfl, hopens⟩
    · exact .missingFrontMatter
    · exact .unterminated hopens
  · have hopens := ((split_eq_iff ..).mp hsplit).opensOn
    cases readsTo_of_metadataWith hm with
    | fault filled faulty =>
      rw [placed_eq]
      exact .invalidYaml hsplit hopens faulty
    | other filled value other => exact .notAMapping hopens

theorem parseWith_append_of_blankLines {lead : List (List Char)}
    (above : ∀ l ∈ lead, Text.IsBlankLine l) (hmark : text.head? ≠ some byteOrderMark) :
    parseWith read (lead.flatten ++ text) =
      (parseWith read text).mapError (.lowered lead.length) := by
  rw [parseWith, parseWith, split_append_of_blankLines above hmark]
  cases split text with
  | error e => rfl
  | ok b =>
    change (metadataWith read (b.lowered lead.length)).map _ = _
    rw [metadataWith_lowered]
    change _ = ((metadataWith read b).map _).mapError _
    cases metadataWith read b <;> rfl

/-- Errors name the line that opens the block, or the line that is reached when the lines of the
faulty YAML are counted on from there. Blank lines above a text change nothing but these numbers. -/
theorem parse_reports_lines_of_text (read : List Char → Except Yaml.Fault Json)
    (text : List Char) :
    (∀ e, parseWith read text = .error e → Reports read text e) ∧
    (text.head? ≠ some byteOrderMark → ∀ lead : List (List Char),
      (∀ l ∈ lead, Text.IsBlankLine l) →
      parseWith read (lead.flatten ++ text) =
        (parseWith read text).mapError (.lowered lead.length)) :=
  ⟨fun _ => reports_of_parseWith, fun hmark _ above => parseWith_append_of_blankLines above hmark⟩

end Document

theorem Yaml.readJson_of_fault {s : List Char} {b : Body} {f : Fault}
    (hreadable : unreadableOffset? s = none)
    (hbody : Body.ofEvents (events s).1 (events s).2 = b)
    (hvalue : Reader.value jsonTarget b depthLimit [] ⟨0, 0⟩ = .error f) :
    readJson s = .error f := by
  unfold readJson read readDocument
  rw [hreadable]
  simp only
  rw [hbody, hvalue]
  rfl

section Sample

open Yaml

/-- An alias without a name, on the second line. -/
def faultyYaml : List Char := ['\n', '*', '\n']

def Yaml.Fault.sample : Fault :=
  .malformed ⟨.anchorName, ⟨2, 1, 1⟩, some (.aliasName, ⟨1, 1, 0⟩)⟩

theorem Yaml.readJson_faultyYaml : readJson faultyYaml = .error .sample := by
  refine readJson_of_fault rfl rfl ?_
  rw [Reader.value]
  rfl

def Document.faultyText : List Char :=
  '-' :: '-' :: '-' :: '\n' :: (faultyYaml ++ ['-', '-', '-', '\n'])

theorem Block.split_faultyText : split Document.faultyText = .ok ⟨1, faultyYaml, []⟩ := by rfl

theorem Document.parse_faultyText :
    parseWith readJson faultyText = .error (.invalidYaml 3 2 Fault.sample.message) := by
  rw [parseWith_of_block readJson Block.split_faultyText,
    metadataWith_of_fault rfl readJson_faultyYaml]
  rfl

/-- The sample: the fault is on the third line of the text, and on the fifth below two more. -/
theorem Document.parse_reports_lines_of_faultyText :
    Reports readJson faultyText (.invalidYaml 3 2 Fault.sample.message) ∧
    parseWith readJson (['\u3000', '\n', '\r', '\n'] ++ faultyText) =
      .error (.invalidYaml 5 2 Fault.sample.message) := by
  obtain ⟨hreports, hlowered⟩ := parse_reports_lines_of_text readJson faultyText
  have hbelow := hlowered (by decide) [['\u3000', '\n'], ['\r', '\n']] (by
    rintro l (_ | ⟨_, _ | ⟨_, hl⟩⟩)
    · exact ⟨['\u3000'], rfl, by decide, rfl⟩
    · exact ⟨['\r'], rfl, by decide, rfl⟩
    · cases hl)
  rw [parse_faultyText] at hbelow
  exact ⟨hreports _ parse_faultyText, hbelow⟩

end Sample

end Roster
