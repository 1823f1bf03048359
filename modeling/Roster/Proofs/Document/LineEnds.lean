import Roster.Proofs.Document.Placement
import Roster.Proofs.Text.Returns
import Roster.Proofs.Yaml.Value

/-! # Documents with carriage returns

A document may end its lines with a carriage return and a line feed. Its delimiter
lines and its blank lines stay what they are, since trimming takes the returns away,
and the line ends in front of the body are taken away with their returns. What is
relied upon of YAML is that it takes such a line end for a line feed.
-/
namespace Roster

namespace Block

open Text

theorem isDelimiter_withReturns (line : List Char) :
    isDelimiter (withReturns line) = isDelimiter line := by
  rw [isDelimiter, trimEnd_withReturns, isDelimiter, Bool.eq_iff_iff, beq_iff_eq, beq_iff_eq]
  exact withReturns_eq_iff (by decide)

theorem dropLineEnds_withReturns (s : List Char) :
    dropLineEnds (withReturns s) = withReturns (dropLineEnds s) := by
  induction s with
  | nil => rfl
  | cons c r ih =>
    by_cases hc : c = '\n'
    · subst hc
      exact ih
    · rw [withReturns_cons hc]
      cases hend : isLineEnd c with
      | true => rw [dropLineEnds_of_isLineEnd hend, dropLineEnds_of_isLineEnd hend, ih]
      | false => rw [dropLineEnds_of_other hend, dropLineEnds_of_other hend, withReturns_cons hc]

theorem withoutMark_withReturns (text : List Char) :
    withoutMark (withReturns text) = withReturns (withoutMark text) := by
  cases text with
  | nil => rfl
  | cons c r =>
    by_cases hc : c = '\n'
    · subst hc
      rfl
    · rw [withReturns_cons hc, withoutMark, withoutMark]
      split
      · rfl
      · exact (withReturns_cons hc r).symm

/-- The block of the same text with returns. -/
def withReturns (b : Block) : Block :=
  { b with yaml := Text.withReturns b.yaml, rest := Text.withReturns b.rest }

/-- Returns in the lines of a text change no line for another, and none of their numbers. -/
theorem Divides.withReturns {lines : List (List Char)} {outcome : Except DocumentError Block}
    (h : Divides lines outcome) :
    Divides (lines.map Text.withReturns) (outcome.map Block.withReturns) := by
  have hblank {ls : List (List Char)} (blank : ∀ l ∈ ls, isAllBlank l = true) :
      ∀ l ∈ ls.map Text.withReturns, isAllBlank l = true := by
    simpa [isAllBlank_withReturns] using blank
  have hothers {ls : List (List Char)} (others : ∀ l ∈ ls, isDelimiter l = false) :
      ∀ l ∈ ls.map Text.withReturns, isDelimiter l = false := by
    simpa [isDelimiter_withReturns] using others
  cases h with
  | blank blank => exact .blank (hblank blank)
  | unopened blank first other =>
    rw [List.map_append, List.map_cons]
    exact .unopened (hblank blank) (by rw [isAllBlank_withReturns, first])
      (by rw [isDelimiter_withReturns, other])
  | @unterminated ls opening after blank opens others =>
    have hdivides := Divides.unterminated (hblank blank)
      ((isDelimiter_withReturns opening).trans opens) (hothers others)
    rwa [List.length_map, ← List.map_cons, ← List.map_append] at hdivides
  | @closed ls opening inner closing after blank opens others closes =>
    have hdivides := @Divides.closed _ _ _ _ (after.map Text.withReturns) (hblank blank)
      ((isDelimiter_withReturns opening).trans opens) (hothers others)
      ((isDelimiter_withReturns closing).trans closes)
    rw [List.length_map, ← List.map_cons, ← List.map_append, ← List.map_cons, ← List.map_append,
      ← withReturns_flatten, ← withReturns_flatten] at hdivides
    exact hdivides

/-- A text with returns is divided like the text without them. -/
theorem split_withReturns (text : List Char) :
    split (Text.withReturns text) = (split text).map withReturns := by
  obtain ⟨outcome, hdivides⟩ := exists_divides (Text.lines (withoutMark text))
  rw [hdivides.split_eq]
  apply Divides.split_eq
  rw [withoutMark_withReturns, lines_withReturns]
  exact hdivides.withReturns

end Block

namespace Document

open Block

def withReturns (d : Document) : Document :=
  { d with body := String.ofList (Text.withReturns d.body.toList) }

/-- What is relied upon of YAML: with returns in front of its line feeds a text has the value that it
has without them. -/
def ReadsAlike (read : List Char → Except Yaml.Fault Json) (yaml : List Char) : Prop :=
  ∀ v, read (Text.withReturns yaml) = .ok v ↔ read yaml = .ok v

/-- Outcomes of a text and of the text with returns. Only the place of a fault in the YAML, which
is told by the reader, is left open. -/
inductive Alike : Except DocumentError Document → Except DocumentError Document → Prop
  | document (d : Document) : Alike (.ok d) (.ok d.withReturns)
  | missingFrontMatter : Alike (.error .missingFrontMatter) (.error .missingFrontMatter)
  | unterminated (line : Nat) : Alike (.error (.unterminated line)) (.error (.unterminated line))
  | notAMapping (line : Nat) : Alike (.error (.notAMapping line)) (.error (.notAMapping line))
  | invalidYaml (line column line' column' : Nat) (reason reason' : String) :
    Alike (.error (.invalidYaml line column reason)) (.error (.invalidYaml line' column' reason'))

variable {read : List Char → Except Yaml.Fault Json}

theorem withReturns_body (m : NameMap Json) (b : Block) :
    (⟨m, String.ofList b.body⟩ : Document).withReturns = ⟨m, String.ofList b.withReturns.body⟩ := by
  rw [withReturns, String.toList_ofList, Block.body, ← dropLineEnds_withReturns]
  rfl

theorem alike_of_metadata {b : Block} {m : NameMap Json} (h : metadataWith read b = .ok m)
    (hreturns : metadataWith read b.withReturns = .ok m) :
    Alike (ofBlockWith read b) (ofBlockWith read b.withReturns) := by
  rw [ofBlockWith, h, ofBlockWith, hreturns, Except.map, Except.map, ← withReturns_body]
  exact .document _

theorem alike_of_fault {b : Block} {e e' : DocumentError} (h : metadataWith read b = .error e)
    (hreturns : metadataWith read b.withReturns = .error e')
    (halike : Alike (.error e) (.error e')) :
    Alike (ofBlockWith read b) (ofBlockWith read b.withReturns) := by
  rw [ofBlockWith, h, ofBlockWith, hreturns]
  exact halike

theorem alike_ofBlockWith {b : Block} (alike : ReadsAlike read b.yaml) :
    Alike (ofBlockWith read b) (ofBlockWith read b.withReturns) := by
  have hsame : Text.isAllBlank b.withReturns.yaml = Text.isAllBlank b.yaml :=
    Text.isAllBlank_withReturns b.yaml
  cases hm : metadataWith read b with
  | ok m =>
    refine alike_of_metadata hm (ReadsTo.metadataWith_eq ?_)
    cases readsTo_of_metadataWith hm with
    | blank blank => exact .blank (hsame.trans blank)
    | mapping filled value mapping =>
      exact .mapping (hsame.trans filled) ((alike _).mpr value) mapping
  | error e =>
    cases readsTo_of_metadataWith hm with
    | other filled value other =>
      refine alike_of_fault hm (ReadsTo.metadataWith_eq ?_) (.notAMapping b.opening)
      exact .other (hsame.trans filled) ((alike _).mpr value) other
    | @fault f filled faulty =>
      -- with returns the YAML has no value either, but perhaps another fault
      obtain ⟨f', hreturns⟩ : ∃ f', read b.withReturns.yaml = .error f' := by
        cases hreturns : read b.withReturns.yaml with
        | error f' => exact ⟨f', rfl⟩
        | ok v =>
          rw [(alike v).mp hreturns] at faulty
          cases faulty
      refine alike_of_fault hm (ReadsTo.metadataWith_eq (.fault (hsame.trans filled) hreturns)) ?_
      rw [placed_eq, placed_eq]
      exact .invalidYaml ..

/-- Returns at the ends of its lines leave a document as it is, but for the returns in its body,
and they leave a text that is no document with the same error on the same line. -/
theorem parse_ignores_returns (read : List Char → Except Yaml.Fault Json) (text : List Char)
    (alike : ∀ b, split text = .ok b → ReadsAlike read b.yaml) :
    Alike (parseWith read text) (parseWith read (Text.withReturns text)) := by
  obtain ⟨outcome, hdivides⟩ := exists_divides (Text.lines (withoutMark text))
  have hsplit := hdivides.split_eq
  rw [parseWith, parseWith, split_withReturns, hsplit]
  cases outcome with
  | ok b => exact alike_ofBlockWith (alike b hsplit)
  | error e =>
    rcases hdivides.error_cases with rfl | ⟨line, rfl, -⟩
    · exact .missingFrontMatter
    · exact .unterminated line

end Document

section Sample

open Yaml

/-- A block with a literal text and a quoted one, both of several lines. -/
def linedYaml : List Char := "plan: |\n  a\n  b\nnote: 'p\n  q'\n".toList

/-- The mapping that the block writes. -/
def linedMetadata : NameMap Json :=
  .ofList [("note", .string "p q"), ("plan", .string "a\nb\n")]

theorem Yaml.readJson_linedYaml : readJson linedYaml = .ok (.ofMap linedMetadata) :=
  readJson_of_readsAs (by decide +kernel)

theorem Yaml.readsAlike_linedYaml : Document.ReadsAlike readJson linedYaml := by
  have hreturns : readJson (Text.withReturns linedYaml) = .ok (.ofMap linedMetadata) :=
    readJson_of_readsAs (by decide +kernel)
  intro v
  rw [readJson_linedYaml, hreturns]

/-- A document with this block, behind a byte order mark and a blank line. -/
def Document.linedText : List Char :=
  "\ufeff\n---\n".toList ++ linedYaml ++ "---\n\nBody\n".toList

theorem Block.split_linedText :
    split Document.linedText = .ok ⟨2, linedYaml, "\nBody\n".toList⟩ := by rfl

theorem Document.parse_ignores_returns_of_linedText :
    parseWith readJson linedText = .ok ⟨linedMetadata, "Body\n"⟩ ∧
    parseWith readJson (Text.withReturns linedText) = .ok ⟨linedMetadata, "Body\r\n"⟩ := by
  have hparse : parseWith readJson linedText = .ok ⟨linedMetadata, "Body\n"⟩ := by
    rw [parseWith_of_block readJson Block.split_linedText,
      metadataWith_of_value (by decide +kernel) readJson_linedYaml]
    rfl
  have halike := parse_ignores_returns readJson linedText (by
    intro b hb
    rw [Block.split_linedText] at hb
    cases hb
    exact readsAlike_linedYaml)
  rw [hparse] at halike
  generalize parseWith readJson (Text.withReturns linedText) = outcome at halike ⊢
  cases halike
  exact ⟨hparse, rfl⟩

end Sample

end Roster
