import Roster.Proofs.Document.Placement
import Roster.Proofs.Document.RoundTrip

/-! # Texts without a complete block

A text that has no complete block can be taken for a document that is all body. Apart
from such texts it makes no difference how a text is read. The body may hold delimiter
lines that open a block; written behind an empty block they are body again.
-/
namespace Roster

/-- Whether the error says that a text has no complete block. -/
def DocumentError.lacksBlock : DocumentError → Bool
  | missingFrontMatter | unterminated _ => true
  | invalidYaml .. | notAMapping _ | unwritable _ => false

namespace Document

open Block

variable {read : List Char → Except Yaml.Fault Json} {text : List Char}

theorem parseLenientWith_of_block {b : Block} (h : split text = .ok b) :
    parseLenientWith read text = parseWith read text := by
  rw [parseLenientWith, parseWith, h]
  rfl

theorem parseLenientWith_of_error {e : DocumentError} (h : split text = .error e) :
    parseLenientWith read text = .ok ⟨∅, String.ofList (withoutMark text)⟩ := by
  rw [parseLenientWith, h]

/-- The errors that are forgiven are those of texts that cannot be divided. -/
theorem lacksBlock_iff {e : DocumentError} (h : parseWith read text = .error e) :
    e.lacksBlock = true ↔ split text = .error e := by
  rcases error_cases_of_parseWith h with hsplit | ⟨b, hsplit, hm⟩
  · rcases ((split_eq_iff ..).mp hsplit).error_cases with rfl | ⟨line, rfl, -⟩
    · exact iff_of_true rfl hsplit
    · exact iff_of_true rfl hsplit
  · refine iff_of_false ?_ (by simp [hsplit])
    cases readsTo_of_metadataWith hm with
    | fault filled faulty => simp [placed_eq, DocumentError.lacksBlock]
    | other filled value other => exact Bool.false_ne_true

theorem withoutMark_cases (text : List Char) :
    text = byteOrderMark :: withoutMark text ∨
      text.head? ≠ some byteOrderMark ∧ withoutMark text = text := by
  by_cases hmark : text.head? = some byteOrderMark
  · obtain ⟨r, rfl⟩ := List.head?_eq_some_iff.mp hmark
    exact .inl rfl
  · exact .inr ⟨hmark, withoutMark_eq_self hmark⟩

/-- Whatever a body holds, it is read again behind the empty block with which it is written. -/
theorem exists_writeWith_body (print : NameMap Json → Except String (List Char))
    (body : List Char) :
    ∃ written, writeWith print ⟨∅, String.ofList body⟩ = .ok written ∧
      parseWith read written = .ok ⟨∅, String.ofList (dropLineEnds body)⟩ := by
  refine ⟨_, writeWith_of_isEmpty print rfl, ?_⟩
  rw [parseWith_textOf_nil, String.toList_ofList]

/-- A document is read alike whether or not its block may lack, and so is a text whose block is
faulty. A text without a complete block is all body, but for a byte order mark, and its body is
read again when it is written, but for its leading line ends. -/
theorem parseLenient_extends_parse (read : List Char → Except Yaml.Fault Json)
    (print : NameMap Json → Except String (List Char)) (text : List Char) :
    (∀ d, parseWith read text = .ok d → parseLenientWith read text = .ok d) ∧
    (∀ e, parseWith read text = .error e → e.lacksBlock = false →
      parseLenientWith read text = .error e) ∧
    (∀ e, parseWith read text = .error e → e.lacksBlock = true →
      ∃ body, parseLenientWith read text = .ok ⟨∅, String.ofList body⟩ ∧
        (text = byteOrderMark :: body ∨ text.head? ≠ some byteOrderMark ∧ body = text) ∧
        ∃ written, writeWith print ⟨∅, String.ofList body⟩ = .ok written ∧
          parseWith read written = .ok ⟨∅, String.ofList (dropLineEnds body)⟩) := by
  refine ⟨fun d h => ?_, fun e h hblock => ?_, fun e h hblock => ?_⟩
  · obtain ⟨b, hsplit, -⟩ := exists_block_of_parseWith h
    rw [parseLenientWith_of_block hsplit, h]
  · rcases error_cases_of_parseWith h with hsplit | ⟨b, hsplit, -⟩
    · rw [(lacksBlock_iff h).mpr hsplit] at hblock
      cases hblock
    · rw [parseLenientWith_of_block hsplit, h]
  · exact ⟨withoutMark text, parseLenientWith_of_error ((lacksBlock_iff h).mp hblock),
      withoutMark_cases text, exists_writeWith_body print _⟩

end Document

section Sample

/-- A block that is never closed, behind a byte order mark and an empty line. -/
def Document.openText : List Char := "\ufeff\n---\nname: x\n".toList

theorem Document.parse_openText :
    parseWith Yaml.readJson openText = .error (.unterminated 2) := by rfl

theorem Document.parse_sampleText :
    parseWith Yaml.readJson sampleText = .ok ⟨sampleMetadata, "Body\n"⟩ := by
  rw [parseWith_of_block Yaml.readJson Block.split_sample,
    metadataWith_of_value (by decide) Yaml.readJson_sample]
  rfl

theorem Document.parseLenient_extends_parse_of_samples :
    parseLenientWith Yaml.readJson sampleText = .ok ⟨sampleMetadata, "Body\n"⟩ ∧
    parseLenientWith Yaml.readJson faultyText =
      .error (.invalidYaml 3 2 Yaml.Fault.sample.message) ∧
    parseLenientWith Yaml.readJson openText = .ok ⟨∅, "\n---\nname: x\n"⟩ ∧
    ∃ written, writeWith printYaml ⟨∅, "\n---\nname: x\n"⟩ = .ok written ∧
      parseWith Yaml.readJson written = .ok ⟨∅, "---\nname: x\n"⟩ := by
  obtain ⟨hsame, -, -⟩ := parseLenient_extends_parse Yaml.readJson printYaml sampleText
  obtain ⟨-, hfaulty, -⟩ := parseLenient_extends_parse Yaml.readJson printYaml faultyText
  obtain ⟨-, -, hopen⟩ := parseLenient_extends_parse Yaml.readJson printYaml openText
  refine ⟨hsame _ parse_sampleText, hfaulty _ parse_faultyText rfl, ?_⟩
  obtain ⟨body, hlenient, hmark, hwrite⟩ := hopen _ parse_openText rfl
  have hbody : body = "\n---\nname: x\n".toList := by
    rcases hmark with hmark | ⟨hmark, -⟩
    · exact (List.cons.inj hmark).2.symm
    · exact absurd rfl hmark
  subst hbody
  exact ⟨hlenient, hwrite⟩

end Sample

end Roster
