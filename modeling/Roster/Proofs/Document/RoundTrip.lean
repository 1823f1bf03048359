import Roster.Proofs.Document.Division
import Roster.Proofs.NameMap
import Roster.Proofs.Text.Lines

/-! # Reading what was written

A document is written with its metadata between two delimiter lines. Whatever
its body holds, the second of them is the first delimiter line behind the first,
so reading finds the same block, and the body behind one empty line.
-/
namespace Roster

namespace Block

theorem isDelimiter_append_lineFeed (line : List Char) :
    isDelimiter (line ++ ['\n']) = isDelimiter line := by
  rw [isDelimiter, Text.trimEnd_append_lineFeed, isDelimiter]

theorem dropLineEnds_dropLineEnds (s : List Char) :
    dropLineEnds (dropLineEnds s) = dropLineEnds s :=
  List.dropWhile_idempotent isLineEnd s

end Block

namespace Document

open Block

theorem endLine_cases (s : List Char) : endLine s = [] ∨ ∃ t, endLine s = t ++ ['\n'] := by
  cases hs : s.getLast? with
  | none => exact .inl (by rw [endLine, hs])
  | some c =>
    refine .inr ?_
    by_cases hc : c = '\n'
    · subst hc
      obtain ⟨t, ht⟩ := List.getLast?_eq_some_iff.mp hs
      exact ⟨t, by rw [endLine, hs, ← ht]; rfl⟩
    · exact ⟨s, by rw [endLine, hs]; exact if_neg hc⟩

theorem isDelimiter_of_mem_endLine {s : List Char}
    (h : ∀ l ∈ Text.lines s, isDelimiter l = false) :
    ∀ l ∈ Text.lines (endLine s), isDelimiter l = false := by
  cases hs : s.getLast? with
  | none =>
    rw [endLine, hs]
    exact fun l hl => absurd hl List.not_mem_nil
  | some c =>
    by_cases hc : c = '\n'
    · rw [endLine, hs]
      simpa only [if_pos hc] using h
    · have hne : s ≠ [] := by
        rintro rfl
        cases hs
      obtain ⟨before, last, hlines, hended⟩ :=
        Text.lines_append_of_unended hne (by simpa [hs] using hc)
      have hend : endLine s = s ++ ['\n'] := by rw [endLine, hs]; exact if_neg hc
      rw [hlines] at h
      rw [hend, hended]
      intro l hl
      rcases List.mem_append.mp hl with hl | hl
      · exact h l (List.mem_append_left _ hl)
      · rw [List.mem_singleton.mp hl, isDelimiter_append_lineFeed]
        exact h last (List.mem_append_right _ (List.mem_singleton_self last))

theorem isAllBlank_endLine (s : List Char) : Text.isAllBlank (endLine s) = Text.isAllBlank s := by
  cases hs : s.getLast? with
  | none => rw [endLine, hs, List.getLast?_eq_none_iff.mp hs]
  | some c =>
    rw [endLine, hs]
    by_cases hc : c = '\n'
    · simp only [if_pos hc]
    · simp only [if_neg hc, Text.isAllBlank, List.all_append]
      exact Bool.and_true _

/-- A written text with a block of metadata in front of a body. -/
def textOf (yaml body : List Char) : List Char :=
  delimiter ++ '\n' :: (endLine yaml ++ (delimiter ++ '\n' :: '\n' :: body))

theorem lines_delimiter_append (rest : List Char) :
    Text.lines (delimiter ++ '\n' :: rest) = (delimiter ++ ['\n']) :: Text.lines rest :=
  Text.lines_append_lineFeed delimiter rest

/-- The lines of a written text: two delimiter lines, and those of the metadata and the body. -/
theorem lines_textOf (yaml body : List Char) :
    Text.lines (textOf yaml body) =
      (delimiter ++ ['\n']) :: (Text.lines (endLine yaml) ++
        (delimiter ++ ['\n']) :: Text.lines ('\n' :: body)) := by
  rw [textOf, lines_delimiter_append]
  rcases endLine_cases yaml with hend | ⟨t, hend⟩
  · rw [hend, List.nil_append, lines_delimiter_append]
    rfl
  · rw [hend, List.append_assoc, List.singleton_append, Text.lines_append_lineFeed,
      lines_delimiter_append]

/-- A written text is divided where it was put together. -/
theorem split_textOf {yaml : List Char} (h : ∀ l ∈ Text.lines yaml, isDelimiter l = false)
    (body : List Char) : split (textOf yaml body) = .ok ⟨1, endLine yaml, '\n' :: body⟩ := by
  have hdivides : Divides ([] ++ (delimiter ++ ['\n']) :: (Text.lines (endLine yaml) ++
      (delimiter ++ ['\n']) :: Text.lines ('\n' :: body)))
      (.ok ⟨1, (Text.lines (endLine yaml)).flatten, (Text.lines ('\n' :: body)).flatten⟩) :=
    .closed (by simp) (by decide) (isDelimiter_of_mem_endLine h) (by decide)
  rw [List.nil_append, ← lines_textOf, Text.flatten_lines, Text.flatten_lines] at hdivides
  exact Divides.split_eq hdivides

theorem writeWith_of_isEmpty (print : NameMap Json → Except String (List Char)) {d : Document}
    (h : d.metadata.isEmpty = true) : writeWith print d = .ok (textOf [] d.body.toList) :=
  if_pos h

theorem writeWith_of_print {print : NameMap Json → Except String (List Char)} {d : Document}
    (h : d.metadata.isEmpty = false) {yaml : List Char} (hprint : print d.metadata = .ok yaml) :
    writeWith print d = .ok (textOf yaml d.body.toList) := by
  simp [writeWith, h, hprint, textOf]

/-- A text of metadata that can stand in a block and is read there as the metadata. -/
structure Rereads (read : List Char → Except Yaml.Fault Json) (m : NameMap Json)
    (yaml : List Char) : Prop where
  not_blank : Text.isAllBlank yaml = false
  /-- In a block the last line of a text is ended. -/
  reads : read (endLine yaml) = .ok (.ofMap m)
  no_delimiter : ∀ l ∈ Text.lines yaml, isDelimiter l = false

variable {read : List Char → Except Yaml.Fault Json}
  {print : NameMap Json → Except String (List Char)} {d : Document}

theorem dropLineEnds_body {text : List Char} (h : parseWith read text = .ok d) :
    dropLineEnds d.body.toList = d.body.toList := by
  obtain ⟨b, -, -, hbody⟩ := exists_block_of_parseWith h
  rw [hbody]
  exact dropLineEnds_dropLineEnds b.rest

theorem parseWith_textOf_nil (body : List Char) :
    parseWith read (textOf [] body) = .ok ⟨∅, String.ofList (dropLineEnds body)⟩ := by
  rw [parseWith_of_block read (split_textOf (by simp) body), metadataWith_of_blank rfl]
  rfl

theorem parseWith_textOf {m : NameMap Json} {yaml : List Char} (h : Rereads read m yaml)
    (body : List Char) :
    parseWith read (textOf yaml body) = .ok ⟨m, String.ofList (dropLineEnds body)⟩ := by
  have hblank : Text.isAllBlank (endLine yaml) = false := by
    rw [isAllBlank_endLine]
    exact h.not_blank
  rw [parseWith_of_block read (split_textOf h.no_delimiter body),
    metadataWith_of_value hblank h.reads, Json.ofMap, Json.toMap?, NameMap.ofList_entries]
  rfl

/-- A written document is read as its metadata and its body without leading line ends. So a
document that was read from any text is read from its own text again. -/
theorem parse_undoes_write (read : List Char → Except Yaml.Fault Json)
    (print : NameMap Json → Except String (List Char)) (d : Document)
    (emits : d.metadata.isEmpty = false →
      ∃ yaml, print d.metadata = .ok yaml ∧ Rereads read d.metadata yaml) :
    (∀ text, writeWith print d = .ok text →
      parseWith read text = .ok ⟨d.metadata, String.ofList (dropLineEnds d.body.toList)⟩) ∧
    (∀ t, parseWith read t = .ok d →
      ∃ text, writeWith print d = .ok text ∧ parseWith read text = .ok d) := by
  have hwrite : ∃ text, writeWith print d = .ok text ∧
      parseWith read text = .ok ⟨d.metadata, String.ofList (dropLineEnds d.body.toList)⟩ := by
    cases hempty : d.metadata.isEmpty with
    | true =>
      have hm : d.metadata = ∅ := NameMap.ext (List.isEmpty_iff.mp hempty)
      exact ⟨_, writeWith_of_isEmpty print hempty, by rw [hm, parseWith_textOf_nil]⟩
    | false =>
      obtain ⟨yaml, hprint, hyaml⟩ := emits hempty
      exact ⟨_, writeWith_of_print hempty hprint, parseWith_textOf hyaml _⟩
  obtain ⟨text, hwrite, hparse⟩ := hwrite
  refine ⟨fun text' h => ?_, fun t ht => ⟨text, hwrite, ?_⟩⟩
  · rw [hwrite] at h
    cases h
    exact hparse
  · rw [hparse, dropLineEnds_body ht, String.ofList_toList]

end Document

section Sample

def Document.sampleMetadata : NameMap Json :=
  .ofList [("name", .string "é")]

theorem Document.print_sampleMetadata : Yaml.print (.ofMap sampleMetadata) = sampleYaml := by
  rfl

/-- The sample: the delimiter line in a body does not end the block, and the line end in front of
it is lost, but nothing is lost of a body that was read. -/
theorem Document.parse_undoes_write_sample :
    (∃ text, writeWith printYaml ⟨sampleMetadata, "\r\n---\nBody"⟩ = .ok text ∧
      parseWith Yaml.readJson text = .ok ⟨sampleMetadata, "---\nBody"⟩) ∧
    (∃ text, writeWith printYaml ⟨sampleMetadata, "Body\n"⟩ = .ok text ∧
      parseWith Yaml.readJson text = .ok ⟨sampleMetadata, "Body\n"⟩) := by
  have hemits : sampleMetadata.isEmpty = false →
      ∃ yaml, printYaml sampleMetadata = .ok yaml ∧
        Rereads Yaml.readJson sampleMetadata yaml := by
    intro _
    refine ⟨sampleYaml, congrArg Except.ok print_sampleMetadata, ?_, ?_, ?_⟩
    · decide
    · exact Yaml.readJson_sample
    · decide
  obtain ⟨hparse, -⟩ :=
    parse_undoes_write Yaml.readJson printYaml ⟨sampleMetadata, "\r\n---\nBody"⟩ hemits
  obtain ⟨-, hagain⟩ :=
    parse_undoes_write Yaml.readJson printYaml ⟨sampleMetadata, "Body\n"⟩ hemits
  refine ⟨⟨_, rfl, hparse _ rfl⟩, hagain sampleText ?_⟩
  rw [parseWith_of_block Yaml.readJson Block.split_sample,
    metadataWith_of_value (by decide) Yaml.readJson_sample]
  rfl

end Sample

end Roster
