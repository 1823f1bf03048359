import Roster.Document.Basic

/-! # How a text is divided

A grammar of lines says what is a text with a front matter block: which lines
open and close the block, which stand in it, and what follows. The places that
are counted while the lines are read cut the text exactly there, and each of
them lies between two characters.
-/
namespace Roster

namespace Block

/-- What the lines of a text divide it into. -/
inductive Divides : List (List Char) → Except DocumentError Block → Prop
  /-- There is nothing in the text. -/
  | blank {lines : List (List Char)} (blank : ∀ l ∈ lines, Text.isAllBlank l = true) :
    Divides lines (.error .missingFrontMatter)
  /-- The first line with something in it does not open a block. -/
  | unopened {lead : List (List Char)} {line : List Char} {after : List (List Char)}
    (blank : ∀ l ∈ lead, Text.isAllBlank l = true) (first : Text.isAllBlank line = false)
    (other : isDelimiter line = false) :
    Divides (lead ++ line :: after) (.error .missingFrontMatter)
  /-- A block is opened and never closed. -/
  | unterminated {lead : List (List Char)} {opening : List Char} {after : List (List Char)}
    (blank : ∀ l ∈ lead, Text.isAllBlank l = true) (opens : isDelimiter opening = true)
    (others : ∀ l ∈ after, isDelimiter l = false) :
    Divides (lead ++ opening :: after) (.error (.unterminated (lead.length + 1)))
  /-- A block is opened, and closed by the first delimiter line behind its opening line. -/
  | closed {lead : List (List Char)} {opening : List Char} {inner : List (List Char)}
    {closing : List Char} {after : List (List Char)}
    (blank : ∀ l ∈ lead, Text.isAllBlank l = true) (opens : isDelimiter opening = true)
    (others : ∀ l ∈ inner, isDelimiter l = false) (closes : isDelimiter closing = true) :
    Divides (lead ++ opening :: (inner ++ closing :: after))
      (.ok ⟨lead.length + 1, inner.flatten, after.flatten⟩)

theorem isAllBlank_of_isDelimiter {line : List Char} (h : isDelimiter line = true) :
    Text.isAllBlank line = false := by
  have htrim : Text.trimEnd line = delimiter := eq_of_beq h
  apply Bool.eq_false_iff.mpr
  intro hblank
  have hnil : Text.trimEnd line = [] :=
    (Text.dropTrailing_eq_nil_iff ..).mpr (List.all_eq_true.mp hblank)
  rw [hnil] at htrim
  cases htrim

theorem firstLine_eq_none {lines : List (List Char)}
    (h : ∀ l ∈ lines, Text.isAllBlank l = true) (number place : Nat) :
    firstLine number place lines = none := by
  induction lines generalizing number place with
  | nil => rfl
  | cons l r ih =>
    obtain ⟨hl, hr⟩ := List.forall_mem_cons.mp h
    rw [firstLine, if_pos hl]
    exact ih hr _ _

/-- The number and the place keep step with the lines that are passed. -/
theorem firstLine_append {lead : List (List Char)} {line : List Char}
    (blank : ∀ l ∈ lead, Text.isAllBlank l = true) (first : Text.isAllBlank line = false)
    (after : List (List Char)) (number place : Nat) :
    firstLine number place (lead ++ line :: after) =
      some (lead.length + number, place + Text.byteSize lead.flatten, line, after) := by
  induction lead generalizing number place with
  | nil => simp [firstLine, first]
  | cons l r ih =>
    obtain ⟨hl, hr⟩ := List.forall_mem_cons.mp blank
    rw [List.cons_append, firstLine, if_pos hl, ih hr, List.flatten_cons, Text.byteSize_append,
      List.length_cons, Nat.add_assoc, Nat.add_assoc, Nat.add_comm 1]

theorem closingLine_eq_none {lines : List (List Char)} (h : ∀ l ∈ lines, isDelimiter l = false)
    (place : Nat) : closingLine place lines = none := by
  induction lines generalizing place with
  | nil => rfl
  | cons l r ih =>
    obtain ⟨hl, hr⟩ := List.forall_mem_cons.mp h
    rw [closingLine, hl]
    exact ih hr _

theorem closingLine_append {inner : List (List Char)} {closing : List Char}
    (others : ∀ l ∈ inner, isDelimiter l = false) (closes : isDelimiter closing = true)
    (after : List (List Char)) (place : Nat) :
    closingLine place (inner ++ closing :: after) =
      some (place + Text.byteSize inner.flatten,
        place + Text.byteSize inner.flatten + Text.byteSize closing) := by
  induction inner generalizing place with
  | nil => simp [closingLine, closes]
  | cons l r ih =>
    obtain ⟨hl, hr⟩ := List.forall_mem_cons.mp others
    rw [List.cons_append, closingLine, hl, if_neg Bool.false_ne_true, ih hr, List.flatten_cons,
      Text.byteSize_append, Nat.add_assoc place]

/-- The places and the slices of a block in a text. -/
structure CutsOut (s : List Char) (b : Block) (p : Places) : Prop where
  located : locate s = .ok p
  opening : p.opening = b.opening
  yaml : Text.slice? p.yaml p.closing s = some b.yaml
  rest : Text.slice? p.rest (Text.byteSize s) s = some b.rest

theorem CutsOut.cut_eq {s : List Char} {b : Block} {p : Places} (h : CutsOut s b p) :
    cut s p = b := by
  rw [cut, h.opening, h.yaml, h.rest]
  rfl

variable {s : List Char} {outcome : Except DocumentError Block}

/-- The lines of a text that has a block say where it is cut. -/
theorem Divides.exists_cutsOut {b : Block} (h : Divides (Text.lines s) (.ok b)) :
    ∃ p, CutsOut s b p := by
  generalize hlines : Text.lines s = lines at h
  cases h with
  | @closed lead opening inner closing after blank opens others closes =>
    have hs : s = lead.flatten ++ opening ++ inner.flatten ++ closing ++ after.flatten := by
      have hflat := Text.flatten_lines s
      rw [hlines] at hflat
      rw [← hflat]
      simp [List.append_assoc]
    refine ⟨⟨lead.length + 1, Text.byteSize (lead.flatten ++ opening),
      Text.byteSize (lead.flatten ++ opening ++ inner.flatten),
      Text.byteSize (lead.flatten ++ opening ++ inner.flatten ++ closing)⟩, ?_, rfl, ?_, ?_⟩
    · rw [locate, hlines, firstLine_append blank (isAllBlank_of_isDelimiter opens)]
      simp only [if_pos opens, closingLine_append others closes, Text.byteSize_append,
        Nat.zero_add]
    · rw [Text.slice?_eq_some_iff]
      exact ⟨_, closing ++ after.flatten, by rw [hs]; simp [List.append_assoc], rfl, rfl⟩
    · rw [Text.slice?_eq_some_iff]
      exact ⟨_, [], by rw [hs, List.append_nil], rfl, by rw [hs]⟩

theorem Divides.locate_eq_error {e : DocumentError} (h : Divides (Text.lines s) (.error e)) :
    locate s = .error e := by
  generalize hlines : Text.lines s = lines at h
  cases h with
  | blank blank => rw [locate, hlines, firstLine_eq_none blank]
  | unopened blank first other =>
    rw [locate, hlines, firstLine_append blank first]
    simp only [other, if_neg Bool.false_ne_true]
  | unterminated blank opens others =>
    rw [locate, hlines, firstLine_append blank (isAllBlank_of_isDelimiter opens)]
    simp only [if_pos opens, closingLine_eq_none others]

theorem exists_divides (lines : List (List Char)) : ∃ outcome, Divides lines outcome := by
  cases hfirst : lines.find? fun l => !Text.isAllBlank l with
  | none =>
    refine ⟨_, .blank fun l hl => ?_⟩
    simpa using List.find?_eq_none.mp hfirst l hl
  | some line =>
    obtain ⟨hline, lead, after, rfl, hlead⟩ := List.find?_eq_some_iff_append.mp hfirst
    have hblank : ∀ l ∈ lead, Text.isAllBlank l = true := fun l hl => by simpa using hlead l hl
    cases hopens : isDelimiter line with
    | false => exact ⟨_, .unopened hblank (by simpa using hline) hopens⟩
    | true =>
      cases hclosing : after.find? isDelimiter with
      | none =>
        refine ⟨_, .unterminated hblank hopens fun l hl => ?_⟩
        simpa using List.find?_eq_none.mp hclosing l hl
      | some closing =>
        obtain ⟨hcloses, inner, rest, rfl, hinner⟩ := List.find?_eq_some_iff_append.mp hclosing
        exact ⟨_, .closed hblank hopens (fun l hl => by simpa using hinner l hl) hcloses⟩

/-- A text is divided as its lines say. -/
theorem Divides.split_eq {text : List Char}
    (h : Divides (Text.lines (withoutMark text)) outcome) : split text = outcome := by
  cases outcome with
  | error e => rw [split, h.locate_eq_error]; rfl
  | ok b =>
    obtain ⟨p, hp⟩ := h.exists_cutsOut
    rw [split, hp.located, Except.map, hp.cut_eq]

theorem split_eq_iff (text : List Char) (outcome : Except DocumentError Block) :
    split text = outcome ↔ Divides (Text.lines (withoutMark text)) outcome := by
  constructor
  · rintro rfl
    obtain ⟨outcome, h⟩ := exists_divides (Text.lines (withoutMark text))
    rwa [h.split_eq]
  · exact Divides.split_eq

end Block

namespace Document

open Block

variable (read : List Char → Except Yaml.Fault Json) {text : List Char}

theorem parseWith_of_error {e : DocumentError} (h : split text = .error e) :
    parseWith read text = .error e := by
  rw [parseWith, h]
  rfl

theorem parseWith_of_block {b : Block} (h : split text = .ok b) :
    parseWith read text = (metadataWith read b).map fun m => ⟨m, String.ofList b.body⟩ := by
  rw [parseWith, h]
  rfl

variable {read}

theorem exists_block_of_parseWith {d : Document} (h : parseWith read text = .ok d) :
    ∃ b, split text = .ok b ∧ metadataWith read b = .ok d.metadata ∧ d.body.toList = b.body := by
  cases hsplit : split text with
  | error e =>
    rw [parseWith_of_error read hsplit] at h
    cases h
  | ok b =>
    rw [parseWith_of_block read hsplit] at h
    cases hm : metadataWith read b with
    | error e =>
      rw [hm] at h
      cases h
    | ok m =>
      rw [hm] at h
      cases h
      exact ⟨b, rfl, hm, String.toList_ofList⟩

/-- A text that is no document has no block, or a block without metadata. -/
theorem error_cases_of_parseWith {e : DocumentError} (h : parseWith read text = .error e) :
    split text = .error e ∨ ∃ b, split text = .ok b ∧ metadataWith read b = .error e := by
  cases hsplit : split text with
  | error e' =>
    rw [parseWith_of_error read hsplit] at h
    cases h
    exact .inl rfl
  | ok b =>
    rw [parseWith_of_block read hsplit] at h
    cases hm : metadataWith read b with
    | error e' =>
      rw [hm] at h
      cases h
      exact .inr ⟨b, rfl, hm⟩
    | ok m =>
      rw [hm] at h
      cases h

variable {b : Block}

theorem metadataWith_of_blank (h : Text.isAllBlank b.yaml = true) :
    metadataWith read b = .ok ∅ :=
  if_pos h

theorem metadataWith_of_fault (h : Text.isAllBlank b.yaml = false) {f : Yaml.Fault}
    (hread : read b.yaml = .error f) : metadataWith read b = .error (placed b.opening f) := by
  simp [metadataWith, h, hread]

theorem metadataWith_of_value (h : Text.isAllBlank b.yaml = false) {v : Json}
    (hread : read b.yaml = .ok v) :
    metadataWith read b = v.toMap?.elim (.error (.notAMapping b.opening)) .ok := by
  cases hmap : v.toMap? <;> simp [metadataWith, h, hread, hmap]

/-- What the metadata of a block is, or why it has none. -/
inductive ReadsTo (read : List Char → Except Yaml.Fault Json) (b : Block) :
    Except DocumentError (NameMap Json) → Prop
  | blank (blank : Text.isAllBlank b.yaml = true) : ReadsTo read b (.ok ∅)
  | fault {f : Yaml.Fault} (filled : Text.isAllBlank b.yaml = false)
    (faulty : read b.yaml = .error f) : ReadsTo read b (.error (placed b.opening f))
  | other {v : Json} (filled : Text.isAllBlank b.yaml = false) (value : read b.yaml = .ok v)
    (other : v.toMap? = none) : ReadsTo read b (.error (.notAMapping b.opening))
  | mapping {v : Json} {m : NameMap Json} (filled : Text.isAllBlank b.yaml = false)
    (value : read b.yaml = .ok v) (mapping : v.toMap? = some m) : ReadsTo read b (.ok m)

theorem ReadsTo.metadataWith_eq {outcome : Except DocumentError (NameMap Json)}
    (h : ReadsTo read b outcome) : metadataWith read b = outcome := by
  cases h with
  | blank blank => exact metadataWith_of_blank blank
  | fault filled faulty => exact metadataWith_of_fault filled faulty
  | other filled value other => rw [metadataWith_of_value filled value, other]; rfl
  | mapping filled value mapping => rw [metadataWith_of_value filled value, mapping]; rfl

theorem readsTo_of_metadataWith {outcome : Except DocumentError (NameMap Json)}
    (h : metadataWith read b = outcome) : ReadsTo read b outcome := by
  obtain ⟨outcome', hreads⟩ : ∃ outcome, ReadsTo read b outcome := by
    cases hblank : Text.isAllBlank b.yaml with
    | true => exact ⟨_, .blank hblank⟩
    | false =>
      cases hread : read b.yaml with
      | error f => exact ⟨_, .fault hblank hread⟩
      | ok v =>
        cases hmap : v.toMap? with
        | none => exact ⟨_, .other hblank hread hmap⟩
        | some m => exact ⟨_, .mapping hblank hread hmap⟩
  rwa [← h, hreads.metadataWith_eq]

/-- A text is a document exactly if its lines have a block, and then the block alone is read as
YAML and what follows it, without leading line ends, is the body. The places at which the text is
cut lie between characters. -/
theorem parse_divides_by_lines (read : List Char → Except Yaml.Fault Json) (text : List Char) :
    (∀ outcome, split text = outcome ↔ Divides (Text.lines (withoutMark text)) outcome) ∧
    (∀ e, Divides (Text.lines (withoutMark text)) (.error e) → parseWith read text = .error e) ∧
    ∀ b, Divides (Text.lines (withoutMark text)) (.ok b) →
      (∃ p, CutsOut (withoutMark text) b p) ∧
      (Text.isAllBlank b.yaml = true →
        parseWith read text = .ok ⟨∅, String.ofList (dropLineEnds b.rest)⟩) ∧
      (Text.isAllBlank b.yaml = false →
        (∀ f, read b.yaml = .error f → parseWith read text = .error (placed b.opening f)) ∧
        (∀ v, read b.yaml = .ok v → v.toMap? = none →
          parseWith read text = .error (.notAMapping b.opening)) ∧
        (∀ v m, read b.yaml = .ok v → v.toMap? = some m →
          parseWith read text = .ok ⟨m, String.ofList (dropLineEnds b.rest)⟩)) := by
  refine ⟨split_eq_iff text, fun e h => parseWith_of_error read h.split_eq, fun b h => ?_⟩
  have hparse := parseWith_of_block read h.split_eq
  refine ⟨h.exists_cutsOut, fun hblank => ?_, fun hblank => ⟨?_, ?_, ?_⟩⟩
  · rw [hparse, metadataWith_of_blank hblank]
    rfl
  · intro f hread
    rw [hparse, metadataWith_of_fault hblank hread]
    rfl
  · intro v hread hmap
    rw [hparse, metadataWith_of_value hblank hread, hmap]
    rfl
  · intro v m hread hmap
    rw [hparse, metadataWith_of_value hblank hread, hmap]
    rfl

end Document

theorem Yaml.readJson_of_value {s : List Char} {b : Body} {v : Json} {r : Reader}
    (hreadable : unreadableOffset? s = none)
    (hbody : Body.ofEvents (events s).1 (events s).2 = b) (hfault : b.fault = none)
    (hmore : b.more = false)
    (hvalue : Reader.value jsonTarget b depthLimit [] ⟨0, 0⟩ = .ok (v, r)) :
    readJson s = .ok v := by
  unfold readJson read readDocument
  rw [hreadable]
  simp only
  rw [hbody, hvalue]
  simp only [bind, Except.bind, Functor.map, Except.map, hfault, hmore]
  rfl

section Sample

open Yaml

def sampleYaml : List Char := ['n', 'a', 'm', 'e', ':', ' ', 'é', '\n']

/-- The pieces of the block of the sample. -/
def Yaml.Body.sample : Body where
  pieces := #[
    ⟨.mappingStart none, ⟨0, 0, 0⟩⟩, ⟨.scalar ⟨none, ['n', 'a', 'm', 'e'], .plain⟩, ⟨0, 0, 0⟩⟩,
    ⟨.scalar ⟨none, ['é'], .plain⟩, ⟨6, 0, 6⟩⟩, ⟨.mappingEnd, ⟨8, 1, 0⟩⟩]
  fault := none
  anchors := []
  places := []
  more := false

theorem Yaml.Reader.fields_sample :
    fields jsonTarget .sample 127 jsonTarget.expectedKey [] ∅ ⟨1, 0⟩ 5 =
      .ok (.insert ∅ "name" (.string "é"), ⟨4, 0⟩) := by
  have hvalue : value jsonTarget .sample 127 [.field "name"] ⟨2, 0⟩ =
      .ok (.string "é", ⟨3, 0⟩) := by
    rw [value]
    rfl
  rw [fields]
  change (value jsonTarget .sample 127 [.field "name"] ⟨2, 0⟩).bind _ = _
  rw [hvalue]
  change fields jsonTarget .sample 127 "a string" [] _ ⟨3, 0⟩ 4 = _
  rw [fields]
  rfl

theorem Yaml.readJson_sample : readJson sampleYaml = .ok (.object [("name", .string "é")]) := by
  have hbody : Body.ofEvents (events sampleYaml).1 (events sampleYaml).2 = .sample := by rfl
  have hvalue : Reader.value jsonTarget .sample 128 [] ⟨0, 0⟩ =
      .ok (.object [("name", .string "é")], ⟨4, 0⟩) := by
    rw [Reader.value]
    change (Reader.fields jsonTarget .sample 127 jsonTarget.expectedKey [] ∅ ⟨1, 0⟩ 5).bind _ = _
    rw [Reader.fields_sample]
    rfl
  exact readJson_of_value rfl hbody rfl rfl hvalue

/-- A document behind a byte order mark and a line that is blank though it is not empty, with
characters of several bytes and line ends of two. -/
def Document.sampleText : List Char :=
  '\ufeff' :: '\u3000' :: '\n' :: '-' :: '-' :: '-' :: ' ' :: '\r' :: '\n' ::
    (sampleYaml ++ ['-', '-', '-', '\n', '\r', '\n', 'B', 'o', 'd', 'y', '\n'])

def Block.sample : Block := ⟨2, sampleYaml, ['\r', '\n', 'B', 'o', 'd', 'y', '\n']⟩

theorem Block.split_sample : split Document.sampleText = .ok sample := by rfl

/-- The sample: its block is cut out behind the third byte of the blank line. -/
theorem Document.parse_divides_sample :
    (∃ p, Block.CutsOut (Block.withoutMark sampleText) .sample p) ∧
    parseWith readJson sampleText = .ok ⟨.ofList [("name", .string "é")], "Body\n"⟩ := by
  obtain ⟨hsplit, -, hblock⟩ := parse_divides_by_lines readJson sampleText
  obtain ⟨hcuts, -, hparse⟩ := hblock .sample ((hsplit _).mp Block.split_sample)
  exact ⟨hcuts, (hparse rfl).2.2 _ _ readJson_sample rfl⟩

end Sample

end Roster
