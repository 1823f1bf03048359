import Roster.Proofs.Document.Division
import Roster.Proofs.Text.Lines

/-! # Where a body begins

Blank lines may come before a block, whatever blank characters they have. Behind the
block only carriage returns and line feeds are taken away: a body begins with the
first line that has more in it than such characters, even if that line is blank.
-/
namespace Roster

namespace Text

/-- The text is empty, or its first line has something in it. -/
def StartsFilled (s : List Char) : Prop :=
  ∀ l, (lines s).head? = some l → ∃ c ∈ l, isBlank c = false

end Text

namespace Block

theorem isBlank_of_isLineEnd {c : Char} (h : isLineEnd c = true) : Text.isBlank c = true := by
  rw [isLineEnd, Bool.or_eq_true, beq_iff_eq, beq_iff_eq] at h
  rcases h with rfl | rfl <;> rfl

theorem isAllBlank_dropLineEnds (s : List Char) :
    Text.isAllBlank (dropLineEnds s) = Text.isAllBlank s := by
  induction s with
  | nil => rfl
  | cons c r ih =>
    cases hc : isLineEnd c with
    | false => rw [dropLineEnds_of_other hc]
    | true =>
      rw [dropLineEnds_of_isLineEnd hc, ih, Text.isAllBlank, Text.isAllBlank, List.all_cons,
        isBlank_of_isLineEnd hc, Bool.true_and]

/-- Whether a line has nothing in it but carriage returns and line feeds. -/
def isBare (line : List Char) : Bool :=
  line.all isLineEnd

/-- The lines of a text from the first on that is not bare. -/
def keptLines (s : List Char) : List (List Char) :=
  (Text.lines s).dropWhile isBare

/-- Without its leading line ends a text has the lines that are kept, the first of them without
its leading returns. -/
theorem lines_dropLineEnds (s : List Char) :
    Text.lines (dropLineEnds s) = (keptLines s).modifyHead dropLineEnds := by
  induction s with
  | nil => rfl
  | cons c r ih =>
    rw [keptLines] at ih ⊢
    by_cases hfeed : c = '\n'
    · subst hfeed
      rw [dropLineEnds_of_isLineEnd rfl, ih, Text.lines, if_pos rfl]
      rfl
    · cases hc : isLineEnd c with
      | true =>
        rw [dropLineEnds_of_isLineEnd hc, ih, Text.lines, if_neg hfeed]
        cases Text.lines r with
        | nil => simp [isBare, hc]
        | cons l ls =>
          -- a return in front leaves a line bare or not bare
          have hbare : isBare (c :: l) = isBare l := by rw [isBare, List.all_cons, hc]; rfl
          rw [List.dropWhile_cons, List.dropWhile_cons, hbare]
          split
          · rfl
          · rw [List.modifyHead_cons, List.modifyHead_cons, dropLineEnds_of_isLineEnd hc]
      | false =>
        rw [dropLineEnds_of_other hc, Text.lines, if_neg hfeed]
        cases Text.lines r with
        | nil => simp [isBare, hc, dropLineEnds_of_other]
        | cons l ls => simp [isBare, hc, dropLineEnds_of_other]

/-- Without its leading line ends a text starts filled exactly if the first line that is kept is
not blank. -/
theorem startsFilled_dropLineEnds_iff (s : List Char) :
    Text.StartsFilled (dropLineEnds s) ↔
      ∀ l, (keptLines s).head? = some l → Text.isAllBlank l = false := by
  rw [Text.StartsFilled, lines_dropLineEnds]
  cases keptLines s with
  | nil => simp
  | cons l ls =>
    have hfilled : (∃ c ∈ dropLineEnds l, Text.isBlank c = false) ↔ Text.isAllBlank l = false := by
      rw [← isAllBlank_dropLineEnds l, Text.isAllBlank, List.all_eq_false]
      simp only [Bool.not_eq_true]
    simpa using hfilled

end Block

namespace Document

open Block

/-- The lines of a body are the lines behind the block without the bare ones in front. So a body
has something in its first line, unless the first line behind the block that is not bare is
blank. -/
theorem body_startsFilled_iff (read : List Char → Except Yaml.Fault Json) {text : List Char}
    {d : Document} (h : parseWith read text = .ok d) :
    ∃ b, split text = .ok b ∧
      Text.lines d.body.toList = (keptLines b.rest).modifyHead dropLineEnds ∧
      (Text.StartsFilled d.body.toList ↔
        ∀ l, (keptLines b.rest).head? = some l → Text.isAllBlank l = false) := by
  obtain ⟨b, hsplit, -, hbody⟩ := exists_block_of_parseWith h
  rw [hbody]
  exact ⟨b, hsplit, lines_dropLineEnds b.rest, startsFilled_dropLineEnds_iff b.rest⟩

end Document

section Sample

/-- A document with a bare line behind its block, then one with a space. -/
def Document.spacedText : List Char := "---\n---\n\r\n \nBody\n".toList

/-- The sample: its body begins with the line that has a space. -/
theorem Document.body_of_spacedText_starts_blank :
    parseWith Yaml.readJson spacedText = .ok ⟨∅, " \nBody\n"⟩ ∧
    ¬ Text.StartsFilled " \nBody\n".toList := by
  have hparse : parseWith Yaml.readJson spacedText = .ok ⟨∅, " \nBody\n"⟩ := by rfl
  obtain ⟨b, hsplit, -, hfilled⟩ := body_startsFilled_iff Yaml.readJson hparse
  refine ⟨hparse, fun hstarts => ?_⟩
  have hb : Block.split spacedText = .ok ⟨1, [], "\r\n \nBody\n".toList⟩ := rfl
  rw [hb] at hsplit
  cases hsplit
  exact absurd (hfilled.mp hstarts [' ', '\n'] rfl) (by decide)

end Sample

end Roster
