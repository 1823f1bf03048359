import Roster.Pattern.Span
import Roster.Text.Lines

/-! # Faults of a pattern

What can be wrong with a pattern, and how it is shown: the pattern is written
out, and carets under it mark the characters that are at fault.
-/
namespace Roster.Pattern

/-- What is wrong in a pattern. -/
inductive Flaw where
  | classEscape
  | classRange
  | classBound
  | classOpen
  | decimalEmpty
  | decimalInvalid
  | hexEmpty
  | hexInvalid
  | hexDigit
  | escapeEnd
  | escapeUnknown
  | flagDangling
  | flagRepeated
  | flagNegatedTwice
  | flagEnd
  | flagUnknown
  | nameRepeated
  | nameEmpty
  | nameInvalid
  | nameEnd
  | groupOpen
  | groupClosed
  | tooDeep (most : Nat)
  | countOrder
  | countEmpty
  | countOpen
  | nothingToRepeat
  | boundaryOpen
  | boundaryUnknown
  | boundaryEnd
  | propertyInvalid
  | backreference
  | lookAround
  | unicodeDisabled
  | matchesNoText
  | propertyUnknown
  | propertyValueUnknown
  deriving DecidableEq

namespace Flaw

def text : Flaw → String
  | classEscape => "invalid escape sequence found in character class"
  | classRange => "invalid character class range, the start must be <= the end"
  | classBound => "invalid range boundary, must be a literal"
  | classOpen => "unclosed character class"
  | decimalEmpty => "decimal literal empty"
  | decimalInvalid => "decimal literal invalid"
  | hexEmpty => "hexadecimal literal empty"
  | hexInvalid => "hexadecimal literal is not a Unicode scalar value"
  | hexDigit => "invalid hexadecimal digit"
  | escapeEnd => "incomplete escape sequence, reached end of pattern prematurely"
  | escapeUnknown => "unrecognized escape sequence"
  | flagDangling => "dangling flag negation operator"
  | flagRepeated => "duplicate flag"
  | flagNegatedTwice => "flag negation operator repeated"
  | flagEnd => "expected flag but got end of regex"
  | flagUnknown => "unrecognized flag"
  | nameRepeated => "duplicate capture group name"
  | nameEmpty => "empty capture group name"
  | nameInvalid => "invalid capture group character"
  | nameEnd => "unclosed capture group name"
  | groupOpen => "unclosed group"
  | groupClosed => "unopened group"
  | tooDeep most =>
    "exceed the maximum number of nested parentheses/brackets (" ++ toString most ++ ")"
  | countOrder => "invalid repetition count range, the start must be <= the end"
  | countEmpty => "repetition quantifier expects a valid decimal"
  | countOpen => "unclosed counted repetition"
  | nothingToRepeat => "repetition operator missing expression"
  | boundaryOpen =>
    "special word boundary assertion is either unclosed or contains an invalid character"
  | boundaryUnknown =>
    "unrecognized special word boundary assertion, valid choices are: start, end, start-half " ++
      "or end-half"
  | boundaryEnd =>
    "found either the beginning of a special word boundary or a bounded repetition on a \\b " ++
      "with an opening brace, but no closing brace"
  | propertyInvalid => "invalid Unicode character class"
  | backreference => "backreferences are not supported"
  | lookAround => "look-around, including look-ahead and look-behind, is not supported"
  | unicodeDisabled => "Unicode not allowed here"
  | matchesNoText => "pattern can match invalid UTF-8"
  | propertyUnknown => "Unicode property not found"
  | propertyValueUnknown => "Unicode property value not found"

end Flaw

/-- A flaw and where it is. `other` is a second place that has to do with it. -/
structure Fault where
  flaw : Flaw
  span : Span
  other : Option Span

namespace Fault

/-- The lines of a pattern without what ends them. -/
def linesOf (pattern : List Char) : List (List Char) :=
  (Text.lines pattern).map fun l =>
    match l.reverse with
    | '\n' :: '\r' :: r => r.reverse
    | '\n' :: r => r.reverse
    | _ => l

def spans (f : Fault) : List Span :=
  (f.span :: f.other.toList).mergeSort Span.le

/-- Carets under the spans of a line; the next character has the column `column`. -/
def carets (column : Nat) : List Span → List Char
  | [] => []
  | s :: r =>
    let gap := s.start.column - column
    let width := max 1 (s.stop.column - s.start.column)
    List.replicate gap ' ' ++ List.replicate width '^' ++ carets (column + gap + width) r

/-- The number of lines of a pattern; the end of the last line counts as one if it is ended. -/
def lineCount (pattern : List Char) : Nat :=
  (Text.lines pattern).length + (if pattern.getLast? = some '\n' then 1 else 0)

/-- How many characters wide line numbers are; a single line has no number. -/
def numberWidth (pattern : List Char) : Nat :=
  let n := lineCount pattern
  if n ≤ 1 then 0 else (toString n).length

/-- A line of the pattern and, under it, the carets that belong to it. -/
def annotate (width : Nat) (spans : List Span) (number : Nat) (line : List Char) : String :=
  let digits := toString number
  let label :=
    if width = 0 then "    "
    else String.ofList (List.replicate (width - digits.length) ' ') ++ digits ++ ": "
  let marked := spans.filter fun s => s.start.line = number
  let notes :=
    if marked.isEmpty then ""
    else
      String.ofList (List.replicate (if width = 0 then 4 else width + 2) ' ' ++ carets 1 marked) ++
        "\n"
  label ++ String.ofList line ++ "\n" ++ notes

/-- The lines from a number on, each with its carets. -/
def annotateFrom (width : Nat) (spans : List Span) (number : Nat) : List (List Char) → String
  | [] => ""
  | l :: r => annotate width spans number l ++ annotateFrom width spans (number + 1) r

/-- Where a span of several lines starts and ends, in words. -/
def describe (s : Span) : String :=
  "on line " ++ toString s.start.line ++ " (column " ++ toString s.start.column ++
    ") through line " ++ toString s.stop.line ++ " (column " ++ toString (s.stop.column - 1) ++ ")"

/-- The pattern with its fault marked, and what is wrong with it. -/
def message (pattern : String) (f : Fault) : String :=
  let cs := pattern.toList
  let (short, long) := f.spans.partition Span.onOneLine
  let shown := annotateFrom (numberWidth cs) short 1 (linesOf cs)
  let body :=
    if cs.contains '\n' then
      let divider := String.ofList (List.replicate 79 '~') ++ "\n"
      let notes := if long.isEmpty then "" else Text.joinWith "\n" (long.map describe) ++ "\n"
      divider ++ shown ++ divider ++ notes
    else shown
  "regex parse error:\n" ++ body ++ "error: " ++ f.flaw.text

end Fault

end Roster.Pattern
