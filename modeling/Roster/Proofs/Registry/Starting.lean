import Roster.Definition.Heading
import Roster.Definition.Security
import Roster.Proofs.Document.RoundTrip
import Roster.Proofs.Json.Record
import Roster.Proofs.Registry.Single

/-! # Documents to start from

A document that is written and put into a tier is found there, if YAML gives its
metadata back. The last line of the block is always ended, because the version of
the document, the last of the metadata, is written as plain text.
-/
namespace Roster

namespace Yaml

theorem Pen.written_puts (p : Pen) (s : List Char) :
    (p.puts s).written = s.reverse ++ p.written := by
  induction s generalizing p with
  | nil => rfl
  | cons c r ih =>
    have hrest := ih (p.put c)
    simpa [puts, put] using hrest

/-- Behind plain text a line has to end before the next one can begin. -/
theorem Pen.text_indentTo_plain (p : Pen) (s : List Char) :
    ∃ t, ((p.plain s).indentTo 0).text = t ++ s ++ ['\n'] := by
  obtain ⟨q, hq⟩ : ∃ q : Pen, p.plain s = (q.puts s).afterText := ⟨_, rfl⟩
  have htext : ((q.puts s).afterText.indentTo 0).text = (q.puts s).written.reverse ++ ['\n'] := by
    simp [indentTo, afterText, putBreak, text, puts]
  refine ⟨q.written.reverse, ?_⟩
  rw [hq, htext, written_puts, List.reverse_append, List.reverse_reverse]

theorem writeFields_append (indent : Nat) (p : Pen) (l r : List (String × Json)) :
    writeFields indent p (l ++ r) = writeFields indent (writeFields indent p l) r := by
  induction l generalizing p with
  | nil => rw [List.nil_append, writeFields]
  | cons f l ih => rw [List.cons_append, writeFields, ih, writeFields]

/-- A mapping whose last value is plain text ends with that text and a line feed. -/
theorem exists_print_of_last {m : NameMap Json} {l : List (String × Json)} {k s : String}
    (hm : m.entries = l ++ [(k, .string s)]) (hplain : styleOf s.toList = .plain) :
    ∃ t, print (.ofMap m) = t ++ s.toList ++ ['\n'] := by
  have hobject : write none false .start (.ofMap m) =
      writeFields (inner none) .start (l ++ [(k, .string s)]) := by
    rw [Json.ofMap, hm]
    cases l <;> rfl
  rw [print, hobject, writeFields_append, writeFields, writeFields, writeField, write, Pen.string,
    hplain]
  exact Pen.text_indentTo_plain ..

end Yaml

namespace Document

/-- What is relied upon to read and print YAML: something is printed for some metadata that can
stand in a block and is read there as the metadata. -/
def Keeps (read : YamlReader) (print : YamlPrinter) (m : NameMap Json) : Prop :=
  ∃ yaml, print m = .ok yaml ∧ Rereads read m yaml

/-- What `Yaml.print` writes for some metadata is read as the metadata, and no line of it looks like
the end of a block. -/
structure Restores (read : YamlReader) (m : NameMap Json) : Prop where
  reads : read (Yaml.print (.ofMap m)) = .ok (.ofMap m)
  no_delimiter : ∀ l ∈ Text.lines (Yaml.print (.ofMap m)), Block.isDelimiter l = false

/-- Such metadata can stand in a block if the last of its values is plain text. -/
theorem Restores.rereads {read : YamlReader} {m : NameMap Json} (h : Restores read m)
    {l : List (String × Json)} {k s : String} (hm : m.entries = l ++ [(k, .string s)])
    (hplain : Yaml.styleOf s.toList = .plain) (hs : Text.isAllBlank s.toList = false) :
    Rereads read m (Yaml.print (.ofMap m)) := by
  obtain ⟨t, ht⟩ := Yaml.exists_print_of_last hm hplain
  have hended : endLine (Yaml.print (.ofMap m)) = Yaml.print (.ofMap m) := by
    rw [ht, endLine, List.getLast?_append]
    rfl
  refine ⟨?_, ?_, h.no_delimiter⟩
  · rw [ht, Text.isAllBlank, List.all_append, List.all_append]
    rw [Text.isAllBlank] at hs
    rw [hs, Bool.and_false, Bool.false_and]
  · rw [hended]
    exact h.reads

end Document

theorem SecuritySettings.read_standard :
    Written.record.read (.ofList standard.fields) = .ok ⟨⟨false, [], some "medium"⟩, ∅⟩ := by
  refine Record.read_ofList (by decide) ?_
  simp only [fields, List.foldl, insertEntry, String.reduceLT, String.reduceEq, ↓reduceIte]
  rfl

/-- The metadata of a starting document that belongs to documents of any kind. -/
def Heading.starting (name : String) (tag : String) : NameMap Json :=
  .ofList [("description", .string ("Describe what " ++ name ++ " does")), ("name", .string name),
    ("tags", .strings [tag]), ("version", .string "1.0.0")]

theorem Heading.entries_starting (name tag : String) : (starting name tag).entries = [
    ("description", .string ("Describe what " ++ name ++ " does")), ("name", .string name),
    ("tags", .strings [tag]), ("version", .string "1.0.0")] := by
  simp only [starting, NameMap.entries_ofList, List.foldl, insertEntry, String.reduceLT,
    String.reduceEq, ↓reduceIte]

theorem Heading.extra_starting (name tag : String) :
    Written.record.extra (starting name tag) = ∅ := by
  refine NameMap.ext ?_
  change (starting name tag).entries.filter _ = []
  rw [entries_starting]
  rfl

theorem Heading.read_starting (name tag : String) : Written.record.read (starting name tag) =
    .ok ⟨⟨none, some ("Describe what " ++ name ++ " does"), none, none⟩, ∅⟩ := by
  refine Record.read_of_readKnown ?_ (extra_starting name tag)
  rw [Record.readKnown_of_entries _ (entries_starting name tag)]
  rfl

namespace Document

/-- A document that gives itself a name and says nothing odd about its tier and its tags. Its
metadata ends with its version, and its body starts with a headline. -/
structure IsStarting (d : Document) (name : String) : Prop where
  named : d.metadata.get? "name" = some (.string name)
  unscoped : d.metadata.get? "scope" = none
  tagged : d.tags.2 = []
  versioned : d.metadata.entries.getLast? = some ("version", .string "1.0.0")
  headlined : ∃ rest, d.body.toList = '#' :: rest

variable {read : YamlReader} {print : YamlPrinter} {d : Document} {name : String}

theorem IsStarting.isAllBlank_body (h : d.IsStarting name) :
    Text.isAllBlank d.body.toList = false := by
  obtain ⟨rest, hbody⟩ := h.headlined
  rw [hbody]
  rfl

/-- The metadata of such a document need only be restored, because its version is plain text. -/
theorem IsStarting.keeps (h : d.IsStarting name) (hm : Restores read d.metadata) :
    Keeps read printYaml d.metadata := by
  obtain ⟨l, hlast⟩ := List.getLast?_eq_some_iff.mp h.versioned
  exact ⟨_, rfl, hm.rereads hlast (by decide +kernel) (by decide +kernel)⟩

theorem IsStarting.exists_write (h : d.IsStarting name) (hm : Keeps read print d.metadata) :
    ∃ text, writeWith print d = .ok text ∧ parseWith read text = .ok d := by
  obtain ⟨yaml, hprint, hrereads⟩ := hm
  obtain ⟨l, hlast⟩ := List.getLast?_eq_some_iff.mp h.versioned
  obtain ⟨rest, hbody⟩ := h.headlined
  have hempty : d.metadata.isEmpty = false := by
    rw [NameMap.isEmpty, hlast]
    simp
  have hkept : Block.dropLineEnds d.body.toList = d.body.toList := by
    rw [hbody]
    rfl
  refine ⟨_, writeWith_of_print hempty hprint, ?_⟩
  rw [parseWith_textOf hrereads, hkept, String.ofList_toList]

/-- What is written for such a document loads alone under its name, which must have nothing to
trim. -/
theorem IsStarting.exists_loadsAlone (h : d.IsStarting name) (hne : name ≠ "")
    (htrim : Text.trimmed name = name) (hm : Keeps read print d.metadata)
    {P : Configuration → Prop}
    (hP : ∀ c, c.name = name → c.metadata = d.metadata → c.content = d.body →
      c.kind = DocumentKind.classify d d.tags.1 none → P c) :
    ∃ text, writeWith print d = .ok text ∧ LoadsAlone read (String.ofList text) P := by
  obtain ⟨text, hwrite, hparse⟩ := h.exists_write hm
  have hname : d.ownName? = some name := by
    simp [ownName?, string?, h.named, Json.string?, htrim, hne]
  rw [← String.toList_ofList (l := text)] at hparse
  exact ⟨text, hwrite, loadsAlone_of_parse hparse hname h.unscoped h.tagged fun scope path time =>
    hP _ rfl rfl rfl rfl⟩

end Document

end Roster
