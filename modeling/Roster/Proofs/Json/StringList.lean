import Roster.Json.Shape
import Roster.Proofs.Text.Lines
import Roster.Proofs.Text.Parts

/-! # Two spellings of a list

A list of strings is written as a sequence, or as one text with commas. Both are read
item by item: an item is trimmed, and left out if nothing remains of it. Where no item
has a comma the two spellings mean the same, and what is read from a text is a list
that reads back as it is.
-/
namespace Roster.Shape

/-- An item as it is read from a text: it has characters, none of them is a comma, and neither the
first nor the last is blank. -/
structure IsItem (p : String) : Prop where
  nonempty : p ≠ ""
  start : ∀ c, p.toList.head? = some c → Text.isBlank c = false
  finish : ∀ c, p.toList.getLast? = some c → Text.isBlank c = false
  comma : ',' ∉ p.toList

variable {l : List String} {s p : String}

theorem mem_trimList_iff : p ∈ trimList l ↔ p ≠ "" ∧ ∃ q ∈ l, Text.trimmed q = p := by
  rw [trimList, List.mem_filter, List.mem_map]
  simp [and_comm]

theorem trimList_eq_self (h : ∀ p ∈ l, p ≠ "" ∧ Text.trimmed p = p) : trimList l = l := by
  have hmap : l.map Text.trimmed = l := by
    simpa using List.map_congr_left fun p hp => (h p hp).2
  rw [trimList, hmap, List.filter_eq_self]
  intro p hp
  simpa using (h p hp).1

theorem splitList_eq_trimList (s : String) :
    splitList s = trimList ((Text.splitOn ',' s.toList).map String.ofList) := by
  simp only [splitList, trimList, List.map_map, Function.comp_def, Text.trimmed,
    String.toList_ofList]

/-- Members without commas are read from the text that joins them as they are from the sequence. -/
theorem splitList_joinWith (h : ∀ p ∈ l, ',' ∉ p.toList) :
    splitList (Text.joinWith "," l) = trimList l := by
  cases l with
  | nil => rfl
  | cons p r =>
    have hparts : ∀ q ∈ (p :: r).map String.toList, ',' ∉ q := by
      simpa using h
    have hsplit : (",".intercalate (p :: r)).toList.splitOn ',' = (p :: r).map String.toList := by
      rw [String.toList_intercalate]
      exact List.splitOn_intercalate ',' hparts (List.cons_ne_nil _ _)
    rw [splitList_eq_trimList, Text.splitOn_eq, Text.joinWith_eq_intercalate, hsplit]
    simp

theorem isItem_of_mem_splitList (h : p ∈ splitList s) : IsItem p := by
  rw [splitList_eq_trimList, mem_trimList_iff] at h
  obtain ⟨hne, q, hq, rfl⟩ := h
  obtain ⟨part, hpart, rfl⟩ := List.mem_map.mp hq
  rw [Text.trimmed, String.toList_ofList] at hne ⊢
  refine ⟨hne, fun c hc => ?_, fun c hc => ?_, fun hcomma => ?_⟩
  · rw [String.toList_ofList] at hc
    exact Text.isBlank_of_head?_trim hc
  · rw [String.toList_ofList] at hc
    exact Text.getLast?_dropTrailing hc
  · rw [String.toList_ofList] at hcomma
    exact Text.not_mem_of_mem_splitOn hpart (Text.mem_of_mem_trim hcomma)

theorem IsItem.trimmed_eq_self (h : IsItem p) : Text.trimmed p = p := by
  rw [Text.trimmed, Text.trim_eq_self_of_ends h.start h.finish, String.ofList_toList]

/-- A list of items is read back from the text that joins them. -/
theorem splitList_joinWith_of_isItem (h : ∀ p ∈ l, IsItem p) :
    splitList (Text.joinWith "," l) = l := by
  rw [splitList_joinWith fun p hp => (h p hp).comma]
  exact trimList_eq_self fun p hp => ⟨(h p hp).nonempty, (h p hp).trimmed_eq_self⟩

theorem mapM_string? (l : List String) : (l.map Json.string).mapM Json.string? = some l := by
  rw [List.mapM_map]
  exact List.mapM_pure.trans (congrArg some (List.map_id l))

/-- A list of strings without commas is read alike from a sequence and from the text that joins its
members with commas. The lists that are read from texts are exactly those of trimmed items that
have characters but no comma, and each of them is read back from the text that joins it. -/
theorem stringList_spellings_agree :
    (∀ l : List String, (∀ p ∈ l, ',' ∉ p.toList) →
      stringList (.array (l.map .string)) = stringList (.string (Text.joinWith "," l)) ∧
        stringList (.string (Text.joinWith "," l)) = .ok (trimList l)) ∧
      (∀ s, ∀ p ∈ splitList s, IsItem p) ∧
      (∀ s, splitList (Text.joinWith "," (splitList s)) = splitList s) ∧
      ∀ l : List String, (∃ s, splitList s = l) ↔ ∀ p ∈ l, IsItem p := by
  refine ⟨fun l h => ?_, fun s p hp => isItem_of_mem_splitList hp, fun s => ?_, fun l => ⟨?_, ?_⟩⟩
  · simp only [stringList, mapM_string?, splitList_joinWith h, and_self]
  · exact splitList_joinWith_of_isItem fun p hp => isItem_of_mem_splitList hp
  · rintro ⟨s, rfl⟩ p hp
    exact isItem_of_mem_splitList hp
  · intro h
    exact ⟨_, splitList_joinWith_of_isItem h⟩

/-- Members of which one has wide blanks around it and another nothing else. -/
def blankMembers : List String := ["\u2003a b\u3000", "", "\t\u00a0", "c"]

theorem stringList_spellings_of_blankMembers :
    (∀ p ∈ blankMembers, ',' ∉ p.toList) ∧
      stringList (.array (blankMembers.map .string)) =
        stringList (.string (Text.joinWith "," blankMembers)) ∧
      stringList (.string (Text.joinWith "," blankMembers)) = .ok ["a b", "c"] ∧
      "a b" ∈ splitList (Text.joinWith "," blankMembers) ∧ IsItem "a b" := by
  obtain ⟨hspellings, hitems, -, -⟩ := stringList_spellings_agree
  have hcommas : ∀ p ∈ blankMembers, ',' ∉ p.toList := by decide
  have htrim : trimList blankMembers = ["a b", "c"] := by decide +kernel
  obtain ⟨hsame, hread⟩ := hspellings blankMembers hcommas
  rw [htrim] at hread
  have hmem : "a b" ∈ splitList (Text.joinWith "," blankMembers) := by decide +kernel
  exact ⟨hcommas, hsame, hread, hmem, hitems _ _ hmem⟩

end Roster.Shape
