import Roster.Proofs.Command.Schema
import Roster.Proofs.Counting
import Roster.Proofs.Text.Lines

/-! # Where entries go

No entry of a list of parameters is lost. Each of them declares a parameter,
repeats the name of one in front of it, or has no name; in the last two cases one
issue says so. The parameters and these issues are therefore as many as the
entries.
-/
namespace Roster

namespace Issue

/-- A parameter that was declared before. -/
def duplicate (name : String) : Issue :=
  invalidValue ("parameters." ++ name)
    ("duplicate parameter '" ++ name ++ "'; the first declaration is kept")

/-- The entry of this number, which declares no parameter. -/
def nameless (number : Nat) : Issue :=
  invalidValue "parameters"
    ("parameter " ++ ("#" ++ toString number) ++ " has no name and is ignored")

/-- Whether the message of an issue starts with some words. -/
def opensWith (words : String) (i : Issue) : Bool :=
  words.toList.isPrefixOf i.message.toList

def reportsDuplicate (i : Issue) : Bool :=
  i.opensWith "duplicate parameter '"

def reportsNameless (i : Issue) : Bool :=
  i.opensWith "parameter #"

theorem reports_duplicate (name : String) :
    (duplicate name).reportsDuplicate = true ∧ (duplicate name).reportsNameless = false := by
  simp [reportsDuplicate, reportsNameless, opensWith, duplicate, invalidValue,
    List.isPrefixOf]

theorem reports_nameless (number : Nat) :
    (nameless number).reportsDuplicate = false ∧ (nameless number).reportsNameless = true := by
  simp [reportsDuplicate, reportsNameless, opensWith, nameless, invalidValue,
    List.isPrefixOf]

/-- An issue about what is written for a parameter, not about whether it is declared. -/
def IsRemark (i : Issue) : Prop :=
  i.reportsDuplicate = false ∧ i.reportsNameless = false

theorem isRemark_of_unknown {i : Issue} (h : "unknown ".toList <+: i.message.toList) :
    i.IsRemark := by
  obtain ⟨t, ht⟩ := h
  simp [IsRemark, reportsDuplicate, reportsNameless, opensWith, ← ht, List.isPrefixOf]

theorem isRemark_of_mem_unknownFields {block? : Option String} {extra : NameMap Json} {i : Issue}
    (h : i ∈ unknownFields block? extra) : i.IsRemark := by
  obtain ⟨key, -, rfl⟩ := List.mem_map.mp h
  exact isRemark_of_unknown (by simp [unknownField])

theorem isRemark_of_mem_parseWord {α : Type} [Vocabulary α] {field : String}
    {word? : Option String} {i : Issue}
    (h : i ∈ (parseWord field word? : α × List Issue).2) : i.IsRemark := by
  cases word? with
  | none => cases h
  | some raw =>
    simp only [parseWord] at h
    split at h
    · cases h
    · next message hparse =>
      obtain rfl := List.mem_singleton.mp h
      rw [Vocabulary.eq_unknown_of_parse_eq_error hparse]
      refine isRemark_of_unknown ?_
      simp [invalidValue, Vocabulary.unknown]

end Issue

namespace Parameter

/-- What holds of each parameter that an entry of a list declares. -/
structure WellFormed (n : String) (p : Parameter) : Prop where
  nonempty : n ≠ ""
  trimmed : Text.trimmed n = n
  default : p.default ≠ some .null
  constraints : p.constraints ≠ some .free

theorem itemName_eq_some {v : Json} {n : String} (h : itemName v = some n) :
    n ≠ "" ∧ Text.trimmed n = n := by
  obtain ⟨htext, hn⟩ := Option.filter_eq_some_iff.mp h
  obtain ⟨s, -, rfl⟩ := Option.map_eq_some_iff.mp htext
  exact ⟨by simpa using hn, Text.trimmed_trimmed s⟩

theorem default_ne_null {v : Json} (h : Readable v) : (writtenOf v).known.default ≠ some .null := by
  have hread := Written.holds_default.read (readKnown_specOf_writtenOf h)
  intro hnull
  rw [hnull] at hread
  cases hd : (specOf v).get? "default" with
  | none => rw [hd] at hread; cases hread
  | some x => rw [hd] at hread; cases x <;> cases hread

theorem constraints_ne_free (field : String) (w : WithExtra Written) :
    (ofWritten field w).1.constraints ≠ some .free := by
  intro hfree
  obtain ⟨-, hne⟩ := Option.filter_eq_some_iff.mp hfree
  cases hne

theorem isRemark_of_mem_ofWritten {field : String} {w : WithExtra Written} {i : Issue}
    (h : i ∈ (ofWritten field w).2) : i.IsRemark := by
  rw [issues_ofWritten] at h
  rcases List.mem_append.mp h with h | h
  · rcases List.mem_append.mp h with h | h
    · exact Issue.isRemark_of_mem_unknownFields h
    · exact Issue.isRemark_of_mem_parseWord h
  · cases hc : w.known.constraints with
    | none => rw [hc] at h; cases h
    | some c =>
      rw [hc, Option.elim_some] at h
      exact Issue.isRemark_of_mem_unknownFields h

/-- What becomes of an entry of a list. -/
inductive Fate where
  | declares (name : String)
  | repeats (name : String)
  | nameless

namespace Fate

def isDeclaration : Fate → Bool
  | declares _ => true
  | repeats _ | nameless => false

def isRepeat : Fate → Bool
  | repeats _ => true
  | declares _ | nameless => false

def isNameless : Fate → Bool
  | nameless => true
  | declares _ | repeats _ => false

end Fate

/-- What became of an entry, and what was noted about it. -/
structure Account where
  value : Json
  fate : Fate
  issues : List Issue

/-- The fate of an entry behind others, and the issues about it, seen from the parameters at the
end. -/
inductive Accounted (schema : NameMap Parameter) (before : List Json) : Account → Prop
  | declares {v : Json} {n : String} (name : itemName v = some n)
      (first : ∀ d ∈ before, itemName d ≠ some n)
      (entry : schema.get? n = some (declared v n).1) :
      Accounted schema before ⟨v, .declares n, (declared v n).2⟩
  | repeats {v : Json} {n : String} (name : itemName v = some n)
      (taken : ∃ d ∈ before, itemName d = some n) :
      Accounted schema before ⟨v, .repeats n, [.duplicate n]⟩
  | nameless {v : Json} (name : itemName v = none) :
      Accounted schema before ⟨v, .nameless, [.nameless (before.length + 1)]⟩

/-- An entry that repeats a name has one issue that says so, and one without a name has one issue
that it has none. Other entries have no such issues. -/
theorem Accounted.countP_issues {schema : NameMap Parameter} {before : List Json} {a : Account}
    (h : Accounted schema before a) :
    a.issues.countP (·.reportsDuplicate) = (if a.fate.isRepeat then 1 else 0) ∧
      a.issues.countP (·.reportsNameless) = if a.fate.isNameless then 1 else 0 := by
  cases h with
  | declares name first entry =>
    simp only [Fate.isRepeat, Fate.isNameless, Bool.false_eq_true, if_false, List.countP_eq_zero]
    exact ⟨fun i hi => by simp [(isRemark_of_mem_ofWritten hi).1],
      fun i hi => by simp [(isRemark_of_mem_ofWritten hi).2]⟩
  | @repeats v n name taken => simp [Fate.isRepeat, Fate.isNameless, Issue.reports_duplicate n]
  | nameless name =>
    simp [Fate.isRepeat, Fate.isNameless, Issue.reports_nameless (before.length + 1)]

namespace Entry

/-- The fate of an entry behind others. -/
def fate (earlier : List Entry) (e : Entry) : Fate :=
  match e.name with
  | some n => if earlier.any (·.name == some n) then .repeats n else .declares n
  | none => .nameless

def account (earlier : List Entry) (e : Entry) : List Account :=
  [⟨e.value, e.fate earlier, e.issues earlier⟩]

theorem eachAfter_account_flatMap (es earlier : List Entry) :
    (eachAfter account earlier es).flatMap (·.issues) = eachAfter issues earlier es := by
  induction es generalizing earlier with
  | nil => rfl
  | cons e es ih => simp [eachAfter, account, ih]

theorem eachAfter_account_map (es earlier : List Entry) :
    (eachAfter account earlier es).map (·.value) = es.map (·.value) := by
  induction es generalizing earlier with
  | nil => rfl
  | cons e es ih => simp [eachAfter, account, ih]

theorem exists_of_eachAfter_account {es earlier : List Entry} {before rest : List Account}
    {a : Account} (h : eachAfter account earlier es = before ++ a :: rest) :
    ∃ front e back, es = front ++ e :: back ∧
      before.map (·.value) = front.map (·.value) ∧
      a = ⟨e.value, e.fate (earlier ++ front), e.issues (earlier ++ front)⟩ := by
  induction es generalizing earlier before with
  | nil => simp [eachAfter] at h
  | cons e es ih =>
    cases before with
    | nil =>
      obtain ⟨rfl, -⟩ := List.cons.inj h
      exact ⟨[], e, es, rfl, rfl, by rw [List.append_nil]⟩
    | cons b before =>
      obtain ⟨rfl, hrest⟩ := List.cons.inj h
      obtain ⟨front, d, back, rfl, hbefore, rfl⟩ := ih hrest
      refine ⟨e :: front, d, back, rfl, by rw [List.map_cons, hbefore, List.map_cons], ?_⟩
      rw [List.append_assoc, List.singleton_append]

theorem size_step {earlier : List Entry} {acc : NameMap Parameter × List Issue}
    (h : Declares earlier acc.1) (e : Entry) :
    (declare acc e).1.size = acc.1.size + if (e.fate earlier).isDeclaration then 1 else 0 := by
  cases hname : e.name with
  | none => simp [declare, fate, hname, Fate.isDeclaration]
  | some n =>
    simp only [declare, fate, hname, add, h.contains n]
    cases hany : earlier.any (·.name == some n) with
    | true => rfl
    | false =>
      have hfree : acc.1.get? n = none := by rw [NameMap.get?_eq_none_iff, h.contains n, hany]
      exact NameMap.size_insert hfree _

/-- A run declares as many parameters as it has entries that are the first of their names. -/
theorem size_run (es : List Entry) {earlier : List Entry}
    {acc : NameMap Parameter × List Issue} (h : Declares earlier acc.1) :
    (es.foldl declare acc).1.size =
      acc.1.size + (eachAfter account earlier es).countP (·.fate.isDeclaration) := by
  induction es generalizing earlier acc with
  | nil => rfl
  | cons e es ih =>
    have hrest := ih (declare_step h e).1
    rw [List.foldl_cons, hrest, size_step h e, eachAfter, List.countP_append, account,
      List.countP_singleton, Nat.add_assoc]

theorem eachAfter_append {β : Type} (f : List Entry → Entry → List β)
    (xs ys earlier : List Entry) :
    eachAfter f earlier (xs ++ ys) = eachAfter f earlier xs ++ eachAfter f (earlier ++ xs) ys := by
  induction xs generalizing earlier with
  | nil => simp [eachAfter]
  | cons x xs ih => simp [eachAfter, ih]

theorem mem_eachAfter_account_of_find? {es : List Entry} {e : Entry} {n : String}
    (h : es.find? (·.name == some n) = some e) :
    ∃ a ∈ eachAfter account [] es, a.fate = .declares n := by
  obtain ⟨hname, front, back, rfl, hfirst⟩ := List.find?_eq_some_iff_append.mp h
  have hany : front.any (·.name == some n) = false := by
    rw [List.any_eq_false]
    intro d hd
    simpa using hfirst d hd
  refine ⟨⟨e.value, e.fate front, e.issues front⟩, ?_, ?_⟩
  · rw [eachAfter_append, eachAfter, account]
    simp
  · simp [fate, eq_of_beq hname, hany]

section Items

variable {items : List Json} {front back : List Entry} {e : Entry}

theorem name_of_mem_entriesOf (h : e ∈ entriesOf (.array items)) : e.name = itemName e.value := by
  obtain ⟨x, -, rfl⟩ := List.mem_map.mp h
  rfl

theorem label_of_entriesOf (h : entriesOf (.array items) = front ++ e :: back) :
    e.label = "#" ++ toString (front.length + 1) := by
  have hget : (items.zipIdx.map ofItem)[front.length]? = some e := by
    rw [show items.zipIdx.map ofItem = _ from h]
    simp
  rw [List.getElem?_map, List.getElem?_zipIdx, Option.map_map] at hget
  obtain ⟨v, -, rfl⟩ := Option.map_eq_some_iff.mp hget
  simp [ofItem]

theorem accounted_of_split {schema : NameMap Parameter}
    (hdeclares : Declares (entriesOf (.array items)) schema)
    (h : entriesOf (.array items) = front ++ e :: back) :
    Accounted schema (front.map (·.value)) ⟨e.value, e.fate front, e.issues front⟩ := by
  have hnames : ∀ d ∈ front ++ e :: back, d.name = itemName d.value :=
    fun d hd => name_of_mem_entriesOf (h ▸ hd)
  have hname := hnames e (by simp)
  cases hn : itemName e.value with
  | none =>
    simp only [fate, issues, hname, hn, label_of_entriesOf h]
    rw [← List.length_map (·.value)]
    exact .nameless hn
  | some n =>
    cases hany : front.any (·.name == some n) with
    | true =>
      simp only [fate, issues, hname, hn, hany, if_true]
      obtain ⟨d, hd, hdn⟩ := List.any_eq_true.mp hany
      refine .repeats hn ⟨d.value, List.mem_map_of_mem hd, ?_⟩
      rw [← hnames d (List.mem_append_left _ hd), eq_of_beq hdn]
    | false =>
      simp only [fate, issues, hname, hn, hany, Bool.false_eq_true, if_false]
      have hfirst : ∀ d ∈ front, d.name ≠ some n := by simpa using hany
      refine .declares hn ?_ ?_
      · rw [List.forall_mem_map]
        intro d hd
        rw [← hnames d (List.mem_append_left _ hd)]
        exact hfirst d hd
      · have hnone : front.find? (·.name == some n) = none := by
          rw [List.find?_eq_none]
          simpa using hfirst
        rw [hdeclares, h, List.find?_append, hnone, Option.none_or,
          List.find?_cons_of_pos (by simp [hname, hn]), Option.map_some]

theorem wellFormed_of_declares {schema : NameMap Parameter}
    (hdeclares : Declares (entriesOf (.array items)) schema)
    (hreadable : ∀ e ∈ entriesOf (.array items), Readable e.value) {n : String} {p : Parameter}
    (hp : schema.get? n = some p) : WellFormed n p := by
  rw [hdeclares] at hp
  obtain ⟨e, he, rfl⟩ := Option.map_eq_some_iff.mp hp
  have hmem := List.mem_of_find?_eq_some he
  have hname : itemName e.value = some n := by
    rw [← name_of_mem_entriesOf hmem]
    simpa using List.find?_some he
  exact ⟨(itemName_eq_some hname).1, (itemName_eq_some hname).2,
    default_ne_null (hreadable e hmem), constraints_ne_free _ _⟩

end Items

end Entry

open Entry

/-- What became of each entry of a list. -/
def accountsOf (items : List Json) : List Account :=
  eachAfter account [] (entriesOf (.array items))

theorem values_accountsOf (items : List Json) : (accountsOf items).map (·.value) = items := by
  rw [accountsOf, eachAfter_account_map, entriesOf, List.map_map]
  exact List.zipIdx_map_fst 0 items

section Accepted

variable {items : List Json} {schema : NameMap Parameter} {issues : List Issue}
  (h : schemaOf (.array items) = .ok (schema, issues))

include h

theorem declares_of_items : Declares (entriesOf (.array items)) schema := by
  obtain ⟨-, -, hall⟩ := (schemaOf_eq_ok_iff ..).mp h
  have hdeclares := (declare_all (entriesOf (.array items))).1
  rwa [hall] at hdeclares

theorem issues_accountsOf : (accountsOf items).flatMap (·.issues) = issues := by
  obtain ⟨-, -, hall⟩ := (schemaOf_eq_ok_iff ..).mp h
  have hissues := (declare_all (entriesOf (.array items))).2
  rw [hall] at hissues
  rw [accountsOf, eachAfter_account_flatMap, ← hissues]

theorem size_accountsOf : schema.size = (accountsOf items).countP (·.fate.isDeclaration) := by
  obtain ⟨-, -, hall⟩ := (schemaOf_eq_ok_iff ..).mp h
  have hstart : Declares [] ((∅, []) : NameMap Parameter × List Issue).1 := fun _ => rfl
  have hsize := size_run (entriesOf (.array items)) hstart
  rw [hall] at hsize
  exact hsize.trans (Nat.zero_add _)

theorem accounted_of_accountsOf {before rest : List Account} {a : Account}
    (hsplit : accountsOf items = before ++ a :: rest) :
    Accounted schema (before.map (·.value)) a := by
  obtain ⟨front, e, back, hes, hbefore, rfl⟩ := exists_of_eachAfter_account hsplit
  rw [List.nil_append, hbefore]
  exact accounted_of_split (declares_of_items h) hes

theorem contains_iff_declares (n : String) :
    schema.contains n = true ↔ ∃ a ∈ accountsOf items, a.fate = .declares n := by
  constructor
  · intro hcontains
    rw [(declares_of_items h).contains, List.any_eq_true] at hcontains
    obtain ⟨e, he⟩ := Option.isSome_iff_exists.mp (List.find?_isSome.mpr hcontains)
    exact mem_eachAfter_account_of_find? he
  · rintro ⟨a, ha, hfate⟩
    obtain ⟨before, rest, hsplit⟩ := List.append_of_mem ha
    cases accounted_of_accountsOf h hsplit with
    | declares name first entry =>
      cases hfate
      rw [NameMap.contains_eq_isSome, entry]
      rfl
    | repeats name taken => cases hfate
    | nameless name => cases hfate

/-- Parameters, repeated names and missing names are together as many as the entries. -/
theorem length_items : items.length = schema.size + issues.countP (·.reportsDuplicate) +
    issues.countP (·.reportsNameless) := by
  have hissues : ∀ a ∈ accountsOf items,
      a.issues.countP (·.reportsDuplicate) = (if a.fate.isRepeat then 1 else 0) ∧
        a.issues.countP (·.reportsNameless) = if a.fate.isNameless then 1 else 0 := by
    intro a ha
    obtain ⟨before, rest, hsplit⟩ := List.append_of_mem ha
    exact (accounted_of_accountsOf h hsplit).countP_issues
  have hrepeats := countP_flatMap_eq fun a ha => (hissues a ha).1
  have hnameless := countP_flatMap_eq fun a ha => (hissues a ha).2
  rw [issues_accountsOf h] at hrepeats hnameless
  have hlength : (accountsOf items).length = items.length := by
    rw [← List.length_map (·.value), values_accountsOf]
  rw [size_accountsOf h, hrepeats, hnameless, ← hlength]
  refine length_eq_countP_add fun a _ => ?_
  cases a.fate with
  | declares n => rfl
  | repeats n => rfl
  | nameless => rfl

end Accepted

/-- Every entry of a list of parameters is accounted for, in the order of the entries, and every
parameter is declared by one of them. -/
theorem schemaOf_accounts_for_items {items : List Json} {schema : NameMap Parameter}
    {issues : List Issue} (h : schemaOf (.array items) = .ok (schema, issues)) :
    ∃ accounts : List Account,
      accounts.map (·.value) = items ∧ accounts.flatMap (·.issues) = issues ∧
      (∀ before a rest, accounts = before ++ a :: rest →
        Accounted schema (before.map (·.value)) a ∧
        a.issues.countP (·.reportsDuplicate) = (if a.fate.isRepeat then 1 else 0) ∧
        a.issues.countP (·.reportsNameless) = if a.fate.isNameless then 1 else 0) ∧
      (∀ n, schema.contains n = true ↔ ∃ a ∈ accounts, a.fate = .declares n) ∧
      items.length = schema.size + issues.countP (·.reportsDuplicate) +
        issues.countP (·.reportsNameless) ∧
      ∀ n p, schema.get? n = some p → WellFormed n p := by
  obtain ⟨-, hreadable, -⟩ := (schemaOf_eq_ok_iff ..).mp h
  refine ⟨accountsOf items, values_accountsOf items, issues_accountsOf h, ?_,
    contains_iff_declares h, length_items h, ?_⟩
  · intro before a rest hsplit
    have haccounted := accounted_of_accountsOf h hsplit
    exact ⟨haccounted, haccounted.countP_issues⟩
  · exact fun n p hp => wellFormed_of_declares (declares_of_items h) hreadable hp

/-- A name with blanks around it, the same name again, a text, nothing, and a blank name. -/
def crowdedItems : List Json :=
  [.object [("name", .string " path "), ("default", .null), ("validation", .object [])],
    .object [("name", .string "path"), ("type", .string "number")], .string "string", .null,
    .object [("name", .string " ")]]

theorem schemaOf_crowdedItems_accounts :
    ∃ schema issues, schemaOf (.array crowdedItems) = .ok (schema, issues) ∧
      (schema.names, issues) = (["path"],
        [.duplicate "path", .nameless 3, .nameless 4, .nameless 5]) ∧
      5 = schema.size + issues.countP (·.reportsDuplicate) +
        issues.countP (·.reportsNameless) ∧
      ∀ p, schema.get? "path" = some p → WellFormed "path" p := by
  have hrun : (schemaOf (.array crowdedItems)).toOption.map (fun r => (r.1.names, r.2)) =
      some (["path"], [.duplicate "path", .nameless 3, .nameless 4, .nameless 5]) := by
    decide +kernel
  cases h : schemaOf (.array crowdedItems) with
  | error reason => rw [h] at hrun; cases hrun
  | ok r =>
    obtain ⟨-, -, -, -, -, hlength, hformed⟩ := schemaOf_accounts_for_items h
    rw [h] at hrun
    exact ⟨r.1, r.2, rfl, Option.some.inj hrun, hlength, fun p hp => hformed "path" p hp⟩

end Parameter

end Roster
