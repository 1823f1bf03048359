import Roster.Command.Schema
import Roster.Proofs.Definition.Layout

/-! # Declarations of parameters

Parameters are declared by a mapping or by a list, which are read by loops of their
own. Either way there are entries, each with a name or without one, and they are
declared one after the other: what an entry is good for depends on nothing but the
entries in front of it. Hence the two layouts say the same.
-/
namespace Roster

namespace Parameter

/-- The names that have a meaning in what is written about a parameter. -/
def layout : Layout where
  names := ["name", "type", "required", "description", "default", "validation"]
  blocks := [("validation", ["pattern", "min_length", "minLength", "max_length", "maxLength",
    "minimum", "min", "maximum", "max", "enum"])]

namespace Written

/-- What is written about a parameter without the fields that have no meaning. -/
def tidied (w : WithExtra Written) : WithExtra Written :=
  ⟨{ w.known with constraints := w.known.constraints.map WithExtra.alone }, ∅⟩

theorem carries_tidyValue : ∀ f ∈ record.fields, f.Carries (layout.tidyValue f.key) fun w =>
    { w with constraints := w.constraints.map WithExtra.alone } := by
  intro f hf
  simp only [record, List.mem_cons, List.not_mem_nil, or_false] at hf
  rcases hf with rfl | rfl | rfl | rfl | rfl | rfl
  · exact Layout.carries_plain (by simp [layout]) fun _ _ => rfl
  · exact Layout.carries_plain (by simp [layout]) fun _ _ => rfl
  · exact Layout.carries_plain (by simp [layout]) fun _ _ => rfl
  · exact Layout.carries_plain (by simp [layout]) fun _ _ => rfl
  · exact Layout.carries_plain (by simp [layout]) fun _ _ => rfl
  · exact Layout.carries_block rfl fun _ _ => rfl

theorem read_tidy (m : NameMap Json) :
    record.read (layout.tidy m) = (record.read m).map tidied := by
  have hplain : ∀ k, k ∉ record.names → layout.tidyValue k = fun v => v := fun k hk =>
    Layout.tidyValue_of_plain fun b hb heq => hk (by simp_all [layout, record, Record.names])
  have hfields : ∀ f ∈ record.fields, layout.names.contains f.key = true ∧ _ := fun f hf =>
    ⟨List.contains_iff_mem.mpr (Record.key_mem_names hf), carries_tidyValue f hf⟩
  rw [Layout.tidy, Record.read_filter_mapEntries hfields hplain rfl, Record.read]
  cases record.readKnown m with
  | error reason => rfl
  | ok w =>
    refine congrArg (fun e => Except.ok (WithExtra.mk _ e)) ?_
    exact record.extra_filter_names m

theorem holds_name : record.Holds "name" (Shape.optional Shape.string) (·.name) :=
  Record.holds_of rfl (fun _ _ => rfl) (by simp [record, Field.keeps_of])

theorem holds_type : record.Holds "type" (Shape.optional Shape.string) (·.type) :=
  Record.holds_of rfl (fun _ _ => rfl) (by simp [record, Field.keeps_of])

theorem holds_default : record.Holds "default" (Shape.optional .ok) (·.default) :=
  Record.holds_of rfl (fun _ _ => rfl) (by simp [record, Field.keeps_of])

theorem holds_constraints : record.Holds "validation"
    (Shape.optional Constraints.Written.record.ofJson) (·.constraints) :=
  Record.holds_of rfl (fun _ _ => rfl) (by simp [record, Field.keeps_of])

end Written

/-! ## What an entry says -/

/-- What an entry says about its parameter. A text stands for the word of a type. -/
def specOf : Json → NameMap Json
  | .object l => .ofList l
  | .string type => NameMap.empty.insert "type" (.string type)
  | _ => ∅

/-- Whether a value can be an entry. -/
def isSpec : Json → Bool
  | .null | .string _ | .object _ => true
  | _ => false

/-- An entry that can be read. -/
def Readable (v : Json) : Prop :=
  isSpec v = true ∧ ∃ w, Written.record.read (specOf v) = .ok w

/-- What is read of an entry. -/
def writtenOf (v : Json) : WithExtra Written :=
  (Written.record.read (specOf v)).toOption.getD ⟨.empty, ∅⟩

/-- The parameter that an entry declares under a name, and what is noted about it. -/
def declared (v : Json) (n : String) : Parameter × List Issue :=
  ofWritten ("parameters." ++ n) (writtenOf v)

/-- The name that an entry of a list gives itself, if it is not blank. -/
def itemName (v : Json) : Option String :=
  (((specOf v).text? "name").map Text.trimmed).filter fun n => !n.isEmpty

theorem read_specOf_writtenOf {v : Json} (h : Readable v) :
    Written.record.read (specOf v) = .ok (writtenOf v) := by
  obtain ⟨-, w, hw⟩ := h
  rw [writtenOf, hw]
  rfl

theorem readKnown_specOf_writtenOf {v : Json} (h : Readable v) :
    Written.record.readKnown (specOf v) = .ok (writtenOf v).known :=
  (Record.read_eq_ok_iff.mp (read_specOf_writtenOf h)).1

theorem issues_ofWritten (field : String) (w : WithExtra Written) :
    (ofWritten field w).2 = Issue.unknownFields (some field) w.extra ++
      (Issue.parseWord (field ++ ".type") w.known.type : ParameterType × List Issue).2 ++
        w.known.constraints.elim [] fun c =>
          Issue.unknownFields (some (field ++ ".validation")) c.extra := by
  rw [ofWritten]
  cases w.known.constraints <;> rfl

theorem ofJson_of_readable {v : Json} (h : Readable v) (label : String) :
    Written.ofJson label v = .ok (writtenOf v) := by
  have hread := read_specOf_writtenOf h
  cases v with
  | null => exact congrArg Except.ok (Except.ok.inj hread)
  | string type => exact congrArg Except.ok (Except.ok.inj hread)
  | object l =>
    rw [Written.ofJson]
    change (Written.record.read (specOf (.object l))).mapError _ = _
    rw [hread]
    rfl
  | bool _ => cases h.1
  | number _ => cases h.1
  | array _ => cases h.1

theorem readable_of_ofJson {label : String} {v : Json} {w : WithExtra Written}
    (h : Written.ofJson label v = .ok w) : Readable v := by
  cases v with
  | null => exact ⟨rfl, _, rfl⟩
  | string type => exact ⟨rfl, _, rfl⟩
  | object l =>
    refine ⟨rfl, ?_⟩
    rw [Written.ofJson] at h
    change (Written.record.read (specOf (.object l))).mapError _ = _ at h
    cases hread : Written.record.read (specOf (.object l)) with
    | ok w => exact ⟨w, rfl⟩
    | error e => rw [hread] at h; cases h
  | bool _ => cases h
  | number _ => cases h
  | array _ => cases h

theorem trimmedName_writtenOf {v : Json} (h : Readable v) :
    (writtenOf v).known.trimmedName = itemName v := by
  rw [Written.trimmedName, itemName,
    Written.holds_name.text? rfl (readKnown_specOf_writtenOf h)]

/-! ## Entries declared one after the other -/

/-- An entry of a field that declares parameters. -/
structure Entry where
  /-- What messages call it. -/
  label : String
  /-- The name that it declares, if it has one. -/
  name : Option String
  value : Json

namespace Entry

def ofField (e : String × Json) : Entry := ⟨e.1, some e.1, e.2⟩

def ofItem (x : Json × Nat) : Entry := ⟨"#" ++ toString (x.2 + 1), itemName x.1, x.1⟩

/-- The entries of a field, in the order in which they are read. -/
def entriesOf : Json → List Entry
  | .object l => (NameMap.ofList l).entries.map ofField
  | .array items => items.zipIdx.map ofItem
  | _ => []

/-- What is noted about an entry behind others. Of those of one name the first is kept. -/
def issues (earlier : List Entry) (e : Entry) : List Issue :=
  match e.name with
  | some n =>
    if earlier.any (·.name == some n) then
      [.invalidValue ("parameters." ++ n)
        ("duplicate parameter '" ++ n ++ "'; the first declaration is kept")]
    else (declared e.value n).2
  | none =>
    [.invalidValue "parameters" ("parameter " ++ e.label ++ " has no name and is ignored")]

/-- The parameters and issues so far, and those of one more entry. -/
def declare (acc : NameMap Parameter × List Issue) (e : Entry) : NameMap Parameter × List Issue :=
  let (schema, more) := match e.name with
    | some n => add acc.1 n (writtenOf e.value)
    | none =>
      (acc.1, [.invalidValue "parameters"
        ("parameter " ++ e.label ++ " has no name and is ignored")])
  (schema, acc.2 ++ more)

/-- One turn of the loops. -/
def take (acc : NameMap Parameter × List Issue) (e : Entry) :
    Except String (NameMap Parameter × List Issue) :=
  (Written.ofJson e.label e.value).map fun _ => declare acc e

theorem take_eq_ok_iff (acc r : NameMap Parameter × List Issue) (e : Entry) :
    take acc e = .ok r ↔ Readable e.value ∧ declare acc e = r := by
  rw [take, map_eq_ok_iff]
  constructor
  · rintro ⟨w, hw, rfl⟩
    exact ⟨readable_of_ofJson hw, rfl⟩
  · rintro ⟨hreadable, rfl⟩
    exact ⟨_, ofJson_of_readable hreadable e.label, rfl⟩

theorem foldlM_take_eq_ok_iff (es : List Entry) (acc r : NameMap Parameter × List Issue) :
    es.foldlM take acc = .ok r ↔ (∀ e ∈ es, Readable e.value) ∧ es.foldl declare acc = r := by
  induction es generalizing acc with
  | nil => simp [pure, Except.pure]
  | cons e es ih =>
    rw [foldlM_cons_eq_ok_iff, List.forall_mem_cons, List.foldl_cons]
    constructor
    · rintro ⟨acc', he, hes⟩
      obtain ⟨hreadable, rfl⟩ := (take_eq_ok_iff ..).mp he
      obtain ⟨hall, hr⟩ := (ih _).mp hes
      exact ⟨⟨hreadable, hall⟩, hr⟩
    · rintro ⟨⟨hreadable, hall⟩, hr⟩
      exact ⟨_, (take_eq_ok_iff ..).mpr ⟨hreadable, rfl⟩, (ih _).mpr ⟨hall, hr⟩⟩

theorem ofFields_eq (m : NameMap Json) :
    ofFields m = (m.entries.map ofField).foldlM take (∅, []) := by
  rw [ofFields, List.foldlM_map]
  congr 1
  funext ⟨schema, issues⟩ ⟨n, v⟩
  simp only [take, declare, ofField]
  cases h : Written.ofJson n v with
  | error reason => rfl
  | ok w =>
    have hw := ofJson_of_readable (readable_of_ofJson h) n
    rw [h] at hw
    cases hw
    rfl

theorem ofItems_eq (items : List Json) :
    ofItems items = (items.zipIdx.map ofItem).foldlM take (∅, []) := by
  rw [ofItems, List.foldlM_map]
  congr 1
  funext ⟨schema, issues⟩ ⟨v, i⟩
  simp only [take, declare, ofItem]
  cases h : Written.ofJson ("#" ++ toString (i + 1)) v with
  | error reason => rfl
  | ok w =>
    have hw := ofJson_of_readable (readable_of_ofJson h) ("#" ++ toString (i + 1))
    rw [h] at hw
    cases hw
    rw [← trimmedName_writtenOf (readable_of_ofJson h)]
    rfl

/-- Whether a value can be the field that declares parameters. -/
def isField : Json → Bool
  | .null | .object _ | .array _ => true
  | _ => false

/-- A field declares what its entries declare one after the other, if all of them can be read. -/
theorem schemaOf_eq_ok_iff (v : Json) (r : NameMap Parameter × List Issue) :
    schemaOf v = .ok r ↔ isField v = true ∧ (∀ e ∈ entriesOf v, Readable e.value) ∧
      (entriesOf v).foldl declare (∅, []) = r := by
  cases v with
  | object l =>
    rw [schemaOf, ofFields_eq, foldlM_take_eq_ok_iff]
    exact (and_iff_right rfl).symm
  | array items =>
    rw [schemaOf, ofItems_eq, foldlM_take_eq_ok_iff]
    exact (and_iff_right rfl).symm
  | null => simp [schemaOf, isField, entriesOf]
  | bool _ => simp [schemaOf, isField]
  | number _ => simp [schemaOf, isField]
  | string _ => simp [schemaOf, isField]

/-- The parameters of some entries: each name has what its first entry declares. -/
def Declares (es : List Entry) (schema : NameMap Parameter) : Prop :=
  ∀ n, schema.get? n = (es.find? (·.name == some n)).map fun e => (declared e.value n).1

theorem Declares.contains {es : List Entry} {schema : NameMap Parameter} (h : Declares es schema)
    (n : String) : schema.contains n = es.any (·.name == some n) := by
  rw [NameMap.contains_eq_isSome, h, Option.isSome_map, Bool.eq_iff_iff, List.find?_isSome,
    List.any_eq_true]

/-- What is said about each of some entries behind others, given the entries in front of it. -/
def eachAfter {β : Type} (f : List Entry → Entry → List β) : List Entry → List Entry → List β
  | _, [] => []
  | earlier, e :: es => f earlier e ++ eachAfter f (earlier ++ [e]) es

theorem exists_of_mem_eachAfter {β : Type} {f : List Entry → Entry → List β} {b : β}
    {es earlier : List Entry} (h : b ∈ eachAfter f earlier es) : ∃ front e, b ∈ f front e := by
  induction es generalizing earlier with
  | nil => cases h
  | cons e es ih =>
    rcases List.mem_append.mp h with h | h
    · exact ⟨earlier, e, h⟩
    · exact ih h

theorem declare_step {earlier : List Entry} {acc : NameMap Parameter × List Issue}
    (h : Declares earlier acc.1) (e : Entry) :
    Declares (earlier ++ [e]) (declare acc e).1 ∧
      (declare acc e).2 = acc.2 ++ issues earlier e := by
  cases hname : e.name with
  | none =>
    -- an entry without a name is the first of no name
    simp only [declare, issues, hname, and_true]
    intro n
    rw [h, List.find?_append, List.find?_singleton]
    simp [hname]
  | some n =>
    simp only [declare, issues, hname, add, h.contains n]
    cases hany : earlier.any (·.name == some n) with
    | true =>
      -- the first of the name stands in front of the entry
      simp only [if_true, and_true]
      intro k
      rw [h, List.find?_append, List.find?_singleton]
      by_cases hk : n = k
      · subst hk
        have hsome := List.find?_isSome.mpr (List.any_eq_true.mp hany)
        obtain ⟨d, hd⟩ := Option.isSome_iff_exists.mp hsome
        simp [hd]
      · simp [hname, hk]
    | false =>
      -- the entry is the first of its name, and no other name is touched
      simp only [Bool.false_eq_true, if_false]
      refine ⟨fun k => ?_, rfl⟩
      rw [NameMap.get?_insert, h, List.find?_append, List.find?_singleton]
      by_cases hk : n = k
      · subst hk
        have hnone : earlier.find? (·.name == some n) = none := by
          rw [List.find?_eq_none]
          simpa using hany
        simp [hname, hnone, declared]
      · simp [hname, hk]

/-- The entries of a run keep the parameters of those in front of them, and add what is noted about
each of them. -/
theorem declare_run (es : List Entry) {earlier : List Entry}
    {acc : NameMap Parameter × List Issue} (h : Declares earlier acc.1) :
    Declares (earlier ++ es) (es.foldl declare acc).1 ∧
      (es.foldl declare acc).2 = acc.2 ++ eachAfter issues earlier es := by
  induction es generalizing earlier acc with
  | nil => simpa [eachAfter] using h
  | cons e es ih =>
    obtain ⟨hdeclares, hissues⟩ := declare_step h e
    obtain ⟨hrun, hrest⟩ := ih hdeclares
    rw [List.append_assoc, List.singleton_append] at hrun
    refine ⟨hrun, ?_⟩
    rw [List.foldl_cons, hrest, hissues, eachAfter, List.append_assoc]

theorem declare_all (es : List Entry) :
    Declares es (es.foldl declare (∅, [])).1 ∧
      (es.foldl declare (∅, [])).2 = eachAfter issues [] es := by
  have hstart : Declares [] ((∅, []) : NameMap Parameter × List Issue).1 := fun _ => rfl
  exact declare_run es hstart

end Entry

end Parameter

end Roster
