import Roster.Proofs.Command.Schema
import Mathlib.Data.List.Nodup

/-! # The two layouts of parameters

A mapping from names to parameters can be written as a list, in any order, each
entry with its name in it. Both layouts are accepted or neither is, and they
declare the same parameters with the same issues.
-/
namespace Roster.Parameter

/-- An entry of a mapping that leaves its name to the mapping. -/
inductive IsUnnamed : Json → Prop
  | null : IsUnnamed .null
  | word (type : String) : IsUnnamed (.string type)
  | mapping (l : List (String × Json)) (unnamed : ∀ f ∈ l, f.1 ≠ "name") : IsUnnamed (.object l)

/-- An entry of a mapping as one of a list. -/
def listed : String × Json → Json
  | (n, .null) => .object [("name", .string n)]
  | (n, .string type) => .object [("name", .string n), ("type", .string type)]
  | (n, .object l) => .object (l ++ [("name", .string n)])
  | (_, v) => v

theorem specOf_listed (n : String) {v : Json} (h : IsUnnamed v) :
    specOf (listed (n, v)) = (specOf v).insert "name" (.string n) := by
  cases h with
  | null => rfl
  | word type => exact NameMap.insert_comm ∅ (by simp) _ _
  | mapping l _ =>
    change NameMap.ofList (l ++ [("name", .string n)]) = _
    rw [NameMap.ofList, List.foldl_append]
    rfl

theorem get?_name_specOf {v : Json} (h : IsUnnamed v) : (specOf v).get? "name" = none := by
  cases h with
  | null => rfl
  | word type => rfl
  | mapping l unnamed => exact NameMap.get?_foldl_insert_of_ne unnamed ∅

namespace Written

/-- What is written about a parameter together with a name. -/
def withName (n : String) (w : Written) : Written :=
  { w with name := some n }

/-- The name of a parameter has no influence on the other fields. -/
theorem read_insert_name {m : NameMap Json} (hm : m.get? "name" = none) (n : String) :
    record.read (m.insert "name" (.string n)) =
      (record.read m).map (WithExtra.map (withName n)) := by
  refine Record.read_insert (by decide) (fun a => rfl) ?_ hm
  -- every field but the name itself is taken over alike with a name and without one
  intro f hf hname
  simp only [record, List.mem_cons, List.not_mem_nil, or_false] at hf
  rcases hf with rfl | rfl | rfl | rfl | rfl | rfl
  · exact absurd rfl hname
  all_goals exact Field.carries_of_same fun _ _ => rfl

end Written

section Entries

variable {n : String} {v : Json}

theorem readable_listed_iff (h : IsUnnamed v) : Readable (listed (n, v)) ↔ Readable v := by
  have hspec : isSpec (listed (n, v)) = isSpec v := by cases h <;> rfl
  rw [Readable, Readable, hspec, specOf_listed n h,
    Written.read_insert_name (get?_name_specOf h)]
  cases Written.record.read (specOf v) <;> simp [Except.map]

/-- What an entry declares under a name does not depend on the name in it. -/
theorem declared_listed (h : IsUnnamed v) (k : String) :
    declared (listed (n, v)) k = declared v k := by
  rw [declared, declared, writtenOf, writtenOf, specOf_listed n h,
    Written.read_insert_name (get?_name_specOf h)]
  cases Written.record.read (specOf v) <;> rfl

theorem itemName_listed (h : IsUnnamed v) (hempty : n ≠ "") (htrimmed : Text.trimmed n = n) :
    itemName (listed (n, v)) = some n := by
  rw [itemName, specOf_listed n h, NameMap.text?, NameMap.get?_insert, if_pos rfl]
  simp [Json.string?, htrimmed, hempty]

end Entries

namespace Entry

/-- What an entry is, whatever messages call it. -/
def pair (e : Entry) : Option String × Json := (e.name, e.value)

/-- What is noted about an entry that is the first of its name. -/
def ownIssues : Option String × Json → List Issue
  | (some n, v) => (declared v n).2
  | (none, _) => []

theorem issues_of_fresh {earlier : List Entry} {e : Entry} (hnamed : e.name ≠ none)
    (hfresh : ∀ d ∈ earlier, d.name ≠ e.name) : e.issues earlier = ownIssues e.pair := by
  cases hname : e.name with
  | none => exact absurd hname hnamed
  | some n =>
    have hany : earlier.any (·.name == some n) = false := by
      rw [hname] at hfresh
      simpa using hfresh
    simp [issues, pair, ownIssues, hname, hany]

theorem eachAfter_issues {es earlier : List Entry} (hnodup : (es.map (·.name)).Nodup)
    (hnamed : ∀ e ∈ es, e.name ≠ none) (hfresh : ∀ d ∈ earlier, ∀ e ∈ es, d.name ≠ e.name) :
    eachAfter issues earlier es = (es.map pair).flatMap ownIssues := by
  induction es generalizing earlier with
  | nil => rfl
  | cons e es ih =>
    rw [List.map_cons, List.nodup_cons] at hnodup
    rw [eachAfter, List.map_cons, List.flatMap_cons,
      issues_of_fresh (hnamed e List.mem_cons_self) fun d hd => hfresh d hd e List.mem_cons_self]
    congr 1
    refine ih hnodup.2 (fun x hx => hnamed x (List.mem_cons_of_mem e hx)) fun d hd x hx => ?_
    rcases List.mem_append.mp hd with hd | hd
    · exact hfresh d hd x (List.mem_cons_of_mem e hx)
    · rw [List.mem_singleton.mp hd]
      exact fun heq => hnodup.1 (heq ▸ List.mem_map_of_mem hx)

theorem get?_eq_some_iff {es : List Entry} {schema : NameMap Parameter}
    (h : Declares es schema) (hnodup : (es.map (·.name)).Nodup) (n : String) (p : Parameter) :
    schema.get? n = some p ↔ ∃ v, (some n, v) ∈ es.map pair ∧ (declared v n).1 = p := by
  rw [h, Option.map_eq_some_iff]
  have hfound : ∀ e, es.find? (·.name == some n) = some e → e.name = some n := fun e he => by
    simpa using List.find?_some he
  constructor
  · rintro ⟨e, he, rfl⟩
    refine ⟨e.value, List.mem_map.mpr ⟨e, List.mem_of_find?_eq_some he, ?_⟩, rfl⟩
    rw [pair, hfound e he]
  · rintro ⟨v, hv, rfl⟩
    obtain ⟨e, he, hpair⟩ := List.mem_map.mp hv
    obtain ⟨hname, rfl⟩ := Prod.mk.inj hpair
    have hsome : (es.find? (·.name == some n)).isSome := by
      rw [List.find?_isSome]
      exact ⟨e, he, by simp [hname]⟩
    obtain ⟨d, hd⟩ := Option.isSome_iff_exists.mp hsome
    have hde : d = e := List.inj_on_of_nodup_map hnodup (List.mem_of_find?_eq_some hd) he
      ((hfound d hd).trans hname.symm)
    exact ⟨d, hd, by rw [hde]⟩

theorem readable_iff_pairs (es : List Entry) :
    (∀ e ∈ es, Readable e.value) ↔ ∀ x ∈ es.map pair, Readable x.2 := by
  rw [List.forall_mem_map]
  rfl

theorem names_eq_pairs (es : List Entry) : es.map (·.name) = (es.map pair).map (·.1) := by
  rw [List.map_map]
  rfl

theorem pairs_fields (m : NameMap Json) :
    (entriesOf (.ofMap m)).map pair = m.entries.map fun e => (some e.1, e.2) := by
  rw [Json.ofMap, entriesOf, NameMap.ofList_entries, List.map_map]
  rfl

theorem pairs_items (items : List Json) :
    (entriesOf (.array items)).map pair = items.map fun v => (itemName v, v) := by
  calc
    _ = items.zipIdx.map fun x => (itemName x.1, x.1) := by rw [entriesOf, List.map_map]; rfl
    _ = (items.zipIdx.map Prod.fst).map fun v => (itemName v, v) := by rw [List.map_map]; rfl
    _ = items.map fun v => (itemName v, v) := by rw [List.zipIdx_map_fst]

theorem nodup_some_names (m : NameMap Json) : (m.entries.map fun e => some e.1).Nodup := by
  have hsome : (m.names.map some).Nodup :=
    m.nodup_names.map fun _ _ heq => Option.some.inj heq
  rwa [NameMap.names, List.map_map] at hsome

theorem nodup_fields (m : NameMap Json) : ((entriesOf (.ofMap m)).map (·.name)).Nodup := by
  rw [names_eq_pairs, pairs_fields, List.map_map]
  exact nodup_some_names m

theorem named_of_pairs {es : List Entry} (hes : ∀ x ∈ es.map pair, x.1 ≠ none) :
    ∀ e ∈ es, e.name ≠ none :=
  fun e he => hes e.pair (List.mem_map_of_mem he)

theorem eachAfter_fields (m : NameMap Json) :
    eachAfter issues [] (entriesOf (.ofMap m)) =
      ((entriesOf (.ofMap m)).map pair).flatMap ownIssues := by
  refine eachAfter_issues (nodup_fields m) (named_of_pairs ?_) (by simp)
  rw [pairs_fields, List.forall_mem_map]
  exact fun e _ => nofun

end Entry

/-- A list that says of each entry of a mapping what the mapping says, in any order. -/
structure ListForm (m : NameMap Json) (items : List Json) : Prop where
  named : ∀ e ∈ m.entries, e.1 ≠ "" ∧ Text.trimmed e.1 = e.1
  unnamed : ∀ e ∈ m.entries, IsUnnamed e.2
  perm : items.Perm (m.entries.map listed)

namespace ListForm

open Entry

variable {m : NameMap Json} {items : List Json}

theorem pairs_listed (h : ListForm m items) :
    (m.entries.map listed).map (fun v => (itemName v, v)) =
      m.entries.map fun e => (some e.1, listed e) := by
  rw [List.map_map]
  refine List.map_congr_left fun e he => ?_
  rw [Function.comp_apply,
    itemName_listed (h.unnamed e he) (h.named e he).1 (h.named e he).2]

theorem pairs_items_perm (h : ListForm m items) :
    ((entriesOf (.array items)).map pair).Perm (m.entries.map fun e => (some e.1, listed e)) := by
  rw [pairs_items, ← h.pairs_listed]
  exact h.perm.map _

theorem nodup_items (h : ListForm m items) : ((entriesOf (.array items)).map (·.name)).Nodup := by
  rw [names_eq_pairs, (h.pairs_items_perm.map (·.1)).nodup_iff, List.map_map]
  exact nodup_some_names m

theorem readable_items_iff (h : ListForm m items) :
    (∀ e ∈ entriesOf (.array items), Readable e.value) ↔
      ∀ e ∈ entriesOf (.ofMap m), Readable e.value := by
  simp only [readable_iff_pairs, h.pairs_items_perm.mem_iff, pairs_fields, List.forall_mem_map]
  exact forall₂_congr fun e he => readable_listed_iff (h.unnamed e he)

theorem schema_eq (h : ListForm m items) {schema schema' : NameMap Parameter}
    (hfields : Declares (entriesOf (.ofMap m)) schema)
    (hitems : Declares (entriesOf (.array items)) schema') : schema = schema' := by
  -- what a name stands for is a matter of membership, which does not see the order of the list
  refine NameMap.ext_get? fun n => Option.ext fun p => ?_
  rw [get?_eq_some_iff hfields (nodup_fields m), get?_eq_some_iff hitems h.nodup_items,
    pairs_fields]
  simp only [h.pairs_items_perm.mem_iff, List.mem_map]
  constructor
  · rintro ⟨v, ⟨e, he, hpair⟩, rfl⟩
    obtain ⟨hname, rfl⟩ := Prod.mk.inj hpair
    refine ⟨listed e, ⟨e, he, by rw [hname]⟩, ?_⟩
    rw [declared_listed (h.unnamed e he)]
  · rintro ⟨v, ⟨e, he, hpair⟩, rfl⟩
    obtain ⟨hname, rfl⟩ := Prod.mk.inj hpair
    refine ⟨e.2, ⟨e, he, by rw [hname]⟩, ?_⟩
    rw [declared_listed (h.unnamed e he)]

theorem ownIssues_listed (h : ListForm m items) :
    (m.entries.map fun e => (some e.1, listed e)).flatMap ownIssues =
      ((entriesOf (.ofMap m)).map pair).flatMap ownIssues := by
  rw [pairs_fields, List.flatMap_map, List.flatMap_map, List.flatMap_def, List.flatMap_def]
  refine congrArg List.flatten (List.map_congr_left fun e he => ?_)
  rw [ownIssues, ownIssues, declared_listed (h.unnamed e he)]

theorem eachAfter_items (h : ListForm m items) :
    eachAfter issues [] (entriesOf (.array items)) =
      ((entriesOf (.array items)).map pair).flatMap ownIssues := by
  refine eachAfter_issues h.nodup_items (named_of_pairs ?_) (by simp)
  simp only [h.pairs_items_perm.mem_iff, List.forall_mem_map]
  exact fun e _ => nofun

end ListForm

open Entry

/-- The two layouts are equivalent. A mapping of parameters and any list form of it are both
accepted or neither is, and they declare the same parameters with the same issues, which come in the
order of the entries. -/
theorem layouts_agree {m : NameMap Json} {items : List Json} (h : ListForm m items) :
    ((∃ r, schemaOf (.ofMap m) = .ok r) ↔ ∃ r, schemaOf (.array items) = .ok r) ∧
      ∀ schema issues schema' issues', schemaOf (.ofMap m) = .ok (schema, issues) →
        schemaOf (.array items) = .ok (schema', issues') →
        schema = schema' ∧ issues.Perm issues' ∧
          (items = m.entries.map listed → issues = issues') := by
  constructor
  · simp only [schemaOf_eq_ok_iff, h.readable_items_iff]
    constructor
    · rintro ⟨_, -, hreadable, -⟩
      exact ⟨_, rfl, hreadable, rfl⟩
    · rintro ⟨_, -, hreadable, -⟩
      exact ⟨_, rfl, hreadable, rfl⟩
  · intro schema issues schema' issues' hfields hitems
    obtain ⟨-, -, hfields⟩ := (schemaOf_eq_ok_iff ..).mp hfields
    obtain ⟨-, -, hitems⟩ := (schemaOf_eq_ok_iff ..).mp hitems
    obtain ⟨hdeclares, hissues⟩ := declare_all (entriesOf (.ofMap m))
    obtain ⟨hdeclares', hissues'⟩ := declare_all (entriesOf (.array items))
    rw [hfields, eachAfter_fields, ← h.ownIssues_listed] at hissues
    rw [hitems, h.eachAfter_items] at hissues'
    rw [hfields] at hdeclares
    rw [hitems] at hdeclares'
    dsimp only at hissues hissues'
    refine ⟨h.schema_eq hdeclares hdeclares', ?_, fun hitems => ?_⟩
    · rw [hissues, hissues']
      exact (h.pairs_items_perm.flatMap_right _).symm
    · rw [hissues, hissues', pairs_items, hitems, h.pairs_listed]

/-- Entries of each form, with names that have no meaning and a type that is not known. -/
def sampleEntries : NameMap Json where
  entries := [("count", .object [("type", .string "int"), ("validation",
      .object [("maxLength", .ofInt 3), ("minn", .null)])]),
    ("mode", .string "colour"), ("target", .null)]
  ordered := by decide +kernel

def sampleItems : List Json :=
  [.object [("name", .string "target")],
    .object [("type", .string "int"), ("validation",
      .object [("maxLength", .ofInt 3), ("minn", .null)]), ("name", .string "count")],
    .object [("name", .string "mode"), ("type", .string "colour")]]

theorem listForm_sample : ListForm sampleEntries sampleItems where
  named := by decide +kernel
  unnamed := by
    intro e he
    simp only [sampleEntries, List.mem_cons, List.not_mem_nil, or_false] at he
    rcases he with rfl | rfl | rfl
    · exact .mapping _ (by simp)
    · exact .word "colour"
    · exact .null
  perm := (List.perm_append_singleton sampleItems[0] sampleItems.tail).symm

theorem layouts_of_sample_agree :
    ListForm sampleEntries sampleItems ∧ ∃ schema issues issues',
      schemaOf (.ofMap sampleEntries) = .ok (schema, issues) ∧
      schemaOf (.array sampleItems) = .ok (schema, issues') ∧ issues.Perm issues' := by
  have hok : (schemaOf (.ofMap sampleEntries)).isOk = true := by decide +kernel
  obtain ⟨haccepted, hequal⟩ := layouts_agree listForm_sample
  cases hfields : schemaOf (.ofMap sampleEntries) with
  | error reason => rw [hfields] at hok; cases hok
  | ok r =>
    obtain ⟨r', hitems⟩ := haccepted.mp ⟨r, hfields⟩
    obtain ⟨hschema, hissues, -⟩ := hequal r.1 r.2 r'.1 r'.2 hfields hitems
    exact ⟨listForm_sample, r.1, r.2, r'.2, rfl, hschema ▸ hitems, hissues⟩

end Roster.Parameter
