import Roster.Proofs.Command.Schema

/-! # What is noted about parameters

Of each parameter that is kept, every name without meaning is noted and so is a
type that is not known. Of an entry that declares no parameter it is noted that it
does not. Names without meaning do not matter to anything else.
-/
namespace Roster

theorem Constraints.notes_extra {m : NameMap Json} {o : Option (WithExtra Written)}
    (ho : Written.record.ReadsAt m "validation" o) (path : String) :
    Issue.Notes (o.elim [] fun c => Issue.unknownFields (some path) c.extra)
      ((unknownNames Written.record.names (m.block "validation")).map fun k => path ++ "." ++ k)
      [] := by
  rcases ho with ⟨rfl, hm⟩ | ⟨c, rfl, hc⟩
  · rw [hm]
    exact Issue.notes_nil
  · rw [← Issue.fields_unknownFields, ← (Record.read_eq_ok_iff.mp hc).2]
    exact Issue.notes_unknownFields (some path) c.extra

namespace Parameter

/-! ## One parameter -/

/-- The fields of a parameter whose texts say nothing. -/
def unreadableIn (field : String) (m : NameMap Json) : List String :=
  if (m.text? "type").any (Vocabulary.isUnknown ParameterType) then [field ++ ".type"] else []

theorem unknownPaths_layout (m : NameMap Json) :
    layout.unknownPaths m = unknownNames Written.record.names m ++
      (unknownNames Constraints.Written.record.names (m.block "validation")).map fun k =>
        "validation" ++ "." ++ k := by
  rw [Layout.unknownPaths]
  exact congrArg _ (List.append_nil _)

theorem notes_ofWritten {m : NameMap Json} {w : WithExtra Written}
    (hw : Written.record.read m = .ok w) (field : String) :
    Issue.Notes (ofWritten field w).2
      ((layout.unknownPaths m).map fun k => field ++ "." ++ k) (unreadableIn field m) := by
  obtain ⟨hknown, hextra⟩ := Record.read_eq_ok_iff.mp hw
  have hunknown := Issue.notes_unknownFields (some field) w.extra
  have htype := (Issue.settled_parseWord ParameterType (field ++ ".type") w.known.type).notes
  have hconstraints := Constraints.notes_extra (Written.holds_constraints.readsAt rfl hknown)
    (field ++ ".validation")
  have hnotes := (hunknown.append htype).append hconstraints
  have htext : w.known.type = m.text? "type" := Written.holds_type.text? rfl hknown
  -- the path of a name in the constraints is that of the block with the name
  have hpath : ∀ k, field ++ "." ++ ("validation" ++ "." ++ k) =
      field ++ ".validation" ++ "." ++ k := by
    intro k
    simp only [String.append_assoc]
    rfl
  rw [hextra, Issue.fields_unknownFields, ← hextra, List.append_nil, List.nil_append,
    List.append_nil] at hnotes
  rw [issues_ofWritten, unreadableIn, ← htext, unknownPaths_layout, List.map_append, List.map_map]
  simp only [Function.comp_def, hpath]
  exact hnotes

theorem ofWritten_tidied (field : String) (w : WithExtra Written) :
    ofWritten field (Written.tidied w) =
      ((ofWritten field w).1, Issue.withoutUnknown (ofWritten field w).2) := by
  have htype :=
    (Issue.settled_parseWord ParameterType (field ++ ".type") w.known.type).withoutUnknown
  simp only [ofWritten, Written.tidied, Issue.withoutUnknown_append,
    Issue.withoutUnknown_unknownFields, htype]
  cases w.known.constraints with
  | none => rfl
  | some c =>
    simp only [Option.map_some, Issue.withoutUnknown_unknownFields]
    rfl

/-- An entry without the names that have no meaning. -/
def tidySpec : Json → Json
  | .object l => .ofMap (layout.tidy (.ofList l))
  | v => v

theorem specOf_tidySpec (v : Json) : specOf (tidySpec v) = layout.tidy (specOf v) := by
  cases v with
  | object l => exact NameMap.ofList_entries _
  | _ => rfl

theorem isSpec_tidySpec (v : Json) : isSpec (tidySpec v) = isSpec v := by
  cases v <;> rfl

theorem read_tidySpec (v : Json) :
    Written.record.read (specOf (tidySpec v)) =
      (Written.record.read (specOf v)).map Written.tidied := by
  rw [specOf_tidySpec]
  exact Written.read_tidy (specOf v)

theorem readable_tidySpec {v : Json} (h : Readable v) : Readable (tidySpec v) := by
  refine ⟨(isSpec_tidySpec v).trans h.1, Written.tidied (writtenOf v), ?_⟩
  rw [read_tidySpec, read_specOf_writtenOf h]
  rfl

theorem writtenOf_tidySpec (v : Json) :
    writtenOf (tidySpec v) = Written.tidied (writtenOf v) := by
  rw [writtenOf, writtenOf, read_tidySpec]
  cases Written.record.read (specOf v) <;> rfl

theorem itemName_tidySpec (v : Json) : itemName (tidySpec v) = itemName v := by
  rw [itemName, itemName, specOf_tidySpec, Layout.text?_tidy (by simp [layout]) (by simp [layout])]

/-! ## All entries -/

namespace Entry

/-- The places of the names without meaning in an entry behind others. In one that declares no
parameter no name is looked at. -/
def unknownPaths (earlier : List Entry) (e : Entry) : List String :=
  match e.name with
  | some n =>
    if earlier.any (·.name == some n) then []
    else (layout.unknownPaths (specOf e.value)).map fun k => "parameters." ++ n ++ "." ++ k
  | none => []

/-- The places of what cannot be read in an entry behind others: it may have no name, or that of
one of the others, or a type that is not known. -/
def unreadable (earlier : List Entry) (e : Entry) : List String :=
  match e.name with
  | some n =>
    if earlier.any (·.name == some n) then ["parameters." ++ n]
    else unreadableIn ("parameters." ++ n) (specOf e.value)
  | none => ["parameters"]

theorem notes_issues (earlier : List Entry) {e : Entry} (h : Readable e.value) :
    Issue.Notes (issues earlier e) (unknownPaths earlier e) (unreadable earlier e) := by
  rw [issues, unknownPaths, unreadable]
  cases e.name with
  | none => exact Issue.notes_invalidValue _ _
  | some n =>
    dsimp only
    split
    · exact Issue.notes_invalidValue _ _
    · exact notes_ofWritten (read_specOf_writtenOf h) _

theorem notes_eachAfter {es earlier : List Entry} (h : ∀ e ∈ es, Readable e.value) :
    Issue.Notes (eachAfter issues earlier es) (eachAfter unknownPaths earlier es)
      (eachAfter unreadable earlier es) := by
  induction es generalizing earlier with
  | nil => exact Issue.notes_nil
  | cons e es ih =>
    obtain ⟨he, hes⟩ := List.forall_mem_cons.mp h
    exact (notes_issues earlier he).append (ih hes)

def tidied (e : Entry) : Entry :=
  { e with value := tidySpec e.value }

/-- What is declared, without the issues about names that have no meaning. -/
def withoutUnknown (acc : NameMap Parameter × List Issue) : NameMap Parameter × List Issue :=
  (acc.1, Issue.withoutUnknown acc.2)

theorem declare_tidied (acc : NameMap Parameter × List Issue) (e : Entry) :
    declare (withoutUnknown acc) e.tidied = withoutUnknown (declare acc e) := by
  simp only [declare, tidied, withoutUnknown, Issue.withoutUnknown_append]
  cases e.name with
  | none => rfl
  | some n =>
    simp only [add, writtenOf_tidySpec, ofWritten_tidied]
    split <;> rfl

/-- Tidied entries declare the same one after the other. -/
theorem foldl_declare_tidied (es : List Entry) (acc : NameMap Parameter × List Issue) :
    (es.map tidied).foldl declare (withoutUnknown acc) = withoutUnknown (es.foldl declare acc) := by
  rw [List.foldl_map]
  exact List.foldl_hom withoutUnknown declare_tidied

end Entry

open Entry

/-- The places of the names without meaning in what declares parameters. -/
def unknownPaths (v : Json) : List String :=
  eachAfter Entry.unknownPaths [] (entriesOf v)

/-- The places of what cannot be read in what declares parameters. -/
def unreadable (v : Json) : List String :=
  eachAfter Entry.unreadable [] (entriesOf v)

theorem prefix_of_mem_unreadable {v : Json} {path : String} (h : path ∈ unreadable v) :
    "parameters".toList <+: path.toList := by
  obtain ⟨front, e, h⟩ := exists_of_mem_eachAfter h
  rw [Entry.unreadable] at h
  split at h
  · next n _ =>
    have hname : "parameters".toList <+: ("parameters." ++ n).toList := by
      rw [String.toList_append]
      exact List.IsPrefix.trans (by decide) (List.prefix_append ..)
    split at h
    · rw [List.mem_singleton.mp h]
      exact hname
    · rw [unreadableIn] at h
      split at h
      · rw [List.mem_singleton.mp h, String.toList_append]
        exact hname.trans (List.prefix_append ..)
      · cases h
  · obtain rfl := List.mem_singleton.mp h
    exact List.prefix_refl _

/-- What declares parameters, without the names that have no meaning. -/
def tidyField : Json → Json
  | .object l => .ofMap ((NameMap.ofList l).mapEntries fun _ v => tidySpec v)
  | .array items => .array (items.map tidySpec)
  | v => v

theorem isField_tidyField (v : Json) : isField (tidyField v) = isField v := by
  cases v <;> rfl

theorem entriesOf_tidyField (v : Json) : entriesOf (tidyField v) = (entriesOf v).map tidied := by
  cases v with
  | object l =>
    rw [tidyField, Json.ofMap, entriesOf, NameMap.ofList_entries, entriesOf, List.map_map,
      NameMap.mapEntries, List.map_map]
    rfl
  | array items =>
    simp only [tidyField, entriesOf, List.zipIdx_map, List.map_map]
    refine List.map_congr_left fun x _ => ?_
    simp [ofItem, tidied, itemName_tidySpec]
  | _ => rfl

section Accepted

variable {v : Json} {schema : NameMap Parameter} {issues : List Issue}
  (h : schemaOf v = .ok (schema, issues))

include h

theorem notes_schemaOf : Issue.Notes issues (unknownPaths v) (unreadable v) := by
  obtain ⟨-, hreadable, hall⟩ := (schemaOf_eq_ok_iff v _).mp h
  obtain ⟨-, hissues⟩ := declare_all (entriesOf v)
  rw [hall] at hissues
  rw [show issues = _ from hissues]
  exact notes_eachAfter hreadable

/-- The first entry of a name declares its parameter, whose type is the standard one if the word
for it is not known. -/
theorem get?_of_schemaOf {n : String} {e : Entry}
    (he : (entriesOf v).find? (·.name == some n) = some e) :
    ∃ p, schema.get? n = some p ∧
      (((specOf e.value).text? "type").any (Vocabulary.isUnknown ParameterType) = true →
        p.type = .string) := by
  obtain ⟨-, hreadable, hall⟩ := (schemaOf_eq_ok_iff v _).mp h
  obtain ⟨hdeclares, -⟩ := declare_all (entriesOf v)
  rw [hall] at hdeclares
  refine ⟨(declared e.value n).1, ?_, fun hbad => ?_⟩
  · rw [hdeclares, he, Option.map_some]
  · have hw := readKnown_specOf_writtenOf (hreadable e (List.mem_of_find?_eq_some he))
    rw [← Written.holds_type.text? rfl hw] at hbad
    exact (Issue.settled_parseWord ParameterType ("parameters." ++ n ++ ".type")
      (writtenOf e.value).known.type).eq_fallback hbad

theorem schemaOf_tidyField :
    schemaOf (tidyField v) = .ok (schema, Issue.withoutUnknown issues) := by
  obtain ⟨hfield, hreadable, hall⟩ := (schemaOf_eq_ok_iff v _).mp h
  rw [schemaOf_eq_ok_iff, isField_tidyField, entriesOf_tidyField, List.forall_mem_map]
  refine ⟨hfield, fun e he => readable_tidySpec (hreadable e he), ?_⟩
  have htidied := foldl_declare_tidied (entriesOf v) (∅, [])
  rw [hall] at htidied
  exact htidied

end Accepted

end Parameter

end Roster
