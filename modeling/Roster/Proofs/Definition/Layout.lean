import Roster.Definition.Heading
import Roster.Definition.Security
import Roster.Proofs.Json.Record

/-! # What is noted about metadata

A layout says which names have a meaning in the metadata of a definition, and
which have one in the mappings within it. What is noted while metadata is read is
compared with its layout: there is an issue for each name without meaning, and for
each text that says nothing.
-/
namespace Roster

/-- The names of a mapping that are not among those with a meaning. -/
def unknownNames (names : List String) (m : NameMap Json) : List String :=
  m.names.filter fun k => !names.contains k

theorem names_filter (m : NameMap Json) (keep : String → Bool) :
    (m.filter fun k _ => keep k).names = m.names.filter keep := by
  rw [NameMap.names, NameMap.names, List.filter_map]
  rfl

/-- The names that have a meaning in metadata, and for each block those that have one in it. -/
structure Layout where
  names : List String
  blocks : List (String × List String)

namespace Layout

/-- The places of the names without meaning. -/
def unknownPaths (s : Layout) (m : NameMap Json) : List String :=
  unknownNames s.names m ++
    s.blocks.flatMap fun b => (unknownNames b.2 (m.block b.1)).map fun k => b.1 ++ "." ++ k

/-- The value of a name without what has no meaning in it. -/
def tidyValue (s : Layout) (key : String) (v : Json) : Json :=
  match s.blocks.lookup key with
  | some names => v.keepFields names
  | none => v

/-- Metadata without the names that have no meaning. -/
def tidy (s : Layout) (m : NameMap Json) : NameMap Json :=
  (m.filter fun k _ => s.names.contains k).mapEntries s.tidyValue

variable {α β : Type} {s : Layout} {key : String} {g : α → α}

theorem tidyValue_of_plain (h : ∀ b ∈ s.blocks, key ≠ b.1) : s.tidyValue key = fun v => v := by
  have hlookup : s.blocks.lookup key = none :=
    List.lookup_eq_none_iff.mpr fun b hb => bne_iff_ne.mpr (h b hb)
  funext v
  rw [tidyValue, hlookup]

theorem text?_tidy {m : NameMap Json} (hkey : key ∈ s.names) (h : ∀ b ∈ s.blocks, key ≠ b.1) :
    (s.tidy m).text? key = m.text? key := by
  have hkept : s.names.contains key = true := List.contains_iff_mem.mpr hkey
  rw [NameMap.text?, tidy, NameMap.get?_mapEntries, NameMap.get?_filter, if_pos hkept,
    tidyValue_of_plain h, Option.map_id', NameMap.text?]

theorem carries_plain {shape : Shape β} {assign : α → β → α} (h : ∀ b ∈ s.blocks, key ≠ b.1)
    (hassign : ∀ a x, assign (g a) x = g (assign a x)) :
    (Field.of key shape assign).Carries (s.tidyValue key) g := by
  rw [tidyValue_of_plain h]
  exact Field.carries_of_same hassign

theorem carries_block {r : Record β} {assign : α → Option (WithExtra β) → α}
    (h : s.blocks.lookup key = some r.names)
    (hassign : ∀ a x, assign (g a) (x.map WithExtra.alone) = g (assign a x)) :
    (Field.of key (Shape.optional r.ofJson) assign).Carries (s.tidyValue key) g := by
  have htidy : s.tidyValue key = Json.keepFields r.names := by
    funext v
    rw [tidyValue, h]
  rw [htidy]
  exact Field.carries_of r.optional_ofJson_keepFields hassign

end Layout

/-- Whether a text is none of the words for the values of a type. -/
def Vocabulary.isUnknown (α : Type) [Vocabulary α] (s : String) : Bool :=
  match (parse s : Except String α) with
  | .ok _ => false
  | .error _ => true

/-- Whether a text is no timestamp. -/
def Timestamp.isUnreadable (s : String) : Bool :=
  (parse? s).isNone

namespace Issue

def fieldsOf (kind : IssueKind) (l : List Issue) : List String :=
  (l.filter fun i => i.kind = kind).map (·.field)

/-- The issues that are not about fields without meaning. -/
def withoutUnknown (l : List Issue) : List Issue :=
  l.filter fun i => i.kind ≠ .unknownField

theorem withoutUnknown_append (l r : List Issue) :
    withoutUnknown (l ++ r) = withoutUnknown l ++ withoutUnknown r :=
  List.filter_append l r

/-- The fields of the issues of a list: those without meaning, in any order, and those of values
that cannot be read. -/
structure Notes (l : List Issue) (unknown invalid : List String) : Prop where
  unknown : (fieldsOf .unknownField l).Perm unknown
  invalid : fieldsOf .invalidValue l = invalid

theorem fieldsOf_append (kind : IssueKind) (l r : List Issue) :
    fieldsOf kind (l ++ r) = fieldsOf kind l ++ fieldsOf kind r := by
  simp [fieldsOf]

theorem Notes.append {l r : List Issue} {u u' i i' : List String} (hl : Notes l u i)
    (hr : Notes r u' i') : Notes (l ++ r) (u ++ u') (i ++ i') := by
  constructor
  · rw [fieldsOf_append]
    exact hl.unknown.append hr.unknown
  · rw [fieldsOf_append, hl.invalid, hr.invalid]

theorem notes_nil : Notes [] [] [] := ⟨.nil, rfl⟩

theorem notes_invalidValue (field message : String) :
    Notes [invalidValue field message] [] [field] :=
  ⟨.nil, rfl⟩

/-! ## Fields without meaning -/

theorem kind_of_mem_unknownFields {block? : Option String} {m : NameMap Json} {i : Issue}
    (h : i ∈ unknownFields block? m) : i.kind = .unknownField := by
  obtain ⟨k, -, rfl⟩ := List.mem_map.mp h
  rfl

theorem notes_unknownFields (block? : Option String) (m : NameMap Json) :
    Notes (unknownFields block? m) ((unknownFields block? m).map (·.field)) [] := by
  constructor
  · rw [fieldsOf, List.filter_eq_self.mpr]
    intro i hi
    exact decide_eq_true (kind_of_mem_unknownFields hi)
  · rw [fieldsOf, List.filter_eq_nil_iff.mpr, List.map_nil]
    intro i hi
    simp [kind_of_mem_unknownFields hi]

theorem withoutUnknown_unknownFields (block? : Option String) (m : NameMap Json) :
    withoutUnknown (unknownFields block? m) = [] := by
  apply List.filter_eq_nil_iff.mpr
  intro i hi
  simp [kind_of_mem_unknownFields hi]

/-! ## Values that cannot be read -/

/-- A value that is read from a text, or stands for an unreadable one with an issue. -/
inductive Settled {α : Type} (field : String) (fallback : α) : Bool → α × List Issue → Prop
  | readable (a : α) : Settled field fallback false (a, [])
  | unreadable (message : String) :
    Settled field fallback true (fallback, [invalidValue field message])

namespace Settled

variable {α : Type} {field : String} {fallback : α} {bad : Bool} {r : α × List Issue}

theorem notes (h : Settled field fallback bad r) :
    Notes r.2 [] (if bad then [field] else []) := by
  cases h with
  | readable a => exact notes_nil
  | unreadable message => exact notes_invalidValue field message

theorem eq_fallback (h : Settled field fallback bad r) (hbad : bad = true) : r.1 = fallback := by
  cases h with
  | readable a => cases hbad
  | unreadable message => rfl

theorem withoutUnknown (h : Settled field fallback bad r) : withoutUnknown r.2 = r.2 := by
  cases h with
  | readable a => rfl
  | unreadable message => rfl

end Settled

theorem settled_parseWord (α : Type) [Vocabulary α] (field : String) (t : Option String) :
    Settled field (Vocabulary.fallback : α) (t.any (Vocabulary.isUnknown α))
      (parseWord field t) := by
  cases t with
  | none => exact .readable _
  | some s =>
    rw [Option.any_some, Vocabulary.isUnknown, parseWord]
    cases hs : (Vocabulary.parse s : Except String α) with
    | ok a => exact .readable a
    | error reason => exact .unreadable _

theorem settled_timestamp (field : String) (t : Option String) :
    Settled field none (t.any Timestamp.isUnreadable) (Heading.timestamp field t) := by
  cases t with
  | none => exact .readable _
  | some s =>
    rw [Option.any_some, Timestamp.isUnreadable, Heading.timestamp]
    cases hs : Timestamp.parse? s with
    | some t => exact .readable _
    | none => exact .unreadable _

theorem fields_unknownFields {α : Type} (r : Record α) (m : NameMap Json) (path : String) :
    (unknownFields (some path) (r.extra m)).map (·.field) =
      (unknownNames r.names m).map fun k => path ++ "." ++ k := by
  rw [unknownFields, Record.extra, names_filter, List.map_map]
  rfl

end Issue

namespace Heading

theorem holds_createdAt :
    Written.record.Holds "created_at" (Shape.optional Shape.string) (·.createdAt) := by
  refine Record.holds_of rfl (fun _ _ => rfl) ?_
  simp [Written.record, Field.keeps_of, Field.keeps_ignored]

theorem holds_updatedAt :
    Written.record.Holds "updated_at" (Shape.optional Shape.string) (·.updatedAt) := by
  refine Record.holds_of rfl (fun _ _ => rfl) ?_
  simp [Written.record, Field.keeps_of, Field.keeps_ignored]

/-- The fields of a heading whose texts say nothing. -/
def unreadable (m : NameMap Json) : List String :=
  (if (m.text? "created_at").any Timestamp.isUnreadable then ["created_at"] else []) ++
    if (m.text? "updated_at").any Timestamp.isUnreadable then ["updated_at"] else []

theorem notes_ofWritten {m : NameMap Json} {w : Written} (h : Written.record.readKnown m = .ok w)
    (version : Option String) : Issue.Notes (ofWritten w version).2 [] (unreadable m) := by
  rw [unreadable, ← holds_createdAt.text? rfl h, ← holds_updatedAt.text? rfl h]
  exact (Issue.settled_timestamp "created_at" w.createdAt).notes.append
    (Issue.settled_timestamp "updated_at" w.updatedAt).notes

theorem withoutUnknown_ofWritten (w : Written) (version : Option String) :
    Issue.withoutUnknown (ofWritten w version).2 = (ofWritten w version).2 := by
  have hcreated := (Issue.settled_timestamp "created_at" w.createdAt).withoutUnknown
  have hupdated := (Issue.settled_timestamp "updated_at" w.updatedAt).withoutUnknown
  simp only [ofWritten, Issue.withoutUnknown_append, hcreated, hupdated]

/-! ## What stands above a heading

The metadata of a definition has fields of its own, and a heading is read from the rest. -/

section Metadata

variable {α : Type} {r : Record α} {m : NameMap Json} {a : α} {h : WithExtra Written}

theorem ofMetadata_eq_ok_iff : ofMetadata r m = .ok (a, h) ↔
    r.readKnown m = .ok a ∧ Written.record.read (r.extra m) = .ok h := by
  rw [ofMetadata, Record.read]
  cases r.readKnown m with
  | error reason => simp [Except.map, bind, Except.bind]
  | ok b =>
    change (do let h ← Written.record.read (r.extra m); pure (b, h)) = _ ↔ _
    cases Written.record.read (r.extra m) <;>
      simp [bind, Except.bind, pure, Except.pure]

/-- There is an issue for each name that belongs neither to the definition nor to its heading. -/
theorem fields_unknownFields_rest (r : Record α) (m : NameMap Json) :
    (Issue.unknownFields none (Written.record.extra (r.extra m))).map (·.field) =
      unknownNames (r.names ++ Written.record.names) m := by
  have hkeep : (fun k => !Written.record.names.contains k && !r.names.contains k) =
      fun k => !(r.names ++ Written.record.names).contains k := by
    funext k
    rw [List.contains_append, Bool.not_or, Bool.and_comm]
  rw [Record.extra, Record.extra, Issue.unknownFields, List.map_map, names_filter, names_filter,
    List.filter_filter, hkeep]
  exact List.map_id _

theorem createdAt_mem_names : "created_at" ∈ Written.record.names := by
  simp [Written.record, Record.names]

theorem updatedAt_mem_names : "updated_at" ∈ Written.record.names := by
  simp [Written.record, Record.names]

theorem unreadable_rest (hapart : ∀ k ∈ Written.record.names, k ∉ r.names) (m : NameMap Json) :
    unreadable (r.extra m) = unreadable m := by
  rw [unreadable, unreadable, r.text?_extra (hapart _ createdAt_mem_names),
    r.text?_extra (hapart _ updatedAt_mem_names)]

theorem timestamps_of_unreadable {w : Written}
    (hapart : ∀ k ∈ Written.record.names, k ∉ r.names)
    (hw : Written.record.readKnown (r.extra m) = .ok w) (version : Option String) :
    ((m.text? "created_at").any Timestamp.isUnreadable = true →
        (ofWritten w version).1.createdAt = none) ∧
      ((m.text? "updated_at").any Timestamp.isUnreadable = true →
        (ofWritten w version).1.updatedAt = none) := by
  rw [← r.text?_extra (hapart _ createdAt_mem_names),
    ← r.text?_extra (hapart _ updatedAt_mem_names), ← holds_createdAt.text? rfl hw,
    ← holds_updatedAt.text? rfl hw]
  exact ⟨(Issue.settled_timestamp "created_at" w.createdAt).eq_fallback,
    (Issue.settled_timestamp "updated_at" w.updatedAt).eq_fallback⟩

/-- Leaving out what has no meaning from metadata does not matter to its heading. -/
theorem ofMetadata_tidy {clean : String → Json → Json} {tidied : α → α}
    (hfields : ∀ f ∈ r.fields, f.Carries (clean f.key) tidied)
    (hplain : ∀ k, k ∉ r.names → clean k = fun v => v) (hstart : tidied r.start = r.start)
    (m : NameMap Json) :
    ofMetadata r ((m.filter fun k _ =>
        (r.names ++ Written.record.names).contains k).mapEntries clean) =
      (ofMetadata r m).map fun (a, h) => (tidied a, h.alone) := by
  have hkept : ∀ k ∈ r.names, (r.names ++ Written.record.names).contains k = true := fun k hk =>
    List.contains_iff_mem.mpr (List.mem_append_left _ hk)
  -- beside the definition only the names of the heading are kept
  have hrest : ((r.extra m).filter fun k _ => (r.names ++ Written.record.names).contains k) =
      (r.extra m).filter fun k _ => Written.record.names.contains k := by
    refine NameMap.ext_get? fun k => ?_
    rw [NameMap.get?_filter, NameMap.get?_filter, Record.get?_extra]
    by_cases hk : k ∈ r.names <;> simp [hk]
  rw [ofMetadata, ofMetadata, Record.read_filter_mapEntries
    (fun f hf => ⟨hkept _ (Record.key_mem_names hf), hfields f hf⟩) hplain hstart, Record.read]
  cases r.readKnown m with
  | error reason => rfl
  | ok a =>
    change (do
      let h ← Written.record.read ((r.extra m).filter _)
      pure (tidied a, h)) =
        Except.map _ (do let h ← Written.record.read (r.extra m); pure (a, h))
    rw [hrest, Record.read_filter_names]
    cases Written.record.read (r.extra m) <;> rfl

end Metadata

end Heading

end Roster
