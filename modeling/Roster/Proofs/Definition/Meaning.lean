import Roster.Proofs.Definition.SettingsBlock

/-! # The meaning of metadata

What a definition takes from its metadata, with defaults in the place of what is not
written. A heading is a part of every definition, and is read from what the fields of
the definition leave over. Each kind of definition is described by its record, and
what is shown of a description holds for agents and commands.
-/
namespace Roster

/-- A name with a meaning in the mapping at a place. -/
inductive Layout.Setting (s : Layout) : List Step → String → Prop
  | own {k : String} (h : k ∈ s.names) : Setting s [] k
  | block {b : String} {names : List String} {k : String} (hb : (b, names) ∈ s.blocks)
      (hk : k ∈ names) : Setting s [.key b] k

theorem Layout.Setting.ne_item {s : Layout} {q : List Step} {k : String} (h : s.Setting q k) :
    ∀ i r, q ≠ .item i :: r := by
  rintro i r rfl
  cases h

/-- Settings at their defaults, in metadata and in the mappings within it. -/
structure Defaults where
  own : List (String × Json)
  blocks : List (String × List (String × Json))

/-- A setting in the mapping at a place, with its default. -/
inductive Defaults.Setting (s : Defaults) : List Step → String → Json → Prop
  | own {k : String} {v : Json} (h : (k, v) ∈ s.own) : Setting s [] k v
  | block {b : String} {l : List (String × Json)} {k : String} {v : Json} (hb : (b, l) ∈ s.blocks)
      (hv : (k, v) ∈ l) : Setting s [.key b] k v

theorem Defaults.Setting.ne_item {s : Defaults} {q : List Step} {k : String} {v : Json}
    (h : s.Setting q k v) : ∀ i r, q ≠ .item i :: r := by
  rintro i r rfl
  cases h

theorem Issue.parseWord_of_parse {α : Type} [Vocabulary α] {s : String} {a : α}
    (h : (Vocabulary.parse s : Except String α) = .ok a) (field : String) :
    (parseWord field (some s) : α × List Issue) = (a, []) := by
  rw [parseWord, h]

/-! ## Headings -/

namespace Heading

namespace Written

theorem meant : record.Meant (fun w => w) where
  respects f _ := f.respects_id
  commutes := by
    simp [record, Field.commutes_of, Field.commutes_ignored, Field.ignored_commutes]

theorem neutral_null : ∀ k ∈ record.names, record.Neutral (fun w => w) k .null := by
  decide

theorem neutral_tags (v : Json) : record.Neutral (fun w => w) "tags" v := rfl

theorem read_erase {k : String} {v : Json} {m : NameMap Json} (hk : k ∈ record.names)
    (hv : record.Neutral (fun w => w) k v) (hm : m.get? k = some v) :
    record.read (m.erase k) = record.read m := by
  have hread := meant.read_erase hk hv hm
  rwa [show WithExtra.map (fun w : Written => w) = id from rfl, Except.map_id] at hread

end Written

end Heading

/-! ## Metadata as a whole -/

/-- What metadata says about a definition, of which only the meaning counts, and about its
heading. -/
def Record.said {α γ : Type} (r : Record α) (mean : α → γ) (m : NameMap Json) :
    Except String (γ × WithExtra Heading.Written) :=
  (Heading.ofMetadata r m).map fun x => (mean x.1, x.2)

namespace Record

variable {α γ : Type} {r : Record α} {mean : α → γ} {m m' : NameMap Json} {k : String} {v : Json}

theorem said_eq (r : Record α) (mean : α → γ) (m : NameMap Json) :
    r.said mean m = (r.read m).map (WithExtra.map mean) >>= fun w =>
      (Heading.Written.record.read w.extra).map fun h => (w.known, h) := by
  rw [said, Heading.ofMetadata]
  cases r.read m with
  | error reason => rfl
  | ok w =>
    change Except.map _ (do let h ← Heading.Written.record.read w.extra; pure (w.known, h)) =
      (Heading.Written.record.read w.extra).map fun h => (mean w.known, h)
    cases Heading.Written.record.read w.extra <;> rfl

theorem said_congr
    (h : (r.read m).map (WithExtra.map mean) = (r.read m').map (WithExtra.map mean)) :
    r.said mean m = r.said mean m' := by
  rw [said_eq, said_eq, h]

theorem said_erase_heading (hk : k ∈ Heading.Written.record.names) (hapart : k ∉ r.names)
    (hv : Heading.Written.record.Neutral (fun w => w) k v) (hm : m.get? k = some v) :
    r.said mean (m.erase k) = r.said mean m := by
  have hrest : (r.extra m).get? k = some v := by rw [get?_extra, if_neg hapart, hm]
  rw [said_eq, said_eq, read_erase_extra hapart, read]
  cases r.readKnown m with
  | error reason => rfl
  | ok a =>
    change (Heading.Written.record.read ((r.extra m).erase k)).map _ =
      (Heading.Written.record.read (r.extra m)).map _
    rw [Heading.Written.read_erase hk hv hrest]
    rfl

end Record

/-- The metadata of a kind of definition: which names have a meaning, that null says nothing apart
from the plain flags, and that defaults say nothing. Tags belong to the document. -/
structure Described {α γ : Type} (r : Record α) (mean : α → γ) (layout : Layout)
    (defaults : Defaults) : Prop where
  meant : r.Meant mean
  names : layout.names = r.names ++ Heading.Written.record.names
  apart : ∀ k ∈ Heading.Written.record.names, k ∉ r.names
  blank : ∀ k ∈ r.names, r.Neutral mean k .null
  blocks : ∀ b ∈ layout.blocks, ∃ l, r.Settings mean b.1 b.2 l
  default : ∀ e ∈ defaults.own, e.1 ∈ r.names ∧ r.Neutral mean e.1 e.2 ∨ e.1 = "tags"
  blockDefaults : ∀ b ∈ defaults.blocks, ∃ names, r.Settings mean b.1 names b.2

namespace Described

variable {α γ : Type} {r : Record α} {mean : α → γ} {layout : Layout} {defaults : Defaults}
  {m : NameMap Json} {p : List Step} {k : String} {v : Json}

/-- A null says nothing, be it in a heading, in a block or beside them. -/
theorem said_without_blank (h : Described r mean layout defaults) (hs : layout.Setting p k)
    (hflag : k ∉ plainFlags) (hm : (m.mappingAt p).get? k = some .null) :
    r.said mean (m.modify (·.erase k) p) = r.said mean m := by
  cases hs with
  | own hk =>
    rw [NameMap.mappingAt_nil] at hm
    rw [h.names] at hk
    rw [NameMap.modify_nil]
    rcases List.mem_append.mp hk with hk | hk
    · exact Record.said_congr (h.meant.read_erase hk (h.blank k hk) hm)
    · exact Record.said_erase_heading hk (h.apart k hk) (Heading.Written.neutral_null k hk) hm
  | block hb hk =>
    rw [NameMap.mappingAt_key] at hm
    obtain ⟨l, hblock⟩ := h.blocks _ hb
    exact Record.said_congr (hblock.read_erase h.meant hk hflag hm)

/-- A default says nothing where it is put. -/
theorem said_put_default (h : Described r mean layout defaults) (hs : defaults.Setting p k v)
    (hm : (m.mappingAt p).get? k = none) :
    r.said mean (m.modify (·.insert k v) p) = r.said mean m := by
  cases hs with
  | own hv =>
    rw [NameMap.mappingAt_nil] at hm
    rw [NameMap.modify_nil]
    rcases h.default _ hv with ⟨hk, hneutral⟩ | rfl
    · exact Record.said_congr (h.meant.read_insert hk hneutral hm)
    · have htags : "tags" ∈ Heading.Written.record.names := by decide
      have hput : (m.insert "tags" v).get? "tags" = some v := by
        rw [NameMap.get?_insert, if_pos rfl]
      rw [← Record.said_erase_heading htags (h.apart _ htags) (Heading.Written.neutral_tags v) hput,
        NameMap.erase_insert hm]
  | block hb hv =>
    rw [NameMap.mappingAt_key] at hm
    obtain ⟨names, hblock⟩ := h.blockDefaults _ hb
    exact Record.said_congr (hblock.read_insert h.meant hv hm)

theorem said_insert_block (h : Described r mean layout defaults) {b : String × List String}
    (hb : b ∈ layout.blocks) (hv : v = .null ∨ v = .object []) (hm : m.get? b.1 = none) :
    r.said mean (m.insert b.1 v) = r.said mean m := by
  obtain ⟨l, hblock⟩ := h.blocks b hb
  exact Record.said_congr (h.meant.read_insert hblock.mem_names (hblock.neutral hv) hm)

end Described

theorem Heading.ofMetadata_erase {α γ : Type} {r : Record α} {mean : α → γ} {m : NameMap Json}
    {a : α} {h : WithExtra Written} {k : String} (hmeant : r.Meant mean) (hk : k ∈ r.names)
    (hread : ofMetadata r m = .ok (a, h)) : ∃ a', ofMetadata r (m.erase k) = .ok (a', h) := by
  obtain ⟨hknown, hrest⟩ := ofMetadata_eq_ok_iff.mp hread
  obtain ⟨w, hw, -⟩ := hmeant.read_erase_field hk (Record.read_eq_ok_iff.mpr ⟨hknown, rfl⟩ :
    r.read m = .ok ⟨a, r.extra m⟩)
  refine ⟨w.known, ofMetadata_eq_ok_iff.mpr ⟨(Record.read_eq_ok_iff.mp hw).1, ?_⟩⟩
  rw [Record.extra_erase hk, hrest]

end Roster
