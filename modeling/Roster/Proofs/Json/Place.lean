import Roster.Configuration
import Roster.Proofs.Json.Neutral

/-! # Places in metadata

A place is the way to a mapping within another: through the names of mappings and the
numbers of list items. A mapping can be changed at its place. On the way a null, or a
name without value, counts as a mapping without entries.
-/
namespace Roster

/-- A step on the way into a value. -/
inductive Step where
  | key (name : String)
  | item (number : Nat)
  deriving DecidableEq

namespace Json

/-- The value as a mapping; what is none has no entries. -/
def mapping (v : Json) : NameMap Json :=
  v.toMap?.getD ∅

/-- The value behind a step. -/
def step? : Step → Json → Option Json
  | .key k, v => v.mapping.get? k
  | .item i, .array items => items[i]?
  | .item _, _ => none

def at? : List Step → Json → Option Json
  | [], v => some v
  | s :: p, v => (v.step? s).bind (at? p)

/-- Changes a mapping. A null counts as one without entries, and other values stay. -/
def overMapping (f : NameMap Json → NameMap Json) : Json → Json
  | object l => ofMap (f (.ofList l))
  | null => ofMap (f ∅)
  | v => v

def modify (f : NameMap Json → NameMap Json) : List Step → Json → Json
  | [], v => v.overMapping f
  | .key k :: p, v => v.overMapping fun m => m.insert k (modify f p ((m.get? k).getD null))
  | .item i :: p, array items => array (items.modify i (modify f p))
  | .item _ :: _, v => v

@[simp]
theorem mapping_ofMap (m : NameMap Json) : (ofMap m).mapping = m :=
  NameMap.ofList_entries m

theorem at?_append (p q : List Step) (v : Json) : v.at? (p ++ q) = (v.at? p).bind (at? q) := by
  induction p generalizing v with
  | nil => rfl
  | cons s p ih =>
    rw [List.cons_append, at?, at?, Option.bind_assoc]
    exact congrArg _ (funext ih)

end Json

namespace NameMap

def at? (m : NameMap Json) (p : List Step) : Option Json :=
  (Json.ofMap m).at? p

def mappingAt (m : NameMap Json) (p : List Step) : NameMap Json :=
  ((m.at? p).map Json.mapping).getD ∅

/-- Changes the mapping at a place. -/
def modify (m : NameMap Json) (f : NameMap Json → NameMap Json) (p : List Step) : NameMap Json :=
  ((Json.ofMap m).modify f p).mapping

variable (m : NameMap Json) (f : NameMap Json → NameMap Json)

@[simp]
theorem mappingAt_nil : m.mappingAt [] = m :=
  m.ofList_entries

theorem mappingAt_key (k : String) : m.mappingAt [.key k] = m.block k := by
  rw [mappingAt, at?, Json.at?, Json.step?, Json.mapping_ofMap, block]
  cases m.get? k <;> rfl

theorem at?_cons (s : Step) (p : List Step) :
    m.at? (s :: p) = ((Json.ofMap m).step? s).bind (Json.at? p) := rfl

@[simp]
theorem modify_nil : m.modify f [] = f m := by
  rw [modify, Json.modify, Json.ofMap, Json.overMapping, ofList_entries, Json.mapping_ofMap]

theorem mappingAt_append {p q : List Step} {v : Json} (hv : m.at? p = some v)
    (hq : ∀ i r, q ≠ .item i :: r) : m.mappingAt (p ++ q) = v.mapping.mappingAt q := by
  rw [mappingAt, at?, Json.at?_append, show (Json.ofMap m).at? p = _ from hv, Option.bind_some]
  match q with
  | [] => exact (mappingAt_nil v.mapping).symm
  | .key k :: r =>
    rw [mappingAt, at?, Json.at?, Json.at?, Json.step?, Json.step?, Json.mapping_ofMap]
  | .item i :: r => exact absurd rfl (hq i r)

theorem mappingAt_append_of_none {p : List Step} (hp : m.at? p = none) (q : List Step) :
    m.mappingAt (p ++ q) = ∅ := by
  rw [mappingAt, at?, Json.at?_append, show (Json.ofMap m).at? p = none from hp]
  rfl

theorem modify_key (k : String) (p : List Step) :
    m.modify f (.key k :: p) = m.insert k (((m.get? k).getD .null).modify f p) := by
  rw [modify, Json.modify, Json.ofMap, Json.overMapping, ofList_entries, Json.mapping_ofMap]

/-- A mapping within a value is changed by changing the mapping that the value is. -/
theorem modify_eq_overMapping {q : List Step} (hq : ∀ i r, q ≠ .item i :: r) (v : Json) :
    v.modify f q = v.overMapping fun m => m.modify f q := by
  match q with
  | [] =>
    simp only [modify_nil]
    rw [Json.modify]
  | .key k :: r =>
    simp only [modify_key]
    rw [Json.modify]
  | .item i :: r => exact absurd rfl (hq i r)

end NameMap

/-! ## Mappings within records -/

namespace Record

variable {α β γ δ : Type}

/-- A field that holds a record of its own, of which only the meaning and what is beside it count.
An empty one means what a missing one means. -/
structure HasBlock (r : Record α) (mean : α → γ) (key : String) (inner : Record β)
    (mean' : β → δ) (assign : α → Option (WithExtra β) → α) : Prop where
  field : r.field? key = some (.of key (Shape.optional inner.ofJson) assign)
  respects : ∀ a x y, WithExtra.map mean' x = WithExtra.map mean' y →
    mean (assign a (some x)) = mean (assign a (some y))
  start : ∀ a, mean (assign a (some ⟨inner.start, ∅⟩)) = mean (assign a none)
  none_start : assign r.start none = r.start

namespace HasBlock

variable {r : Record α} {mean : α → γ} {key : String} {inner : Record β} {mean' : β → δ}
  {assign : α → Option (WithExtra β) → α} {f : NameMap Json → NameMap Json}

theorem set_null (h : r.HasBlock mean key inner mean' assign) (a : α) :
    r.set a key .null = .ok (assign a none) :=
  set_of_field? h.field a .null

theorem map_set_object (h : r.HasBlock mean key inner mean' assign) (a : α) {m n : NameMap Json}
    (hread : (inner.read m).map (WithExtra.map mean') =
      (inner.read n).map (WithExtra.map mean')) :
    (((inner.read m).map some).map (assign a)).map mean =
      (((inner.read n).map some).map (assign a)).map mean := by
  have hmean := map_eq_of_map_eq (g := fun x => mean (assign a (some x))) (h.respects a) hread
  revert hmean
  cases inner.read m <;> cases inner.read n <;> exact id

theorem set_overMapping (h : r.HasBlock mean key inner mean' assign) (a : α) (v : Json)
    (hf : (inner.read (f v.mapping)).map (WithExtra.map mean') =
      (inner.read v.mapping).map (WithExtra.map mean')) :
    (r.set a key (v.overMapping f)).map mean = (r.set a key v).map mean := by
  have hobject : ∀ l, r.set a key (.object l) =
      ((inner.read (NameMap.ofList l)).map some).map (assign a) :=
    fun l => set_of_field? h.field a (.object l)
  cases v with
  | object l =>
    rw [Json.overMapping, Json.ofMap, hobject, hobject, NameMap.ofList_entries]
    exact h.map_set_object a hf
  | null =>
    -- a missing block means what an empty one means
    have hempty := h.map_set_object a hf
    rw [Json.overMapping, Json.ofMap, hobject, NameMap.ofList_entries, h.set_null]
    exact hempty.trans (congrArg Except.ok (h.start a))
  | bool _ => rfl
  | number _ => rfl
  | string _ => rfl
  | array _ => rfl

theorem mem_names (h : r.HasBlock mean key inner mean' assign) : key ∈ r.names :=
  mem_names_of_field? h.field

theorem neutral_null (h : r.HasBlock mean key inner mean' assign) : r.Neutral mean key .null := by
  rw [Neutral, h.set_null, h.none_start]
  rfl

theorem neutral_empty (h : r.HasBlock mean key inner mean' assign) :
    r.Neutral mean key (.object []) := by
  have hset : r.set r.start key (.object []) = .ok (assign r.start (some ⟨inner.start, ∅⟩)) :=
    set_of_field? h.field r.start (.object [])
  rw [Neutral, hset, Except.map, h.start, h.none_start]

/-- Changing the mapping of a block in a way that does not change its meaning. -/
theorem read_modify (h : r.HasBlock mean key inner mean' assign) (hr : r.Meant mean)
    {m : NameMap Json}
    (hf : (inner.read (f (m.block key))).map (WithExtra.map mean') =
      (inner.read (m.block key)).map (WithExtra.map mean')) :
    (r.read (m.modify f [.key key])).map (WithExtra.map mean) =
      (r.read m).map (WithExtra.map mean) := by
  rw [NameMap.modify_key, Json.modify]
  have hsame : ∀ v : Json, v.mapping = m.block key →
      (r.read (m.insert key (v.overMapping f))).map (WithExtra.map mean) =
        (r.read (m.insert key v)).map (WithExtra.map mean) := by
    intro v hv
    refine read_insert_congr h.mem_names hr.respectsAt (fun a => h.set_overMapping a v ?_) m
    rw [hv]
    exact hf
  cases hm : m.get? key with
  | none =>
    rw [Option.getD_none, hsame .null (by rw [NameMap.block, hm]; rfl)]
    exact hr.read_insert h.mem_names h.neutral_null hm
  | some v =>
    rw [Option.getD_some, hsame v (by rw [NameMap.block, hm]; rfl), NameMap.insert_eq_self hm]

end HasBlock

end Record

/-! ## Metadata of configurations -/

namespace Configuration

/-- The configuration with its metadata changed at a place. -/
def modify (c : Configuration) (f : NameMap Json → NameMap Json) (p : List Step) : Configuration :=
  { c with metadata := c.metadata.modify f p }

/-- The configuration without the entry of a name at a place. -/
def without (c : Configuration) (p : List Step) (k : String) : Configuration :=
  c.modify (·.erase k) p

def put (c : Configuration) (p : List Step) (k : String) (v : Json) : Configuration :=
  c.modify (·.insert k v) p

theorem metadata_without (c : Configuration) (k : String) :
    (c.without [] k).metadata = c.metadata.erase k := by
  rw [without, modify, NameMap.modify_nil]

theorem put_without (c : Configuration) (k : String) (v : Json) :
    (c.without [] k).put [] k v = c.put [] k v := by
  simp only [without, put, modify, NameMap.modify_nil, NameMap.insert_erase_of_eq]

end Configuration

end Roster
