/-! # Maps keyed by name

A map is a list of entries in ascending order of their names, each name once.
Names are compared by code points, which is also the order of their UTF-8
bytes. Two maps with the same entries are therefore equal, and walking over a
map visits its names in ascending order.
-/
namespace Roster

universe u v

/-- Puts `v` at `k`, in place of any earlier entry of that name. -/
def insertEntry {α : Type u} (k : String) (v : α) : List (String × α) → List (String × α)
  | [] => [(k, v)]
  | e :: r =>
    if k < e.1 then (k, v) :: e :: r
    else if k = e.1 then (k, v) :: r
    else e :: insertEntry k v r

theorem mem_insertEntry {α : Type u} {k : String} {v : α} {l : List (String × α)}
    {e : String × α} (h : e ∈ insertEntry k v l) : e = (k, v) ∨ e ∈ l := by
  induction l with
  | nil => simpa [insertEntry] using h
  | cons d r ih =>
    rw [insertEntry] at h
    split at h
    · simpa using h
    · split at h
      · rcases List.mem_cons.mp h with h | h
        · exact .inl h
        · exact .inr (List.mem_cons_of_mem _ h)
      · rcases List.mem_cons.mp h with h | h
        · exact .inr (h ▸ List.mem_cons_self ..)
        · exact (ih h).imp id (List.mem_cons_of_mem _)

theorem pairwise_insertEntry {α : Type u} (k : String) (v : α) {l : List (String × α)}
    (h : l.Pairwise fun a b => a.1 < b.1) :
    (insertEntry k v l).Pairwise fun a b => a.1 < b.1 := by
  induction l with
  | nil => simp [insertEntry]
  | cons e r ih =>
    obtain ⟨he, hr⟩ := List.pairwise_cons.mp h
    rw [insertEntry]
    split
    · next hk =>
      refine List.pairwise_cons.mpr ⟨fun b hb => ?_, h⟩
      rcases List.mem_cons.mp hb with rfl | hb
      · exact hk
      · exact String.lt_trans hk (he b hb)
    · next hk =>
      split
      · next heq => exact List.pairwise_cons.mpr ⟨fun b hb => heq ▸ he b hb, hr⟩
      · next hne =>
        refine List.pairwise_cons.mpr ⟨fun b hb => ?_, ih hr⟩
        rcases mem_insertEntry hb with rfl | hb
        · exact Decidable.byContradiction fun hn =>
            hne (String.le_antisymm (String.not_lt.mp hn) (String.not_lt.mp hk))
        · exact he b hb

/-- A map from names to values of type `α`. -/
structure NameMap (α : Type u) where
  entries : List (String × α)
  ordered : entries.Pairwise fun a b => a.1 < b.1

namespace NameMap

variable {α : Type u} {β : Type v}

@[ext]
theorem ext {m n : NameMap α} (h : m.entries = n.entries) : m = n := by
  cases m; cases n; cases h; rfl

instance [DecidableEq α] : DecidableEq (NameMap α) := fun m n =>
  decidable_of_iff (m.entries = n.entries) ⟨ext, fun h => h ▸ rfl⟩

def empty : NameMap α := ⟨[], .nil⟩

instance : EmptyCollection (NameMap α) := ⟨empty⟩
instance : Inhabited (NameMap α) := ⟨empty⟩

/-- Puts a value at a name, in place of any earlier one. -/
def insert (m : NameMap α) (k : String) (v : α) : NameMap α :=
  ⟨insertEntry k v m.entries, pairwise_insertEntry k v m.ordered⟩

def get? (m : NameMap α) (k : String) : Option α :=
  (m.entries.find? fun e => e.1 == k).map (·.2)

def contains (m : NameMap α) (k : String) : Bool :=
  m.entries.any fun e => e.1 == k

/-- The map of a list of entries, where a later entry of a name takes the place of an earlier one. -/
def ofList (l : List (String × α)) : NameMap α :=
  l.foldl (fun m e => m.insert e.1 e.2) empty

def names (m : NameMap α) : List String :=
  m.entries.map (·.1)

/-- The values in ascending order of their names. -/
def values (m : NameMap α) : List α :=
  m.entries.map (·.2)

def size (m : NameMap α) : Nat :=
  m.entries.length

def isEmpty (m : NameMap α) : Bool :=
  m.entries.isEmpty

def erase (m : NameMap α) (k : String) : NameMap α :=
  ⟨m.entries.filter fun e => e.1 != k, m.ordered.filter _⟩

def filter (m : NameMap α) (p : String → α → Bool) : NameMap α :=
  ⟨m.entries.filter fun e => p e.1 e.2, m.ordered.filter _⟩

def mapValues (m : NameMap α) (f : α → β) : NameMap β :=
  ⟨m.entries.map fun e => (e.1, f e.2), by
    rw [List.pairwise_map]
    exact m.ordered⟩

/-- All entries of both maps, those of `n` in place of those of `m` with the same name. -/
def union (m n : NameMap α) : NameMap α :=
  n.entries.foldl (fun acc e => acc.insert e.1 e.2) m

end NameMap

abbrev NameSet := NameMap Unit

namespace NameSet

def ofNames (l : List String) : NameSet :=
  NameMap.ofList (l.map fun n => (n, ()))

end NameSet

end Roster
