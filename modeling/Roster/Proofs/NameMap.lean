import Roster.NameMap
import Mathlib.Data.List.Induction

/-! # Laws of maps keyed by name

A map is known by the values that it has at the names. For each operation there
is one law that says what it leaves at a name.
-/
namespace Roster

universe u v

variable {α : Type u}

theorem find?_insertEntry (k : String) (v : α) (l : List (String × α)) (n : String) :
    ((insertEntry k v l).find? fun e => e.1 == n) =
      if k = n then some (k, v) else l.find? fun e => e.1 == n := by
  induction l with
  | nil => by_cases hkn : k = n <;> simp [insertEntry, hkn]
  | cons e r ih =>
    rw [insertEntry]
    split
    · by_cases hkn : k = n <;> simp [hkn]
    · split
      · next hke =>
        subst hke
        by_cases hkn : e.1 = n <;> simp [hkn]
      · next hke =>
        by_cases hkn : k = n
        · have hen : e.1 ≠ n := fun h => hke (hkn.trans h.symm)
          rw [List.find?_cons_of_neg (by simpa using hen), ih, if_pos hkn, if_pos hkn]
        · rw [List.find?_cons, ih, if_neg hkn, if_neg hkn, List.find?_cons]

theorem find?_eq_some_of_mem {l : List (String × α)} (h : l.Pairwise fun a b => a.1 < b.1)
    {e : String × α} (he : e ∈ l) : (l.find? fun d => d.1 == e.1) = some e := by
  induction l with
  | nil => cases he
  | cons d r ih =>
    obtain ⟨hd, hr⟩ := List.pairwise_cons.mp h
    rcases List.mem_cons.mp he with rfl | he
    · simp
    · have hne : d.1 ≠ e.1 := fun heq => String.lt_irrefl _ (heq ▸ hd e he)
      simpa [List.find?_cons, hne] using ih hr he

theorem find?_eq_none_of_cons {e : String × α} {r : List (String × α)}
    (h : (e :: r).Pairwise fun a b => a.1 < b.1) : (r.find? fun d => d.1 == e.1) = none := by
  rw [List.find?_eq_none]
  intro d hd hde
  have hlt : e.1 < d.1 := (List.pairwise_cons.mp h).1 d hd
  rw [eq_of_beq hde] at hlt
  exact String.lt_irrefl _ hlt

theorem length_insertEntry {k : String} {l : List (String × α)}
    (h : (l.find? fun e => e.1 == k) = none) (v : α) :
    (insertEntry k v l).length = l.length + 1 := by
  induction l with
  | nil => simp [insertEntry]
  | cons e r ih =>
    have hne : e.1 ≠ k := by simpa using List.find?_eq_none.mp h e (by simp)
    have hr : (r.find? fun e => e.1 == k) = none := by
      rwa [List.find?_cons_of_neg (by simpa using hne)] at h
    rw [insertEntry]
    split
    · simp
    · simp [Ne.symm hne, ih hr]

/-- Of the items to which entries are expanded those that have a name come from the entry of that
name. -/
theorem filter_flatMap_of_ordered {β : Type v} {l : List (String × α)}
    (h : l.Pairwise fun a b => a.1 < b.1) {f : String × α → List β} {name : β → String}
    (hf : ∀ e ∈ l, ∀ b ∈ f e, name b = e.1) (n : String) :
    ((l.flatMap f).filter fun b => name b = n) =
      ((l.find? fun e => e.1 == n).map f).getD [] := by
  induction l with
  | nil => rfl
  | cons e r ih =>
    have hrest := ih (List.pairwise_cons.mp h).2 fun d hd => hf d (List.mem_cons_of_mem e hd)
    have hown := hf e List.mem_cons_self
    rw [List.flatMap_cons, List.filter_append, hrest]
    by_cases hen : e.1 = n
    · subst hen
      have hall : ((f e).filter fun b => name b = e.1) = f e :=
        List.filter_eq_self.mpr fun b hb => decide_eq_true (hown b hb)
      rw [hall, find?_eq_none_of_cons h, List.find?_cons_of_pos (by simp)]
      simp
    · have hnone : ((f e).filter fun b => name b = n) = [] :=
        List.filter_eq_nil_iff.mpr fun b hb => by simp [hown b hb, hen]
      rw [hnone, List.find?_cons_of_neg (by simpa using hen), List.nil_append]

/-- The last of the entries of a name has this value. -/
def IsLast (l : List (String × α)) (k : String) (v : α) : Prop :=
  ∃ front rest, l = front ++ (k, v) :: rest ∧ ∀ e ∈ rest, e.1 ≠ k

theorem IsLast.map {β : Type v} {l : List (String × α)} {k : String} {v : α} (h : IsLast l k v)
    (f : α → β) : IsLast (l.map fun e => (e.1, f e.2)) k (f v) := by
  obtain ⟨front, rest, rfl, hrest⟩ := h
  refine ⟨front.map fun e => (e.1, f e.2), rest.map fun e => (e.1, f e.2), ?_, ?_⟩
  · rw [List.map_append, List.map_cons]
  · rw [List.forall_mem_map]
    exact hrest

namespace NameMap

@[simp]
theorem get?_empty (k : String) : (∅ : NameMap α).get? k = none := rfl

theorem get?_insert (m : NameMap α) (k : String) (v : α) (n : String) :
    (m.insert k v).get? n = if k = n then some v else m.get? n := by
  simp only [get?, insert, find?_insertEntry]
  split <;> simp

theorem mem_entries_iff (m : NameMap α) (k : String) (v : α) :
    (k, v) ∈ m.entries ↔ m.get? k = some v := by
  constructor
  · intro h
    simp [get?, find?_eq_some_of_mem m.ordered h]
  · intro h
    obtain ⟨e, he, rfl⟩ := Option.map_eq_some_iff.mp h
    have hk : e.1 = k := by simpa using List.find?_some he
    subst hk
    exact List.mem_of_find?_eq_some he

theorem contains_eq_isSome (m : NameMap α) (k : String) : m.contains k = (m.get? k).isSome := by
  rw [contains, get?, Option.isSome_map, Bool.eq_iff_iff, List.find?_isSome, List.any_eq_true]

theorem get?_eq_none_iff (m : NameMap α) (k : String) :
    m.get? k = none ↔ m.contains k = false := by
  rw [contains_eq_isSome, Option.isSome_eq_false_iff, Option.isNone_iff_eq_none]

theorem size_insert {m : NameMap α} {k : String} (h : m.get? k = none) (v : α) :
    (m.insert k v).size = m.size + 1 :=
  length_insertEntry (by simpa [get?] using h) v

theorem get?_foldl_insert {l : List (String × α)} (h : l.Pairwise fun a b => a.1 < b.1)
    (m : NameMap α) (k : String) :
    (l.foldl (fun acc e => acc.insert e.1 e.2) m).get? k =
      ((l.find? fun e => e.1 == k).map (·.2)).or (m.get? k) := by
  induction l generalizing m with
  | nil => rfl
  | cons e r ih =>
    rw [List.foldl_cons, ih (List.pairwise_cons.mp h).2, get?_insert]
    by_cases hek : e.1 = k
    · subst hek
      rw [List.find?_cons_of_pos (by simp), find?_eq_none_of_cons h, if_pos rfl]
      rfl
    · rw [List.find?_cons_of_neg (by simpa using hek), if_neg hek]

theorem get?_foldl_insert_of_ne {l : List (String × α)} {k : String} (h : ∀ e ∈ l, e.1 ≠ k)
    (m : NameMap α) : (l.foldl (fun acc e => acc.insert e.1 e.2) m).get? k = m.get? k := by
  induction l generalizing m with
  | nil => rfl
  | cons e l ih =>
    obtain ⟨he, hl⟩ := List.forall_mem_cons.mp h
    rw [List.foldl_cons, ih hl, get?_insert, if_neg he]

/-- The map of a list has the last value of each name. -/
theorem get?_ofList_of_isLast {l : List (String × α)} {k : String} {v : α} (h : IsLast l k v) :
    (ofList l).get? k = some v := by
  obtain ⟨front, rest, rfl, hrest⟩ := h
  rw [ofList, List.foldl_append, List.foldl_cons, get?_foldl_insert_of_ne hrest, get?_insert,
    if_pos rfl]

theorem get?_ofList {l : List (String × α)} (h : l.Pairwise fun a b => a.1 < b.1) (k : String) :
    (ofList l).get? k = (⟨l, h⟩ : NameMap α).get? k := by
  rw [ofList, get?_foldl_insert h]
  exact Option.or_none

theorem get?_ofList_eq_some_iff {l : List (String × α)} (h : l.Pairwise fun a b => a.1 < b.1)
    (k : String) (v : α) : (ofList l).get? k = some v ↔ (k, v) ∈ l := by
  rw [get?_ofList h, ← mem_entries_iff]

/-- Of the items to which entries are expanded those that have a name come from the value there. -/
theorem filter_flatMap_entries {β : Type v} (m : NameMap α) {f : String → α → List β}
    {name : β → String} (hf : ∀ k a, ∀ b ∈ f k a, name b = k) (n : String) :
    ((m.entries.flatMap fun e => f e.1 e.2).filter fun b => name b = n) =
      ((m.get? n).map (f n)).getD [] := by
  rw [filter_flatMap_of_ordered m.ordered fun e _ => hf e.1 e.2, get?, Option.map_map]
  cases h : m.entries.find? fun e => e.1 == n with
  | none => rfl
  | some e =>
    have hen : e.1 = n := by simpa using List.find?_some h
    rw [← hen]
    rfl

def mapEntries (m : NameMap α) (f : String → α → α) : NameMap α :=
  ⟨m.entries.map fun e => (e.1, f e.1 e.2), by
    rw [List.pairwise_map]
    exact m.ordered⟩

theorem get?_mapEntries (m : NameMap α) (f : String → α → α) (k : String) :
    (m.mapEntries f).get? k = (m.get? k).map (f k) := by
  rw [get?, get?, mapEntries, List.find?_map, Option.map_map, Option.map_map]
  refine Option.map_congr fun e he => ?_
  have hek : e.1 = k := by simpa using List.find?_some he
  simp [hek]

@[simp]
theorem mapEntries_id (m : NameMap α) : (m.mapEntries fun _ v => v) = m :=
  ext (List.map_id _)

theorem mem_names_iff (m : NameMap α) (k : String) : k ∈ m.names ↔ m.contains k = true := by
  simp [names, contains]

theorem nodup_names (m : NameMap α) : m.names.Nodup := by
  rw [names, List.Nodup, List.pairwise_map]
  refine m.ordered.imp fun {a b} hab heq => ?_
  rw [heq] at hab
  exact String.lt_irrefl _ hab

theorem size_eq_length_names (m : NameMap α) : m.size = m.names.length :=
  (List.length_map _).symm

theorem one_lt_size_iff (m : NameMap α) :
    1 < m.size ↔ ∃ k ∈ m.names, ∃ n ∈ m.names, k ≠ n := by
  have hnodup := m.nodup_names
  rw [size_eq_length_names]
  cases hnames : m.names with
  | nil => simp
  | cons k l =>
    cases l with
    | nil => simp
    | cons n l =>
      rw [hnames] at hnodup
      have hne : k ≠ n := fun h => (List.nodup_cons.mp hnodup).1 (h ▸ List.mem_cons_self)
      simp only [List.length_cons, Nat.lt_add_left_iff_pos, Nat.succ_pos, true_iff]
      exact ⟨k, List.mem_cons_self, n, List.mem_cons_of_mem k List.mem_cons_self, hne⟩

theorem nodup_entries (m : NameMap α) : m.entries.Nodup :=
  (List.pairwise_map.mp m.nodup_names).imp fun hne heq => hne (congrArg Prod.fst heq)

theorem ext_get? {m n : NameMap α} (h : ∀ k, m.get? k = n.get? k) : m = n := by
  have hperm : m.entries.Perm n.entries := by
    rw [List.perm_ext_iff_of_nodup m.nodup_entries n.nodup_entries]
    rintro ⟨k, v⟩
    rw [mem_entries_iff, mem_entries_iff, h]
  refine ext (List.Perm.eq_of_pairwise ?_ m.ordered n.ordered hperm)
  exact fun a b _ _ hab hba => absurd (String.lt_trans hab hba) (String.lt_irrefl _)

theorem insert_comm (m : NameMap α) {k n : String} (h : k ≠ n) (v w : α) :
    (m.insert k v).insert n w = (m.insert n w).insert k v := by
  refine ext_get? fun i => ?_
  simp only [get?_insert]
  by_cases hk : k = i
  · subst hk
    rw [if_neg (Ne.symm h), if_pos rfl, if_pos rfl]
  · simp [hk]

theorem get?_filter (m : NameMap α) (keep : String → Bool) (k : String) :
    (m.filter fun n _ => keep n).get? k = if keep k then m.get? k else none := by
  rw [get?, filter, List.find?_filter]
  split
  · next hk =>
    congr 2
    funext e
    by_cases hek : e.1 = k <;> simp [hek, hk]
  · next hk =>
    rw [Option.map_eq_none_iff, List.find?_eq_none]
    rintro e - he
    simp only [decide_eq_true_eq, beq_iff_eq] at he
    exact hk (he.2 ▸ he.1)

theorem filter_insert_of_kept (m : NameMap α) {keep : String → Bool} {k : String}
    (h : keep k = true) (v : α) :
    ((m.insert k v).filter fun n _ => keep n) = (m.filter fun n _ => keep n).insert k v := by
  refine ext_get? fun n => ?_
  simp only [get?_filter, get?_insert]
  by_cases hkn : k = n
  · simp [← hkn, h]
  · simp [hkn]

theorem filter_insert_of_dropped (m : NameMap α) {keep : String → Bool} {k : String}
    (h : keep k = false) (v : α) :
    ((m.insert k v).filter fun n _ => keep n) = m.filter fun n _ => keep n := by
  refine ext_get? fun n => ?_
  simp only [get?_filter, get?_insert]
  by_cases hkn : k = n
  · simp [← hkn, h]
  · simp [hkn]

theorem ofList_filter (l : List (String × α)) (keep : String → Bool) :
    ofList (l.filter fun e => keep e.1) = (ofList l).filter fun n _ => keep n := by
  suffices h : ∀ m : NameMap α,
      (l.filter fun e => keep e.1).foldl (fun m e => m.insert e.1 e.2)
        (m.filter fun n _ => keep n) =
        (l.foldl (fun m e => m.insert e.1 e.2) m).filter fun n _ => keep n from h ∅
  induction l with
  | nil => exact fun _ => rfl
  | cons e r ih =>
    intro m
    cases he : keep e.1 with
    | true =>
      rw [List.filter_cons_of_pos (by exact he), List.foldl_cons, List.foldl_cons,
        ← filter_insert_of_kept m he]
      exact ih _
    | false =>
      rw [List.filter_cons_of_neg (by simp [he]), List.foldl_cons,
        ← filter_insert_of_dropped m he e.2]
      exact ih _

theorem entries_ofList (l : List (String × α)) :
    (ofList l).entries = l.foldl (fun r e => insertEntry e.1 e.2 r) [] := by
  suffices ∀ m : NameMap α, (l.foldl (fun m e => m.insert e.1 e.2) m).entries =
      l.foldl (fun r e => insertEntry e.1 e.2 r) m.entries from this empty
  induction l with
  | nil => exact fun _ => rfl
  | cons e l ih => exact fun m => ih (m.insert e.1 e.2)

theorem ofList_append_singleton (l : List (String × α)) (e : String × α) :
    ofList (l ++ [e]) = (ofList l).insert e.1 e.2 := by
  rw [ofList, List.foldl_append]
  rfl

theorem ofList_entries (m : NameMap α) : ofList m.entries = m :=
  ext_get? fun k => get?_ofList m.ordered k

theorem get?_union (m n : NameMap α) (k : String) :
    (m.union n).get? k = (n.get? k).or (m.get? k) :=
  get?_foldl_insert n.ordered m k

end NameMap

namespace NameSet

theorem get?_ofNames (l : List String) (n : String) :
    (ofNames l).get? n = if n ∈ l then some () else none := by
  suffices h : ∀ m : NameSet,
      ((l.map fun n => (n, ())).foldl (fun m e => m.insert e.1 e.2) m).get? n =
        if n ∈ l then some () else m.get? n from h ∅
  induction l with
  | nil => exact fun m => rfl
  | cons k l ih =>
    intro m
    rw [List.map_cons, List.foldl_cons, ih, NameMap.get?_insert]
    by_cases hl : n ∈ l
    · simp [hl]
    · simp [hl, eq_comm]

theorem mem_names_ofNames (l : List String) (n : String) : n ∈ (ofNames l).names ↔ n ∈ l := by
  rw [NameMap.mem_names_iff, NameMap.contains_eq_isSome, get?_ofNames]
  split <;> simp [*]

theorem ofNames_append (l r : List String) : ofNames (l ++ r) = (ofNames l).union (ofNames r) := by
  refine NameMap.ext_get? fun n => ?_
  rw [NameMap.get?_union, get?_ofNames, get?_ofNames, get?_ofNames]
  by_cases hl : n ∈ l <;> by_cases hr : n ∈ r <;> simp [hl, hr]

theorem union_comm (a b : NameSet) : a.union b = b.union a := by
  refine NameMap.ext_get? fun n => ?_
  rw [NameMap.get?_union, NameMap.get?_union]
  cases a.get? n <;> cases b.get? n <;> rfl

end NameSet

end Roster
