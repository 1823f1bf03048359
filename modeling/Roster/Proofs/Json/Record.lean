import Roster.Json.Record
import Roster.Proofs.NameMap

/-! # Laws of records

A record is known by its fields: what each of them takes over, what it leaves
alone, and what becomes of the fields that have no meaning. From that follows
what reading a whole mapping does, by induction on its entries.
-/
namespace Roster

variable {α β γ : Type}

def NameMap.text? (m : NameMap Json) (key : String) : Option String :=
  (m.get? key).bind Json.string?

/-- The mapping at a name, empty if there is none. -/
def NameMap.block (m : NameMap Json) (key : String) : NameMap Json :=
  ((m.get? key).bind Json.toMap?).getD ∅

def Json.keepFields (names : List String) : Json → Json
  | .object l => .object (l.filter fun f => names.contains f.1)
  | v => v

theorem NameMap.text?_filter (m : NameMap Json) {keep : String → Bool} {key : String}
    (h : keep key = true) : (m.filter fun k _ => keep k).text? key = m.text? key := by
  rw [text?, get?_filter, if_pos h, text?]

theorem map_eq_ok_iff {ε : Type} {r : Except ε α} {f : α → β} {b : β} :
    r.map f = .ok b ↔ ∃ a, r = .ok a ∧ f a = b := by
  cases r <;> simp [Except.map]

theorem bind_eq_ok_iff {ε : Type} {r : Except ε α} {f : α → Except ε β} {b : β} :
    r >>= f = .ok b ↔ ∃ a, r = .ok a ∧ f a = .ok b := by
  cases r <;> simp [bind, Except.bind]

theorem foldlM_cons_eq_ok_iff {ε : Type} {f : α → β → Except ε α} {a c : α} {b : β}
    {l : List β} :
    (b :: l).foldlM f a = .ok c ↔ ∃ a', f a b = .ok a' ∧ l.foldlM f a' = .ok c := by
  rw [List.foldlM_cons]
  cases f a b <;> simp [bind, Except.bind]

namespace Field

/-- A field has no influence on what `get` returns. -/
def Keeps (f : Field α) (get : α → β) : Prop :=
  ∀ {a v b}, f.put a v = .ok b → get b = get a

/-- Changing the value of a field by `clean` changes the record that is read by `g`. -/
def Carries (f : Field α) (clean : Json → Json) (g : α → α) : Prop :=
  ∀ a v, f.put (g a) (clean v) = (f.put a v).map g

variable {key : String} {shape : Shape β} {assign : α → β → α}

@[simp]
theorem key_of : (of key shape assign).key = key := rfl

theorem keeps_of {get : α → γ} (h : ∀ a x, get (assign a x) = get a) :
    (of key shape assign).Keeps get := by
  intro a v b hb
  obtain ⟨x, -, rfl⟩ := map_eq_ok_iff.mp hb
  exact h a x

theorem carries_of {clean : Json → Json} {g : α → α} {h : β → β}
    (hshape : ∀ v, shape (clean v) = (shape v).map h)
    (hassign : ∀ a x, assign (g a) (h x) = g (assign a x)) :
    (of key shape assign).Carries clean g := by
  intro a v
  simp only [of, hshape]
  cases shape v with
  | error e => rfl
  | ok x => exact congrArg Except.ok (hassign a x)

theorem carries_of_same {g : α → α} (hassign : ∀ a x, assign (g a) x = g (assign a x)) :
    (of key shape assign).Carries (fun v => v) g :=
  carries_of (h := id) (fun v => by cases shape v <;> rfl) hassign

@[simp]
theorem key_ignored : (ignored key : Field α).key = key := rfl

theorem keeps_ignored (get : α → γ) : (ignored key : Field α).Keeps get := by
  intro a v b hb
  rw [Except.ok.inj hb]

end Field

namespace WithExtra

/-- What a function makes of the known part, with the same beside it. -/
def map (f : α → β) (w : WithExtra α) : WithExtra β :=
  ⟨f w.known, w.extra⟩

/-- What is known, with nothing beside it. -/
def alone (w : WithExtra α) : WithExtra α :=
  ⟨w.known, ∅⟩

@[simp]
theorem map_id : (map id : WithExtra α → WithExtra α) = id := rfl

end WithExtra

namespace Record

variable {r : Record α} {k : String} {f : Field α} {m : NameMap Json} {a : α} {w : WithExtra α}

theorem key_of_field? (h : r.field? k = some f) : f.key = k := by
  simpa using List.find?_some h

theorem mem_of_field? (h : r.field? k = some f) : f ∈ r.fields :=
  List.mem_of_find?_eq_some h

theorem key_mem_names (h : f ∈ r.fields) : f.key ∈ r.names :=
  List.mem_map_of_mem h

theorem mem_names_of_field? (h : r.field? k = some f) : k ∈ r.names :=
  key_of_field? h ▸ key_mem_names (mem_of_field? h)

theorem field?_eq_none_iff : r.field? k = none ↔ k ∉ r.names := by
  simp [field?, names]

theorem set_of_field? (h : r.field? k = some f) (a : α) (v : Json) :
    r.set a k v = f.put a v := by
  rw [set, h]

theorem set_of_not_mem (h : k ∉ r.names) (a : α) (v : Json) : r.set a k v = .ok a := by
  rw [set, field?_eq_none_iff.mpr h]

theorem set_of_shape {key : String} {shape : Shape β} {assign : α → β → α}
    (hf : r.field? key = some (.of key shape assign)) {v : Json} {x : β}
    (hv : shape v = .ok x) (a : α) : r.set a key v = .ok (assign a x) := by
  rw [set_of_field? hf]
  exact congrArg (Except.map (assign a)) hv

theorem read_eq_ok_iff : r.read m = .ok w ↔ r.readKnown m = .ok w.known ∧ w.extra = r.extra m := by
  rw [read, map_eq_ok_iff]
  constructor
  · rintro ⟨a, ha, rfl⟩
    exact ⟨ha, rfl⟩
  · rintro ⟨hknown, hextra⟩
    exact ⟨w.known, hknown, by rw [← hextra]⟩

theorem readKnown_of_entries (r : Record α) {l : List (String × Json)} (h : m.entries = l) :
    r.readKnown m = l.foldlM (fun a e => r.set a e.1 e.2) r.start := by
  rw [readKnown, Shape.fields, h]

theorem get?_extra (r : Record α) (m : NameMap Json) (k : String) :
    (r.extra m).get? k = if k ∈ r.names then none else m.get? k := by
  rw [extra, NameMap.get?_filter]
  by_cases hk : k ∈ r.names
  · rw [if_neg (by simpa using hk), if_pos hk]
  · rw [if_pos (by simpa using hk), if_neg hk]

theorem text?_extra (hk : k ∉ r.names) : (r.extra m).text? k = m.text? k :=
  m.text?_filter (by simpa using hk)

theorem extra_filter_names (r : Record α) (m : NameMap Json) :
    ((r.extra m).filter fun k _ => r.names.contains k) = ∅ := by
  refine NameMap.ext_get? fun k => ?_
  rw [NameMap.get?_filter, get?_extra, NameMap.get?_empty]
  by_cases hk : k ∈ r.names
  · rw [if_pos hk, ite_self]
  · rw [if_neg (by simpa using hk)]

theorem read_of_readKnown (h : r.readKnown m = .ok a) (hextra : r.extra m = ∅) :
    r.read m = .ok ⟨a, ∅⟩ :=
  read_eq_ok_iff.mpr ⟨h, hextra.symm⟩

theorem read_ofList {l : List (String × Json)} (hnames : ∀ e ∈ l, e.1 ∈ r.names)
    (h : (l.foldl (fun r e => insertEntry e.1 e.2 r) []).foldlM (fun a e => r.set a e.1 e.2)
      r.start = .ok a) : r.read (.ofList l) = .ok ⟨a, ∅⟩ := by
  refine read_of_readKnown ((r.readKnown_of_entries (NameMap.entries_ofList l)).trans h) ?_
  have hnone : l.filter (fun e => !r.names.contains e.1) = [] :=
    List.filter_eq_nil_iff.mpr fun e he => by simpa using hnames e he
  rw [extra, ← NameMap.ofList_filter, hnone]
  rfl

theorem optional_ofJson_ofFields {l : List (String × Json)}
    (h : r.read (.ofList l) = .ok w) : Shape.optional r.ofJson (.ofFields l) = .ok (some w) := by
  change (r.read (.ofList (NameMap.ofList l).entries)).map some = _
  rw [NameMap.ofList_entries, h]
  rfl

/-- The value of one field determines what `get` returns. -/
structure Holds (r : Record α) (key : String) (shape : Shape β) (get : α → β) : Prop where
  own : ∀ {a v b}, r.set a key v = .ok b → shape v = .ok (get b)
  others : ∀ {a k v b}, k ≠ key → r.set a k v = .ok b → get b = get a

theorem holds_of {key : String} {shape : Shape β} {assign : α → β → α} {get : α → β}
    (hfield : r.field? key = some (.of key shape assign)) (hget : ∀ a x, get (assign a x) = x)
    (hkeeps : ∀ f ∈ r.fields, f.key ≠ key → f.Keeps get) : r.Holds key shape get where
  own {a v b} h := by
    rw [set_of_field? hfield] at h
    obtain ⟨x, hx, rfl⟩ := map_eq_ok_iff.mp h
    rw [hget, hx]
  others {a k v b} hk h := by
    cases hf : r.field? k with
    | some f =>
      rw [set_of_field? hf] at h
      exact hkeeps f (mem_of_field? hf) (key_of_field? hf ▸ hk) h
    | none =>
      rw [set_of_not_mem (field?_eq_none_iff.mp hf)] at h
      cases h
      rfl

namespace Holds

variable {key : String}

theorem read {shape : Shape β} {get : α → β} (hr : r.Holds key shape get)
    (h : r.readKnown m = .ok a) : (m.get? key).elim (.ok (get r.start)) shape = .ok (get a) := by
  simp only [readKnown, Shape.fields] at h
  have hordered := m.ordered
  rw [NameMap.get?]
  generalize r.start = s at h
  generalize m.entries = l at h hordered
  induction l generalizing s with
  | nil =>
    cases h
    rfl
  | cons e l ih =>
    obtain ⟨b, hb, hl⟩ := foldlM_cons_eq_ok_iff.mp h
    have hrest := ih b hl (List.pairwise_cons.mp hordered).2
    by_cases hek : e.1 = key
    · -- no later entry has the name
      subst hek
      rw [find?_eq_none_of_cons hordered] at hrest
      rw [List.find?_cons_of_pos (by simp)]
      exact (hr.own hb).trans hrest
    · rw [List.find?_cons_of_neg (by simpa using hek), ← hr.others hek hb]
      exact hrest

theorem text? {get : α → Option String} (hr : r.Holds key (Shape.optional Shape.string) get)
    (hstart : get r.start = none) (h : r.readKnown m = .ok a) : get a = m.text? key := by
  have hread := hr.read h
  rw [NameMap.text?]
  cases hm : m.get? key with
  | none =>
    rw [hm, hstart] at hread
    exact (Except.ok.inj hread).symm
  | some v =>
    rw [hm] at hread
    cases v with
    | null => exact (Except.ok.inj hread).symm
    | string s => exact (Except.ok.inj hread).symm
    | bool _ => cases hread
    | number _ => cases hread
    | array _ => cases hread
    | object _ => cases hread

end Holds

/-- A record within a mapping is missing, or it is read from the mapping there. -/
def ReadsAt (r : Record α) (m : NameMap Json) (key : String) (o : Option (WithExtra α)) : Prop :=
  o = none ∧ m.block key = ∅ ∨ ∃ w, o = some w ∧ r.read (m.block key) = .ok w

theorem Holds.readsAt {inner : Record β} {key : String} {get : α → Option (WithExtra β)}
    (hr : r.Holds key (Shape.optional inner.ofJson) get) (hstart : get r.start = none)
    (h : r.readKnown m = .ok a) : inner.ReadsAt m key (get a) := by
  have hread := hr.read h
  rw [ReadsAt, NameMap.block]
  cases hm : m.get? key with
  | none =>
    rw [hm, hstart] at hread
    exact .inl ⟨(Except.ok.inj hread).symm, rfl⟩
  | some v =>
    rw [hm] at hread
    cases v with
    | null => exact .inl ⟨(Except.ok.inj hread).symm, rfl⟩
    | object l =>
      obtain ⟨b, hb, hget⟩ := map_eq_ok_iff.mp hread
      exact .inr ⟨b, hget.symm, hb⟩
    | bool _ => cases hread
    | number _ => cases hread
    | string _ => cases hread
    | array _ => cases hread

section Tidy

variable {keep : String → Bool} {clean : String → Json → Json} {g : α → α}

theorem extra_filter_mapEntries (hplain : ∀ k, k ∉ r.names → clean k = fun v => v)
    (m : NameMap Json) : r.extra ((m.filter fun k _ => keep k).mapEntries clean) =
      (r.extra m).filter fun k _ => keep k := by
  refine NameMap.ext_get? fun k => ?_
  rw [get?_extra, NameMap.get?_mapEntries, NameMap.get?_filter, NameMap.get?_filter, get?_extra]
  by_cases hk : k ∈ r.names
  · simp [hk]
  · rw [if_neg hk, if_neg hk, hplain k hk, Option.map_id']

/-- Leaving out entries that are no fields and changing the values of the fields by `clean` changes
the record that is read by `g`. -/
theorem readKnown_filter_mapEntries
    (hfields : ∀ f ∈ r.fields, keep f.key = true ∧ f.Carries (clean f.key) g)
    (hstart : g r.start = r.start) (m : NameMap Json) :
    r.readKnown ((m.filter fun k _ => keep k).mapEntries clean) = (r.readKnown m).map g := by
  have hset : ∀ a k v, r.set (g a) k (clean k v) = (r.set a k v).map g := by
    intro a k v
    cases hf : r.field? k with
    | some f =>
      rw [set_of_field? hf, set_of_field? hf, ← key_of_field? hf]
      exact (hfields f (mem_of_field? hf)).2 a v
    | none =>
      have hnot := field?_eq_none_iff.mp hf
      rw [set_of_not_mem hnot, set_of_not_mem hnot]
      rfl
  suffices hrun : ∀ a, (((m.entries.filter fun e => keep e.1).map fun e =>
      (e.1, clean e.1 e.2)).foldlM (fun a e => r.set a e.1 e.2) (g a)) =
        (m.entries.foldlM (fun a e => r.set a e.1 e.2) a).map g from
    (congrArg (Shape.fields r.set · _) hstart.symm).trans (hrun r.start)
  intro a
  induction m.entries generalizing a with
  | nil => rfl
  | cons e l ih =>
    rw [List.foldlM_cons]
    cases hk : keep e.1 with
    | true =>
      rw [List.filter_cons_of_pos (by exact hk), List.map_cons, List.foldlM_cons,
        hset a e.1 e.2]
      cases r.set a e.1 e.2 with
      | error reason => rfl
      | ok b => exact ih b
    | false =>
      have hnot : e.1 ∉ r.names := by
        intro hmem
        obtain ⟨f, hf, hfe⟩ := List.mem_map.mp hmem
        rw [← hfe, (hfields f hf).1] at hk
        cases hk
      rw [List.filter_cons_of_neg (by simp [hk]), set_of_not_mem hnot]
      exact ih a

theorem read_filter_mapEntries
    (hfields : ∀ f ∈ r.fields, keep f.key = true ∧ f.Carries (clean f.key) g)
    (hplain : ∀ k, k ∉ r.names → clean k = fun v => v) (hstart : g r.start = r.start)
    (m : NameMap Json) :
    r.read ((m.filter fun k _ => keep k).mapEntries clean) =
      (r.read m).map fun w => ⟨g w.known, w.extra.filter fun k _ => keep k⟩ := by
  rw [read, read, readKnown_filter_mapEntries hfields hstart, extra_filter_mapEntries hplain]
  cases r.readKnown m <;> rfl

theorem read_filter (hkeep : ∀ k ∈ r.names, keep k = true) (m : NameMap Json) :
    r.read (m.filter fun k _ => keep k) =
      (r.read m).map fun w => ⟨w.known, w.extra.filter fun k _ => keep k⟩ := by
  rw [← NameMap.mapEntries_id (m.filter _)]
  refine read_filter_mapEntries (g := id) (fun f hf => ⟨hkeep _ (key_mem_names hf), fun a v => ?_⟩)
    (fun _ _ => rfl) rfl m
  cases h : f.put a v <;> simp [Except.map, h]

/-- With its fields alone a mapping writes the same record, and nothing is beside it. -/
theorem read_filter_names (r : Record α) (m : NameMap Json) :
    r.read (m.filter fun k _ => r.names.contains k) = (r.read m).map WithExtra.alone := by
  rw [read_filter (fun k hk => List.contains_iff_mem.mpr hk), read]
  cases r.readKnown m with
  | error reason => rfl
  | ok a =>
    simp only [Except.map, extra_filter_names]
    rfl

/-- Leaving out the fields without meaning from a record within a record. -/
theorem optional_ofJson_keepFields (r : Record α) (v : Json) :
    Shape.optional r.ofJson (v.keepFields r.names) =
      (Shape.optional r.ofJson v).map (Option.map WithExtra.alone) := by
  cases v with
  | object l =>
    change (r.read (NameMap.ofList (l.filter fun f => r.names.contains f.1))).map some =
      ((r.read (NameMap.ofList l)).map some).map (Option.map WithExtra.alone)
    rw [NameMap.ofList_filter, r.read_filter_names]
    cases r.read (NameMap.ofList l) <;> rfl
  | null => rfl
  | bool _ => rfl
  | number _ => rfl
  | string _ => rfl
  | array _ => rfl

end Tidy

/-! ## One more entry -/

theorem extra_insert (hk : k ∈ r.names) (m : NameMap Json) (v : Json) :
    r.extra (m.insert k v) = r.extra m := by
  refine NameMap.ext_get? fun n => ?_
  rw [get?_extra, get?_extra, NameMap.get?_insert]
  split
  · rfl
  · next hn => rw [if_neg (ne_of_mem_of_not_mem hk hn)]

/-- A change that may be made before each step of a walk may be made before the walk. -/
theorem foldlM_of_steps {ε : Type} {step : α → β → Except ε α} {g : α → α} {l : List β}
    (h : ∀ b ∈ l, ∀ a, step (g a) b = (step a b).map g) (a : α) :
    l.foldlM step (g a) = (l.foldlM step a).map g := by
  induction l generalizing a with
  | nil => rfl
  | cons b l ih =>
    obtain ⟨hb, hl⟩ := List.forall_mem_cons.mp h
    rw [List.foldlM_cons, List.foldlM_cons, hb a]
    cases step a b with
    | error e => rfl
    | ok a' => exact ih hl a'

theorem set_of_carries {g : α → α}
    (hfields : ∀ f ∈ r.fields, f.key ≠ k → f.Carries (fun v => v) g) {n : String} (hn : n ≠ k)
    (a : α) (v : Json) : r.set (g a) n v = (r.set a n v).map g := by
  cases hf : r.field? n with
  | some f =>
    rw [set_of_field? hf, set_of_field? hf]
    exact hfields f (mem_of_field? hf) (key_of_field? hf ▸ hn) a v
  | none =>
    have hnot := field?_eq_none_iff.mp hf
    rw [set_of_not_mem hnot, set_of_not_mem hnot]
    rfl

/-- One more entry changes the record by `g`, if that may happen before or after the others. -/
theorem readKnown_insert {v : Json} {g : α → α} (hentry : ∀ a, r.set a k v = .ok (g a))
    (hfields : ∀ f ∈ r.fields, f.key ≠ k → f.Carries (fun v => v) g) (hm : m.get? k = none) :
    r.readKnown (m.insert k v) = (r.readKnown m).map g := by
  have hnew : ∀ e ∈ m.entries, e.1 ≠ k := by
    intro e he hek
    have hsome := (NameMap.mem_entries_iff m e.1 e.2).mp he
    rw [hek, hm] at hsome
    cases hsome
  simp only [readKnown, Shape.fields, NameMap.insert]
  generalize r.start = a
  generalize m.entries = l at hnew
  induction l generalizing a with
  | nil =>
    rw [insertEntry, List.foldlM_cons, hentry]
    rfl
  | cons e l ih =>
    rw [insertEntry]
    split
    · rw [List.foldlM_cons, hentry]
      refine foldlM_of_steps (fun d hd a => ?_) a
      exact set_of_carries hfields (hnew d hd) a d.2
    · obtain ⟨he, hl⟩ := List.forall_mem_cons.mp hnew
      rw [if_neg (Ne.symm he), List.foldlM_cons, List.foldlM_cons]
      cases r.set a e.1 e.2 with
      | error reason => rfl
      | ok b => exact ih b hl

theorem read_insert {v : Json} {g : α → α} (hk : k ∈ r.names)
    (hentry : ∀ a, r.set a k v = .ok (g a))
    (hfields : ∀ f ∈ r.fields, f.key ≠ k → f.Carries (fun v => v) g) (hm : m.get? k = none) :
    r.read (m.insert k v) = (r.read m).map (WithExtra.map g) := by
  rw [read, read, readKnown_insert hentry hfields hm, extra_insert hk]
  cases r.readKnown m <;> rfl

end Record

end Roster
