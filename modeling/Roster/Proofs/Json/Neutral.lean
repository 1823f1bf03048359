import Mathlib.Data.List.Forall2
import Roster.Proofs.Json.Record

/-! # Entries that say nothing

What is taken from a record is its meaning, which may leave out how it was written. An
entry is neutral if it leaves the meaning of a record as it starts. The fields of a
record are read one after the other, and none of them depends on another; hence a
mapping has the same meaning with a neutral entry and without it.
-/
namespace Roster

variable {α β γ δ ε : Type}

/-- Results of the same meaning fail in the same way, or both are there. -/
theorem map_eq_map_cases {r s : Except ε α} {f : α → β} (h : r.map f = s.map f) :
    (∃ e, r = .error e ∧ s = .error e) ∨ ∃ a b, r = .ok a ∧ s = .ok b ∧ f a = f b := by
  cases r with
  | error e =>
    cases s with
    | error e' => exact .inl ⟨e, rfl, congrArg Except.error (Except.error.inj h).symm⟩
    | ok b => cases h
  | ok a =>
    cases s with
    | error e' => cases h
    | ok b => exact .inr ⟨a, b, rfl, rfl, Except.ok.inj h⟩

theorem map_eq_of_map_eq {r s : Except ε α} {f : α → β} {g : α → γ}
    (hfg : ∀ a b, f a = f b → g a = g b) (h : r.map f = s.map f) : r.map g = s.map g := by
  rcases map_eq_map_cases h with ⟨e, rfl, rfl⟩ | ⟨a, b, rfl, rfl, hab⟩
  · rfl
  · exact congrArg Except.ok (hfg a b hab)

/-- Two walks have the same meaning if their steps have, one by one. -/
theorem foldlM_map_eq {step : α → β → Except ε α} {mean : α → γ} {l l' : List β}
    (h : List.Forall₂ (fun e e' => ∀ a b, mean a = mean b →
      (step a e).map mean = (step b e').map mean) l l') {a b : α} (hab : mean a = mean b) :
    (l.foldlM step a).map mean = (l'.foldlM step b).map mean := by
  induction h generalizing a b with
  | nil => exact congrArg Except.ok hab
  | cons he _ ih =>
    rw [List.foldlM_cons, List.foldlM_cons]
    rcases map_eq_map_cases (he a b hab) with ⟨e, ha, hb⟩ | ⟨a', b', ha, hb, hab'⟩
    · rw [ha, hb]
      rfl
    · rw [ha, hb]
      exact ih hab'

theorem foldlM_congr {step : α → β → Except ε α} {l l' : List β}
    (h : List.Forall₂ (fun e e' => ∀ a, step a e = step a e') l l') (a : α) :
    l.foldlM step a = l'.foldlM step a := by
  induction h generalizing a with
  | nil => rfl
  | cons he _ ih =>
    rw [List.foldlM_cons, List.foldlM_cons, he a]
    exact bind_congr ih

theorem forall₂_insertEntry {R : String × α → String × α → Prop} (h : ∀ e, R e e) {k : String}
    {v v' : α} (hk : R (k, v) (k, v')) (l : List (String × α)) :
    List.Forall₂ R (insertEntry k v l) (insertEntry k v' l) := by
  induction l with
  | nil => exact .cons hk .nil
  | cons e l ih =>
    rw [insertEntry, insertEntry]
    split
    · exact .cons hk (List.forall₂_same.mpr fun e _ => h e)
    · split
      · exact .cons hk (List.forall₂_same.mpr fun e _ => h e)
      · exact .cons (h e) ih

namespace NameMap

theorem get?_erase (m : NameMap α) (k n : String) :
    (m.erase k).get? n = if k = n then none else m.get? n := by
  have h := m.get?_filter (fun n => n != k) n
  rw [erase]
  refine h.trans ?_
  by_cases hkn : k = n
  · simp [hkn]
  · simp [hkn, Ne.symm hkn]

theorem erase_insert_self (m : NameMap α) (k : String) (v : α) :
    (m.insert k v).erase k = m.erase k := by
  refine ext_get? fun n => ?_
  rw [get?_erase, get?_insert, get?_erase]
  split <;> rfl

theorem erase_insert_of_ne (m : NameMap α) {k n : String} (h : n ≠ k) (v : α) :
    (m.insert n v).erase k = (m.erase k).insert n v := by
  refine ext_get? fun x => ?_
  rw [get?_erase, get?_insert, get?_insert, get?_erase]
  split
  · next hkx => rw [if_neg fun hnx => h (hnx.trans hkx.symm)]
  · rfl

theorem erase_of_get? {m : NameMap α} {k : String} (h : m.get? k = none) : m.erase k = m := by
  refine ext_get? fun n => ?_
  rw [get?_erase]
  split
  · next hkn => rw [← hkn, h]
  · rfl

theorem erase_insert {m : NameMap α} {k : String} (h : m.get? k = none) (v : α) :
    (m.insert k v).erase k = m := by
  rw [erase_insert_self, erase_of_get? h]

theorem insert_erase {m : NameMap α} {k : String} {v : α} (h : m.get? k = some v) :
    (m.erase k).insert k v = m := by
  refine ext_get? fun n => ?_
  rw [get?_insert, get?_erase]
  split
  · next hkn => rw [← hkn, h]
  · rfl

theorem insert_eq_self {m : NameMap α} {k : String} {v : α} (h : m.get? k = some v) :
    m.insert k v = m := by
  refine ext_get? fun n => ?_
  rw [get?_insert]
  split
  · next hkn => rw [← hkn, h]
  · rfl

theorem insert_erase_of_eq (m : NameMap α) (k : String) (v : α) :
    (m.erase k).insert k v = m.insert k v := by
  refine ext_get? fun n => ?_
  rw [get?_insert, get?_insert, get?_erase]
  split
  · rfl
  · rfl

theorem ne_of_mem_entries {m : NameMap α} {k : String} (h : m.get? k = none) :
    ∀ e ∈ m.entries, e.1 ≠ k := by
  intro e he hek
  have hsome := (mem_entries_iff m e.1 e.2).mp he
  rw [hek, h] at hsome
  cases hsome

end NameMap

namespace Field

/-- The meaning of a record behind a field is found from that in front of it. -/
def Respects (f : Field α) (mean : α → γ) : Prop :=
  ∀ {a b} v, mean a = mean b → (f.put a v).map mean = (f.put b v).map mean

/-- A field may be read ahead of another. -/
def Commutes (f g : Field α) : Prop :=
  ∀ {a v b} x, f.put a v = .ok b → g.put b x = (g.put a x).bind (f.put · v)

variable {key : String} {shape : Shape β} {assign : α → β → α}

theorem respects_of {mean : α → γ}
    (h : ∀ a b x, mean a = mean b → mean (assign a x) = mean (assign b x)) :
    (of key shape assign).Respects mean := by
  intro a b v hab
  simp only [of]
  cases shape v with
  | error e => rfl
  | ok x => exact congrArg Except.ok (h a b x hab)

theorem respects_id (f : Field α) : f.Respects id := by
  intro a b v hab
  rw [show a = b from hab]

theorem commutes_of {key' : String} {shape' : Shape δ} {assign' : α → δ → α}
    (h : ∀ a x y, assign' (assign a x) y = assign (assign' a y) x) :
    (of key shape assign).Commutes (of key' shape' assign') := by
  intro a v b x hb
  obtain ⟨y, hy, rfl⟩ := map_eq_ok_iff.mp hb
  simp only [of]
  cases shape' x with
  | error e => rfl
  | ok z =>
    rw [hy]
    exact congrArg Except.ok (h a y z)

theorem commutes_ignored (f : Field α) : f.Commutes (ignored key) := by
  intro a v b x hb
  exact hb.symm

theorem ignored_commutes (f : Field α) : (ignored key : Field α).Commutes f := by
  intro a v b x hb
  cases hb
  cases f.put a x <;> rfl

end Field

namespace Record

variable {r : Record α} {mean : α → γ} {k n : String} {v v' : Json} {m : NameMap Json} {a : α}
  {w : WithExtra α}

/-- The meaning behind an entry is found from that in front of it. -/
def RespectsAt (r : Record α) (mean : α → γ) (n : String) : Prop :=
  ∀ {a b} v, mean a = mean b → (r.set a n v).map mean = (r.set b n v).map mean

/-- An entry of the name `k` may be read ahead of one of the name `n`. -/
def CommutesAt (r : Record α) (k n : String) : Prop :=
  ∀ {a v b} x, r.set a k v = .ok b → r.set b n x = (r.set a n x).bind (r.set · k v)

/-- An entry that does not change the meaning of the record as it starts. -/
def Neutral (r : Record α) (mean : α → γ) (k : String) (v : Json) : Prop :=
  (r.set r.start k v).map mean = .ok (mean r.start)

instance [DecidableEq γ] (r : Record α) (mean : α → γ) (k : String) (v : Json) :
    Decidable (r.Neutral mean k v) :=
  inferInstanceAs (Decidable (_ = _))

theorem respectsAt_of (hfields : ∀ f ∈ r.fields, f.key = n → f.Respects mean) :
    r.RespectsAt mean n := by
  intro a b v hab
  cases hf : r.field? n with
  | some f =>
    rw [set_of_field? hf, set_of_field? hf]
    exact hfields f (mem_of_field? hf) (key_of_field? hf) v hab
  | none =>
    have hnot := field?_eq_none_iff.mp hf
    rw [set_of_not_mem hnot, set_of_not_mem hnot]
    exact congrArg Except.ok hab

theorem commutesAt_of
    (hfields : ∀ f ∈ r.fields, f.key = k → ∀ g ∈ r.fields, g.key = n → f.Commutes g)
    (hk : k ∈ r.names) : r.CommutesAt k n := by
  intro a v b x hb
  cases hf : r.field? k with
  | none => exact absurd hk (field?_eq_none_iff.mp hf)
  | some f =>
    have hset : ∀ c, r.set c k v = f.put c v := fun c => set_of_field? hf c v
    rw [hset] at hb
    simp only [hset]
    cases hg : r.field? n with
    | some g =>
      rw [set_of_field? hg, set_of_field? hg]
      exact hfields f (mem_of_field? hf) (key_of_field? hf) g (mem_of_field? hg)
        (key_of_field? hg) x hb
    | none =>
      have hnot := field?_eq_none_iff.mp hg
      rw [set_of_not_mem hnot, set_of_not_mem hnot]
      exact hb.symm

/-- An entry that changes the meaning nowhere can be left out: it says nothing as long as no entry
of its name was read, which no other entry changes. -/
theorem readKnown_insert_of_neutral (hrespects : ∀ e ∈ m.entries, r.RespectsAt mean e.1)
    (hcommutes : ∀ e ∈ m.entries, r.CommutesAt k e.1) (hneutral : r.Neutral mean k v)
    (hm : m.get? k = none) : (r.readKnown (m.insert k v)).map mean = (r.readKnown m).map mean := by
  have hnew := NameMap.ne_of_mem_entries hm
  simp only [readKnown, Shape.fields, NameMap.insert]
  rw [Neutral] at hneutral
  generalize r.start = a at hneutral
  generalize m.entries = l at hnew hrespects hcommutes
  induction l generalizing a with
  | nil =>
    obtain ⟨b, hb, hmean⟩ := map_eq_ok_iff.mp hneutral
    rw [insertEntry, List.foldlM_cons, hb]
    exact congrArg Except.ok hmean
  | cons e l ih =>
    obtain ⟨hek, hnew⟩ := List.forall_mem_cons.mp hnew
    obtain ⟨hecommutes, hcommutes⟩ := List.forall_mem_cons.mp hcommutes
    obtain ⟨b, hb, hmean⟩ := map_eq_ok_iff.mp hneutral
    rw [insertEntry]
    split
    · -- the entry comes first, and the others are read behind it
      rw [List.foldlM_cons, hb]
      refine foldlM_map_eq (List.forall₂_same.mpr fun d hd _ _ hab => ?_) hmean
      exact hrespects d hd d.2 hab
    · rw [if_neg (Ne.symm hek), List.foldlM_cons, List.foldlM_cons]
      cases hstep : r.set a e.1 e.2 with
      | error reason => rfl
      | ok c =>
        have hbehind := hecommutes e.2 hb
        rw [hstep] at hbehind
        have hsame := hrespects e List.mem_cons_self e.2 hmean
        rw [hstep] at hsame
        obtain ⟨d, hd, hmeand⟩ := map_eq_ok_iff.mp hsame
        exact ih c (map_eq_ok_iff.mpr ⟨d, hbehind.symm.trans hd, hmeand⟩) hnew
          (fun d hd => hrespects d (List.mem_cons_of_mem e hd)) hcommutes

theorem extra_erase (hk : k ∈ r.names) (m : NameMap Json) :
    r.extra (m.erase k) = r.extra m := by
  refine NameMap.ext_get? fun n => ?_
  rw [get?_extra, get?_extra, NameMap.get?_erase]
  split
  · rfl
  · next hn => rw [if_neg (ne_of_mem_of_not_mem hk hn)]

theorem read_map_eq {m' : NameMap Json}
    (h : (r.readKnown m).map mean = (r.readKnown m').map mean) (hextra : r.extra m = r.extra m') :
    (r.read m).map (WithExtra.map mean) = (r.read m').map (WithExtra.map mean) := by
  rw [read, read, hextra]
  rcases map_eq_map_cases h with ⟨e, hm, hm'⟩ | ⟨a, b, hm, hm', hab⟩
  · rw [hm, hm']
  · rw [hm, hm']
    exact congrArg (fun x => Except.ok (WithExtra.mk x (r.extra m'))) hab

theorem read_insert_of_neutral (hk : k ∈ r.names)
    (hrespects : ∀ e ∈ m.entries, r.RespectsAt mean e.1)
    (hcommutes : ∀ e ∈ m.entries, r.CommutesAt k e.1) (hneutral : r.Neutral mean k v)
    (hm : m.get? k = none) :
    (r.read (m.insert k v)).map (WithExtra.map mean) = (r.read m).map (WithExtra.map mean) :=
  read_map_eq (readKnown_insert_of_neutral hrespects hcommutes hneutral hm) (extra_insert hk m v)

theorem read_erase_of_neutral (hk : k ∈ r.names)
    (hrespects : ∀ e ∈ m.entries, e.1 ≠ k → r.RespectsAt mean e.1)
    (hcommutes : ∀ e ∈ m.entries, e.1 ≠ k → r.CommutesAt k e.1) (hneutral : r.Neutral mean k v)
    (hm : m.get? k = some v) :
    (r.read (m.erase k)).map (WithExtra.map mean) = (r.read m).map (WithExtra.map mean) := by
  have hnone : (m.erase k).get? k = none := by rw [NameMap.get?_erase, if_pos rfl]
  have hmem : ∀ e ∈ (m.erase k).entries, e ∈ m.entries := fun e he => (List.mem_filter.mp he).1
  have hne := NameMap.ne_of_mem_entries hnone
  have h := read_insert_of_neutral hk (fun e he => hrespects e (hmem e he) (hne e he))
    (fun e he => hcommutes e (hmem e he) (hne e he)) hneutral hnone
  rw [NameMap.insert_erase hm] at h
  exact h.symm

/-- A value of a name may be replaced by one of the same meaning. -/
theorem read_insert_congr (hk : k ∈ r.names) (hrespects : ∀ n, r.RespectsAt mean n)
    (h : ∀ a, (r.set a k v').map mean = (r.set a k v).map mean) (m : NameMap Json) :
    (r.read (m.insert k v')).map (WithExtra.map mean) =
      (r.read (m.insert k v)).map (WithExtra.map mean) := by
  refine read_map_eq (foldlM_map_eq ?_ rfl)
    ((extra_insert hk m v').trans (extra_insert hk m v).symm)
  refine forall₂_insertEntry (fun e a b hab => ?_) (fun a b hab => ?_) m.entries
  · exact hrespects e.1 e.2 hab
  · exact (h a).trans (hrespects k v hab)

/-- The fields of a record do not depend on each other, and have a meaning of their own. -/
structure Meant (r : Record α) (mean : α → γ) : Prop where
  respects : ∀ f ∈ r.fields, f.Respects mean
  commutes : ∀ f ∈ r.fields, ∀ g ∈ r.fields, f.key ≠ g.key → f.Commutes g

namespace Meant

theorem respectsAt (h : r.Meant mean) (n : String) : r.RespectsAt mean n :=
  respectsAt_of fun f hf _ => h.respects f hf

theorem commutesAt (h : r.Meant mean) (hk : k ∈ r.names) (hn : n ≠ k) : r.CommutesAt k n := by
  refine commutesAt_of (fun f hf hfk g hg hgn => h.commutes f hf g hg ?_) hk
  rw [hfk, hgn]
  exact hn.symm

theorem id (h : r.Meant mean) : r.Meant (fun a => a) where
  respects f _ := f.respects_id
  commutes := h.commutes

theorem read_erase (h : r.Meant mean) (hk : k ∈ r.names) (hneutral : r.Neutral mean k v)
    (hm : m.get? k = some v) :
    (r.read (m.erase k)).map (WithExtra.map mean) = (r.read m).map (WithExtra.map mean) :=
  read_erase_of_neutral hk (fun e _ _ => h.respectsAt e.1) (fun _ _ hne => h.commutesAt hk hne)
    hneutral hm

theorem read_insert (h : r.Meant mean) (hk : k ∈ r.names) (hneutral : r.Neutral mean k v)
    (hm : m.get? k = none) :
    (r.read (m.insert k v)).map (WithExtra.map mean) = (r.read m).map (WithExtra.map mean) :=
  read_insert_of_neutral hk (fun e _ => h.respectsAt e.1)
    (fun e he => h.commutesAt hk (NameMap.ne_of_mem_entries hm e he)) hneutral hm

end Meant

theorem read_erase_extra (hk : k ∉ r.names) (m : NameMap Json) :
    r.read (m.erase k) = (r.read m).map fun w => ⟨w.known, w.extra.erase k⟩ :=
  read_filter (fun _ hn => bne_iff_ne.mpr (ne_of_mem_of_not_mem hn hk)) m

/-- A walk that goes on behind an entry goes on without it. -/
theorem foldlM_of_commutes {b c : α} {l : List (String × Json)}
    (hcommutes : ∀ e ∈ l, r.CommutesAt k e.1) (hb : r.set a k v = .ok b)
    (hl : l.foldlM (fun a e => r.set a e.1 e.2) b = .ok c) :
    ∃ d, l.foldlM (fun a e => r.set a e.1 e.2) a = .ok d := by
  induction l generalizing a b with
  | nil => exact ⟨a, rfl⟩
  | cons e l ih =>
    obtain ⟨hecommutes, hcommutes⟩ := List.forall_mem_cons.mp hcommutes
    obtain ⟨b', hb', hl⟩ := foldlM_cons_eq_ok_iff.mp hl
    rw [hecommutes e.2 hb] at hb'
    obtain ⟨a', ha', hset⟩ := bind_eq_ok_iff.mp hb'
    obtain ⟨d, hd⟩ := ih hcommutes hset hl
    exact ⟨d, foldlM_cons_eq_ok_iff.mpr ⟨a', ha', hd⟩⟩

/-- What is accepted with a field is accepted without it. -/
theorem readKnown_of_insert (hcommutes : ∀ e ∈ m.entries, r.CommutesAt k e.1)
    (hm : m.get? k = none) (h : r.readKnown (m.insert k v) = .ok a) :
    ∃ b, r.readKnown m = .ok b := by
  have hnew := NameMap.ne_of_mem_entries hm
  simp only [readKnown, Shape.fields, NameMap.insert] at h ⊢
  generalize r.start = s at h
  generalize m.entries = l at hnew hcommutes h
  induction l generalizing s with
  | nil => exact ⟨s, rfl⟩
  | cons e l ih =>
    obtain ⟨hek, hnew⟩ := List.forall_mem_cons.mp hnew
    rw [insertEntry] at h
    split at h
    · obtain ⟨b, hb, hl⟩ := foldlM_cons_eq_ok_iff.mp h
      exact foldlM_of_commutes hcommutes hb hl
    · rw [if_neg (Ne.symm hek)] at h
      obtain ⟨s', hs', hl⟩ := foldlM_cons_eq_ok_iff.mp h
      obtain ⟨b, hb⟩ := ih s' hnew (List.forall_mem_cons.mp hcommutes).2 hl
      exact ⟨b, foldlM_cons_eq_ok_iff.mpr ⟨s', hs', hb⟩⟩

theorem Meant.read_erase_field (h : r.Meant mean) (hk : k ∈ r.names) (hw : r.read m = .ok w) :
    ∃ w', r.read (m.erase k) = .ok w' ∧ w'.extra = w.extra := by
  obtain ⟨hknown, hextra⟩ := read_eq_ok_iff.mp hw
  cases hm : m.get? k with
  | none => exact ⟨w, by rw [NameMap.erase_of_get? hm, hw], rfl⟩
  | some v =>
    have hnone : (m.erase k).get? k = none := by rw [NameMap.get?_erase, if_pos rfl]
    rw [← NameMap.insert_erase hm] at hknown
    obtain ⟨a, ha⟩ := readKnown_of_insert
      (fun e he => h.commutesAt hk (NameMap.ne_of_mem_entries hnone e he)) hnone hknown
    exact ⟨⟨a, w.extra⟩, read_eq_ok_iff.mpr ⟨ha, by rw [hextra, extra_erase hk]⟩, rfl⟩

end Record

end Roster
