import Roster.Proofs.Command.Schema
import Roster.Proofs.Definition.Meaning

/-! # The meaning of entries for parameters

What is taken from an entry and from the constraints in it. A constraint can be
written under two names, of which a mapping may have one; a null is as good as no
entry for it, unless the other name is there. Entries of the same meaning can stand
for each other in a mapping and in a list of parameters.
-/
namespace Roster

namespace Constraints

/-- The name by which messages know a constraint. -/
def firstName : String → String
  | "minLength" => "min_length"
  | "maxLength" => "max_length"
  | "min" => "minimum"
  | "max" => "maximum"
  | k => k

namespace Written

variable {β δ : Type} {name name' key key' : String} {shape : Shape β} {shape' : Shape δ}
  {assign : Constraints → Option β → Constraints} {assign' : Constraints → Option δ → Constraints}

def spelling (name key : String) (shape : Shape β) (assign : Constraints → Option β → Constraints) :
    Field Written :=
  ⟨key, fun w v => (once name w.seen shape v).map fun x =>
    { w with constraints := assign w.constraints x, seen := w.seen.insert name () }⟩

@[simp]
theorem key_spelling : (spelling name key shape assign).key = key := rfl

@[simp]
theorem key_field {assign : Constraints → β → Constraints} : (field key shape assign).key = key :=
  rfl

theorem fields_record : record.fields = [
    field "pattern" (Shape.optional Shape.string) (fun c x => { c with pattern := x }),
    spelling "min_length" "min_length" length (fun c x => { c with minLength := x }),
    spelling "min_length" "minLength" length (fun c x => { c with minLength := x }),
    spelling "max_length" "max_length" length (fun c x => { c with maxLength := x }),
    spelling "max_length" "maxLength" length (fun c x => { c with maxLength := x }),
    spelling "minimum" "minimum" Shape.double (fun c x => { c with minimum := x }),
    spelling "minimum" "min" Shape.double (fun c x => { c with minimum := x }),
    spelling "maximum" "maximum" Shape.double (fun c x => { c with maximum := x }),
    spelling "maximum" "max" Shape.double (fun c x => { c with maximum := x }),
    field "enum" (Shape.optional sequence) fun c x => { c with allowed := x }] :=
  rfl

/-- What is taken from constraints, and which of them were seen apart from one. -/
def meaning (name : String) (w : Written) : Constraints × NameSet :=
  (w.constraints, w.seen.erase name)

theorem once_insert (h : name ≠ name') (seen : NameSet) (shape : Shape β) (v : Json) :
    once name (seen.insert name' ()) shape v = once name seen shape v := by
  rw [once, once, NameMap.contains_eq_isSome, NameMap.get?_insert, if_neg h.symm,
    ← NameMap.contains_eq_isSome]

theorem once_erase (h : name ≠ name') (seen : NameSet) (shape : Shape β) (v : Json) :
    once name (seen.erase name') shape v = once name seen shape v := by
  rw [once, once, NameMap.contains_eq_isSome, NameMap.get?_erase, if_neg h.symm,
    ← NameMap.contains_eq_isSome]

theorem respects_spelling (h : name ≠ name') :
    (spelling name key shape assign).Respects (meaning name') := by
  intro a b v hab
  obtain ⟨hconstraints, hseen⟩ := Prod.mk.inj hab
  simp only [spelling]
  rw [← once_erase h a.seen, ← once_erase h b.seen, hseen]
  cases once name (b.seen.erase name') shape v with
  | error reason => rfl
  | ok x =>
    simp only [Except.map, meaning, hconstraints, NameMap.erase_insert_of_ne _ h, hseen]

theorem respects_field {shape : Shape β} {assign : Constraints → β → Constraints} :
    (field key shape assign).Respects (meaning name) := by
  refine Field.respects_of fun a b x h => ?_
  simp_all [meaning]

theorem spelling_commutes_spelling (hne : name ≠ name')
    (h : ∀ c x y, assign' (assign c x) y = assign (assign' c y) x) :
    (spelling name key shape assign).Commutes (spelling name' key' shape' assign') := by
  intro a v b x hb
  obtain ⟨y, hy, rfl⟩ := map_eq_ok_iff.mp hb
  simp only [spelling, once_insert hne.symm]
  cases once name' a.seen shape' x with
  | error reason => rfl
  | ok z =>
    simp only [Except.map, Except.bind, once_insert hne, hy, h]
    rw [NameMap.insert_comm _ hne]

theorem spelling_commutes_field {shape' : Shape δ} {assign' : Constraints → δ → Constraints}
    (h : ∀ c x y, assign' (assign c x) y = assign (assign' c y) x) :
    (spelling name key shape assign).Commutes (field key' shape' assign') := by
  intro a v b x hb
  obtain ⟨y, hy, rfl⟩ := map_eq_ok_iff.mp hb
  simp only [spelling, field, Field.of]
  cases shape' x with
  | error reason => rfl
  | ok z => simp only [Except.map, Except.bind, hy, h]

theorem field_commutes_spelling {shape : Shape β} {assign : Constraints → β → Constraints}
    (h : ∀ c x y, assign' (assign c x) y = assign (assign' c y) x) :
    (field key shape assign).Commutes (spelling name' key' shape' assign') := by
  intro a v b x hb
  obtain ⟨y, hy, rfl⟩ := map_eq_ok_iff.mp hb
  simp only [spelling, field, Field.of]
  cases once name' a.seen shape' x with
  | error reason => rfl
  | ok z => simp only [Except.map, Except.bind, hy, h]

theorem field_commutes_field {shape : Shape β} {assign : Constraints → β → Constraints}
    {shape' : Shape δ} {assign' : Constraints → δ → Constraints}
    (h : ∀ c x y, assign' (assign c x) y = assign (assign' c y) x) :
    (field key shape assign).Commutes (field key' shape' assign') :=
  Field.commutes_of fun a x y => by rw [h]

theorem respectsAt {n : String} (h : firstName n ≠ name) : record.RespectsAt (meaning name) n := by
  refine Record.respectsAt_of fun f hf hfn => ?_
  subst hfn
  revert f
  simp only [fields_record, List.forall_mem_cons]
  exact ⟨fun _ => respects_field, respects_spelling, respects_spelling, respects_spelling,
    respects_spelling, respects_spelling, respects_spelling, respects_spelling,
    respects_spelling, fun _ => respects_field, by simp⟩

theorem commutesAt {k n : String} (hk : k ∈ record.names) (h : firstName n ≠ firstName k) :
    record.CommutesAt k n := by
  refine Record.commutesAt_of (fun f hf hfk g hg hgn => ?_) hk
  have hne : firstName f.key ≠ firstName g.key := by
    rw [hfk, hgn]
    exact h.symm
  clear hfk hgn
  revert f g
  simp [fields_record, spelling_commutes_spelling, spelling_commutes_field, field_commutes_spelling,
    field_commutes_field, firstName]

theorem neutral_null :
    ∀ k ∈ record.names, record.Neutral (meaning (firstName k)) k .null := by
  simp only [Record.names, fields_record, List.map_cons, List.map_nil, List.forall_mem_cons,
    key_spelling, key_field]
  exact ⟨rfl, rfl, rfl, rfl, rfl, rfl, rfl, rfl, rfl, rfl, by simp⟩

/-- A null can be left out if no other name of its constraint is there. -/
theorem read_erase {m : NameMap Json} {k : String} (hk : k ∈ record.names)
    (hm : m.get? k = some .null)
    (halone : ∀ n, n ≠ k → firstName n = firstName k → m.get? n = none) :
    (record.read (m.erase k)).map (WithExtra.map (·.constraints)) =
      (record.read m).map (WithExtra.map (·.constraints)) := by
  have hothers : ∀ e ∈ m.entries, e.1 ≠ k → firstName e.1 ≠ firstName k := by
    intro e he hek hfirst
    have hsome := (NameMap.mem_entries_iff m e.1 e.2).mp he
    rw [halone e.1 hek hfirst] at hsome
    cases hsome
  have hread := Record.read_erase_of_neutral hk (fun e he hek => respectsAt (hothers e he hek))
    (fun e he hek => commutesAt hk (hothers e he hek)) (neutral_null k hk) hm
  refine map_eq_of_map_eq (fun a b hab => ?_) hread
  simp_all [WithExtra.map, meaning]

end Written

end Constraints

namespace Parameter

namespace Written

/-- What is taken from what is written about a parameter. -/
def meaning (w : Written) :=
  (w.trimmedName, (fun field => Issue.parseWord (field ++ ".type") w.type :
      String → ParameterType × List Issue),
    w.required, w.description, w.default,
    (w.constraints.map (·.known.constraints)).filter fun c => !c.isEmpty,
    w.constraints.elim ∅ (·.extra))

theorem meant : record.Meant meaning where
  respects := by
    simp only [record, List.forall_mem_cons]
    refine ⟨?_, ?_, ?_, ?_, ?_, ?_, by simp⟩ <;>
      exact Field.respects_of (by simp +contextual [meaning, trimmedName])
  commutes := by
    simp [record, Field.commutes_of]

theorem neutral_null : ∀ k ∈ record.names, k ∉ plainFlags → record.Neutral meaning k .null := by
  simp only [record, Record.names, List.map_cons, List.map_nil, List.forall_mem_cons]
  refine ⟨fun _ => rfl, fun _ => rfl, fun h => absurd ?_ h, fun _ => rfl, fun _ => rfl,
    fun _ => rfl, by simp⟩
  simp [plainFlags]

theorem hasBlock_validation : record.HasBlock meaning "validation" Constraints.Written.record
    (·.constraints) fun w x => { w with constraints := x } where
  field := rfl
  respects a x y h := by
    obtain ⟨hconstraints, hextra⟩ := WithExtra.mk.inj h
    simp only [meaning, Option.map_some, Option.elim_some, hconstraints, hextra]
    rfl
  start _ := rfl
  none_start := rfl

end Written

theorem ofWritten_eq (field : String) (w : WithExtra Written) :
    ofWritten field w =
      (⟨(Issue.parseWord (field ++ ".type") w.known.type).1, w.known.required,
        w.known.description, w.known.default,
        (w.known.constraints.map (·.known.constraints)).filter fun c => !c.isEmpty⟩,
      Issue.unknownFields (some field) w.extra ++
        (Issue.parseWord (field ++ ".type") w.known.type : ParameterType × List Issue).2 ++
          Issue.unknownFields (some (field ++ ".validation"))
            (w.known.constraints.elim ∅ (·.extra))) := by
  rw [ofWritten]
  cases w.known.constraints <;> rfl

theorem ofWritten_congr {x y : WithExtra Written}
    (h : x.map Written.meaning = y.map Written.meaning) (field : String) :
    ofWritten field x = ofWritten field y := by
  obtain ⟨hmeaning, hextra⟩ := WithExtra.mk.inj h
  simp only [Written.meaning, Prod.mk.injEq] at hmeaning
  obtain ⟨-, htype, hrequired, hdescription, hdefault, hconstraints, hunknown⟩ := hmeaning
  simp only [ofWritten_eq, congrFun htype field, hrequired, hdescription, hdefault, hconstraints,
    hunknown, hextra]

/-- What is written about a parameter at its defaults. -/
def defaults : Defaults where
  own := [("type", .string "string"), ("required", .bool false), ("validation", .null),
    ("validation", .object [])]
  blocks := []

theorem Written.neutral_defaults : ∀ e ∈ defaults.own,
    e.1 ∈ record.names ∧ record.Neutral meaning e.1 e.2 := by
  have hvalidation := hasBlock_validation.mem_names
  simp only [defaults, List.forall_mem_cons]
  exact ⟨⟨by decide, rfl⟩, ⟨by decide, rfl⟩, ⟨hvalidation, hasBlock_validation.neutral_null⟩,
    ⟨hvalidation, hasBlock_validation.neutral_empty⟩, by simp⟩

/-! ## Entries of the same meaning -/

/-- Whether two entries declare the same under every name. -/
def Alike (x y : Json) : Prop :=
  ∀ label, (Written.ofJson label x).map (WithExtra.map Written.meaning) =
    (Written.ofJson label y).map (WithExtra.map Written.meaning)

variable {x y v : Json} {f : NameMap Json → NameMap Json} {q : List Step} {s : Step}

theorem ofJson_map_meaning (label : String) {m n : NameMap Json}
    (h : (Written.record.read m).map (WithExtra.map Written.meaning) =
      (Written.record.read n).map (WithExtra.map Written.meaning)) :
    (Written.ofJson label (.ofMap m)).map (WithExtra.map Written.meaning) =
      (Written.ofJson label (.ofMap n)).map (WithExtra.map Written.meaning) := by
  rw [Json.ofMap, Json.ofMap, Written.ofJson, Written.ofJson, NameMap.ofList_entries,
    NameMap.ofList_entries]
  rcases map_eq_map_cases h with ⟨e, hm, hn⟩ | ⟨a, b, hm, hn, hab⟩
  · rw [hm, hn]
  · rw [hm, hn]
    exact congrArg Except.ok hab

theorem alike_overMapping
    (h : (Written.record.read (f x.mapping)).map (WithExtra.map Written.meaning) =
      (Written.record.read x.mapping).map (WithExtra.map Written.meaning)) :
    Alike (x.overMapping f) x := by
  intro label
  have hmap := ofJson_map_meaning label h
  cases x with
  | object l =>
    refine hmap.trans ?_
    rw [Json.mapping, Json.toMap?, Option.getD_some, Json.ofMap, Written.ofJson, Written.ofJson,
      NameMap.ofList_entries]
  | null => exact hmap
  | bool _ => rfl
  | number _ => rfl
  | string _ => rfl
  | array _ => rfl

namespace Entry

theorem take_congr {label : String} {name name' : Option String} (h : Alike x y)
    (hname : Readable x → Readable y → name = name')
    (acc : NameMap Parameter × List Issue) :
    take acc ⟨label, name, x⟩ = take acc ⟨label, name', y⟩ := by
  simp only [take]
  rcases map_eq_map_cases (h label) with ⟨e, hx, hy⟩ | ⟨w, w', hx, hy, hw⟩
  · rw [hx, hy]
    rfl
  · have hrx := readable_of_ofJson hx
    have hry := readable_of_ofJson hy
    obtain rfl := hname hrx hry
    obtain rfl : writtenOf x = w := by
      rw [ofJson_of_readable hrx] at hx
      exact Except.ok.inj hx
    obtain rfl : writtenOf y = w' := by
      rw [ofJson_of_readable hry] at hy
      exact Except.ok.inj hy
    rw [hx, hy]
    have hmeaning := ofWritten_congr hw
    cases name with
    | none => rfl
    | some n => simp only [Except.map, declare, add, hmeaning]

theorem take_ofItem_congr (h : Alike x y) (i : Nat) (acc : NameMap Parameter × List Issue) :
    take acc (ofItem (x, i)) = take acc (ofItem (y, i)) := by
  refine take_congr h (fun hx hy => ?_) acc
  have hlabel := h ""
  rw [ofJson_of_readable hx, ofJson_of_readable hy] at hlabel
  rw [← trimmedName_writtenOf hx, ← trimmedName_writtenOf hy]
  exact congrArg (fun w => w.known.1) (Except.ok.inj hlabel)

end Entry

theorem ofFields_insert (h : Alike y x) (m : NameMap Json) (n : String) :
    ofFields (m.insert n y) = ofFields (m.insert n x) := by
  rw [Entry.ofFields_eq, Entry.ofFields_eq, List.foldlM_map, List.foldlM_map]
  refine foldlM_congr (forall₂_insertEntry (fun _ _ => rfl) (fun acc => ?_) m.entries) _
  exact Entry.take_congr h (fun _ _ => rfl) acc

theorem ofItems_modify {items : List Json} {i : Nat} {g : Json → Json} (hx : items[i]? = some x)
    (h : Alike (g x) x) : ofItems (items.modify i g) = ofItems items := by
  obtain ⟨hi, -⟩ := List.getElem?_eq_some_iff.mp hx
  obtain ⟨front, z, back, rfl, rfl, hmodify⟩ := List.exists_of_modify g hi
  obtain rfl : z = x := by simpa using hx
  rw [hmodify, Entry.ofItems_eq, Entry.ofItems_eq]
  simp only [List.zipIdx_append, List.zipIdx_cons, List.map_append, List.map_cons,
    List.foldlM_append, List.foldlM_cons, Entry.take_ofItem_congr h]

theorem schemaOf_modify (hx : v.step? s = some x) (h : Alike (x.modify f q) x) :
    schemaOf (v.modify f (s :: q)) = schemaOf v := by
  cases s with
  | key n =>
    cases v with
    | object l =>
      have hget : (NameMap.ofList l).get? n = some x := hx
      rw [Json.modify, Json.overMapping, hget, Option.getD_some, Json.ofMap, schemaOf, schemaOf,
        NameMap.ofList_entries, ofFields_insert h, NameMap.insert_eq_self hget]
    | _ => cases hx
  | item i =>
    cases v with
    | array items => exact ofItems_modify hx h
    | _ => cases hx

/-! ## Entries that say nothing -/

variable {m : NameMap Json} {k : String}

theorem Written.read_modify_blank (hs : layout.Setting q k) (hflag : k ∉ plainFlags)
    (hm : (m.mappingAt q).get? k = some .null)
    (halone : ∀ n, n ≠ k → Constraints.firstName n = Constraints.firstName k →
      (m.mappingAt q).get? n = none) :
    (record.read (m.modify (·.erase k) q)).map (WithExtra.map meaning) =
      (record.read m).map (WithExtra.map meaning) := by
  cases hs with
  | own hk =>
    rw [NameMap.mappingAt_nil] at hm
    rw [NameMap.modify_nil]
    exact meant.read_erase hk (neutral_null k hk hflag) hm
  | block hb hk =>
    obtain ⟨rfl, rfl⟩ := Prod.mk.inj (List.mem_singleton.mp hb)
    rw [NameMap.mappingAt_key] at hm halone
    exact hasBlock_validation.read_modify meant (Constraints.Written.read_erase hk hm halone)

theorem Written.read_modify_default (hs : defaults.Setting q k v)
    (hm : (m.mappingAt q).get? k = none) :
    (record.read (m.modify (·.insert k v) q)).map (WithExtra.map meaning) =
      (record.read m).map (WithExtra.map meaning) := by
  cases hs with
  | own hv =>
    obtain ⟨hk, hneutral⟩ := neutral_defaults _ hv
    rw [NameMap.mappingAt_nil] at hm
    rw [NameMap.modify_nil]
    exact meant.read_insert hk hneutral hm
  | block hb hv => cases hb

/-- An entry may be changed where its meaning does not change. -/
theorem schemaOf_modify_entry (hx : v.step? s = some x) (hq : ∀ i r, q ≠ .item i :: r)
    (h : (Written.record.read (x.mapping.modify f q)).map (WithExtra.map Written.meaning) =
      (Written.record.read x.mapping).map (WithExtra.map Written.meaning)) :
    schemaOf (v.modify f (s :: q)) = schemaOf v := by
  refine schemaOf_modify hx ?_
  rw [NameMap.modify_eq_overMapping f hq]
  exact alike_overMapping h

end Parameter

end Roster
