import Roster.Json.Printer
import Roster.Json.Reader
import Roster.Proofs.NameMap
import Roster.Proofs.Number.Decimal

/-! # Reading back what is printed

The compact text of a value reads back as the value, if arrays and objects are
not nested too deeply, the fields of objects are in order, and its doubles read
back as themselves.
-/
namespace Roster.Json

/-- What follows a value in a compact text: nothing, or what separates and closes. -/
def Ends (rest : List Char) : Prop :=
  ∀ c ∈ rest.head?, c = ',' ∨ c = ']' ∨ c = '}'

theorem Ends.isDigit {rest : List Char} (h : Ends rest) : ∀ c ∈ rest.head?, c.isDigit = false := by
  intro c hc
  rcases h c hc with rfl | rfl | rfl <;> rfl

theorem ends_cons {c : Char} (h : c = ',' ∨ c = ']' ∨ c = '}') (rest : List Char) :
    Ends (c :: rest) := by
  intro d hd
  rw [← Option.some.inj hd]
  exact h

/-! ## Numbers -/

theorem le_ofDigitChars (ds : List Char) (acc : Nat) : acc ≤ Nat.ofDigitChars 10 ds acc := by
  induction ds generalizing acc with
  | nil => exact Nat.le_refl acc
  | cons c r ih =>
    rw [Nat.ofDigitChars_cons]
    exact Nat.le_trans (by omega) (ih _)

theorem readFitting_append {ds rest : List Char} (hds : ∀ c ∈ ds, c.isDigit = true)
    (hrest : ∀ c ∈ rest.head?, c.isDigit = false) (acc : Nat)
    (hfits : Nat.ofDigitChars 10 ds acc < 18446744073709551616) :
    readFitting acc (ds ++ rest) = (Nat.ofDigitChars 10 ds acc, ds.length, rest) := by
  induction ds generalizing acc with
  | nil =>
    cases rest with
    | nil => rfl
    | cons c r =>
      have hc := hrest c rfl
      rw [List.nil_append, readFitting, hc]
      rfl
  | cons c r ih =>
    obtain ⟨hc, hr⟩ := List.forall_mem_cons.mp hds
    rw [Nat.ofDigitChars_cons] at hfits ⊢
    have hstep : acc * 10 + (c.toNat - 48) = 10 * acc + (c.toNat - '0'.toNat) := by
      rw [Nat.mul_comm]
      rfl
    have hle := le_ofDigitChars r (10 * acc + (c.toNat - '0'.toNat))
    rw [List.cons_append, readFitting, hc, hstep, ih hr _ hfits]
    rw [Bool.true_and, if_pos (decide_eq_true (by omega))]
    rfl

theorem countDigits_of_not_isDigit {rest : List Char}
    (h : ∀ c ∈ rest.head?, c.isDigit = false) : countDigits rest = (0, rest) := by
  cases rest with
  | nil => rfl
  | cons c r =>
    rw [countDigits, h c rfl]
    rfl

theorem eq_zero_of_digitChar : ∀ n < 10, Nat.digitChar n = '0' → n = 0 := by decide

theorem head_toDigits_ne_zero {n : Nat} (hn : n ≠ 0) (ds : List Char) :
    Nat.toDigits 10 n ≠ '0' :: ds := by
  induction n using Nat.strongRecOn generalizing ds with
  | ind n ih =>
    intro h
    by_cases hsmall : n < 10
    · rw [Nat.toDigits_of_lt_base hsmall] at h
      exact hn (eq_zero_of_digitChar n hsmall (List.cons.inj h).1)
    · rw [Nat.toDigits_of_base_le (by omega) (by omega)] at h
      -- the first digit is that of the tenth part
      obtain ⟨d, r, hd⟩ := List.exists_cons_of_ne_nil (Nat.toDigits_ne_nil (n := n / 10) (b := 10))
      rw [hd, List.cons_append] at h
      refine ih (n / 10) (by omega) (by omega) r ?_
      rw [hd, (List.cons.inj h).1]

/-- The number is printed as digits, perhaps with a sign, and is read back from its text. -/
structure Number.ReadsBack (n : Number) : Prop where
  start : ∃ c r, n.render = c :: r ∧ (c = '-' ∨ c.isDigit = true)
  read : ∀ rest, Ends rest → readNumber (n.render ++ rest) = some (n, rest)

theorem readFraction_of_ends {neg : Bool} {sig : Nat} {rest : List Char} (h : Ends rest) :
    readFraction neg sig 0 true rest = readFraction.integerOf neg sig rest := by
  cases rest with
  | nil => simp [readFraction]
  | cons c r =>
    rcases h c rfl with rfl | rfl | rfl <;> simp [readFraction]

theorem readUnsigned_toDigits (neg : Bool) {n : Nat} (hn : n < 18446744073709551616)
    {rest : List Char} (h : Ends rest) :
    readUnsigned neg (Nat.toDigits 10 n ++ rest) = readFraction.integerOf neg n rest := by
  by_cases hzero : n = 0
  · rw [hzero, Nat.toDigits_zero, List.singleton_append, ← readFraction_of_ends h]
    cases rest with
    | nil => rfl
    | cons c r => simp [readUnsigned, h.isDigit c rfl]
  · have hfits : Nat.ofDigitChars 10 (Nat.toDigits 10 n) 0 < 18446744073709551616 := by
      rwa [Nat.ofDigitChars_ten_toDigits]
    have hread := readFitting_append Double.isDigit_of_mem_toDigits h.isDigit 0 hfits
    obtain ⟨c, r, hcr⟩ := List.exists_cons_of_ne_nil (Nat.toDigits_ne_nil (n := n) (b := 10))
    have hc : c.isDigit = true :=
      Double.isDigit_of_mem_toDigits c (hcr ▸ List.mem_cons_self)
    have hne : c ≠ '0' := fun heq => head_toDigits_ne_zero hzero r (heq ▸ hcr)
    rw [Nat.ofDigitChars_ten_toDigits, hcr, List.cons_append] at hread
    rw [hcr, List.cons_append, readUnsigned, if_pos hc, hread]
    · simp only [countDigits_of_not_isDigit h.isDigit]
      exact readFraction_of_ends h
    · exact fun heq => absurd heq hne

theorem readNumber_of_isDigit {c : Char} (h : c.isDigit = true) (r : List Char) :
    readNumber (c :: r) = readUnsigned false (c :: r) := by
  have hne : c ≠ '-' := by
    rintro rfl
    cases h
  simp [readNumber, hne]

theorem Number.readsBack_int (z : Integer) : (Number.int z).ReadsBack := by
  have hge := z.ge
  have hlt := z.lt
  have hofInt : Integer.ofInt? z.val = some z := dif_pos ⟨hge, hlt⟩
  have habs : z.val.natAbs < 18446744073709551616 := by omega
  have hrender : (Number.int z).render =
      if z.val < 0 then '-' :: Nat.toDigits 10 z.val.natAbs else Nat.toDigits 10 z.val.natAbs :=
    toList_toString_int z.val
  have hval : z.val = if z.val < 0 then -(z.val.natAbs : Int) else z.val.natAbs := by omega
  have hfits : z.val < 0 → ¬(z.val.natAbs = 0 ∨ 9223372036854775808 < z.val.natAbs) := by omega
  generalize z.val.natAbs = n at habs hrender hval hfits
  obtain ⟨c, r, hcr⟩ := List.exists_cons_of_ne_nil (Nat.toDigits_ne_nil (n := n) (b := 10))
  have hc : c.isDigit = true := Double.isDigit_of_mem_toDigits c (hcr ▸ List.mem_cons_self)
  by_cases hneg : z.val < 0
  · rw [if_pos hneg] at hrender hval
    refine ⟨⟨'-', _, hrender, .inl rfl⟩, fun rest h => ?_⟩
    rw [hrender, List.cons_append]
    change readUnsigned true _ = _
    rw [readUnsigned_toDigits true habs h, readFraction.integerOf]
    simp [hfits hneg, ← hval, hofInt]
  · rw [if_neg hneg] at hrender hval
    refine ⟨⟨c, r, hrender.trans hcr, .inr hc⟩, fun rest h => ?_⟩
    rw [hrender, hcr, List.cons_append, readNumber_of_isDigit hc, ← List.cons_append, ← hcr,
      readUnsigned_toDigits false habs h, readFraction.integerOf]
    simp [← hval, hofInt]

/-! ## Strings -/

theorem hex4?_hexDigit : ∀ n < 32,
    hex4? '0' '0' (hexDigit (n / 16)) (hexDigit (n % 16)) = some n := by
  decide

theorem readString_escape (c : Char) (r : List Char) :
    readString (escape c ++ r) = (readString r).map fun (s, rest) => (c :: s, rest) := by
  unfold escape
  split
  · subst_vars; rfl
  split
  · subst_vars; rfl
  split
  · subst_vars; rfl
  split
  · subst_vars; rfl
  split
  · subst_vars; rfl
  split
  · subst_vars; rfl
  split
  · subst_vars; rfl
  split
  · next h =>
    have hofNat : Char.ofNat c.toNat = c := Char.ofNat_toNat c
    simp only [List.cons_append, List.nil_append, readString, hex4?_hexDigit c.toNat h]
    rw [if_pos (.inl (by omega)), hofNat]
  · rename_i hquote hslash _ _ _ _ _ hcontrol
    simp only [List.cons_append, List.nil_append]
    rw [readString.eq_def]
    split <;> simp_all

theorem readString_flatMap_escape (s rest : List Char) :
    readString (s.flatMap escape ++ '"' :: rest) = some (s, rest) := by
  induction s with
  | nil => rfl
  | cons c r ih =>
    rw [List.flatMap_cons, List.append_assoc, readString_escape, ih]
    rfl

/-! ## Values -/

/-- A value whose text reads back as it: arrays and objects are nested at most `n` deep, the fields
of objects are in order, and its numbers read back. -/
inductive ReadsBack : Nat → Json → Prop
  | null (n : Nat) : ReadsBack n null
  | bool (n : Nat) (b : Bool) : ReadsBack n (bool b)
  | number (n : Nat) {x : Number} (h : x.ReadsBack) : ReadsBack n (number x)
  | string (n : Nat) (s : String) : ReadsBack n (string s)
  | array {n : Nat} {items : List Json} (h : ∀ v ∈ items, ReadsBack n v) :
    ReadsBack (n + 1) (array items)
  | object {n : Nat} {fields : List (String × Json)} (h : ∀ f ∈ fields, ReadsBack n f.2)
    (ordered : fields.Pairwise fun a b => a.1 < b.1) : ReadsBack (n + 1) (object fields)

theorem ne_of_starts_number {c d : Char} (hc : c = '-' ∨ c.isDigit = true) (hminus : d ≠ '-')
    (hdigit : d.isDigit = false) : c ≠ d := by
  rintro rfl
  rcases hc with hc | hc
  · exact hminus hc
  · rw [hdigit] at hc
    cases hc

/-- The text of a value starts with no space and no closing bracket. -/
theorem ReadsBack.starts {n : Nat} {v : Json} (h : ReadsBack n v) (rest : List Char) :
    skipSpace (render v ++ rest) = render v ++ rest ∧ ∀ r, render v ++ rest ≠ ']' :: r := by
  cases h with
  | null => exact ⟨rfl, fun _ h => by cases h⟩
  | bool n b => cases b <;> exact ⟨rfl, fun _ h => by cases h⟩
  | string => exact ⟨rfl, fun _ h => by cases h⟩
  | array => exact ⟨rfl, fun _ h => by cases h⟩
  | object => exact ⟨rfl, fun _ h => by cases h⟩
  | @number n x h =>
    obtain ⟨c, r, hcr, hc⟩ := h.start
    change skipSpace (x.render ++ rest) = x.render ++ rest ∧ ∀ r, x.render ++ rest ≠ ']' :: r
    rw [hcr, List.cons_append]
    constructor
    · have hspace : c ≠ ' ' := ne_of_starts_number hc (by decide) (by decide)
      have hfeed : c ≠ '\n' := ne_of_starts_number hc (by decide) (by decide)
      have htab : c ≠ '\t' := ne_of_starts_number hc (by decide) (by decide)
      have hreturn : c ≠ '\r' := ne_of_starts_number hc (by decide) (by decide)
      rw [skipSpace, List.dropWhile_cons_of_neg]
      simp [hspace, hfeed, htab, hreturn]
    · intro t heq
      exact ne_of_starts_number hc (by decide) (by decide) (List.cons.inj heq).1

/-- With enough fuel a value is read from its text and what follows is left. -/
def Reads (depth : Nat) (v : Json) : Prop :=
  ∀ (fuel : Nat) (rest : List Char), 2 * (render v).length < fuel → Ends rest →
    readValue depth fuel (render v ++ rest) = some (v, rest)

theorem exists_renderItems (v : Json) (items : List Json) :
    ∃ t, renderItems (v :: items) = render v ++ t := by
  cases items with
  | nil => exact ⟨[], (List.append_nil _).symm⟩
  | cons w r => exact ⟨_, rfl⟩

theorem readItems_renderItems {depth n : Nat} {items : List Json} (hne : items ≠ [])
    (hitems : ∀ v ∈ items, ReadsBack n v ∧ Reads depth v) (fuel : Nat) (rest : List Char)
    (hfuel : 2 * (renderItems items).length + 1 < fuel) :
    readItems depth fuel (renderItems items ++ ']' :: rest) = some (items, rest) := by
  induction items generalizing fuel with
  | nil => exact absurd rfl hne
  | cons v items ih =>
    obtain ⟨fuel, rfl⟩ := Nat.exists_eq_succ_of_ne_zero (Nat.ne_zero_of_lt hfuel)
    obtain ⟨⟨-, hv⟩, hrest⟩ := List.forall_mem_cons.mp hitems
    cases items with
    | nil =>
      have hread : readValue depth fuel (render v ++ ']' :: rest) = some (v, ']' :: rest) := by
        apply hv
        · simp only [renderItems] at hfuel
          omega
        · exact ends_cons (.inr (.inl rfl)) _
      rw [renderItems, readItems, hread]
      rfl
    | cons w r =>
      have hlength : (renderItems (v :: w :: r)).length =
          (render v).length + 1 + (renderItems (w :: r)).length := by
        rw [renderItems, List.length_append, List.length_cons]
        omega
      have hread : readValue depth fuel (render v ++ ',' :: (renderItems (w :: r) ++ ']' :: rest)) =
          some (v, ',' :: (renderItems (w :: r) ++ ']' :: rest)) := by
        apply hv
        · omega
        · exact ends_cons (.inl rfl) _
      have hstart : skipSpace (renderItems (w :: r) ++ ']' :: rest) =
          renderItems (w :: r) ++ ']' :: rest := by
        obtain ⟨t, ht⟩ := exists_renderItems w r
        rw [ht, List.append_assoc]
        exact ((hrest w List.mem_cons_self).1.starts _).1
      have hmore := ih (List.cons_ne_nil w r) hrest fuel (by omega)
      rw [renderItems, List.append_assoc, List.cons_append, readItems, hread]
      change (readItems depth fuel (skipSpace _)).map _ = _
      rw [hstart, hmore]
      rfl

theorem length_renderField (f : String × Json) :
    (renderField f).length = (quote f.1).length + 1 + (render f.2).length := by
  rw [renderField, List.length_append, List.length_cons]
  omega

/-- A field is read up to what closes the object or separates it from the next field. -/
theorem readFields_renderField {depth n : Nat} {f : String × Json}
    (hf : ReadsBack n f.2 ∧ Reads depth f.2) {fuel : Nat}
    (hfuel : 2 * (renderField f).length < fuel) (rest : List Char) :
    readFields depth (fuel + 1) (renderField f ++ '}' :: rest) = some ([f], rest) ∧
      readFields depth (fuel + 1) (renderField f ++ ',' :: rest) =
        (readFields depth fuel (skipSpace rest)).map fun r => (f :: r.1, r.2) := by
  obtain ⟨k, v⟩ := f
  have hvalue : 2 * (render v).length < fuel := by
    have hlength : _ = (quote k).length + 1 + (render v).length := length_renderField (k, v)
    omega
  have htext : ∀ s, renderField (k, v) ++ s =
      '"' :: (k.toList.flatMap escape ++ ('"' :: ':' :: (render v ++ s))) := by
    simp [renderField, quote]
  have hstring : ∀ s, readString (k.toList.flatMap escape ++ ('"' :: ':' :: s)) =
      some (k.toList, ':' :: s) := fun s => readString_flatMap_escape _ _
  have hcolon : ∀ s, skipSpace (':' :: (render v ++ s)) = ':' :: (render v ++ s) := fun _ => rfl
  constructor
  · have hread := hf.2 fuel ('}' :: rest) hvalue (ends_cons (.inr (.inr rfl)) _)
    rw [htext, readFields, hstring]
    simp only [hcolon, (hf.1.starts _).1, hread, String.ofList_toList]
    rfl
  · have hread := hf.2 fuel (',' :: rest) hvalue (ends_cons (.inl rfl) _)
    rw [htext, readFields, hstring]
    simp only [hcolon, (hf.1.starts _).1, hread, String.ofList_toList]
    rfl

theorem exists_renderFields (f : String × Json) (fields : List (String × Json)) :
    ∃ t, renderFields (f :: fields) = '"' :: t := by
  obtain ⟨k, v⟩ := f
  cases fields <;> exact ⟨_, rfl⟩

theorem readFields_renderFields {depth n : Nat} {fields : List (String × Json)}
    (hne : fields ≠ []) (hfields : ∀ f ∈ fields, ReadsBack n f.2 ∧ Reads depth f.2) (fuel : Nat)
    (rest : List Char) (hfuel : 2 * (renderFields fields).length + 1 < fuel) :
    readFields depth fuel (renderFields fields ++ '}' :: rest) = some (fields, rest) := by
  induction fields generalizing fuel with
  | nil => exact absurd rfl hne
  | cons f fields ih =>
    obtain ⟨fuel, rfl⟩ := Nat.exists_eq_succ_of_ne_zero (Nat.ne_zero_of_lt hfuel)
    obtain ⟨hf, hrest⟩ := List.forall_mem_cons.mp hfields
    cases fields with
    | nil =>
      rw [renderFields] at hfuel ⊢
      exact (readFields_renderField hf (by omega) rest).1
    | cons g r =>
      have hlength : (renderFields (f :: g :: r)).length =
          (renderField f).length + 1 + (renderFields (g :: r)).length := by
        rw [renderFields, List.length_append, List.length_cons]
        omega
      have hmore := ih (List.cons_ne_nil g r) hrest fuel (by omega)
      have hstart : skipSpace (renderFields (g :: r) ++ '}' :: rest) =
          renderFields (g :: r) ++ '}' :: rest := by
        obtain ⟨t, ht⟩ := exists_renderFields g r
        rw [ht]
        rfl
      rw [renderFields, List.append_assoc, List.cons_append,
        (readFields_renderField hf (by omega) _).2, hstart, hmore]
      rfl

/-- The text of a value of moderate nesting is read as the value, whatever follows it. -/
theorem ReadsBack.reads {n : Nat} {v : Json} (h : ReadsBack n v) {depth : Nat}
    (hdepth : n < depth) : Reads depth v := by
  induction h generalizing depth with
  | null n =>
    intro fuel rest hfuel _
    obtain ⟨fuel, rfl⟩ := Nat.exists_eq_succ_of_ne_zero (Nat.ne_zero_of_lt hfuel)
    simp [render, renderAtom, readValue, readWord]
  | bool n b =>
    intro fuel rest hfuel _
    obtain ⟨fuel, rfl⟩ := Nat.exists_eq_succ_of_ne_zero (Nat.ne_zero_of_lt hfuel)
    cases b <;> simp [render, renderAtom, readValue, readWord]
  | @number n x h =>
    intro fuel rest hfuel hrest
    obtain ⟨fuel, rfl⟩ := Nat.exists_eq_succ_of_ne_zero (Nat.ne_zero_of_lt hfuel)
    have hread := h.read rest hrest
    obtain ⟨c, r, hcr, hc⟩ := h.start
    rw [hcr, List.cons_append] at hread
    change readValue depth (fuel + 1) (x.render ++ rest) = _
    rw [hcr, List.cons_append]
    simp only [readValue, hread, Option.map_some,
      if_neg (ne_of_starts_number hc (show '[' ≠ '-' by decide) rfl),
      if_neg (ne_of_starts_number hc (show '{' ≠ '-' by decide) rfl),
      if_neg (ne_of_starts_number hc (show '"' ≠ '-' by decide) rfl),
      if_neg (ne_of_starts_number hc (show 'n' ≠ '-' by decide) rfl),
      if_neg (ne_of_starts_number hc (show 't' ≠ '-' by decide) rfl),
      if_neg (ne_of_starts_number hc (show 'f' ≠ '-' by decide) rfl)]
  | string n s =>
    intro fuel rest hfuel _
    obtain ⟨fuel, rfl⟩ := Nat.exists_eq_succ_of_ne_zero (Nat.ne_zero_of_lt hfuel)
    have hstring : readString (s.toList.flatMap escape ++ ('"' :: rest)) =
        some (s.toList, rest) := readString_flatMap_escape _ _
    simp [render, renderAtom, quote, readValue, hstring]
  | @array n items h ih =>
    intro fuel rest hfuel _
    obtain ⟨fuel, rfl⟩ := Nat.exists_eq_succ_of_ne_zero (Nat.ne_zero_of_lt hfuel)
    have hnested : ¬depth ≤ 1 := by omega
    cases items with
    | nil => simp [render, renderItems, readValue, skipSpace, hnested]
    | cons v items =>
      have hlength : (render (.array (v :: items))).length =
          (renderItems (v :: items)).length + 2 := by simp [render]
      have hitems : ∀ w ∈ v :: items, ReadsBack n w ∧ Reads (depth - 1) w :=
        fun w hw => ⟨h w hw, ih w hw (by omega)⟩
      have hread := readItems_renderItems (List.cons_ne_nil v items) hitems fuel rest (by omega)
      have htext : render (.array (v :: items)) ++ rest =
          '[' :: (renderItems (v :: items) ++ ']' :: rest) := by simp [render]
      obtain ⟨t, ht⟩ := exists_renderItems v items
      obtain ⟨hspace, hclose⟩ := (h v List.mem_cons_self).starts (t ++ ']' :: rest)
      rw [← List.append_assoc, ← ht] at hspace hclose
      rw [htext, readValue, if_pos rfl, if_neg hnested, hspace]
      split
      · next heq => exact absurd heq (hclose _)
      · rw [hread]
        rfl
  | @object n fields h ordered ih =>
    intro fuel rest hfuel _
    obtain ⟨fuel, rfl⟩ := Nat.exists_eq_succ_of_ne_zero (Nat.ne_zero_of_lt hfuel)
    have hnested : ¬depth ≤ 1 := by omega
    cases fields with
    | nil => simp [render, renderFields, readValue, skipSpace, hnested]
    | cons f fields =>
      have hlength : (render (.object (f :: fields))).length =
          (renderFields (f :: fields)).length + 2 := by simp [render]
      have hfields : ∀ g ∈ f :: fields, ReadsBack n g.2 ∧ Reads (depth - 1) g.2 :=
        fun g hg => ⟨h g hg, ih g hg (by omega)⟩
      have hread := readFields_renderFields (List.cons_ne_nil f fields) hfields fuel rest
        (by omega)
      have htext : render (.object (f :: fields)) ++ rest =
          '{' :: (renderFields (f :: fields) ++ '}' :: rest) := by simp [render]
      obtain ⟨t, ht⟩ := exists_renderFields f fields
      have hentries : (NameMap.ofList (f :: fields)).entries = f :: fields :=
        congrArg NameMap.entries (NameMap.ofList_entries ⟨f :: fields, ordered⟩)
      rw [htext, readValue, if_neg (by decide), if_pos rfl, if_neg hnested]
      rw [ht] at hread ⊢
      change (readFields (depth - 1) fuel ('"' :: t ++ '}' :: rest)).map _ = _
      rw [hread]
      exact congrArg (fun l => some (Json.object l, rest)) hentries

theorem ReadsBack.parse?_compact {n : Nat} {v : Json} (h : ReadsBack n v) (hn : n < maxDepth) :
    parse? v.compact.toList = some v := by
  have hread := h.reads hn (2 * (render v).length + 2) []
    (by omega) fun _ hc => nomatch hc
  have hspace := (h.starts []).1
  rw [List.append_nil] at hread hspace
  rw [compact, String.toList_ofList, parse?, parseWithin?, hspace, hread]
  rfl

end Roster.Json
