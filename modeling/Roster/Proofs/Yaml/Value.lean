import Roster.Proofs.Document.Division
import Roster.Proofs.Yaml.Node

/-! # Reading by nodes

The nodes of a text are found by recursion on the depth, so they can be computed
where the reader's own recursion cannot be followed. In a text without copies
and without tags of its own, finding a node is reading its value. JSON values
can be compared part by part, so it can be decided whether such a text has a
value.
-/
namespace Roster

namespace Json

mutual

/-- Values are equal if all their parts are. Unlike in `same`, the two zeros differ. -/
def decEq : (v w : Json) → Decidable (v = w)
  | .null, .null => isTrue rfl
  | .bool a, .bool b => decidable_of_iff (a = b) (by simp)
  | .number a, .number b => decidable_of_iff (a = b) (by simp)
  | .string a, .string b => decidable_of_iff (a = b) (by simp)
  | .array a, .array b => @decidable_of_iff _ _ (by simp) (decEqItems a b)
  | .object a, .object b => @decidable_of_iff _ _ (by simp) (decEqFields a b)
  | .null, .bool _ | .null, .number _ | .null, .string _ | .null, .array _ | .null, .object _
  | .bool _, .null | .bool _, .number _ | .bool _, .string _ | .bool _, .array _
  | .bool _, .object _
  | .number _, .null | .number _, .bool _ | .number _, .string _ | .number _, .array _
  | .number _, .object _
  | .string _, .null | .string _, .bool _ | .string _, .number _ | .string _, .array _
  | .string _, .object _
  | .array _, .null | .array _, .bool _ | .array _, .number _ | .array _, .string _
  | .array _, .object _
  | .object _, .null | .object _, .bool _ | .object _, .number _ | .object _, .string _
  | .object _, .array _ => isFalse (by simp)

def decEqItems : (l r : List Json) → Decidable (l = r)
  | [], [] => isTrue rfl
  | v :: l, w :: r =>
    have := decEq v w
    have := decEqItems l r
    decidable_of_iff (v = w ∧ l = r) (by simp)
  | [], _ :: _ | _ :: _, [] => isFalse (by simp)

def decEqFields : (l r : List (String × Json)) → Decidable (l = r)
  | [], [] => isTrue rfl
  | f :: l, g :: r =>
    have := decEqField f g
    have := decEqFields l r
    decidable_of_iff (f = g ∧ l = r) (by simp)
  | [], _ :: _ | _ :: _, [] => isFalse (by simp)

def decEqField : (f g : String × Json) → Decidable (f = g)
  | (k, v), (n, w) =>
    have := decEq v w
    decidable_of_iff (k = n ∧ v = w) (by simp)

end

instance : DecidableEq Json := decEq

end Json

namespace Yaml

variable {α : Type}

/-- Whether a piece stands for itself and its tag, if it has one, is not one of the text's own. -/
def Piece.isPlain (p : Piece) : Bool :=
  match p.kind with
  | .copy _ => false
  | .scalar s => !Reader.isLocal s.tag
  | .sequenceStart tag | .mappingStart tag => !Reader.isLocal tag
  | .sequenceEnd | .mappingEnd | .nothing => true

/-- Whether a body has only such pieces. -/
def Body.isPlain (b : Body) : Bool :=
  b.pieces.all Piece.isPlain

namespace Reader

variable {t : Target α} {b : Body} {depth : Nat} {path : Path} {r : Reader}

theorem isPlain_of_getElem? (hb : b.isPlain = true) {place : Nat} {p : Piece}
    (h : b.pieces[place]? = some p) : p.isPlain = true :=
  Array.all_eq_true_iff_forall_mem.mp hb p (Array.mem_of_getElem? h)

theorem follow_of_origin? (hb : b.isPlain = true) {p : Piece} {start : Nat}
    (h : b.origin? r.place = some (p, start)) :
    p.isPlain = true ∧ start = r.place ∧
      r.follow b = .ok (p, r.place, { r with place := r.place + 1 }) := by
  obtain ⟨⟨kind, mark⟩, hq, h⟩ := Option.bind_eq_some_iff.mp h
  have hplain := isPlain_of_getElem? hb hq
  have hpiece := (piece_eq_ok_iff ..).mpr hq
  rw [follow, hpiece]
  cases kind with
  | copy => cases hplain
  | scalar | sequenceStart | sequenceEnd | mappingStart | mappingEnd | nothing =>
    cases h
    exact ⟨hplain, rfl, rfl⟩

/-- The node where a reader stands has the value that the reader reads. -/
def ReadsValues (t : Target α) (b : Body) (depth : Nat) : Prop :=
  ∀ path r n stop, node? t b depth r.place = some (n, stop) →
    value t b depth path r = .ok (n.value t, { r with place := stop })

theorem items_of_items? (hnode : ReadsValues t b depth) {fuel n stop : Nat} {ns : List (Node α)}
    (h : items? (node? t b depth) b r.place fuel = some (ns, stop)) :
    items t b depth path n r fuel = .ok (ns.map (·.value t), { r with place := stop }) := by
  induction fuel generalizing n r ns with
  | zero =>
    cases h
    rw [items]
    rfl
  | succ fuel ih =>
    obtain ⟨⟨kind, mark⟩, hp, h⟩ := Option.bind_eq_some_iff.mp h
    rw [items, (piece_eq_ok_iff ..).mpr hp]
    cases kind with
    | sequenceEnd =>
      cases h
      rfl
    | copy | scalar | sequenceStart | mappingStart | mappingEnd | nothing =>
      obtain ⟨⟨m, place⟩, hm, h⟩ := Option.bind_eq_some_iff.mp h
      obtain ⟨⟨ms, place'⟩, hms, h⟩ := Option.bind_eq_some_iff.mp h
      cases h
      have hv := hnode (.item n :: path) r m place hm
      have hvs : items t b depth path (n + 1) { r with place } fuel = _ := ih hms
      simp [bind, Except.bind, hv, hvs, pure, Except.pure]

theorem fields_of_entries? (hb : b.isPlain = true) (hnode : ReadsValues t b depth)
    {expected : String} {m : NameMap α} {fuel stop : Nat} {es : List (String × Node α)}
    (h : entries? (node? t b depth) b r.place fuel = some (es, stop)) :
    fields t b depth expected path m r fuel =
      .ok (es.foldl (fun m e => m.insert e.1 (e.2.value t)) m, { r with place := stop }) := by
  induction fuel generalizing expected m r es with
  | zero =>
    cases h
    rw [fields]
    rfl
  | succ fuel ih =>
    obtain ⟨⟨kind, mark⟩, hp, h⟩ := Option.bind_eq_some_iff.mp h
    have hpiece := (piece_eq_ok_iff ..).mpr hp
    rw [fields, hpiece]
    cases kind with
    | mappingEnd =>
      cases h
      rfl
    | copy | scalar | sequenceStart | sequenceEnd | mappingStart | nothing =>
      obtain ⟨⟨⟨qkind, qmark⟩, start⟩, horigin, h⟩ := Option.bind_eq_some_iff.mp h
      obtain ⟨-, -, hfollow⟩ := follow_of_origin? hb horigin
      cases qkind with
      | scalar s =>
        obtain ⟨⟨n, place⟩, hn, h⟩ := Option.bind_eq_some_iff.mp h
        obtain ⟨⟨rest, place'⟩, hrest, h⟩ := Option.bind_eq_some_iff.mp h
        cases h
        have hkey : ∃ step, key b expected path r =
            .ok (String.ofList s.text, step, { r with place := r.place + 1 }) := by
          simp [key, hpiece, hfollow, bind, Except.bind, pure, Except.pure]
        obtain ⟨step, hkey⟩ := hkey
        have hv := hnode (step :: path) { r with place := r.place + 1 } n place hn
        have hmore : fields t b depth "a string" path (m.insert (String.ofList s.text) (n.value t))
            { r with place } fuel = _ := ih hrest
        simp [bind, Except.bind, hkey, hv, hmore]
      | copy | sequenceStart | sequenceEnd | mappingStart | mappingEnd | nothing => cases h

/-- A value can be read of a node, if this holds of the nodes that may stand in it. -/
theorem value_of_nodeWith (hb : b.isPlain = true)
    {inner? : Option (Nat → Option (Node α × Nat))} {n : Node α} {stop : Nat}
    (hinner : ∀ node, inner? = some node →
      ∃ d, depth = d + 1 ∧ node = node? t b d ∧ ReadsValues t b d)
    (h : nodeWith t b inner? r.place = some (n, stop)) :
    value t b depth path r = .ok (n.value t, { r with place := stop }) := by
  obtain ⟨⟨⟨kind, mark⟩, start⟩, horigin, h⟩ := Option.bind_eq_some_iff.mp h
  obtain ⟨hplain, rfl, hfollow⟩ := follow_of_origin? hb horigin
  rw [value, hfollow]
  cases kind with
  | scalar s =>
    obtain ⟨v, hv, h⟩ := Option.map_eq_some_iff.mp h
    cases h
    have hlocal : isLocal s.tag = false := by simpa [Piece.isPlain] using hplain
    obtain ⟨x, hx, hscalar⟩ := bind_eq_ok_iff.mp (eq_ok_of_toOption hv)
    simp [bind, Except.bind, hlocal, hx, hscalar, pure, Except.pure, Node.value]
  | sequenceStart tag =>
    have hlocal : isLocal tag = false := by simpa [Piece.isPlain] using hplain
    obtain ⟨node, hnode, h⟩ := Option.bind_eq_some_iff.mp h
    obtain ⟨d, rfl, rfl, hvalues⟩ := hinner node hnode
    obtain ⟨⟨ns, place⟩, hns, h⟩ := Option.bind_eq_some_iff.mp h
    have hitems : items t b d path 0 { r with place := r.place + 1 } (b.pieces.size + 1) = _ :=
      items_of_items? hvalues hns
    cases h
    simp [bind, Except.bind, hlocal, hitems, pure, Except.pure, Node.value, Node.values_eq_map]
  | mappingStart tag =>
    have hlocal : isLocal tag = false := by simpa [Piece.isPlain] using hplain
    obtain ⟨node, hnode, h⟩ := Option.bind_eq_some_iff.mp h
    obtain ⟨d, rfl, rfl, hvalues⟩ := hinner node hnode
    obtain ⟨⟨es, place⟩, hes, h⟩ := Option.bind_eq_some_iff.mp h
    have hfields : fields t b d t.expectedKey path ∅ { r with place := r.place + 1 }
        (b.pieces.size + 1) = _ := fields_of_entries? hb hvalues hes
    cases h
    have hvalue : (Node.mapping es).value t =
        t.mapping (es.foldl (fun m e => m.insert e.1 (e.2.value t)) ∅) := by
      rw [Node.value, Node.fieldValues_eq_map, NameMap.ofList, List.foldl_map]
      rfl
    simp [bind, Except.bind, hlocal, hfields, pure, Except.pure, hvalue]
  | copy | sequenceEnd | mappingEnd | nothing =>
    obtain ⟨v, hv, h⟩ := Option.map_eq_some_iff.mp h
    cases h
    simp [bind, Except.bind, eq_ok_of_toOption hv, pure, Except.pure, Node.value]

/-- Where there are no copies, reading a node is reading its value. -/
theorem readsValues (hb : b.isPlain = true) (t : Target α) (depth : Nat) :
    ReadsValues t b depth := by
  induction depth with
  | zero =>
    intro _ _ _ _ h
    exact value_of_nodeWith hb (fun _ hnode => by cases hnode) h
  | succ depth ih =>
    intro _ _ _ _ h
    refine value_of_nodeWith hb (fun node hnode => ?_) h
    cases hnode
    exact ⟨depth, rfl, rfl, ih⟩

end Reader

/-- Whether a text, in which nothing is a copy, has a value. -/
def readsAs (s : List Char) (v : Json) : Bool :=
  let b := Body.ofEvents (events s).1 (events s).2
  (unreadableOffset? s).isNone && b.fault.isNone && !b.more && b.isPlain &&
    (Reader.node? jsonTarget b depthLimit 0).any fun n => n.1.toJson = v

theorem readJson_of_readsAs {s : List Char} {v : Json} (h : readsAs s v = true) :
    readJson s = .ok v := by
  simp only [readsAs, Bool.and_eq_true, Option.isNone_iff_eq_none, Bool.not_eq_true',
    Option.any_eq_true, decide_eq_true_eq] at h
  obtain ⟨⟨⟨⟨hreadable, hfault⟩, hmore⟩, hplain⟩, ⟨n, stop⟩, hnode, rfl⟩ := h
  exact readJson_of_value hreadable rfl hfault hmore
    (Reader.readsValues hplain jsonTarget depthLimit [] ⟨0, 0⟩ n stop hnode)

end Yaml

end Roster
