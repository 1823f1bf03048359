import Roster.Proofs.Json.Record
import Roster.Yaml.JsonTarget

/-! # Nodes

A text writes a tree of nodes, in which a mapping has all entries that are written
in it. The value of the text is that of the tree, where the last entry of a name
takes the place of those in front of it.
-/
namespace Roster.Yaml

variable {α : Type}

/-- What is written in one place of a text, with a value for each scalar. -/
inductive Node (α : Type) where
  | scalar (v : α)
  | sequence (items : List (Node α))
  | mapping (entries : List (String × Node α))

namespace Node

variable (t : Target α)

mutual

def value : Node α → α
  | scalar v => v
  | sequence items => t.sequence (values items)
  | mapping entries => t.mapping (.ofList (fieldValues entries))

def values : List (Node α) → List α
  | [] => []
  | n :: ns => value n :: values ns

def fieldValues : List (String × Node α) → List (String × α)
  | [] => []
  | (k, n) :: es => (k, value n) :: fieldValues es

end

theorem values_eq_map (ns : List (Node α)) : values t ns = ns.map (value t) := by
  induction ns with
  | nil => rfl
  | cons n ns ih => rw [values, ih, List.map_cons]

theorem fieldValues_eq_map (es : List (String × Node α)) :
    fieldValues t es = es.map fun e => (e.1, value t e.2) := by
  induction es with
  | nil => rfl
  | cons e es ih => rw [fieldValues, ih, List.map_cons]

end Node

/-- The piece at a place, or the one that a copy there repeats, and where that piece is. -/
def Body.origin? (b : Body) (place : Nat) : Option (Piece × Nat) := do
  let p ← b.pieces[place]?
  match p.kind with
  | .copy anchor =>
    let (_, start) ← b.places.find? fun p => p.1 == anchor
    let q ← b.pieces[start]?
    some (q, start)
  | _ => some (p, place)

namespace Reader

variable (node : Nat → Option (Node α × Nat))

/-- The items of a sequence from a place on, and the place behind its end, where `node` gives the
node at a place and the place behind it. -/
def items? (b : Body) (place : Nat) : Nat → Option (List (Node α) × Nat)
  | 0 => some ([], place)
  | fuel + 1 => do
    let p ← b.pieces[place]?
    match p.kind with
    | .sequenceEnd => some ([], place + 1)
    | _ =>
      let (n, place) ← node place
      let (ns, place) ← items? b place fuel
      some (n :: ns, place)

/-- The entries of a mapping from a place on, and the place behind its end. -/
def entries? (b : Body) (place : Nat) : Nat → Option (List (String × Node α) × Nat)
  | 0 => some ([], place)
  | fuel + 1 => do
    let p ← b.pieces[place]?
    match p.kind with
    | .mappingEnd => some ([], place + 1)
    | _ =>
      let (q, _) ← b.origin? place
      match q.kind with
      | .scalar s =>
        let (n, place) ← node (place + 1)
        let (es, place) ← entries? b place fuel
        some ((String.ofList s.text, n) :: es, place)
      | _ => none

/-- The node at a place, and the place behind it, where `inner?` gives the nodes in a collection if
there may be one. Behind a copy the text goes on after the copy. -/
def nodeWith (t : Target α) (b : Body) (inner? : Option (Nat → Option (Node α × Nat)))
    (place : Nat) : Option (Node α × Nat) := do
  let (p, start) ← b.origin? place
  let behind (stop : Nat) : Nat := if start = place then stop else place + 1
  match p.kind with
  | .scalar s => ((plain s).bind (t.scalar s.text)).toOption.map fun v => (.scalar v, place + 1)
  | .sequenceStart _ =>
    -- a collection has fewer parts than the body has pieces, which is enough fuel
    let (ns, stop) ← items? (← inner?) b (start + 1) (b.pieces.size + 1)
    some (.sequence ns, behind stop)
  | .mappingStart _ =>
    let (es, stop) ← entries? (← inner?) b (start + 1) (b.pieces.size + 1)
    some (.mapping es, behind stop)
  | _ => (t.scalar [] .null).toOption.map fun v => (.scalar v, place + 1)

/-- The node at a place. `depth` bounds the collections inside one another. -/
def node? (t : Target α) (b : Body) : Nat → Nat → Option (Node α × Nat)
  | 0 => nodeWith t b none
  | depth + 1 => nodeWith t b (some (node? t b depth))

variable {t : Target α} {b : Body} {depth : Nat} {path : Path} {r r' : Reader}

theorem piece_eq_ok_iff (b : Body) (place : Nat) (p : Piece) :
    b.piece place = .ok p ↔ b.pieces[place]? = some p := by
  rw [Body.piece]
  cases b.pieces[place]? <;> simp

theorem find?_of_anchored {anchor copies place copies' : Nat}
    (h : b.anchored anchor copies = .ok (place, copies')) :
    ∃ n, (b.places.find? fun p => p.1 == anchor) = some (n, place) := by
  rw [Body.anchored] at h
  split at h
  · cases h
  · split at h
    · next n start hfind =>
      cases h
      exact ⟨n, hfind⟩
    · cases h

/-- A reader that follows a copy goes on behind it. -/
theorem origin?_of_follow {p : Piece} {start : Nat} {next : Reader}
    (h : r.follow b = .ok (p, start, next)) :
    b.origin? r.place = some (p, start) ∧ next.place = r.place + 1 := by
  obtain ⟨⟨kind, mark⟩, hq, h⟩ := bind_eq_ok_iff.mp h
  rw [piece_eq_ok_iff] at hq
  rw [Body.origin?, hq]
  cases kind with
  | copy anchor =>
    obtain ⟨⟨place, copies⟩, hplace, h⟩ := bind_eq_ok_iff.mp h
    obtain ⟨origin, horigin, h⟩ := bind_eq_ok_iff.mp h
    rw [piece_eq_ok_iff] at horigin
    obtain ⟨n, hfind⟩ := find?_of_anchored hplace
    cases h
    simp [hfind, horigin]
  | scalar | sequenceStart | sequenceEnd | mappingStart | mappingEnd | nothing =>
    cases h
    exact ⟨rfl, rfl⟩

/-- The node whose value a reader reads stands where the reader does. -/
def ReadsNodes (t : Target α) (b : Body) (depth : Nat) : Prop :=
  ∀ path r v r', value t b depth path r = .ok (v, r') →
    ∃ n, node? t b depth r.place = some (n, r'.place) ∧ n.value t = v

theorem items?_of_items (hvalue : ReadsNodes t b depth) {fuel n : Nat} {vs : List α}
    (h : items t b depth path n r fuel = .ok (vs, r')) :
    ∃ ns, items? (node? t b depth) b r.place fuel = some (ns, r'.place) ∧
      ns.map (·.value t) = vs := by
  induction fuel generalizing n r vs with
  | zero =>
    rw [items] at h
    cases h
    exact ⟨[], by rw [items?], rfl⟩
  | succ fuel ih =>
    rw [items] at h
    obtain ⟨⟨kind, mark⟩, hp, h⟩ := bind_eq_ok_iff.mp h
    rw [piece_eq_ok_iff] at hp
    rw [items?, hp]
    cases kind with
    | sequenceEnd =>
      cases h
      exact ⟨[], rfl, rfl⟩
    | copy | scalar | sequenceStart | mappingStart | mappingEnd | nothing =>
      obtain ⟨⟨v, r₁⟩, hv, h⟩ := bind_eq_ok_iff.mp h
      obtain ⟨⟨vs', r₂⟩, hvs, h⟩ := bind_eq_ok_iff.mp h
      cases h
      obtain ⟨node, hnode, hval⟩ := hvalue _ _ _ _ hv
      obtain ⟨ns, hns, hvals⟩ := ih hvs
      refine ⟨node :: ns, ?_, ?_⟩
      · simp [hnode, hns]
      · rw [List.map_cons, hval, hvals]

theorem scalar_of_key {expected k : String} {step : PathStep}
    (h : key b expected path r = .ok (k, step, r')) :
    ∃ p start s, b.origin? r.place = some (p, start) ∧ p.kind = .scalar s ∧
      k = String.ofList s.text ∧ r'.place = r.place + 1 := by
  obtain ⟨first, -, h⟩ := bind_eq_ok_iff.mp h
  obtain ⟨⟨p, start, next⟩, hfollow, h⟩ := bind_eq_ok_iff.mp h
  obtain ⟨horigin, hnext⟩ := origin?_of_follow hfollow
  dsimp only at h
  split at h
  · next s hs =>
    cases h
    exact ⟨p, start, s, horigin, hs, rfl, hnext⟩
  · cases h

theorem entries?_of_fields (hvalue : ReadsNodes t b depth) {expected : String} {m m' : NameMap α}
    {fuel : Nat} (h : fields t b depth expected path m r fuel = .ok (m', r')) :
    ∃ es, entries? (node? t b depth) b r.place fuel = some (es, r'.place) ∧
      es.foldl (fun m e => m.insert e.1 (e.2.value t)) m = m' := by
  induction fuel generalizing expected m r with
  | zero =>
    rw [fields] at h
    cases h
    exact ⟨[], by rw [entries?], rfl⟩
  | succ fuel ih =>
    rw [fields] at h
    obtain ⟨⟨kind, mark⟩, hp, h⟩ := bind_eq_ok_iff.mp h
    rw [piece_eq_ok_iff] at hp
    rw [entries?, hp]
    cases kind with
    | mappingEnd =>
      cases h
      exact ⟨[], rfl, rfl⟩
    | copy | scalar | sequenceStart | sequenceEnd | mappingStart | nothing =>
      obtain ⟨⟨k, step, r₁⟩, hkey, h⟩ := bind_eq_ok_iff.mp h
      obtain ⟨⟨v, r₂⟩, hv, h⟩ := bind_eq_ok_iff.mp h
      obtain ⟨q, start, s, horigin, hs, rfl, hplace⟩ := scalar_of_key hkey
      obtain ⟨node, hnode, rfl⟩ := hvalue _ _ _ _ hv
      obtain ⟨es, hes, hm⟩ := ih h
      rw [hplace] at hnode
      refine ⟨(String.ofList s.text, node) :: es, ?_, hm⟩
      simp [horigin, hs, hnode, hes]

theorem place_behind (start place : Nat) (next after : Reader) (hnext : next.place = place + 1) :
    (if (start + 1 != next.place) = true then { next with copies := after.copies }
      else after).place = if start = place then after.place else place + 1 := by
  by_cases hstart : start = place
  · simp [hstart, hnext]
  · simp [hstart, hnext]

/-- A value is that of a node, if this holds of the collections that may stand in it. -/
theorem nodeWith_of_value {inner? : Option (Nat → Option (Node α × Nat))} {v : α}
    (hinner : ∀ d, depth = d + 1 → inner? = some (node? t b d) ∧ ReadsNodes t b d)
    (h : value t b depth path r = .ok (v, r')) :
    ∃ n, nodeWith t b inner? r.place = some (n, r'.place) ∧ n.value t = v := by
  rw [value] at h
  obtain ⟨⟨⟨kind, mark⟩, start, next⟩, hfollow, h⟩ := bind_eq_ok_iff.mp h
  obtain ⟨horigin, hnext⟩ := origin?_of_follow hfollow
  rw [nodeWith, horigin]
  cases kind with
  | scalar s =>
    dsimp only at h
    split at h
    · cases h
    · split at h
      · next hscalar =>
        cases h
        exact ⟨.scalar v, by simp [hscalar, hnext, Except.toOption], rfl⟩
      · cases h
  | sequenceStart tag =>
    dsimp only at h
    split at h
    · cases h
    · cases depth with
      | zero => cases h
      | succ depth =>
        obtain ⟨rfl, hreads⟩ := hinner depth rfl
        obtain ⟨⟨vs, after⟩, hvs, h⟩ := bind_eq_ok_iff.mp h
        obtain ⟨ns, hns, rfl⟩ := items?_of_items hreads hvs
        cases h
        refine ⟨.sequence ns, ?_, ?_⟩
        · simp only [Option.bind_eq_bind, Option.bind_some, hns,
            place_behind start r.place next after hnext]
        · rw [Node.value, Node.values_eq_map]
  | mappingStart tag =>
    dsimp only at h
    split at h
    · cases h
    · cases depth with
      | zero => cases h
      | succ depth =>
        obtain ⟨rfl, hreads⟩ := hinner depth rfl
        obtain ⟨⟨m, after⟩, hm, h⟩ := bind_eq_ok_iff.mp h
        obtain ⟨es, hes, rfl⟩ := entries?_of_fields hreads hm
        cases h
        refine ⟨.mapping es, ?_, ?_⟩
        · simp only [Option.bind_eq_bind, Option.bind_some, hes,
            place_behind start r.place next after hnext]
        · rw [Node.value, Node.fieldValues_eq_map, NameMap.ofList, List.foldl_map]
          rfl
  | copy | sequenceEnd | mappingEnd | nothing =>
    dsimp only at h
    split at h
    · next hnull =>
      cases h
      exact ⟨.scalar v, by simp [hnull, hnext, Except.toOption], rfl⟩
    · cases h

/-- Reading a value is reading a node. -/
theorem readsNodes (t : Target α) (b : Body) (depth : Nat) : ReadsNodes t b depth := by
  induction depth with
  | zero =>
    intro _ _ _ _ h
    exact nodeWith_of_value (fun d hd => absurd hd.symm (Nat.succ_ne_zero d)) h
  | succ depth ih =>
    intro _ _ _ _ h
    refine nodeWith_of_value (fun d hd => ?_) h
    obtain rfl := Nat.succ.inj hd
    exact ⟨rfl, ih⟩

theorem eq_ok_of_toOption {ε : Type} {x : Except ε α} {v : α} (h : x.toOption = some v) :
    x = .ok v := by
  cases x with
  | error e => cases h
  | ok w => exact congrArg Except.ok (Option.some.inj h)

theorem exists_scalar_of_node? {place stop : Nat} {v : α}
    (h : node? t b depth place = some (.scalar v, stop)) : ∃ s x, t.scalar s x = .ok v := by
  obtain ⟨inner?, hinner⟩ : ∃ inner?, node? t b depth = nodeWith t b inner? := by
    cases depth <;> exact ⟨_, rfl⟩
  rw [hinner, nodeWith] at h
  obtain ⟨⟨⟨kind, mark⟩, start⟩, -, h⟩ := Option.bind_eq_some_iff.mp h
  cases kind with
  | scalar s =>
    obtain ⟨w, hw, heq⟩ := Option.map_eq_some_iff.mp h
    cases heq
    obtain ⟨x, -, hx⟩ := bind_eq_ok_iff.mp (eq_ok_of_toOption hw)
    exact ⟨s.text, x, hx⟩
  | sequenceStart | mappingStart =>
    obtain ⟨_, -, h⟩ := Option.bind_eq_some_iff.mp h
    obtain ⟨_, -, h⟩ := Option.bind_eq_some_iff.mp h
    cases h
  | copy | sequenceEnd | mappingEnd | nothing =>
    obtain ⟨w, hw, heq⟩ := Option.map_eq_some_iff.mp h
    cases heq
    exact ⟨[], .null, eq_ok_of_toOption hw⟩

end Reader

/-- The node that a text writes, if it can be read as a value. -/
def written? (t : Target α) (s : List Char) : Option (Node α) :=
  (Reader.node? t (Body.ofEvents (events s).1 (events s).2) depthLimit 0).map (·.1)

theorem top_of_readDocument {top : Body → Except Fault α} {s : List Char} {v : α}
    (h : readDocument top s = .ok v) :
    top (Body.ofEvents (events s).1 (events s).2) = .ok v := by
  unfold readDocument at h
  generalize events s = parsed at h ⊢
  cases hoffset : unreadableOffset? s with
  | some offset => rw [hoffset] at h; cases h
  | none =>
    rw [hoffset] at h
    obtain ⟨x, hx, h⟩ := bind_eq_ok_iff.mp h
    generalize Body.ofEvents parsed.1 parsed.2 = b at h hx ⊢
    split at h
    · cases h
    · split at h
      · cases h
      · cases h
        exact hx

/-- The value of a text is that of the node that it writes. -/
theorem written?_of_read {t : Target α} {s : List Char} {v : α} (h : read t s = .ok v) :
    ∃ n, written? t s = some n ∧ n.value t = v := by
  obtain ⟨⟨v', r⟩, hvalue, rfl⟩ := map_eq_ok_iff.mp (top_of_readDocument h)
  obtain ⟨n, hn, hv⟩ := Reader.readsNodes _ _ _ _ _ _ _ hvalue
  exact ⟨n, by rw [written?, hn, Option.map_some], hv⟩

def Node.toJson (n : Node Json) : Json :=
  n.value jsonTarget

theorem Plain.toMap?_of_toJson {s : List Char} {x : Plain} {v : Json} (h : x.toJson s = .ok v) :
    v.toMap? = none := by
  cases x with
  | null => cases h; rfl
  | bool b => cases h; rfl
  | int z =>
    rw [toJson] at h
    cases hz : Integer.ofInt? z with
    | none => rw [hz] at h; cases h
    | some i => rw [hz] at h; cases h; rfl
  | real x => cases x <;> cases h <;> rfl
  | text => cases h; rfl

/-- A text whose value is an object writes a mapping, and the object has its last entries. -/
theorem entries_of_readJson {s : List Char} {v : Json} {m : NameMap Json} (h : readJson s = .ok v)
    (hm : v.toMap? = some m) :
    ∃ es, written? jsonTarget s = some (.mapping es) ∧
      m = .ofList (es.map fun e => (e.1, e.2.toJson)) := by
  obtain ⟨n, hn, rfl⟩ := written?_of_read h
  cases n with
  | scalar v =>
    obtain ⟨⟨_, stop⟩, hnode, hv⟩ := Option.map_eq_some_iff.mp hn
    cases hv
    obtain ⟨text, x, hx⟩ := Reader.exists_scalar_of_node? hnode
    rw [Node.value, Plain.toMap?_of_toJson hx] at hm
    cases hm
  | sequence items =>
    rw [Node.value] at hm
    cases hm
  | mapping es =>
    rw [Node.value, Node.fieldValues_eq_map] at hm
    refine ⟨es, hn, ?_⟩
    rw [← Option.some.inj hm]
    exact NameMap.ofList_entries _

end Roster.Yaml
