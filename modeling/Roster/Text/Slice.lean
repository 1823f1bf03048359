/-! # Slices

A place in a text is the number of bytes of UTF-8 before it. A text can be cut
only at places between its characters: at any other place, or beyond the end,
there is no slice.
-/
namespace Roster.Text

def byteSize : List Char → Nat
  | [] => 0
  | c :: r => c.utf8Size + byteSize r

/-- The text before a place and the text behind it. -/
def cut? (place : Nat) : List Char → Option (List Char × List Char)
  | [] => if place = 0 then some ([], []) else none
  | c :: r =>
    if place = 0 then some ([], c :: r)
    else if place < c.utf8Size then none
    else (cut? (place - c.utf8Size) r).map fun (a, b) => (c :: a, b)

/-- The text between two places. -/
def slice? (start stop : Nat) (s : List Char) : Option (List Char) :=
  ((cut? stop s).bind fun p => cut? start p.1).map (·.2)

@[simp]
theorem byteSize_nil : byteSize [] = 0 := rfl

theorem byteSize_append (a b : List Char) : byteSize (a ++ b) = byteSize a + byteSize b := by
  induction a with
  | nil => simp
  | cons c r ih => simp [byteSize, ih, Nat.add_assoc]

theorem cut?_append (a b : List Char) : cut? (byteSize a) (a ++ b) = some (a, b) := by
  induction a with
  | nil => cases b <;> simp [cut?]
  | cons c r ih =>
    have hpos := c.utf8Size_pos
    rw [List.cons_append, cut?, byteSize, if_neg (by omega), if_neg (by omega),
      Nat.add_sub_cancel_left, ih]
    rfl

/-- A text that is cut at a place is put together from its parts, the first of which ends there. -/
theorem of_cut?_eq_some {place : Nat} {s a b : List Char} (h : cut? place s = some (a, b)) :
    s = a ++ b ∧ place = byteSize a := by
  induction s generalizing place a b with
  | nil =>
    rw [cut?] at h
    split at h
    · next hz => cases h; exact ⟨rfl, hz⟩
    · cases h
  | cons c r ih =>
    rw [cut?] at h
    split at h
    · next hz => cases h; exact ⟨rfl, hz⟩
    · split at h
      · cases h
      · next hle =>
        obtain ⟨⟨a', b'⟩, hr, hab⟩ := Option.map_eq_some_iff.mp h
        cases hab
        obtain ⟨rfl, hplace⟩ := ih hr
        refine ⟨rfl, ?_⟩
        rw [byteSize, ← hplace]
        omega

/-- There is a slice exactly between two places at which characters end. -/
theorem slice?_eq_some_iff (start stop : Nat) (s m : List Char) :
    slice? start stop s = some m ↔
      ∃ a b, s = a ++ m ++ b ∧ start = byteSize a ∧ stop = byteSize (a ++ m) := by
  constructor
  · intro h
    obtain ⟨⟨a, m'⟩, hcut, rfl⟩ := Option.map_eq_some_iff.mp h
    obtain ⟨⟨t, b⟩, hstop, hstart⟩ := Option.bind_eq_some_iff.mp hcut
    obtain ⟨rfl, rfl⟩ := of_cut?_eq_some hstop
    obtain ⟨hm, rfl⟩ := of_cut?_eq_some hstart
    exact ⟨a, b, by rw [← hm], rfl, by rw [← hm]⟩
  · rintro ⟨a, b, rfl, rfl, rfl⟩
    rw [slice?, cut?_append, Option.bind_some, cut?_append]
    rfl

end Roster.Text
