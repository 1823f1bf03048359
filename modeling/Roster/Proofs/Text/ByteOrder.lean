import Mathlib.Data.Char
import Mathlib.Data.List.Lex
import Roster.Text.Utf8

/-! # The order of bytes

Texts are compared by their characters. Comparing their UTF-8 bytes comes to the
same: of two different characters the greater one has the greater bytes, at the
first place at which these differ.
-/
namespace Roster.Text

namespace Utf8

theorem ofNat_cons_lt_iff {x y : Nat} (hx : x < 256) (hy : y < 256) (r t : List UInt8) :
    UInt8.ofNat x :: r < UInt8.ofNat y :: t ↔ x < y ∨ x = y ∧ r < t := by
  have hvalue : ∀ z < 256, (UInt8.ofNat z).toNat = z := by
    intro z hz
    rw [UInt8.toNat_ofNat', Nat.mod_eq_of_lt hz]
  rw [List.cons_lt_cons_iff, UInt8.lt_iff_toNat_lt, ← UInt8.toNat_inj, hvalue x hx, hvalue y hy]

/-- The first bytes that differ tell which of two characters is the greater one. -/
theorem encodeChar_append_lt {a b : Char} (h : a < b) (r t : List UInt8) :
    encodeChar a ++ r < encodeChar b ++ t := by
  have hlt : a.toNat < b.toNat := h
  have hb : b.toNat < 0x110000 := b.valid.elim (fun h => h.trans (by decide)) And.right
  dsimp only [encodeChar]
  -- a shorter form has a smaller first byte, and forms of one length are numbers of base 64
  split_ifs <;> simp only [List.cons_append, List.nil_append]
  all_goals
    repeat rw [ofNat_cons_lt_iff (by omega) (by omega)]
    omega

theorem encode_cons (c : Char) (s : List Char) : encode (c :: s) = encodeChar c ++ encode s :=
  List.flatMap_cons

theorem encodeChar_ne_nil (c : Char) : encodeChar c ≠ [] := by
  dsimp only [encodeChar]
  split_ifs <;> exact List.cons_ne_nil _ _

theorem encode_lt_encode {s t : List Char} (h : s < t) : encode s < encode t := by
  induction s generalizing t with
  | nil =>
    cases t with
    | nil => exact absurd h (List.lt_irrefl _)
    | cons b t =>
      rw [encode_cons]
      obtain ⟨x, r, hx⟩ := List.exists_cons_of_ne_nil (encodeChar_ne_nil b)
      rw [hx]
      exact List.nil_lt_cons _ _
  | cons a s ih =>
    cases t with
    | nil => exact absurd h (List.not_lt_nil _)
    | cons b t =>
      rw [encode_cons, encode_cons]
      rcases List.cons_lt_cons_iff.mp h with hab | ⟨rfl, hst⟩
      · exact encodeChar_append_lt hab _ _
      · exact List.append_left_lt (ih hst)

theorem encode_lt_encode_iff (s t : List Char) : encode s < encode t ↔ s < t := by
  refine ⟨fun h => ?_, encode_lt_encode⟩
  rcases lt_trichotomy s t with hst | rfl | hts
  · exact hst
  · exact absurd h (List.lt_irrefl _)
  · exact absurd h (List.lt_asymm (encode_lt_encode hts))

end Utf8

def bytes (s : String) : List UInt8 :=
  Utf8.encode s.toList

/-- Texts are in the order of their bytes. -/
theorem lt_iff_bytes_lt (s t : String) : s < t ↔ bytes s < bytes t :=
  String.lt_iff.trans (Utf8.encode_lt_encode_iff ..).symm

end Roster.Text
