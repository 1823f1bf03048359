import Roster.CommandLine.Output

/-! # Truncated texts

A text beyond its limit keeps its first characters, as many as leave room for three dots.
The dots themselves are never cut: under a limit below three they are all that is left,
and they are longer than the limit. So a limit is kept exactly if the text needs no dots
or the limit has room for them.
-/
namespace Roster.CommandLine

variable {s : String} {limit : Nat}

theorem truncate_of_le (h : s.length ≤ limit) : truncate s limit = s := by
  unfold truncate
  dsimp only
  rw [String.length_toList, if_pos h]

theorem truncate_of_lt (h : limit < s.length) :
    truncate s limit = String.ofList (s.toList.take (limit - 3)) ++ "..." := by
  unfold truncate
  dsimp only
  rw [String.length_toList, if_neg (Nat.not_le.mpr h)]

theorem length_kept (h : limit < s.length) :
    (String.ofList (s.toList.take (limit - 3))).length = limit - 3 := by
  have hroom : limit - 3 ≤ s.toList.length := by
    rw [String.length_toList]
    omega
  rw [String.length_ofList, List.length_take, Nat.min_eq_left hroom]

theorem length_truncate_of_lt (h : limit < s.length) :
    (truncate s limit).length = max limit 3 := by
  have hdots : "...".length = 3 := rfl
  rw [truncate_of_lt h, String.length_append, length_kept h, hdots]
  omega

/-- Below a limit of three there is no room for anything but the dots. -/
theorem truncate_eq_dots (h : limit < s.length) (hlimit : limit < 3) :
    truncate s limit = "..." := by
  have hroom : limit - 3 = 0 := by omega
  rw [truncate_of_lt h, hroom]
  rfl

theorem length_truncate_le_iff :
    (truncate s limit).length ≤ limit ↔ s.length ≤ limit ∨ 3 ≤ limit := by
  by_cases hfits : s.length ≤ limit
  · rw [truncate_of_le hfits]
    exact iff_of_true hfits (.inl hfits)
  · rw [length_truncate_of_lt (Nat.not_le.mp hfits)]
    omega

/-- The only text beyond its limit that comes out as it was is the dots themselves. -/
theorem truncate_eq_self_iff : truncate s limit = s ↔ s.length ≤ limit ∨ s = "..." := by
  by_cases hfits : s.length ≤ limit
  · exact iff_of_true (truncate_of_le hfits) (.inl hfits)
  have hlong : limit < s.length := Nat.not_le.mp hfits
  constructor
  · intro hsame
    -- its length is both beyond the limit and the greater of limit and three
    have hlength := length_truncate_of_lt hlong
    rw [hsame] at hlength
    have hlimit : limit < 3 := by omega
    exact .inr (hsame.symm.trans (truncate_eq_dots hlong hlimit))
  · rintro (hle | rfl)
    · exact absurd hle hfits
    · exact truncate_eq_dots hlong hlong

/-- The descriptions in a table keep their limit, which has room for the dots. -/
theorem length_truncate_longestDescription_le (s : String) :
    (truncate s longestDescription).length ≤ longestDescription :=
  length_truncate_le_iff.mpr (.inr (by decide))

/-- A text comes out within its limit exactly if it was within it or the limit has room for three
dots, and it comes out as it was exactly if it was within the limit or is the dots themselves.
Beyond its limit it becomes its first characters, up to three below the limit, with the dots. -/
theorem truncate_keeps_limit_iff (s : String) (limit : Nat) :
    ((truncate s limit).length ≤ limit ↔ s.length ≤ limit ∨ 3 ≤ limit) ∧
      (truncate s limit = s ↔ s.length ≤ limit ∨ s = "...") ∧
      (limit < s.length → ∃ kept rest : String, s = kept ++ rest ∧ kept.length = limit - 3 ∧
        truncate s limit = kept ++ "...") := by
  refine ⟨length_truncate_le_iff, truncate_eq_self_iff, fun hlong => ?_⟩
  refine ⟨.ofList (s.toList.take (limit - 3)), .ofList (s.toList.drop (limit - 3)), ?_,
    length_kept hlong, truncate_of_lt hlong⟩
  rw [← String.ofList_append, List.take_append_drop, String.ofList_toList]

/-- Five characters that may be two come out as three dots, and three dots that may be two stay
three. -/
theorem truncate_of_hello_breaks_limit :
    (2 < "hello".length ∧ truncate "hello" 2 = "..." ∧ ¬ (truncate "hello" 2).length ≤ 2) ∧
      ¬ "...".length ≤ 2 ∧ truncate "..." 2 = "..." := by
  obtain ⟨hwithin, -, hbeyond⟩ := truncate_keeps_limit_iff "hello" 2
  obtain ⟨-, hsame, -⟩ := truncate_keeps_limit_iff "..." 2
  have hlong : 2 < "hello".length := by decide
  obtain ⟨kept, rest, -, hnone, hdots⟩ := hbeyond hlong
  rw [String.length_eq_zero_iff.mp hnone] at hdots
  refine ⟨⟨hlong, hdots, fun hle => ?_⟩, by decide, hsame.mpr (.inr rfl)⟩
  exact absurd (hwithin.mp hle) (by decide)

end Roster.CommandLine
