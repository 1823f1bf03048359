import Roster.Proofs.Command.Parameters
import Roster.Proofs.Text.ByteOrder
import Roster.Similarity

/-! # Suggested names

With the warning about a name that is not declared goes the declared name that matches
it best. How well two names match is the better of their scores in the two directions,
and where none of these is there is nothing to suggest. Among equal scores the name
that comes first in the order of bytes is taken, whatever the matcher.
-/
namespace Roster.Command

/-- A declared name and an unknown one match with a score, in one of the two directions. -/
def Matches (matcher : Matcher) (declared unknown : String) (n : Int) : Prop :=
  matcher declared unknown = some n ∨ matcher unknown declared = some n

/-- The better of the scores with which two names match. -/
structure Scores (matcher : Matcher) (declared unknown : String) (n : Int) : Prop where
  attained : Matches matcher declared unknown n
  highest : ∀ k, Matches matcher declared unknown k → k ≤ n

/-- A declared name that matches an unknown one better than all others do, or as well as some others
that come behind it in the order of bytes. -/
structure MatchesBest (matcher : Matcher) (declared : List String) (unknown s : String) : Prop where
  mem : s ∈ declared
  best : ∃ n, Scores matcher s unknown n ∧ ∀ d ∈ declared, d ≠ s → ∀ k,
    Scores matcher d unknown k → k < n ∨ k = n ∧ Text.bytes s < Text.bytes d

variable {matcher : Matcher} {declared : List String} {unknown d s s' : String} {n k : Int}

theorem Scores.unique (h : Scores matcher d unknown n) (h' : Scores matcher d unknown k) :
    n = k :=
  Int.le_antisymm (h'.highest n h.attained) (h.highest k h'.attained)

theorem MatchesBest.unique (h : MatchesBest matcher declared unknown s)
    (h' : MatchesBest matcher declared unknown s') : s = s' := by
  obtain ⟨n, hn, hbest⟩ := h.best
  obtain ⟨n', hn', hbest'⟩ := h'.best
  by_contra hne
  rcases hbest s' h'.mem (Ne.symm hne) n' hn' with hlt | ⟨heq, hbytes⟩
  · rcases hbest' s h.mem hne n hn with hlt' | ⟨heq', -⟩ <;> omega
  · rcases hbest' s h.mem hne n hn with hlt' | ⟨-, hbytes'⟩
    · omega
    · exact List.lt_asymm hbytes hbytes'

/-! ## The better of two scores -/

theorem better_eq_none_iff (a b : Option Int) : better a b = none ↔ a = none ∧ b = none := by
  cases a <;> cases b <;> simp [better]

theorem better_eq_some_iff (a b : Option Int) (n : Int) :
    better a b = some n ↔
      (a = some n ∨ b = some n) ∧ ∀ k, a = some k ∨ b = some k → k ≤ n := by
  cases a with
  | none =>
    cases b with
    | none => simp [better]
    | some y =>
      simp only [better, reduceCtorEq, false_or, Option.some_inj]
      exact ⟨fun h => ⟨h, fun k hk => by omega⟩, And.left⟩
  | some x =>
    cases b with
    | none =>
      simp only [better, reduceCtorEq, or_false, Option.some_inj]
      exact ⟨fun h => ⟨h, fun k hk => by omega⟩, And.left⟩
    | some y =>
      simp only [better, Option.some_inj]
      constructor
      · intro h
        exact ⟨by omega, fun k hk => by omega⟩
      · rintro ⟨hn, hmax⟩
        have hx := hmax x (.inl rfl)
        have hy := hmax y (.inr rfl)
        omega

theorem better_eq_some_iff_scores :
    better (matcher d unknown) (matcher unknown d) = some n ↔ Scores matcher d unknown n := by
  rw [better_eq_some_iff]
  exact ⟨fun h => ⟨h.1, h.2⟩, fun h => ⟨h.attained, h.highest⟩⟩

/-! ## The best of several candidates -/

section Best

variable {l : List (String × Option Int)} {e : String × Option Int}

theorem best_cons_none (d : String) (l : List (String × Option Int)) :
    best ((d, none) :: l) = best l := by
  rw [best.eq_def]

theorem best_cons_some (d : String) (a : Int) (l : List (String × Option Int)) :
    best ((d, some a) :: l) = match best l with
      | none => some (d, a)
      | some (m, b) => if b ≤ a then some (d, a) else some (m, b) := by
  rw [best.eq_def]
  dsimp only
  cases best l <;> rfl

theorem best_eq_none_iff : best l = none ↔ ∀ e ∈ l, e.2 = none := by
  induction l with
  | nil => simp [best]
  | cons e l ih =>
    obtain ⟨d, score⟩ := e
    rw [List.forall_mem_cons, ← ih]
    cases score with
    | none => simp [best_cons_none]
    | some a =>
      rw [best_cons_some]
      split
      · simp
      · split <;> simp

/-- A name with a score is not surpassed by a candidate: that has no score or a lower one, or the
same and a name that is not smaller. -/
def Unsurpassed (s : String) (n : Int) (e : String × Option Int) : Prop :=
  ∀ k, e.2 = some k → k < n ∨ k = n ∧ s ≤ e.1

theorem unsurpassed_none (s d : String) (n : Int) : Unsurpassed s n (d, none) :=
  nofun

theorem unsurpassed_self (s : String) (n : Int) : Unsurpassed s n (s, some n) := by
  intro k hk
  cases hk
  exact .inr ⟨rfl, String.le_refl s⟩

/-- Of candidates in the order of their names one is taken that no other surpasses. -/
theorem best_eq_some (hordered : l.Pairwise fun a b => a.1 < b.1) (h : best l = some (s, n)) :
    (s, some n) ∈ l ∧ ∀ e ∈ l, Unsurpassed s n e := by
  induction l generalizing s n with
  | nil => cases h
  | cons e l ih =>
    obtain ⟨d, score⟩ := e
    obtain ⟨hfirst, hrest⟩ := List.pairwise_cons.mp hordered
    rw [List.forall_mem_cons]
    cases score with
    | none =>
      rw [best_cons_none] at h
      obtain ⟨hmem, hbest⟩ := ih hrest h
      exact ⟨List.mem_cons_of_mem _ hmem, unsurpassed_none s d n, hbest⟩
    | some a =>
      rw [best_cons_some] at h
      cases hbehind : best l with
      | none =>
        rw [hbehind] at h
        cases h
        refine ⟨List.mem_cons_self, unsurpassed_self s n, fun e he k hk => ?_⟩
        rw [best_eq_none_iff.mp hbehind e he] at hk
        cases hk
      | some r =>
        obtain ⟨m, b⟩ := r
        obtain ⟨hmem, hbest⟩ := ih hrest hbehind
        rw [hbehind] at h
        dsimp only at h
        split at h
        · next hle =>
          -- a candidate behind the first has a greater name, so its score may be the same
          cases h
          refine ⟨List.mem_cons_self, unsurpassed_self s n, fun e he k hk => ?_⟩
          have hname : s ≤ e.1 := String.not_lt.mp (String.lt_asymm (hfirst e he))
          have hkn : k ≤ n := by rcases hbest e he k hk with hlt | ⟨heq, -⟩ <;> omega
          exact (Int.lt_or_eq_of_le hkn).imp id fun heq => ⟨heq, hname⟩
        · next hlt =>
          cases h
          refine ⟨List.mem_cons_of_mem _ hmem, fun k hk => ?_, hbest⟩
          cases hk
          exact .inl (by omega)

end Best

theorem suggestion_eq_none_iff :
    suggestion matcher declared unknown = none ↔
      ∀ d ∈ declared, matcher d unknown = none ∧ matcher unknown d = none := by
  rw [suggestion, Option.map_eq_none_iff, best_eq_none_iff, List.forall_mem_map]
  simp only [better_eq_none_iff]

theorem matchesBest_of_suggestion (hordered : declared.Pairwise (· < ·))
    (h : suggestion matcher declared unknown = some s) :
    MatchesBest matcher declared unknown s := by
  obtain ⟨⟨s, n⟩, hbest, rfl⟩ := Option.map_eq_some_iff.mp h
  obtain ⟨hmem, hunsurpassed⟩ := best_eq_some (List.pairwise_map.mpr hordered) hbest
  obtain ⟨d, hd, hds⟩ := List.mem_map.mp hmem
  obtain ⟨rfl, hn⟩ := Prod.mk.inj hds
  refine ⟨hd, n, better_eq_some_iff_scores.mp hn, fun d' hd' hne k hk => ?_⟩
  have hd' := hunsurpassed _ (List.mem_map_of_mem hd') k (better_eq_some_iff_scores.mpr hk)
  refine hd'.imp id fun hle => ⟨hle.1, ?_⟩
  rw [← Text.lt_iff_bytes_lt]
  exact Decidable.byContradiction fun hlt =>
    hne (String.le_antisymm (String.not_lt.mp hlt) hle.2)

theorem suggestion_eq_some_iff (hordered : declared.Pairwise (· < ·)) :
    suggestion matcher declared unknown = some s ↔ MatchesBest matcher declared unknown s := by
  refine ⟨matchesBest_of_suggestion hordered, fun h => ?_⟩
  cases hs : suggestion matcher declared unknown with
  | none =>
    obtain ⟨n, hn, -⟩ := h.best
    obtain ⟨hforward, hbackward⟩ := suggestion_eq_none_iff.mp hs s h.mem
    rcases hn.attained with hattained | hattained
    · cases hforward.symm.trans hattained
    · cases hbackward.symm.trans hattained
  | some t => rw [(matchesBest_of_suggestion hordered hs).unique h]

/-- A name that is given without being declared is warned about once. Nothing is suggested exactly
if no declared name matches it in either direction, and else it is the one that matches best. -/
theorem suggestions_match_best (patterns : PatternReader) (matcher : Matcher) (c : Command)
    (given : NameMap Json) (u : String) (hgiven : given.contains u = true)
    (hunknown : c.schema.contains u = false) :
    ∃ w, (c.checkParameters patterns matcher given).warningsOf u = [w] ∧
      (w.suggestion = none ↔
        ∀ d ∈ c.schema.names, matcher d u = none ∧ matcher u d = none) ∧
      ∀ s, w.suggestion = some s ↔ MatchesBest matcher c.schema.names u s := by
  have hordered : c.schema.names.Pairwise (· < ·) := List.pairwise_map.mpr c.schema.ordered
  refine ⟨⟨u, suggestion matcher c.schema.names u⟩, ?_, suggestion_eq_none_iff,
    fun s => suggestion_eq_some_iff hordered⟩
  rw [warningsOf_checkParameters, if_pos ⟨hgiven, hunknown⟩]

/-- A command with two declared names that match a part of both alike, and a third one. -/
def harbour : Command :=
  .ofSchema {
    entries := [
      ("env", ⟨.string, false, none, none, none⟩),
      ("port", ⟨.string, false, none, none, none⟩),
      ("post", ⟨.string, false, none, none, none⟩)]
    ordered := by decide +kernel }

/-- Of two names that match an unknown one alike the smaller one is suggested, and nothing is where
no name matches. -/
theorem suggestions_of_harbour_match_best :
    (∃ w, (harbour.checkParameters samplePatterns Similarity.score
        (.ofList [("po", .null), ("zzz", .null)])).warningsOf "po" = [w] ∧
      w.suggestion = some "port") ∧
    ∃ w, (harbour.checkParameters samplePatterns Similarity.score
        (.ofList [("po", .null), ("zzz", .null)])).warningsOf "zzz" = [w] ∧
      w.suggestion = none := by
  obtain ⟨w, hw, -, hbest⟩ := suggestions_match_best samplePatterns Similarity.score harbour
    (.ofList [("po", .null), ("zzz", .null)]) "po" rfl rfl
  obtain ⟨w', hw', hnone, -⟩ := suggestions_match_best samplePatterns Similarity.score harbour
    (.ofList [("po", .null), ("zzz", .null)]) "zzz" rfl rfl
  have hnames : harbour.schema.names = ["env", "port", "post"] := rfl
  have henv : better (Similarity.score "env" "po") (Similarity.score "po" "env") = none := by
    decide +kernel
  have hport : better (Similarity.score "port" "po") (Similarity.score "po" "port") = some 51 := by
    decide +kernel
  have hpost : better (Similarity.score "post" "po") (Similarity.score "po" "post") = some 51 := by
    decide +kernel
  have hzzz : ∀ d ∈ harbour.schema.names,
      Similarity.score d "zzz" = none ∧ Similarity.score "zzz" d = none := by
    decide +kernel
  have hmatch : MatchesBest Similarity.score harbour.schema.names "po" "port" := by
    refine ⟨by decide, 51, better_eq_some_iff_scores.mp hport, fun d hd hne k hk => ?_⟩
    rw [← better_eq_some_iff_scores] at hk
    simp only [hnames, List.mem_cons, List.not_mem_nil, or_false] at hd
    rcases hd with rfl | rfl | rfl
    · cases henv.symm.trans hk
    · exact absurd rfl hne
    · exact .inr ⟨Option.some_inj.mp (hk.symm.trans hpost), by decide +kernel⟩
  exact ⟨⟨w, hw, (hbest "port").mpr hmatch⟩, w', hw', hnone.mpr hzzz⟩

end Roster.Command
