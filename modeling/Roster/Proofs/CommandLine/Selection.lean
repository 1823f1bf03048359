import Roster.CommandLine.Failure

/-! # Selecting by names

Values are selected by their names in the order in which these are given, one value
for each time that a name is given. If names are unknown nothing is selected, and all
of those are told. It makes no difference whether unknown names are looked for before
the values, or on the way.
-/
namespace Roster.CommandLine.Failure

variable {α : Type} {kind : DefinitionKind} {name : α → String} {all : List α}
  {names : List String}

/-- What names select: everything if there are none, and else a value for each of them, in order. -/
structure Selection (name : α → String) (all : List α) (names : List String)
    (selected : List α) : Prop where
  everything : names = [] → selected = all
  named : names ≠ [] → selected.map name = names
  mem : ∀ a ∈ selected, a ∈ all

/-- The names that no value has, each as often as it is given. -/
def unknownAmong (name : α → String) (all : List α) (names : List String) : List String :=
  names.filter fun n => n ∉ all.map name

/-- Names looked up one after the other: the values that are found, and the names that are not. -/
def lookUp (name : α → String) (all : List α) : List String → List α × List String
  | [] => ([], [])
  | n :: rest =>
    match all.find? fun a => name a == n with
    | some a => (a :: (lookUp name all rest).1, (lookUp name all rest).2)
    | none => ((lookUp name all rest).1, n :: (lookUp name all rest).2)

theorem find?_name_eq_none_iff (n : String) :
    (all.find? fun a => name a == n) = none ↔ n ∉ all.map name := by
  rw [List.find?_eq_none, List.mem_map]
  simp

theorem lookUp_cons (name : α → String) (all : List α) (n : String) (rest : List String) :
    (∃ a ∈ all, name a = n ∧
        lookUp name all (n :: rest) = (a :: (lookUp name all rest).1, (lookUp name all rest).2)) ∨
      n ∉ all.map name ∧
        lookUp name all (n :: rest) = ((lookUp name all rest).1, n :: (lookUp name all rest).2) := by
  rw [lookUp]
  cases hfind : all.find? fun a => name a == n with
  | none => exact .inr ⟨(find?_name_eq_none_iff n).mp hfind, rfl⟩
  | some a =>
    refine .inl ⟨a, List.mem_of_find?_eq_some hfind, ?_, rfl⟩
    simpa using List.find?_some hfind

theorem snd_lookUp (names : List String) :
    (lookUp name all names).2 = unknownAmong name all names := by
  induction names with
  | nil => rfl
  | cons n rest ih =>
    rcases lookUp_cons name all n rest with ⟨a, ha, rfl, h⟩ | ⟨hn, h⟩
    · rw [h, ih, unknownAmong, unknownAmong, List.filter_cons_of_neg]
      simpa using ⟨a, ha, rfl⟩
    · rw [h, ih, unknownAmong, unknownAmong, List.filter_cons_of_pos]
      simpa using hn

theorem mem_of_mem_lookUp {a : α} (h : a ∈ (lookUp name all names).1) : a ∈ all := by
  induction names with
  | nil => cases h
  | cons n rest ih =>
    rcases lookUp_cons name all n rest with ⟨b, hb, -, hrest⟩ | ⟨-, hrest⟩
    · rw [hrest] at h
      rcases List.mem_cons.mp h with rfl | h
      · exact hb
      · exact ih h
    · rw [hrest] at h
      exact ih h

theorem map_name_lookUp (h : (lookUp name all names).2 = []) :
    (lookUp name all names).1.map name = names := by
  induction names with
  | nil => rfl
  | cons n rest ih =>
    rcases lookUp_cons name all n rest with ⟨a, -, rfl, hrest⟩ | ⟨-, hrest⟩
    · rw [hrest] at h ⊢
      rw [List.map_cons, ih h]
    · rw [hrest] at h
      cases h

theorem fst_lookUp (names : List String) :
    (lookUp name all names).1 = names.filterMap fun n => all.find? fun a => name a == n := by
  induction names with
  | nil => rfl
  | cons n rest ih =>
    rw [lookUp, List.filterMap_cons, ← ih]
    cases all.find? fun a => name a == n <;> rfl

/-- Whether unknown names are looked for before values are taken, or each name is looked up once,
comes to the same. -/
theorem select_eq_lookUp (hnames : names ≠ []) :
    select kind name all names =
      if (lookUp name all names).2 = [] then .ok (lookUp name all names).1
      else .error (.unknownNames kind (lookUp name all names).2) := by
  have hunknown : (names.filter fun n => !all.any fun a => name a == n) =
      (lookUp name all names).2 := by
    rw [snd_lookUp]
    refine List.filter_congr fun n _ => ?_
    rw [Bool.eq_iff_iff, decide_eq_true_eq, List.mem_map]
    simp
  rw [select, if_neg (by simpa using hnames), hunknown, fst_lookUp]
  cases (lookUp name all names).2 with
  | nil => rfl
  | cons n rest => rw [if_neg (List.cons_ne_nil n rest)]

theorem unknownAmong_eq_nil_iff :
    unknownAmong name all names = [] ↔ ∀ n ∈ names, n ∈ all.map name := by
  simp [unknownAmong, List.filter_eq_nil_iff]

/-- Unknown names are all told, and nothing is selected. -/
theorem select_eq_error (h : ∃ n ∈ names, n ∉ all.map name) :
    select kind name all names = .error (.unknownNames kind (unknownAmong name all names)) := by
  obtain ⟨n, hn, hunknown⟩ := h
  rw [select_eq_lookUp (List.ne_nil_of_mem hn), snd_lookUp, if_neg]
  exact fun hnil => hunknown (unknownAmong_eq_nil_iff.mp hnil n hn)

theorem select_eq_ok (kind : DefinitionKind) (h : ∀ n ∈ names, n ∈ all.map name) :
    ∃ selected, select kind name all names = .ok selected ∧
      Selection name all names selected := by
  by_cases hnames : names = []
  · subst hnames
    exact ⟨all, rfl, fun _ => rfl, fun hne => absurd rfl hne, fun _ => id⟩
  · have hnil : (lookUp name all names).2 = [] := by
      rw [snd_lookUp, unknownAmong_eq_nil_iff]
      exact h
    refine ⟨_, by rw [select_eq_lookUp hnames, if_pos hnil], fun heq => absurd heq hnames,
      fun _ => map_name_lookUp hnil, fun a => mem_of_mem_lookUp⟩

end Roster.CommandLine.Failure
