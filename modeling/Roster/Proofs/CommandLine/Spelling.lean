import Roster.CommandLine.Assignment
import Roster.Proofs.Text.Parts

/-! # How assignments are written

A text is read as an assignment exactly if it is put together from a command, a key
and a value in one way, which is then the only one. The two cuts go by the first
equals sign and by the first dot before it, so a key may have dots, a value may have
anything, and for every other text it is told which of the parts it lacks.
-/
namespace Roster.CommandLine.Assignment

/-- A text writes an assignment: a command, a dot, a key, an equals sign and a value. Command and
key are not empty, neither has an equals sign, and the command has no dot. -/
structure Writes (arg : String) (a : Assignment) : Prop where
  text : arg = a.command ++ "." ++ a.key ++ "=" ++ a.value
  command_nonempty : a.command ≠ ""
  command_dot : '.' ∉ a.command.toList
  command_equals : '=' ∉ a.command.toList
  key_nonempty : a.key ≠ ""
  key_equals : '=' ∉ a.key.toList

/-- What a text without an assignment lacks: an equals sign, a dot before the first one, or the
characters of a command or of a key. -/
inductive Lacks : String → String → Prop
  | equals {arg : String} (equals : '=' ∉ arg.toList) :
      Lacks arg ("expected COMMAND.KEY=VALUE, got '" ++ arg ++ "'")
  | dot {target value : String} (equals : '=' ∉ target.toList) (dot : '.' ∉ target.toList) :
      Lacks (target ++ "=" ++ value) ("expected COMMAND.KEY before '=', got '" ++ target ++ "'")
  | characters {c k v : String} (command_dot : '.' ∉ c.toList) (command_equals : '=' ∉ c.toList)
      (key_equals : '=' ∉ k.toList) (empty : c = "" ∨ k = "") :
      Lacks (c ++ "." ++ k ++ "=" ++ v)
        ("command and key must not be empty in '" ++ (c ++ "." ++ k ++ "=" ++ v) ++ "'")

variable {arg : String} {a : Assignment} {reason : String}

theorem exists_cut {sep : Char} {s : String} (h : sep ∈ s.toList) :
    ∃ a b : String, s = a ++ String.singleton sep ++ b ∧ sep ∉ a.toList := by
  obtain ⟨a, b, hs, ha⟩ := List.eq_append_cons_of_mem h
  refine ⟨.ofList a, .ofList b, ?_, by simpa using ha⟩
  rw [← String.toList_inj, hs]
  simp

theorem exists_shape (arg : String) :
    '=' ∉ arg.toList ∨
      (∃ target value : String, arg = target ++ "=" ++ value ∧ '=' ∉ target.toList ∧
        '.' ∉ target.toList) ∨
      ∃ c k v : String, arg = c ++ "." ++ k ++ "=" ++ v ∧ '.' ∉ c.toList ∧ '=' ∉ c.toList ∧
        '=' ∉ k.toList := by
  by_cases hequals : '=' ∈ arg.toList
  · obtain ⟨target, value, rfl, htarget⟩ := exists_cut hequals
    by_cases hdot : '.' ∈ target.toList
    · obtain ⟨c, k, rfl, hc⟩ := exists_cut hdot
      simp only [String.toList_append, List.mem_append, not_or] at htarget
      exact .inr (.inr ⟨c, k, value, rfl, hc, htarget.1.1, htarget.2⟩)
    · exact .inr (.inl ⟨target, value, rfl, htarget, hdot⟩)
  · exact .inl hequals

theorem cutAt_target {target : String} (equals : '=' ∉ target.toList) (value : String) :
    Text.cutAt '=' (target ++ "=" ++ value).toList = some (target.toList, value.toList) := by
  rw [← Text.cutAt_append equals]
  simp

/-- The two cuts find a command, a key and a value again. -/
theorem parse_parts {c k : String} (command_dot : '.' ∉ c.toList)
    (command_equals : '=' ∉ c.toList) (key_equals : '=' ∉ k.toList) (v : String) :
    parse (c ++ "." ++ k ++ "=" ++ v) =
      if c = "" ∨ k = "" then
        .error ("command and key must not be empty in '" ++ (c ++ "." ++ k ++ "=" ++ v) ++ "'")
      else .ok ⟨c, k, v⟩ := by
  have hequals : '=' ∉ (c ++ "." ++ k).toList := by
    simp [command_equals, key_equals]
  have htarget : (c ++ "." ++ k).toList = c.toList ++ '.' :: k.toList := by
    simp
  rw [parse, cutAt_target hequals, htarget]
  dsimp only
  rw [Text.cutAt_append command_dot]
  simp

theorem parse_of_writes (h : Writes arg a) : parse arg = .ok a := by
  rw [h.text, parse_parts h.command_dot h.command_equals h.key_equals]
  exact if_neg (not_or.mpr ⟨h.command_nonempty, h.key_nonempty⟩)

theorem parse_of_lacks (h : Lacks arg reason) : parse arg = .error reason := by
  cases h with
  | equals equals => rw [parse, Text.cutAt_of_not_mem equals]
  | dot equals dot =>
    rw [parse, cutAt_target equals]
    dsimp only
    rw [Text.cutAt_of_not_mem dot, String.ofList_toList]
  | characters command_dot command_equals key_equals empty =>
    rw [parse_parts command_dot command_equals key_equals, if_pos empty]

/-- A text writes an assignment, or it lacks something. -/
theorem writes_or_lacks (arg : String) : (∃ a, Writes arg a) ∨ ∃ reason, Lacks arg reason := by
  rcases exists_shape arg with equals | ⟨target, value, rfl, equals, dot⟩ |
    ⟨c, k, v, rfl, command_dot, command_equals, key_equals⟩
  · exact .inr ⟨_, .equals equals⟩
  · exact .inr ⟨_, .dot equals dot⟩
  · by_cases empty : c = "" ∨ k = ""
    · exact .inr ⟨_, .characters command_dot command_equals key_equals empty⟩
    · obtain ⟨command_nonempty, key_nonempty⟩ := not_or.mp empty
      exact .inl ⟨⟨c, k, v⟩, rfl, command_nonempty, command_dot, command_equals, key_nonempty,
        key_equals⟩

theorem parse_eq_ok_iff : parse arg = .ok a ↔ Writes arg a := by
  refine ⟨fun h => ?_, parse_of_writes⟩
  rcases writes_or_lacks arg with ⟨b, hb⟩ | ⟨reason, hreason⟩
  · cases h.symm.trans (parse_of_writes hb)
    exact hb
  · cases h.symm.trans (parse_of_lacks hreason)

theorem parse_eq_error_iff : parse arg = .error reason ↔ Lacks arg reason := by
  refine ⟨fun h => ?_, parse_of_lacks⟩
  rcases writes_or_lacks arg with ⟨a, ha⟩ | ⟨reason', hreason⟩
  · cases h.symm.trans (parse_of_writes ha)
  · cases h.symm.trans (parse_of_lacks hreason)
    exact hreason

/-- A text is read as the one assignment that it writes. A text that writes none is refused, and it
is told what it lacks. -/
theorem parse_accepts_what_is_written (arg : String) :
    (∀ a, parse arg = .ok a ↔ Writes arg a) ∧
      (∀ a b, Writes arg a → Writes arg b → a = b) ∧
      ((∀ a, ¬ Writes arg a) → ∃ reason, parse arg = .error reason) ∧
      ∀ reason, parse arg = .error reason ↔ Lacks arg reason := by
  refine ⟨fun a => parse_eq_ok_iff, fun a b ha hb => ?_, fun hnone => ?_,
    fun reason => parse_eq_error_iff⟩
  · exact Except.ok.inj ((parse_of_writes ha).symm.trans (parse_of_writes hb))
  · rcases writes_or_lacks arg with ⟨a, ha⟩ | ⟨reason, hreason⟩
    · exact absurd ha (hnone a)
    · exact ⟨reason, parse_of_lacks hreason⟩

/-- A key with a dot and a value with an equals sign are read in one way only, and a number of
replicas for no command is not read at all. -/
theorem parse_accepts_dotted_key :
    (Writes "deploy.env.zone=a=b" ⟨"deploy", "env.zone", "a=b"⟩ ∧
        parse "deploy.env.zone=a=b" = .ok ⟨"deploy", "env.zone", "a=b"⟩ ∧
        ¬ Writes "deploy.env.zone=a=b" ⟨"deploy.env", "zone", "a=b"⟩) ∧
      (∀ a, ¬ Writes "replicas=3" a) ∧ ∃ reason, parse "replicas=3" = .error reason := by
  obtain ⟨hread, hunique, -, -⟩ := parse_accepts_what_is_written "deploy.env.zone=a=b"
  obtain ⟨-, -, hrefused, hlacks⟩ := parse_accepts_what_is_written "replicas=3"
  have hwrites : Writes "deploy.env.zone=a=b" ⟨"deploy", "env.zone", "a=b"⟩ := by
    constructor <;> decide
  have hnone : ∀ a, ¬ Writes "replicas=3" a := by
    intro a ha
    have hdot : Lacks ("replicas" ++ "=" ++ "3") _ := .dot (by decide) (by decide)
    cases ((hlacks _).mpr hdot).symm.trans (parse_of_writes ha)
  refine ⟨⟨hwrites, (hread _).mpr hwrites, fun hother => ?_⟩, hnone, hrefused hnone⟩
  exact absurd (hunique _ _ hwrites hother) (by decide)

end Roster.CommandLine.Assignment
