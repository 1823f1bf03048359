import Roster.Proofs.Definition.Layout
import Roster.Proofs.Json.Place

/-! # Laws of blocks

What is noted about a block is known from what is noted about its values. Settings
at their defaults say nothing in a block if they say nothing alone, since no field
depends on another. Each block has these laws by its own few fields; all else is
shown here once.
-/
namespace Roster

/-- The flags that must be true or false where they are written. -/
def plainFlags : List String :=
  ["multi_agent", "auto_verify", "restricted", "required"]

namespace SettingsBlock

variable {α β γ δ : Type} {b : SettingsBlock α β}

/-! ## What is noted -/

/-- Of the values in a block it is noted that those at the places `unreadable` cannot be read. -/
structure Noted (b : SettingsBlock α β) (unreadable : NameMap Json → List String) : Prop where
  notes : ∀ {m a}, b.record.readKnown m = .ok a → Issue.Notes (b.settle a).2 [] (unreadable m)
  withoutUnknown : ∀ a, Issue.withoutUnknown (b.settle a).2 = (b.settle a).2
  empty : unreadable ∅ = []

theorem noted_of_silent (h : ∀ a, (b.settle a).2 = []) : b.Noted fun _ => [] where
  notes {m a} _ := by
    rw [h a]
    exact Issue.notes_nil
  withoutUnknown a := by
    rw [h a]
    rfl
  empty := rfl

section Word

variable (γ) [Vocabulary γ] {key : String} (path : String) {text : α → Option String}
  (hword : b.record.Holds key (Shape.optional Shape.string) text)
  (hstart : text b.record.start = none)

include hword hstart

theorem noted_of_word
    (h : ∀ a, (b.settle a).2 = (Issue.parseWord path (text a) : γ × List Issue).2) :
    b.Noted fun m => if (m.text? key).any (Vocabulary.isUnknown γ) then [path] else [] where
  notes {m a} ha := by
    rw [h a, ← hword.text? hstart ha]
    exact (Issue.settled_parseWord γ path (text a)).notes
  withoutUnknown a := by
    rw [h a]
    exact (Issue.settled_parseWord γ path (text a)).withoutUnknown
  empty := rfl

/-- A word that is not known stands for the standard one. -/
theorem value_of_isUnknown {value : β → γ} {m : NameMap Json} {o : Option (WithExtra α)}
    (hstandard : value b.standard = Vocabulary.fallback)
    (h : ∀ a, value (b.settle a).1 = (Issue.parseWord path (text a) : γ × List Issue).1)
    (ho : b.record.ReadsAt m b.key o)
    (hbad : ((m.block b.key).text? key).any (Vocabulary.isUnknown γ) = true) :
    value (b.part o).1 = Vocabulary.fallback := by
  rcases ho with ⟨rfl, -⟩ | ⟨w, rfl, hw⟩
  · exact hstandard
  · rw [← hword.text? hstart (Record.read_eq_ok_iff.mp hw).1] at hbad
    exact (h w.known).trans ((Issue.settled_parseWord γ path (text w.known)).eq_fallback hbad)

end Word

namespace Noted

variable {unreadable : NameMap Json → List String}

/-- Of a block the names in it without meaning are noted, and what is noted of its values. -/
theorem notes_part (h : b.Noted unreadable) {m : NameMap Json} {o : Option (WithExtra α)}
    (ho : b.record.ReadsAt m b.key o) :
    Issue.Notes (b.part o).2
      ((unknownNames b.record.names (m.block b.key)).map fun k => b.key ++ "." ++ k)
      (unreadable (m.block b.key)) := by
  rcases ho with ⟨rfl, hm⟩ | ⟨w, rfl, hw⟩
  · rw [hm, h.empty]
    exact Issue.notes_nil
  · obtain ⟨hknown, hextra⟩ := Record.read_eq_ok_iff.mp hw
    have hnotes := (Issue.notes_unknownFields (some b.key) w.extra).append (h.notes hknown)
    rwa [hextra, Issue.fields_unknownFields, ← hextra, List.append_nil, List.nil_append] at hnotes

/-- A block alone says the same, and of it nothing is noted about names without meaning. -/
theorem part_alone (h : b.Noted unreadable) (o : Option (WithExtra α)) :
    b.part (o.map WithExtra.alone) =
      ((b.part o).1, Issue.withoutUnknown (b.part o).2) := by
  cases o with
  | none => rfl
  | some w =>
    refine Prod.ext rfl ?_
    change Issue.unknownFields (some b.key) ∅ ++ (b.settle w.known).2 =
      Issue.withoutUnknown (Issue.unknownFields (some b.key) w.extra ++ (b.settle w.known).2)
    rw [Issue.withoutUnknown_append, Issue.withoutUnknown_unknownFields, h.withoutUnknown]
    rfl

end Noted

/-! ## What is as good as not written -/

/-- The fields of a block do not depend on one another, and in it nothing says as much as null,
except for the plain flags, and as much as the defaults. -/
structure Lawful (b : SettingsBlock α β) (defaults : List (String × Json)) : Prop where
  meant : b.record.Meant b.settle
  start : b.settle b.record.start = (b.standard, []) := by rfl
  blank : ∀ k ∈ b.record.names, k ∉ plainFlags → b.record.Neutral b.settle k .null := by decide
  defaults : ∀ e ∈ defaults, e.1 ∈ b.record.names ∧ b.record.Neutral b.settle e.1 e.2 := by decide

/-- What is taken from a block is found from its settings and from what is beside them. -/
theorem part_congr {x y : WithExtra α} (h : x.map b.settle = y.map b.settle) :
    b.part (some x) = b.part (some y) := by
  obtain ⟨hsettle, hextra⟩ := WithExtra.mk.inj h
  simp only [part, ofWritten, hsettle, hextra]

theorem Lawful.part_start {defaults : List (String × Json)} (h : b.Lawful defaults) :
    b.part (some ⟨b.record.start, ∅⟩) = b.part none := by
  simp only [part, ofWritten, h.start]
  rfl

end SettingsBlock

namespace Record

variable {α γ : Type}

/-- A block in a record whose meaning is found from what is taken from the block. Its names and
its defaults are listed. -/
inductive Settings (r : Record α) (mean : α → γ) :
    String → List String → List (String × Json) → Prop
  | of {β δ : Type} {b : SettingsBlock β δ} {defaults : List (String × Json)}
    {assign : α → Option (WithExtra β) → α} (lawful : b.Lawful defaults)
    (field : r.field? b.key = some (b.field assign))
    (taken : ∀ a o o', b.part o = b.part o' → mean (assign a o) = mean (assign a o'))
    (none_start : assign r.start none = r.start) : Settings r mean b.key b.record.names defaults

namespace Settings

variable {r : Record α} {mean : α → γ} {b k : String} {names : List String}
  {defaults : List (String × Json)} {m : NameMap Json} {v : Json}

theorem hasBlock (h : r.Settings mean b names defaults) :
    ∃ (β δ : Type) (b' : SettingsBlock β δ) (assign : α → Option (WithExtra β) → α),
      r.HasBlock mean b b'.record b'.settle assign ∧ b'.Lawful defaults ∧
        b'.record.names = names := by
  obtain @⟨β, δ, b', _, assign, lawful, field, taken, none_start⟩ := h
  exact ⟨β, δ, b', assign, ⟨field, fun a x y h => taken a _ _ (SettingsBlock.part_congr h),
    fun a => taken a _ _ lawful.part_start, none_start⟩, lawful, rfl⟩

theorem read_erase (h : r.Settings mean b names defaults) (hr : r.Meant mean) (hk : k ∈ names)
    (hflag : k ∉ plainFlags) (hm : (m.block b).get? k = some .null) :
    (r.read (m.modify (·.erase k) [.key b])).map (WithExtra.map mean) =
      (r.read m).map (WithExtra.map mean) := by
  obtain ⟨_, _, b', _, block, lawful, rfl⟩ := h.hasBlock
  exact block.read_modify hr (lawful.meant.read_erase hk (lawful.blank k hk hflag) hm)

theorem read_insert (h : r.Settings mean b names defaults) (hr : r.Meant mean)
    (hv : (k, v) ∈ defaults) (hm : (m.block b).get? k = none) :
    (r.read (m.modify (·.insert k v) [.key b])).map (WithExtra.map mean) =
      (r.read m).map (WithExtra.map mean) := by
  obtain ⟨_, _, b', _, block, lawful, -⟩ := h.hasBlock
  obtain ⟨hk, hneutral⟩ := lawful.defaults (k, v) hv
  exact block.read_modify hr (lawful.meant.read_insert hk hneutral hm)

theorem mem_names (h : r.Settings mean b names defaults) : b ∈ r.names := by
  obtain ⟨_, _, b', _, block, -, -⟩ := h.hasBlock
  exact block.mem_names

theorem neutral (h : r.Settings mean b names defaults) (hv : v = .null ∨ v = .object []) :
    r.Neutral mean b v := by
  obtain ⟨_, _, b', _, block, -, -⟩ := h.hasBlock
  rcases hv with rfl | rfl
  · exact block.neutral_null
  · exact block.neutral_empty

end Settings

end Record

/-! ## Security settings -/

namespace SecuritySettings

theorem holds_level :
    Written.record.Holds "security_level" (Shape.optional Shape.string) (·.level) := by
  refine Record.holds_of rfl (fun _ _ => rfl) ?_
  simp [Written.record, Field.keeps_of]

/-- The fields of security settings whose texts say nothing. -/
def unreadable (m : NameMap Json) : List String :=
  if (m.text? "security_level").any (Vocabulary.isUnknown SecurityLevel) then
    ["security_settings.security_level"]
  else []

theorem noted : block.Noted unreadable :=
  SettingsBlock.noted_of_word SecurityLevel "security_settings.security_level" holds_level rfl
    fun _ => rfl

theorem level_part {m : NameMap Json} {o : Option (WithExtra Written)}
    (ho : Written.record.ReadsAt m "security_settings" o)
    (h : ((m.block "security_settings").text? "security_level").any
      (Vocabulary.isUnknown SecurityLevel) = true) : (block.part o).1.level = .medium :=
  SettingsBlock.value_of_isUnknown SecurityLevel "security_settings.security_level" holds_level rfl
    rfl (fun _ => rfl) ho h

def defaults : List (String × Json) :=
  [("restricted", .bool false), ("required_permissions", .array []),
    ("security_level", .string "medium")]

theorem lawful : block.Lawful defaults where
  meant :=
    ⟨by simp +contextual [block, Written.record, Field.respects_of],
      by simp [block, Written.record, Field.commutes_of]⟩

end SecuritySettings

end Roster
