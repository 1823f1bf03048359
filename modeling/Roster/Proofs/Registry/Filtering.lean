import Roster.Proofs.Definition.Sorting
import Roster.Proofs.Json.Record
import Roster.Proofs.Registry.Listing
import Roster.Proofs.Text.ByteOrder

/-! # Filtered and sorted lists

What is listed are the definitions of the unfiltered list that meet every
condition of the filter. Filters and orders have no say in whether a list fails.
Names differ, so the order of a list is determined by what it holds.
-/
namespace Roster

section Outcomes

variable {α β ε ε' : Type}

theorem mapError_eq_ok_iff {r : Except ε α} {f : ε → ε'} {a : α} :
    r.mapError f = .ok a ↔ r = .ok a := by
  cases r <;> simp [Except.mapError]

theorem map_eq_error_iff {r : Except ε α} {f : α → β} {e : ε} :
    r.map f = .error e ↔ r = .error e := by
  cases r <;> simp [Except.map]

theorem toOption_eq_some_iff {r : Except ε α} {a : α} : r.toOption = some a ↔ r = .ok a := by
  cases r <;> simp [Except.toOption]

/-- A walk over a list leaves nothing out if all its steps succeed. -/
theorem eq_filterMap_of_mapM_eq_ok {f : α → Except ε β} {l : List α} {r : List β}
    (h : l.mapM f = .ok r) : r = l.filterMap fun a => (f a).toOption := by
  induction l generalizing r with
  | nil =>
    cases h
    rfl
  | cons a l ih =>
    rw [List.mapM_cons] at h
    obtain ⟨b, hb, h⟩ := bind_eq_ok_iff.mp h
    obtain ⟨r', hr', h⟩ := bind_eq_ok_iff.mp h
    cases h
    rw [List.filterMap_cons, hb, ← ih hr']
    rfl

end Outcomes

namespace Reader

variable {α : Type} {yaml : YamlReader} {r : Reader α}

/-- Strict and lenient loads list what the configurations hold in the order of these. -/
theorem eq_filterMap_of_readAll {strict : Bool} {l : List Configuration} {ds : List α}
    (h : r.readAll strict l = .ok ds) : ds = l.filterMap fun c => (r.read c).toOption := by
  cases strict with
  | true => exact eq_filterMap_of_mapM_eq_ok (show l.mapM r.read = .ok ds from h)
  | false => exact (Except.ok.inj h).symm

theorem all_ordered {name : α → String}
    (hname : ∀ c d, r.ofConfiguration c = .ok d → name d = c.name) {source : Source}
    {o : LoadOptions} {ds : List α} (h : r.all yaml source o = .ok ds) :
    ds.Pairwise fun a b => name a < name b := by
  obtain ⟨hierarchy, hl, h⟩ := bind_eq_ok_iff.mp h
  have hordered := Hierarchy.ofKind_ordered (mapError_eq_ok_iff.mp hl) r.kind.document
  rw [eq_filterMap_of_readAll (mapError_eq_ok_iff.mp h)]
  have hread : ∀ c d, (r.read c).toOption = some d → name d = c.name := by
    intro c d hd
    exact hname c d ((read_eq_ok_iff c d).mp (toOption_eq_some_iff.mp hd))
  refine hordered.filterMap _ fun c c' hlt d hd d' hd' => ?_
  rw [hread c d hd, hread c' d' hd']
  exact hlt

end Reader

section Choices

theorem admits_iff {β : Type} (choice : List β) (meets : β → Bool) :
    admits choice meets = true ↔ (choice ≠ [] → ∃ b ∈ choice, meets b = true) := by
  cases choice with
  | nil => simp [admits]
  | cons b r => simp [admits]

/-- Two lists have the same values, in whatever order and however often. -/
def SameValues {β : Type} (l l' : List β) : Prop :=
  ∀ b, b ∈ l ↔ b ∈ l'

theorem admits_congr {β : Type} {choice choice' : List β} (h : SameValues choice choice')
    (meets : β → Bool) : admits choice meets = admits choice' meets := by
  have hnil : choice = [] ↔ choice' = [] := by
    simp only [List.eq_nil_iff_forall_not_mem, h _]
  rw [Bool.eq_iff_iff, admits_iff, admits_iff]
  simp only [ne_eq, hnil, h _]

theorem NameSet.ofNames_congr {l l' : List String} (h : SameValues l l') :
    NameSet.ofNames l = NameSet.ofNames l' := by
  refine NameMap.ext_get? fun n => ?_
  rw [NameSet.get?_ofNames, NameSet.get?_ofNames]
  simp only [h n]

end Choices

namespace Agent.Filter

/-- An agent meets every condition that there is. -/
def Meets (f : Filter) (a : Agent) : Prop :=
  (f.types ≠ [] → a.type ∈ f.types) ∧
    (f.capabilities.names ≠ [] → ∃ c ∈ f.capabilities.names, c ∈ a.capabilities.names) ∧
    (f.tags.names ≠ [] → ∃ t ∈ f.tags.names, t ∈ a.tags)

theorem passes_iff (f : Filter) (a : Agent) : f.passes a = true ↔ f.Meets a := by
  simp only [passes, Meets, Bool.and_eq_true, admits_iff, beq_iff_eq, exists_eq_right, and_assoc,
    hasCapability, ← NameMap.mem_names_iff, List.contains_iff_mem]

theorem filter_all (l : List Agent) : l.filter all.passes = l :=
  List.filter_eq_self.mpr fun _ _ => rfl

theorem passes_congr {types types' : List AgentType} {capabilities capabilities' : List String}
    {tags tags' : List String} (htypes : SameValues types types')
    (hcapabilities : SameValues capabilities capabilities') (htags : SameValues tags tags') :
    passes ⟨types, .ofNames capabilities, .ofNames tags⟩ =
      passes ⟨types', .ofNames capabilities', .ofNames tags'⟩ := by
  funext a
  rw [NameSet.ofNames_congr hcapabilities, NameSet.ofNames_congr htags, passes, passes,
    admits_congr htypes]

end Agent.Filter

namespace Command.Filter

/-- A command meets every condition that there is. -/
def Meets (f : Filter) (c : Command) : Prop :=
  (f.types ≠ [] → c.type ∈ f.types) ∧ (f.formats ≠ [] → c.format ∈ f.formats) ∧
    (f.tags.names ≠ [] → ∃ t ∈ f.tags.names, t ∈ c.tags)

theorem passes_iff (f : Filter) (c : Command) : f.passes c = true ↔ f.Meets c := by
  simp only [passes, Meets, Bool.and_eq_true, admits_iff, beq_iff_eq, exists_eq_right, and_assoc,
    List.contains_iff_mem]

theorem filter_all (l : List Command) : l.filter all.passes = l :=
  List.filter_eq_self.mpr fun _ _ => rfl

theorem passes_congr {types types' : List CommandType} {formats formats' : List OutputFormat}
    {tags tags' : List String} (htypes : SameValues types types')
    (hformats : SameValues formats formats') (htags : SameValues tags tags') :
    passes ⟨types, formats, .ofNames tags⟩ = passes ⟨types', formats', .ofNames tags'⟩ := by
  funext c
  rw [NameSet.ofNames_congr htags, passes, passes, admits_congr htypes, admits_congr hformats]

end Command.Filter

/-- A list against the list of all definitions: it fails as that does, and else has each of those
that meet some conditions once. Without a field it is in the order of the bytes of their names; with
a field it is what sorting by that field makes of its members, in whatever order they come. -/
structure FiltersThenSorts {α : Type} (name : α → String) (key : α → SortKey) (meets : α → Prop)
    (a : Arrangement) (whole listing : Except DefinitionError (List α)) : Prop where
  fails : ∀ e, listing = .error e ↔ whole = .error e
  lists : ∀ ds, whole = .ok ds → ∃ l, listing = .ok l ∧ l.Nodup ∧
    (∀ d, d ∈ l ↔ d ∈ ds ∧ meets d) ∧
    (a.field = none → l.Pairwise fun c d => Text.bytes (name c) < Text.bytes (name d)) ∧
    ∀ f, a.field = some f → ∀ l', l'.Perm l → sortBy key f a.order l' = l

theorem filtersThenSorts_arrange {α : Type} {name : α → String} {key : α → SortKey}
    {meets : α → Prop} {passes : α → Bool} (hkey : ∀ d, (key d).name = name d)
    (hpasses : ∀ d, passes d = true ↔ meets d) {whole : Except DefinitionError (List α)}
    (hordered : ∀ ds, whole = .ok ds → ds.Pairwise fun c d => name c < name d) (a : Arrangement) :
    FiltersThenSorts name key meets a whole
      (whole.map fun l => a.arrange key (l.filter passes)) := by
  refine ⟨fun e => map_eq_error_iff, fun ds hds => ?_⟩
  have hbyName := (hordered ds hds).filter passes
  have hdistinct : (ds.filter passes).Pairwise fun c d => name c ≠ name d :=
    hbyName.imp String.ne_of_lt
  have hnames : ((ds.filter passes).map fun d => (key d).name).Nodup := by
    simpa only [List.Nodup, List.pairwise_map, hkey] using hdistinct
  have hperm : (a.arrange key (ds.filter passes)).Perm (ds.filter passes) := by
    rw [Arrangement.arrange]
    split
    · exact .refl _
    · exact List.mergeSort_perm _ _
  refine ⟨_, map_eq_ok_iff.mpr ⟨ds, hds, rfl⟩, ?_, fun d => ?_, fun hfield => ?_,
    fun f hfield l' hl' => ?_⟩
  · exact hperm.nodup_iff.mpr (hdistinct.imp fun hne heq => hne (congrArg name heq))
  · rw [hperm.mem_iff, List.mem_filter, hpasses]
  · rw [Arrangement.arrange, hfield]
    exact hbyName.imp (Text.lt_iff_bytes_lt _ _).mp
  · have harrange : a.arrange key (ds.filter passes) = sortBy key f a.order (ds.filter passes) := by
      rw [Arrangement.arrange, hfield]
    rw [harrange]
    exact sortBy_eq_of_perm key f a.order hnames (hl'.trans hperm)

theorem Agent.list_all (yaml : YamlReader) (source : Source) (o : LoadOptions) (order : SortOrder) :
    Agent.listWith yaml source ⟨o, .all, ⟨none, order⟩⟩ = Agent.reader.all yaml source o := by
  rw [listWith]
  cases reader.all yaml source o with
  | error e => rfl
  | ok ds => exact congrArg Except.ok (Filter.filter_all ds)

theorem Command.list_all (yaml : YamlReader) (source : Source) (o : LoadOptions)
    (order : SortOrder) :
    Command.listWith yaml source ⟨o, .all, ⟨none, order⟩⟩ = Command.reader.all yaml source o := by
  rw [listWith]
  cases reader.all yaml source o with
  | error e => rfl
  | ok ds => exact congrArg Except.ok (Filter.filter_all ds)

/-- Lists of agents and of commands are the lists of all definitions, filtered and then sorted. In
which order and how often a filter names a value does not matter. -/
theorem lists_filter_then_sort (yaml : YamlReader) (source : Source) :
    (∀ o : Agent.ListOptions,
      FiltersThenSorts Agent.name Agent.sortKey o.filter.Meets o.arrangement
        (Agent.listWith yaml source ⟨o.load, .all, ⟨none, o.arrangement.order⟩⟩)
        (Agent.listWith yaml source o)) ∧
      (∀ o : Command.ListOptions,
        FiltersThenSorts Command.name Command.sortKey o.filter.Meets o.arrangement
          (Command.listWith yaml source ⟨o.load, .all, ⟨none, o.arrangement.order⟩⟩)
          (Command.listWith yaml source o)) ∧
      (∀ o a types types' capabilities capabilities' tags tags', SameValues types types' →
        SameValues capabilities capabilities' → SameValues tags tags' →
        Agent.listWith yaml source ⟨o, ⟨types, .ofNames capabilities, .ofNames tags⟩, a⟩ =
          Agent.listWith yaml source ⟨o, ⟨types', .ofNames capabilities', .ofNames tags'⟩, a⟩) ∧
      ∀ o a types types' formats formats' tags tags', SameValues types types' →
        SameValues formats formats' → SameValues tags tags' →
        Command.listWith yaml source ⟨o, ⟨types, formats, .ofNames tags⟩, a⟩ =
          Command.listWith yaml source ⟨o, ⟨types', formats', .ofNames tags'⟩, a⟩ := by
  refine ⟨fun o => ?_, fun o => ?_, ?_, ?_⟩
  · have hordered : ∀ ds, Agent.reader.all yaml source o.load = .ok ds →
        ds.Pairwise fun a b => a.name < b.name :=
      fun _ => Reader.all_ordered Agent.name_of_ofConfiguration
    have hkey : ∀ d : Agent, d.sortKey.name = d.name := fun _ => rfl
    rw [Agent.list_all]
    exact filtersThenSorts_arrange hkey o.filter.passes_iff hordered o.arrangement
  · have hordered : ∀ ds, Command.reader.all yaml source o.load = .ok ds →
        ds.Pairwise fun a b => a.name < b.name :=
      fun _ => Reader.all_ordered Command.name_of_ofConfiguration
    have hkey : ∀ d : Command, d.sortKey.name = d.name := fun _ => rfl
    rw [Command.list_all]
    exact filtersThenSorts_arrange hkey o.filter.passes_iff hordered o.arrangement
  · intro o a types types' capabilities capabilities' tags tags' htypes hcapabilities htags
    simp only [Agent.listWith, Agent.Filter.passes_congr htypes hcapabilities htags]
  · intro o a types types' formats formats' tags tags' htypes hformats htags
    simp only [Command.listWith, Command.Filter.passes_congr htypes hformats htags]

/-- The sample: a filter by type drops one of three agents, in whatever order and however often it
names types. By priority the other two stand in another order than by name. -/
theorem list_of_sample_filters_then_sorts :
    SameValues [AgentType.developer, .custom, .custom] [.custom, .developer] ∧
      ∃ ann bob cid : Agent, (ann.name = "ann" ∧ bob.name = "bob" ∧ cid.name = "cid") ∧
        Agent.list .team ⟨.sample, .all, .standard⟩ = .ok [ann, bob, cid] ∧
        Agent.list .team
          ⟨.sample, ⟨[.developer, .custom, .custom], .ofNames [], .ofNames []⟩,
            ⟨some .priority, .descending⟩⟩ = .ok [bob, ann] := by
  have hsame : SameValues [AgentType.developer, .custom, .custom] [.custom, .developer] := by
    intro t
    simp [or_comm]
  have hteam : Hierarchy.loadWith Yaml.readJson .team .sample = .ok .team :=
    Hierarchy.load_team false
  obtain ⟨ann, bob, cid, hnames, htypes, hpriorities, hall⟩ : ∃ ann bob cid : Agent,
      (ann.name = "ann" ∧ bob.name = "bob" ∧ cid.name = "cid") ∧
        (ann.type = .developer ∧ bob.type = .custom ∧ cid.type = .planner) ∧
        (ann.priority = 3 ∧ bob.priority = 7) ∧
        Agent.list .team ⟨.sample, .all, .standard⟩ = .ok [ann, bob, cid] := by
    rw [Agent.list, Agent.listWith, Reader.all, hteam]
    exact ⟨_, _, _, ⟨rfl, rfl, rfl⟩, ⟨rfl, rfl, rfl⟩, ⟨rfl, rfl⟩, rfl⟩
  obtain ⟨hagents, -, hfilters, -⟩ := lists_filter_then_sort Yaml.readJson .team
  let o : Agent.ListOptions :=
    ⟨.sample, ⟨[.custom, .developer], .ofNames [], .ofNames []⟩, ⟨some .priority, .descending⟩⟩
  have hmeets : ∀ a : Agent, o.filter.Meets a ↔ a.type = .custom ∨ a.type = .developer := by
    intro a
    have hnone : (NameSet.ofNames []).names = [] := rfl
    simp [Agent.Filter.Meets, o, hnone]
  obtain ⟨l, hl, hnodup, hmem, -, hsorted⟩ := (hagents o).lists _ hall
  have hne : bob ≠ ann := by
    rintro rfl
    cases hpriorities.1.symm.trans hpriorities.2
  have hmembers : ∀ d, d ∈ [bob, ann] ↔ d ∈ l := by
    intro d
    rw [hmem, hmeets]
    constructor
    · intro hd
      rcases List.mem_pair.mp hd with rfl | rfl <;> simp [htypes]
    · rintro ⟨hd, htype⟩
      simp only [List.mem_cons, List.not_mem_nil, or_false] at hd ⊢
      rcases hd with rfl | rfl | rfl
      · exact .inr rfl
      · exact .inl rfl
      · simp [htypes] at htype
  have hperm : [bob, ann].Perm l :=
    (List.perm_ext_iff_of_nodup (by simpa using hne) hnodup).mpr hmembers
  have hpriority : sortBy Agent.sortKey .priority .descending [bob, ann] = [bob, ann] := by
    refine List.mergeSort_of_pairwise (List.pairwise_pair.mpr ?_)
    simp only [SortKey.compare, SortKey.compareBy, SortOrder.direct, Agent.sortKey, hpriorities]
    rfl
  refine ⟨hsame, ann, bob, cid, hnames, hall, ?_⟩
  have hlist := hfilters .sample ⟨some .priority, .descending⟩ _ _ [] [] [] [] hsame
    (fun _ => Iff.rfl) (fun _ => Iff.rfl)
  exact hlist.trans (hl.trans (congrArg Except.ok ((hsorted _ rfl _ hperm).symm.trans hpriority)))

end Roster
