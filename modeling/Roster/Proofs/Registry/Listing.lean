import Roster.Agent.Listing
import Roster.Command.Listing
import Roster.Proofs.Document.RoundTrip
import Roster.Proofs.Registry.Single
import Roster.Proofs.Yaml.Value
import Mathlib.Data.List.Forall2

/-! # Listing and looking up

A list of all definitions of a kind and the look-ups of single names go different
ways through the same hierarchy. They describe the same definitions, and where one
of them finds a configuration that is no definition of its kind, so does the other.
-/
namespace Roster

section Traversal

variable {α β ε : Type} {f : α → Except ε β} {l : List α}

theorem mapM_eq_ok {r : List β} (h : l.mapM f = .ok r) :
    (∀ a ∈ l, ∃ b, f a = .ok b) ∧ ∀ b, b ∈ r ↔ ∃ a ∈ l, f a = .ok b := by
  induction l generalizing r with
  | nil =>
    cases h
    simp
  | cons a l ih =>
    rw [List.mapM_cons] at h
    cases ha : f a with
    | error e => rw [ha] at h; cases h
    | ok b =>
      cases hl : l.mapM f with
      | error e => rw [ha, hl] at h; cases h
      | ok r' =>
        rw [ha, hl] at h
        cases h
        obtain ⟨hall, hmem⟩ := ih hl
        constructor
        · intro x hx
          rcases List.mem_cons.mp hx with rfl | hx
          · exact ⟨b, ha⟩
          · exact hall x hx
        · intro c
          rw [List.mem_cons, hmem]
          simp [ha, eq_comm]

theorem exists_of_mapM_eq_error {e : ε} (h : l.mapM f = .error e) :
    ∃ done a rest, l = done ++ a :: rest ∧ f a = .error e ∧ ∀ x ∈ done, ∃ b, f x = .ok b := by
  induction l with
  | nil => cases h
  | cons a l ih =>
    rw [List.mapM_cons] at h
    cases ha : f a with
    | error e' =>
      rw [ha] at h
      cases h
      exact ⟨[], a, l, rfl, ha, by simp⟩
    | ok b =>
      rw [ha] at h
      cases hl : l.mapM f with
      | ok r => rw [hl] at h; cases h
      | error e' =>
        rw [hl] at h
        cases h
        obtain ⟨done, x, rest, rfl, hx, hdone⟩ := ih hl
        refine ⟨a :: done, x, rest, rfl, hx, fun y hy => ?_⟩
        rcases List.mem_cons.mp hy with rfl | hy
        · exact ⟨b, ha⟩
        · exact hdone y hy

end Traversal

namespace Hierarchy

variable {yaml : YamlReader} {source : Source} {o : LoadOptions} {h : Hierarchy}

theorem name_of_get?_resolved (hl : loadWith yaml source o = .ok h) {n : String} {c : Configuration}
    (hc : h.resolved.get? n = some c) : c.name = n := by
  have htier : ∀ s, (h.tier s).entries.get? n = some c → c.name = n := by
    intro s hs
    obtain ⟨xs, hxs⟩ := (Tier.load_eq_ok_iff ..).mp ((load_eq_ok_iff ..).mp hl s)
    exact (hxs.entry_of_mem ((NameMap.mem_entries_iff ..).mpr hs)).1
  rw [get?_resolved, Option.or_eq_some_iff, Option.or_eq_some_iff] at hc
  rcases hc with hp | ⟨-, hg | ⟨-, hd⟩⟩
  · exact htier .project hp
  · exact htier .global hg
  · exact htier .default hd

theorem mem_ofKind_iff (hl : loadWith yaml source o = .ok h) (k : DocumentKind)
    (c : Configuration) :
    c ∈ h.ofKind k ↔ h.resolved.get? c.name = some c ∧ c.kind = k := by
  rw [ofKind, List.mem_filter, NameMap.values, List.mem_map, decide_eq_true_eq]
  refine and_congr_left fun _ => ⟨?_, fun hc => ⟨(c.name, c), ?_, rfl⟩⟩
  · rintro ⟨⟨n, d⟩, hmem, rfl⟩
    have hget := (NameMap.mem_entries_iff ..).mp hmem
    rwa [name_of_get?_resolved hl hget]
  · exact (NameMap.mem_entries_iff ..).mpr hc

theorem ofKind_ordered (hl : loadWith yaml source o = .ok h) (k : DocumentKind) :
    (h.ofKind k).Pairwise fun a b => a.name < b.name := by
  refine List.Pairwise.filter _ ?_
  rw [NameMap.values, List.pairwise_map]
  refine h.resolved.ordered.imp_of_mem fun {a b} ha hb hab => ?_
  rwa [name_of_get?_resolved hl ((NameMap.mem_entries_iff ..).mp ha),
    name_of_get?_resolved hl ((NameMap.mem_entries_iff ..).mp hb)]

end Hierarchy

namespace Reader

variable {α : Type} {yaml : YamlReader} {r : Reader α} {source : Source} {o : LoadOptions}
  {h : Hierarchy}

theorem read_eq_ok_iff (c : Configuration) (d : α) :
    r.read c = .ok d ↔ r.ofConfiguration c = .ok d := by
  rw [read, InvalidDefinition.guard]
  cases r.ofConfiguration c with
  | error reason => exact ⟨nofun, nofun⟩
  | ok d' =>
    constructor
    · intro h
      exact congrArg Except.ok (Except.ok.inj h)
    · intro h
      exact congrArg Except.ok (Except.ok.inj h)

theorem read_eq_error_iff (c : Configuration) (e : InvalidDefinition) :
    r.read c = .error e ↔
      ∃ reason, r.ofConfiguration c = .error reason ∧ e = ⟨r.kind, c.name, c.path, reason⟩ := by
  rw [read, InvalidDefinition.guard]
  cases r.ofConfiguration c with
  | error reason =>
    constructor
    · intro h
      exact ⟨reason, rfl, (Except.error.inj h).symm⟩
    · rintro ⟨reason', hreason, rfl⟩
      cases hreason
      rfl
  | ok d => exact ⟨nofun, nofun⟩

/-- The definitions that are read are those of the configurations. Where one of these holds none,
the load is lenient. -/
theorem readAll_eq_ok {strict : Bool} {l : List Configuration} {ds : List α}
    (hr : r.readAll strict l = .ok ds) :
    (∀ d, d ∈ ds ↔ ∃ c ∈ l, r.ofConfiguration c = .ok d) ∧
      ∀ c ∈ l, ∀ reason, r.ofConfiguration c = .error reason → strict = false := by
  cases strict with
  | true =>
    obtain ⟨hall, hmem⟩ := mapM_eq_ok (show l.mapM r.read = .ok ds from hr)
    constructor
    · intro d
      simp only [hmem, read_eq_ok_iff]
    · intro c hc reason hreason
      obtain ⟨d, hd⟩ := hall c hc
      rw [read_eq_ok_iff, hreason] at hd
      cases hd
  | false =>
    have hds : (l.filterMap fun c => (r.read c).toOption) = ds := Except.ok.inj hr
    refine ⟨fun d => ?_, fun _ _ _ _ => rfl⟩
    have hoption : ∀ c, (r.read c).toOption = some d ↔ r.ofConfiguration c = .ok d := by
      intro c
      rw [← read_eq_ok_iff]
      cases r.read c <;> simp [Except.toOption]
    rw [← hds, List.mem_filterMap]
    simp only [hoption]

/-- A name stands for a configuration of the kind that is no definition. -/
def Misshapen (r : Reader α) (h : Hierarchy) (n : String) (e : InvalidDefinition) : Prop :=
  ∃ c reason, h.resolved.get? n = some c ∧ c.kind = r.kind.document ∧
    r.ofConfiguration c = .error reason ∧ e = ⟨r.kind, n, c.path, reason⟩

theorem find?_eq (hl : Hierarchy.loadWith yaml source o = .ok h) (n : String) :
    r.findWith? yaml source o n = match h.resolved.get? n with
      | none => .ok none
      | some c =>
        if c.kind = r.kind.document then
          match r.ofConfiguration c with
          | .ok d => .ok (some d)
          | .error reason => .error (.invalid ⟨r.kind, n, c.path, reason⟩)
        else .ok none := by
  rw [findWith?, hl]
  change (match h.resolved.get? n with | none => _ | some c => _) = _
  cases hn : h.resolved.get? n with
  | none => rfl
  | some c =>
    by_cases hk : c.kind = r.kind.document
    · have hname : c.name = n := Hierarchy.name_of_get?_resolved hl hn
      simp only [hk, if_true, read, InvalidDefinition.guard, hname]
      cases r.ofConfiguration c <;> rfl
    · simp only [hk, if_false]
      rfl

theorem find?_eq_some_iff (hl : Hierarchy.loadWith yaml source o = .ok h) (n : String) (d : α) :
    r.findWith? yaml source o n = .ok (some d) ↔
      ∃ c, h.resolved.get? n = some c ∧ c.kind = r.kind.document ∧
        r.ofConfiguration c = .ok d := by
  rw [find?_eq hl]
  cases h.resolved.get? n with
  | none => simp
  | some c =>
    by_cases hk : c.kind = r.kind.document
    · cases hc : r.ofConfiguration c <;> simp [hk, hc]
    · simp [hk]

theorem find?_eq_error_iff (hl : Hierarchy.loadWith yaml source o = .ok h) (n : String)
    (e : DefinitionError) :
    r.findWith? yaml source o n = .error e ↔ ∃ e', r.Misshapen h n e' ∧ e = .invalid e' := by
  rw [find?_eq hl]
  cases hn : h.resolved.get? n with
  | none => simp [Misshapen, hn]
  | some c =>
    by_cases hk : c.kind = r.kind.document
    · cases hc : r.ofConfiguration c <;> simp [Misshapen, hn, hk, hc, eq_comm]
    · simp [Misshapen, hn, hk]

theorem find?_eq_none (hl : Hierarchy.loadWith yaml source o = .ok h) {n : String}
    (hsome : ∀ d, r.findWith? yaml source o n ≠ .ok (some d)) (herror : ∀ e, ¬ r.Misshapen h n e) :
    r.findWith? yaml source o n = .ok none := by
  cases hfind : r.findWith? yaml source o n with
  | error e =>
    obtain ⟨e', he', -⟩ := (find?_eq_error_iff hl n e).mp hfind
    exact absurd he' (herror e')
  | ok found =>
    cases found with
    | none => rfl
    | some d => exact absurd hfind (hsome d)

/-- A list of all definitions against the look-ups of single names. -/
structure Lists (yaml : YamlReader) (r : Reader α) (name : α → String) (source : Source)
    (o : LoadOptions) (h : Hierarchy) (l : List α) : Prop where
  listed : ∀ n d, r.findWith? yaml source o n = .ok (some d) ↔ d ∈ l ∧ name d = n
  misshapen : ∀ n e, r.Misshapen h n e →
    o.strict = false ∧ (∀ d ∈ l, name d ≠ n) ∧ r.findWith? yaml source o n = .error (.invalid e)
  others : ∀ n, (∀ d ∈ l, name d ≠ n) → (∀ e, ¬ r.Misshapen h n e) →
    r.findWith? yaml source o n = .ok none

/-- A definition for which a list fails, against the look-ups of single names. -/
structure Refuses (yaml : YamlReader) (r : Reader α) (source : Source) (o : LoadOptions)
    (h : Hierarchy) (e : InvalidDefinition) : Prop where
  strict : o.strict = true
  misshapen : r.Misshapen h e.name e
  lookup : r.findWith? yaml source o e.name = .error (.invalid e)
  first : ∀ n e', r.findWith? yaml source o n = .error e' → e.name ≤ n

/-- A listing, be it a failure, agrees with the look-ups of single names. -/
structure AgreesWithLookups (yaml : YamlReader) (r : Reader α) (name : α → String)
    (source : Source) (o : LoadOptions) (listing : Except DefinitionError (List α)) : Prop where
  lists : ∀ l, listing = .ok l →
    ∃ h, Hierarchy.loadWith yaml source o = .ok h ∧ r.Lists yaml name source o h l
  refuses : ∀ e, listing = .error (.invalid e) →
    ∃ h, Hierarchy.loadWith yaml source o = .ok h ∧ r.Refuses yaml source o h e
  unloaded : ∀ e, listing = .error (.load e) → ∀ n, r.findWith? yaml source o n = .error (.load e)

theorem lists_of_readAll {name : α → String} {l : List α}
    (hname : ∀ c d, r.ofConfiguration c = .ok d → name d = c.name)
    (hl : Hierarchy.loadWith yaml source o = .ok h)
    (hr : r.readAll o.strict (h.ofKind r.kind.document) = .ok l) :
    r.Lists yaml name source o h l := by
  obtain ⟨hmem, hstrict⟩ := readAll_eq_ok hr
  have hlisted : ∀ n d, r.findWith? yaml source o n = .ok (some d) ↔ d ∈ l ∧ name d = n := by
    intro n d
    rw [find?_eq_some_iff hl, hmem]
    constructor
    · rintro ⟨c, hc, hk, hd⟩
      have hn : c.name = n := Hierarchy.name_of_get?_resolved hl hc
      subst hn
      exact ⟨⟨c, (Hierarchy.mem_ofKind_iff hl _ c).mpr ⟨hc, hk⟩, hd⟩, hname c d hd⟩
    · rintro ⟨⟨c, hc, hd⟩, rfl⟩
      obtain ⟨hget, hk⟩ := (Hierarchy.mem_ofKind_iff hl _ c).mp hc
      exact ⟨c, hname c d hd ▸ hget, hk, hd⟩
  have hother : ∀ n, (∀ d ∈ l, name d ≠ n) → ∀ d, r.findWith? yaml source o n ≠ .ok (some d) := by
    intro n hn d hd
    obtain ⟨hdl, hdn⟩ := (hlisted n d).mp hd
    exact hn d hdl hdn
  refine ⟨hlisted, fun n e he => ?_, fun n hn he => find?_eq_none hl (hother n hn) he⟩
  have hfind : r.findWith? yaml source o n = .error (.invalid e) :=
    (find?_eq_error_iff hl n _).mpr ⟨e, he, rfl⟩
  refine ⟨?_, fun d hd hdn => ?_, hfind⟩
  · obtain ⟨c, reason, hc, hk, hreason, -⟩ := he
    have hn : c.name = n := Hierarchy.name_of_get?_resolved hl hc
    subst hn
    exact hstrict c ((Hierarchy.mem_ofKind_iff hl _ c).mpr ⟨hc, hk⟩) reason hreason
  · rw [(hlisted n d).mpr ⟨hd, hdn⟩] at hfind
    cases hfind

/-- Of the configurations of the kind that are no definitions the list fails for the first, which is
the one with the smallest name. -/
theorem refuses_of_readAll {e : InvalidDefinition} (hl : Hierarchy.loadWith yaml source o = .ok h)
    (hr : r.readAll o.strict (h.ofKind r.kind.document) = .error e) :
    r.Refuses yaml source o h e := by
  cases hs : o.strict with
  | false => rw [hs] at hr; cases hr
  | true =>
    rw [hs] at hr
    obtain ⟨done, c, rest, hsplit, hc, hdone⟩ :=
      exists_of_mapM_eq_error (show (h.ofKind r.kind.document).mapM r.read = .error e from hr)
    obtain ⟨reason, hreason, rfl⟩ := (read_eq_error_iff c e).mp hc
    have hmem : ∀ x, x ∈ done ++ c :: rest ↔
        h.resolved.get? x.name = some x ∧ x.kind = r.kind.document := fun x =>
      hsplit ▸ Hierarchy.mem_ofKind_iff hl _ x
    have hmisshapen : r.Misshapen h c.name ⟨r.kind, c.name, c.path, reason⟩ := by
      obtain ⟨hget, hk⟩ := (hmem c).mp (by simp)
      exact ⟨c, reason, hget, hk, hreason, rfl⟩
    refine ⟨hs, hmisshapen, (find?_eq_error_iff hl ..).mpr ⟨_, hmisshapen, rfl⟩, fun n e' he' => ?_⟩
    obtain ⟨_, ⟨x, reason', hx, hk, hreason', rfl⟩, -⟩ := (find?_eq_error_iff hl n e').mp he'
    have hn : x.name = n := Hierarchy.name_of_get?_resolved hl hx
    subst hn
    -- whatever else fails does not stand in front
    rcases List.mem_append.mp ((hmem x).mpr ⟨hx, hk⟩) with hxd | hxr
    · obtain ⟨d, hd⟩ := hdone x hxd
      rw [read_eq_ok_iff, hreason'] at hd
      cases hd
    · rcases List.mem_cons.mp hxr with rfl | hxr
      · exact String.le_refl _
      · have hordered := Hierarchy.ofKind_ordered hl r.kind.document
        rw [hsplit, List.pairwise_append, List.pairwise_cons] at hordered
        have hlt : c.name < x.name := hordered.2.1.1 x hxr
        exact String.not_lt.mp fun hgt => String.lt_irrefl _ (String.lt_trans hgt hlt)

theorem all_agreesWithLookups {name : α → String}
    (hname : ∀ c d, r.ofConfiguration c = .ok d → name d = c.name) (source : Source)
    (o : LoadOptions) : r.AgreesWithLookups yaml name source o (r.all yaml source o) := by
  cases hl : Hierarchy.loadWith yaml source o with
  | error e =>
    have hall : r.all yaml source o = .error (.load e) := by rw [all, hl]; rfl
    rw [hall]
    refine ⟨nofun, nofun, fun e' he n => ?_⟩
    cases he
    rw [findWith?, hl]
    rfl
  | ok h =>
    have hall : r.all yaml source o =
        (r.readAll o.strict (h.ofKind r.kind.document)).mapError .invalid := by rw [all, hl]; rfl
    rw [hall]
    cases hr : r.readAll o.strict (h.ofKind r.kind.document) with
    | ok ds =>
      refine ⟨fun l hlist => ?_, nofun, nofun⟩
      cases hlist
      exact ⟨h, hl, lists_of_readAll hname hl hr⟩
    | error e =>
      refine ⟨nofun, fun e' he => ?_, nofun⟩
      cases he
      exact ⟨h, hl, refuses_of_readAll hl hr⟩

theorem AgreesWithLookups.map {name : α → String} {listing : Except DefinitionError (List α)}
    (ha : r.AgreesWithLookups yaml name source o listing) {g : List α → List α}
    (hg : ∀ l d, d ∈ g l ↔ d ∈ l) : r.AgreesWithLookups yaml name source o (listing.map g) := by
  cases listing with
  | error e =>
    refine ⟨nofun, fun e' he => ha.refuses e' ?_, fun e' he => ha.unloaded e' ?_⟩
    · cases he
      rfl
    · cases he
      rfl
  | ok ds =>
    refine ⟨fun l hlist => ?_, nofun, nofun⟩
    cases hlist
    obtain ⟨h, hl, hlists⟩ := ha.lists ds rfl
    refine ⟨h, hl, fun n d => ?_, fun n e he => ?_, fun n hn he => ?_⟩
    · rw [hg]
      exact hlists.listed n d
    · simpa only [hg] using hlists.misshapen n e he
    · exact hlists.others n (fun d hd => hn d ((hg ds d).mpr hd)) he

end Reader

theorem Arrangement.mem_arrange {α : Type} (a : Arrangement) (key : α → SortKey) (l : List α)
    (d : α) : d ∈ a.arrange key l ↔ d ∈ l := by
  rw [arrange]
  cases a.field with
  | none => rfl
  | some f => exact List.mem_mergeSort

theorem Agent.name_of_ofConfiguration (c : Configuration) (a : Agent)
    (h : ofConfiguration c = .ok a) : a.name = c.name := by
  obtain ⟨w, heading, -, rfl⟩ := ofConfiguration_eq_ok_iff.mp h
  rfl

theorem Command.name_of_ofConfiguration (c : Configuration) (d : Command)
    (h : ofConfiguration c = .ok d) : d.name = c.name := by
  obtain ⟨w, heading, ps, -, -, rfl⟩ := ofConfiguration_eq_ok_iff.mp h
  rfl

/-- The list of all agents in any order agrees with the look-ups of single agents, and so it is for
commands. A name that is not listed looks up to nothing, unless a lenient load left out what it
stands for; a strict load fails for the first such name, as the look-up of that name does. -/
theorem lists_agree_with_lookups (yaml : YamlReader) (source : Source) (o : LoadOptions)
    (a : Arrangement) :
    Agent.reader.AgreesWithLookups yaml Agent.name source o
        (Agent.listWith yaml source ⟨o, .all, a⟩) ∧
      Command.reader.AgreesWithLookups yaml Command.name source o
        (Command.listWith yaml source ⟨o, .all, a⟩) := by
  constructor
  · refine (Reader.all_agreesWithLookups Agent.name_of_ofConfiguration source o).map fun l d => ?_
    rw [Arrangement.mem_arrange, List.mem_filter]
    exact and_iff_left rfl
  · refine (Reader.all_agreesWithLookups Command.name_of_ofConfiguration source o).map fun l d => ?_
    rw [Arrangement.mem_arrange, List.mem_filter]
    exact and_iff_left rfl

section Sample

/-- A document with some metadata and without a body, which is found where agents are. -/
def SourceDocument.ofMetadata (path : String) (m : NameMap Json) : SourceDocument :=
  ⟨⟨path⟩, some .agent, .ok ⟨String.ofList (Document.textOf (Yaml.print (.ofMap m)) []), .epoch⟩⟩

/-- What such a document is read as. -/
def Configuration.ofMetadata (path name : String) (m : NameMap Json) : Configuration :=
  (SourceDocument.ofMetadata path m).configuration .project ⟨m, ""⟩ .epoch name

/-- What is printed for some metadata is read as the metadata again, which gives a name and has
nothing odd about it. -/
def Document.comesBack (name : String) (m : NameMap Json) : Bool :=
  let yaml := Yaml.print (.ofMap m)
  !Text.isAllBlank yaml && Yaml.readsAs (endLine yaml) (.ofMap m) &&
    (Text.lines yaml).all (fun l => !Block.isDelimiter l) &&
    (Document.mk m "").ownName? = some name && (Document.mk m "").remarks .project = []

theorem SourceDocument.read_ofMetadata {name : String} {m : NameMap Json}
    (h : Document.comesBack name m = true) (path : String) (strict : Bool) :
    (ofMetadata path m).read Yaml.readJson .project strict =
      .ok (.ofMetadata path name m, []) := by
  simp only [Document.comesBack, Bool.and_eq_true, Bool.not_eq_true', List.all_eq_true,
    decide_eq_true_eq] at h
  obtain ⟨⟨⟨⟨hblank, hreads⟩, hlines⟩, hname⟩, hremarks⟩ := h
  have htext := Document.parseWith_textOf ⟨hblank, Yaml.readJson_of_readsAs hreads, hlines⟩ []
  have hparse : (ofMetadata path m).parse Yaml.readJson .project = .ok (⟨m, ""⟩, .epoch) := by
    simp only [parse, ofMetadata, String.toList_ofList, htext]
    rfl
  have hread : Reads Yaml.readJson .project strict (ofMetadata path m)
      (.ok (.ofMetadata path name m, remarks .project (ofMetadata path m) ⟨m, ""⟩)) :=
    .named hparse hname
  rw [hread.read_eq, remarks, hremarks]
  rfl

/-- Files with the names and the metadata of agents, in another order than the names. The agent in
the second file is malformed. -/
def teamFiles : List (String × String × NameMap Json) := [
  ("agents/1.md", "cid", .ofList [("agent_type", .string "planner"), ("name", .string "cid")]),
  ("agents/2.md", "dan", .ofList [("agent_type", .array []), ("name", .string "dan")]),
  ("agents/3.md", "ann", .ofList [("agent_type", .string "developer"), ("name", .string "ann"),
    ("priority", .ofNat 3)]),
  ("agents/4.md", "bob", .ofList [("name", .string "bob"), ("priority", .ofNat 7)])]

/-- A source with these files. -/
def Source.team : Source
  | .default | .global => .ok []
  | .project => .ok (teamFiles.map fun f => .ofMetadata f.1 f.2.2)

/-- What that source is loaded as. -/
def Hierarchy.team : Hierarchy :=
  ⟨.empty, .empty,
    ⟨.ofList (teamFiles.map fun f => (f.2.1, .ofMetadata f.1 f.2.1 f.2.2)), []⟩⟩

theorem Hierarchy.load_team (strict : Bool) :
    load .team { LoadOptions.sample with strict } = .ok .team := by
  have hread : ∀ f ∈ teamFiles, Document.comesBack f.2.1 f.2.2 = true := by decide +kernel
  refine (load_eq_ok_iff ..).mpr fun s => ?_
  cases s with
  | default => rfl
  | global => exact Tier.load_of_nothing fun _ => rfl
  | project =>
    have horder : Tier.inOrder (teamFiles.map fun f => .ofMetadata f.1 f.2.2) =
        teamFiles.map fun f => .ofMetadata f.1 f.2.2 :=
      List.mergeSort_of_pairwise (by decide +kernel)
    have hreads : List.Forall₂
        (fun (d : SourceDocument) r => d.read Yaml.readJson .project strict = .ok r)
        (teamFiles.map fun f => .ofMetadata f.1 f.2.2)
        (teamFiles.map fun f => (Configuration.ofMetadata f.1 f.2.1 f.2.2, [])) := by
      rw [List.forall₂_map_left_iff, List.forall₂_map_right_iff, List.forall₂_same]
      exact fun f hf => SourceDocument.read_ofMetadata (hread f hf) f.1 strict
    have hanswer : Source.team .project = .ok (teamFiles.map fun f => .ofMetadata f.1 f.2.2) := rfl
    exact Tier.load_of_reads (o := { LoadOptions.sample with strict }) rfl ⟨_, hanswer, horder⟩
      hreads (by decide +kernel)

/-- The sample: three agents are listed by name, whatever files they come from. The malformed one is
left out by a lenient load, and looking it up fails as a strict load does. No agent is a command. -/
theorem list_of_sample_agrees_with_lookups :
    ∃ (ann bob cid : Agent) (e : InvalidDefinition),
      (ann.name = "ann" ∧ bob.name = "bob" ∧ cid.name = "cid" ∧ e.name = "dan") ∧
      Agent.list .team ⟨.sample, .all, .standard⟩ = .ok [ann, bob, cid] ∧
      Agent.reader.find? .team .sample "bob" = .ok (some bob) ∧
      Agent.reader.find? .team .sample "dan" = .error (.invalid e) ∧
      Agent.list .team ⟨{ LoadOptions.sample with strict := true }, .all, .standard⟩ =
        .error (.invalid e) ∧
      Command.list .team ⟨.sample, .all, .standard⟩ = .ok [] ∧
      Command.reader.find? .team .sample "bob" = .ok none := by
  have hlenient : Hierarchy.loadWith Yaml.readJson .team .sample = .ok .team :=
    Hierarchy.load_team false
  have hstrict : Hierarchy.loadWith Yaml.readJson .team { LoadOptions.sample with strict := true } =
      .ok .team := Hierarchy.load_team true
  obtain ⟨ann, bob, cid, hnames, hlist⟩ : ∃ ann bob cid : Agent,
      (ann.name = "ann" ∧ bob.name = "bob" ∧ cid.name = "cid") ∧
        Agent.list .team ⟨.sample, .all, .standard⟩ = .ok [ann, bob, cid] := by
    rw [Agent.list, Agent.listWith, Reader.all, hlenient]
    exact ⟨_, _, _, ⟨rfl, rfl, rfl⟩, rfl⟩
  obtain ⟨e, hname, hrefused⟩ : ∃ e : InvalidDefinition, e.name = "dan" ∧
      Agent.list .team ⟨{ LoadOptions.sample with strict := true }, .all, .standard⟩ =
        .error (.invalid e) := by
    rw [Agent.list, Agent.listWith, Reader.all, hstrict]
    exact ⟨_, rfl, rfl⟩
  have hnone : Command.list .team ⟨.sample, .all, .standard⟩ = .ok [] := by
    rw [Command.list, Command.listWith, Reader.all, hlenient]
    rfl
  obtain ⟨hagents, hcommands⟩ := lists_agree_with_lookups Yaml.readJson .team .sample .standard
  obtain ⟨hrefuses, -⟩ :=
    lists_agree_with_lookups Yaml.readJson .team
      { LoadOptions.sample with strict := true } .standard
  obtain ⟨h, hl, hlists⟩ := hagents.lists _ hlist
  obtain ⟨h', hl', hothers⟩ := hcommands.lists _ hnone
  obtain ⟨hs, hls, hfirst⟩ := hrefuses.refuses e hrefused
  obtain rfl := Except.ok.inj (hl.symm.trans hlenient)
  obtain rfl := Except.ok.inj (hl'.symm.trans hlenient)
  obtain rfl := Except.ok.inj (hls.symm.trans hstrict)
  refine ⟨ann, bob, cid, e, ⟨hnames.1, hnames.2.1, hnames.2.2, hname⟩, hlist, ?_, ?_, hrefused,
    hnone, ?_⟩
  · exact (hlists.listed "bob" bob).mpr ⟨by simp, hnames.2.1⟩
  · exact (hlists.misshapen "dan" e (hname ▸ hfirst.misshapen)).2.2
  · refine hothers.others "bob" (by simp) fun e' he => ?_
    -- what the name stands for is an agent
    obtain ⟨c, reason, hc, hk, -, -⟩ := he
    cases hc
    cases hk

end Sample

end Roster
