import Roster.Proofs.Command.Account
import Roster.Proofs.Command.Layouts
import Roster.Proofs.Command.Reading
import Roster.Proofs.Document.Division
import Roster.Proofs.Yaml.Node

/-! # Parameters that are written twice

In a list all entries of a name are seen: the first declares the parameter, and
the others are noted. In a mapping only the last entry of a name is left when
parameters are read, so that this one declares the parameter and nothing is noted
about those in front of it.
-/
namespace Roster

/-- The entries that the block of a text writes. A block without text has none. -/
def Document.written? (text : String) : Option (List (String × Yaml.Node Json)) :=
  match Block.split text.toList with
  | .error _ => none
  | .ok b =>
    if Text.isAllBlank b.yaml then some []
    else match Yaml.written? Yaml.jsonTarget b.yaml with
      | some (.mapping es) => some es
      | _ => none

/-- The metadata of a document has the last entries of its block. -/
theorem Document.written?_of_parse {text : String} {d : Document} (h : parse text = .ok d) :
    ∃ es, written? text = some es ∧ d.metadata = .ofList (es.map fun e => (e.1, e.2.toJson)) := by
  obtain ⟨b, hsplit, hm, -⟩ := exists_block_of_parseWith h
  rw [written?, hsplit]
  generalize d.metadata = m at hm ⊢
  cases readsTo_of_metadataWith hm with
  | blank blank => exact ⟨[], by simp [blank], rfl⟩
  | mapping filled value mapping =>
    obtain ⟨es, hes, hlast⟩ := Yaml.entries_of_readJson value mapping
    exact ⟨es, by simp [filled, hes], hlast⟩

namespace Parameter

open Entry

section Items

variable {items : List Json} {schema : NameMap Parameter} {issues : List Issue}
  (h : schemaOf (.array items) = .ok (schema, issues))

include h

theorem accounted_of_items {front rest : List Json} {v : Json}
    (hsplit : items = front ++ v :: rest) :
    ∃ a ∈ accountsOf items, a.value = v ∧ Accounted schema front a := by
  have hvalues := (values_accountsOf items).trans hsplit
  obtain ⟨before, tail, haccounts, rfl, htail⟩ := List.map_eq_append_iff.mp hvalues
  obtain ⟨a, after, rfl, rfl, rfl⟩ := List.map_eq_cons_iff.mp htail
  exact ⟨a, by simp [haccounts], rfl, accounted_of_accountsOf h haccounts⟩

theorem get?_of_first {front rest : List Json} {v : Json} {n : String}
    (hsplit : items = front ++ v :: rest) (hname : itemName v = some n)
    (hfirst : ∀ x ∈ front, itemName x ≠ some n) : schema.get? n = some (declared v n).1 := by
  obtain ⟨a, -, rfl, haccounted⟩ := accounted_of_items h hsplit
  cases haccounted with
  | declares name first entry =>
    cases name.symm.trans hname
    exact entry
  | repeats name taken =>
    cases name.symm.trans hname
    obtain ⟨x, hx, hxn⟩ := taken
    exact absurd hxn (hfirst x hx)
  | nameless name => cases name.symm.trans hname

theorem duplicate_mem_of_later {front rest : List Json} {v x : Json} {n : String}
    (hsplit : items = front ++ v :: rest) (hname : itemName v = some n) (hx : x ∈ rest)
    (hxn : itemName x = some n) : .duplicate n ∈ issues := by
  obtain ⟨between, after, rfl⟩ := List.append_of_mem hx
  have hagain : items = (front ++ v :: between) ++ x :: after := by
    rw [hsplit, List.append_assoc, List.cons_append]
  obtain ⟨a, ha, rfl, haccounted⟩ := accounted_of_items h hagain
  rw [← issues_accountsOf h, List.mem_flatMap]
  refine ⟨a, ha, ?_⟩
  cases haccounted with
  | declares name first entry =>
    cases name.symm.trans hxn
    exact absurd hname (first v (by simp))
  | repeats name taken =>
    cases name.symm.trans hxn
    exact List.mem_singleton.mpr rfl
  | nameless name => cases name.symm.trans hxn

end Items

section Fields

variable {m : NameMap Json} {schema : NameMap Parameter} {issues : List Issue}
  (h : schemaOf (.ofMap m) = .ok (schema, issues))

include h

theorem get?_of_field {n : String} {v : Json} (hv : m.get? n = some v) :
    schema.get? n = some (declared v n).1 := by
  obtain ⟨-, -, hall⟩ := (schemaOf_eq_ok_iff ..).mp h
  have hdeclares := (declare_all (entriesOf (.ofMap m))).1
  rw [hall] at hdeclares
  rw [get?_eq_some_iff hdeclares (nodup_fields m), pairs_fields]
  refine ⟨v, List.mem_map.mpr ⟨(n, v), (m.mem_entries_iff n v).mpr hv, rfl⟩, rfl⟩

theorem isRemark_of_fields {i : Issue} (hi : i ∈ issues) : i.IsRemark := by
  obtain ⟨-, -, hall⟩ := (schemaOf_eq_ok_iff ..).mp h
  have hissues := (declare_all (entriesOf (.ofMap m))).2
  rw [hall, eachAfter_fields, pairs_fields] at hissues
  rw [show issues = _ from hissues, List.mem_flatMap] at hi
  obtain ⟨x, hx, hi⟩ := hi
  obtain ⟨e, -, rfl⟩ := List.mem_map.mp hx
  exact isRemark_of_mem_ofWritten hi

end Fields

end Parameter

namespace Issue

theorem isRemark_of_mem_timestamp {field : String} {raw? : Option String} {i : Issue}
    (h : i ∈ (Heading.timestamp field raw?).2) : i.IsRemark := by
  cases raw? with
  | none => cases h
  | some raw =>
    rw [Heading.timestamp] at h
    split at h
    · cases h
    · obtain rfl := List.mem_singleton.mp h
      simp [IsRemark, reportsDuplicate, reportsNameless, opensWith, invalidValue, List.isPrefixOf]

end Issue

theorem SettingsBlock.isRemark_of_mem_part {α β : Type} {b : SettingsBlock α β}
    {o : Option (WithExtra α)} {i : Issue} (hsettle : ∀ a, ∀ i ∈ (b.settle a).2, i.IsRemark)
    (h : i ∈ (b.part o).2) : i.IsRemark := by
  cases o with
  | none => cases h
  | some w =>
    rcases List.mem_append.mp h with h | h
    · exact Issue.isRemark_of_mem_unknownFields h
    · exact hsettle w.known i h

namespace Command

/-- Nothing but parameters can be declared twice. -/
theorem isRemark_of_mem_ofWritten {c : Configuration} {w : Written} {h : WithExtra Heading.Written}
    {ps : NameMap Parameter × List Issue} (hps : ∀ i ∈ ps.2, i.IsRemark) :
    ∀ i ∈ (ofWritten c w h ps).issues, i.IsRemark := by
  intro i hi
  simp only [ofWritten, Heading.ofWritten, List.mem_append, or_assoc] at hi
  rcases hi with hi | hi | hi | hi | hi | hi | hi | hi | hi
  · exact Issue.isRemark_of_mem_parseWord hi
  · exact Issue.isRemark_of_mem_parseWord hi
  · exact hps i hi
  · exact SettingsBlock.isRemark_of_mem_part (fun _ _ h => absurd h List.not_mem_nil) hi
  · refine SettingsBlock.isRemark_of_mem_part (fun w j hj => ?_) hi
    simp only [ErrorHandling.block] at hj
    exact Issue.isRemark_of_mem_parseWord hj
  · refine SettingsBlock.isRemark_of_mem_part (fun w j hj => ?_) hi
    simp only [SecuritySettings.block] at hj
    exact Issue.isRemark_of_mem_parseWord hj
  · exact Issue.isRemark_of_mem_unknownFields hi
  · exact Issue.isRemark_of_mem_timestamp hi
  · exact Issue.isRemark_of_mem_timestamp hi

theorem schemaOf_of_ofConfiguration {c : Configuration} {d : Command}
    (h : ofConfiguration c = .ok d) :
    ∃ issues, Parameter.schemaOf (parametersIn c.metadata) = .ok (d.schema, issues) ∧
      (∀ i ∈ issues, i ∈ d.issues) ∧
      ((∀ i ∈ issues, i.IsRemark) → ∀ i ∈ d.issues, i.IsRemark) := by
  obtain ⟨w, heading, ps, hread, hps, rfl⟩ := ofConfiguration_eq_ok_iff.mp h
  rw [Written.parameters_of_readKnown (Heading.ofMetadata_eq_ok_iff.mp hread).1] at hps
  refine ⟨ps.2, hps, fun i hi => ?_, isRemark_of_mem_ofWritten⟩
  simp only [ofWritten, List.mem_append]
  simp [hi]

/-- Of the items of one name the first declares the parameter, and an issue says so if there are
others. -/
def TakesFirstItems (d : Command) (items : List Json) : Prop :=
  ∀ front v rest n, items = front ++ v :: rest → Parameter.itemName v = some n →
    (∀ x ∈ front, Parameter.itemName x ≠ some n) →
    d.schema.get? n = some (Parameter.declared v n).1 ∧
      ((∃ x ∈ rest, Parameter.itemName x = some n) → .duplicate n ∈ d.issues)

/-- Of the fields of one name the last declares the parameter, and no issue is about a parameter
that was declared before. -/
def TakesLastFields (d : Command) (fields : List (String × Json)) : Prop :=
  (∀ n v, IsLast fields n v → d.schema.get? n = some (Parameter.declared v n).1) ∧
    ∀ i ∈ d.issues, i.reportsDuplicate = false

variable {text : String} {document : Document} {c : Configuration} {d : Command}

/-- Where a document writes a list of parameters, of the entries of one name the first counts and
the others are noted. Where it writes a mapping, the last counts and nothing is noted. -/
theorem ofConfiguration_of_repeated_parameters (hparse : Document.parse text = .ok document)
    (hmetadata : c.metadata = document.metadata) (hcommand : ofConfiguration c = .ok d) :
    ∃ es, Document.written? text = some es ∧
      (∀ items, IsLast es "parameters" (.sequence items) →
        d.TakesFirstItems (items.map Yaml.Node.toJson)) ∧
      ∀ fields, IsLast es "parameters" (.mapping fields) →
        d.TakesLastFields (fields.map fun e => (e.1, e.2.toJson)) := by
  obtain ⟨es, hes, hlast⟩ := Document.written?_of_parse hparse
  obtain ⟨issues, hschema, hissues, hremarks⟩ := schemaOf_of_ofConfiguration hcommand
  have hparameters : ∀ n, IsLast es "parameters" n → parametersIn c.metadata = n.toJson := by
    intro n hn
    rw [parametersIn, hmetadata, hlast,
      NameMap.get?_ofList_of_isLast (hn.map Yaml.Node.toJson), Option.getD_some]
  refine ⟨es, hes, fun items hitems => ?_, fun fields hfields => ?_⟩
  · rw [hparameters _ hitems, Yaml.Node.toJson, Yaml.Node.value, Yaml.Node.values_eq_map] at hschema
    intro front v rest n hsplit hname hfirst
    refine ⟨Parameter.get?_of_first hschema hsplit hname hfirst, ?_⟩
    rintro ⟨x, hx, hxn⟩
    exact hissues _ (Parameter.duplicate_mem_of_later hschema hsplit hname hx hxn)
  · rw [hparameters _ hfields, Yaml.Node.toJson, Yaml.Node.value,
      Yaml.Node.fieldValues_eq_map] at hschema
    refine ⟨fun n v hv => ?_, fun i hi => ?_⟩
    · exact Parameter.get?_of_field hschema (NameMap.get?_ofList_of_isLast hv)
    · exact (hremarks (fun _ => Parameter.isRemark_of_fields hschema) i hi).1

end Command

section Sample

open Yaml

/-- A mapping in which a parameter is declared twice. -/
def repeatedYaml : List Char := "parameters:\n  env: string\n  env: number\n".toList

/-- The pieces of this mapping. -/
def Yaml.Body.repeated : Body where
  pieces := #[⟨.mappingStart none, ⟨0, 0, 0⟩⟩,
    ⟨.scalar ⟨none, "parameters".toList, .plain⟩, ⟨0, 0, 0⟩⟩,
    ⟨.mappingStart none, ⟨14, 1, 2⟩⟩, ⟨.scalar ⟨none, "env".toList, .plain⟩, ⟨14, 1, 2⟩⟩,
    ⟨.scalar ⟨none, "string".toList, .plain⟩, ⟨19, 1, 7⟩⟩,
    ⟨.scalar ⟨none, "env".toList, .plain⟩, ⟨28, 2, 2⟩⟩,
    ⟨.scalar ⟨none, "number".toList, .plain⟩, ⟨33, 2, 7⟩⟩, ⟨.mappingEnd, ⟨40, 3, 0⟩⟩,
    ⟨.mappingEnd, ⟨40, 3, 0⟩⟩]
  fault := none
  anchors := []
  places := []
  more := false

theorem Yaml.body_of_repeatedYaml :
    Body.ofEvents (events repeatedYaml).1 (events repeatedYaml).2 = .repeated := by rfl

def repeatedFields : List (String × Yaml.Node Json) :=
  [("env", .scalar (.string "string")), ("env", .scalar (.string "number"))]

theorem Yaml.Reader.fields_repeated :
    fields jsonTarget .repeated 126 jsonTarget.expectedKey [.field "parameters"] ∅ ⟨3, 0⟩ 10 =
      .ok (.insert ∅ "env" (.string "number"), ⟨8, 0⟩) := by
  have hfirst : value jsonTarget .repeated 126 [.field "env", .field "parameters"] ⟨4, 0⟩ =
      .ok (.string "string", ⟨5, 0⟩) := by
    rw [value]
    rfl
  have hlast : value jsonTarget .repeated 126 [.field "env", .field "parameters"] ⟨6, 0⟩ =
      .ok (.string "number", ⟨7, 0⟩) := by
    rw [value]
    rfl
  rw [fields]
  change (value jsonTarget .repeated 126 [.field "env", .field "parameters"] ⟨4, 0⟩).bind _ = _
  rw [hfirst]
  change fields jsonTarget .repeated 126 _ _ _ ⟨5, 0⟩ 9 = _
  rw [fields]
  change (value jsonTarget .repeated 126 [.field "env", .field "parameters"] ⟨6, 0⟩).bind _ = _
  rw [hlast]
  change fields jsonTarget .repeated 126 _ _ _ ⟨7, 0⟩ 8 = _
  rw [fields]
  rfl

theorem Yaml.Reader.value_repeated : value jsonTarget .repeated 128 [] ⟨0, 0⟩ =
    .ok (.object [("parameters", .object [("env", .string "number")])], ⟨9, 0⟩) := by
  have hparameters : value jsonTarget .repeated 127 [.field "parameters"] ⟨2, 0⟩ =
      .ok (.object [("env", .string "number")], ⟨8, 0⟩) := by
    rw [value]
    change (fields jsonTarget .repeated 126 jsonTarget.expectedKey _ ∅ ⟨3, 0⟩ 10).bind _ = _
    rw [fields_repeated]
    rfl
  have htop : fields jsonTarget .repeated 127 jsonTarget.expectedKey [] ∅ ⟨1, 0⟩ 10 =
      .ok (.insert ∅ "parameters" (.object [("env", .string "number")]), ⟨9, 0⟩) := by
    rw [fields]
    change (value jsonTarget .repeated 127 [.field "parameters"] ⟨2, 0⟩).bind _ = _
    rw [hparameters]
    change fields jsonTarget .repeated 127 _ _ _ ⟨8, 0⟩ 9 = _
    rw [fields]
    rfl
  rw [value]
  change (fields jsonTarget .repeated 127 jsonTarget.expectedKey [] ∅ ⟨1, 0⟩ 10).bind _ = _
  rw [htop]
  rfl

theorem Yaml.readJson_repeatedYaml : readJson repeatedYaml =
    .ok (.object [("parameters", .object [("env", .string "number")])]) :=
  readJson_of_value rfl body_of_repeatedYaml rfl rfl Reader.value_repeated

/-- A document with this mapping in its block. -/
def Document.repeatedText : String :=
  "---\nparameters:\n  env: string\n  env: number\n---\n\nRun\n"

theorem Document.split_repeatedText : Block.split repeatedText.toList =
    .ok ⟨1, repeatedYaml, "\nRun\n".toList⟩ := by rfl

theorem Document.written?_repeatedText :
    written? repeatedText = some [("parameters", .mapping repeatedFields)] := by rfl

theorem Document.parse_repeatedText : parse repeatedText =
    .ok ⟨.ofList [("parameters", .object [("env", .string "number")])], "Run\n"⟩ := by
  rw [parse, parseWith_of_block readJson split_repeatedText,
    metadataWith_of_value (by decide) readJson_repeatedYaml]
  rfl

def Command.repeatedConfiguration : Configuration where
  __ := sampleConfiguration
  metadata := .ofList [("parameters", .object [("env", .string "number")])]

/-- The last declaration of the sample is kept, and nothing is noted about the first. -/
theorem Command.ofConfiguration_keeps_last_env :
    ∃ d, ofConfiguration repeatedConfiguration = .ok d ∧
      Document.written? Document.repeatedText = some [("parameters", .mapping repeatedFields)] ∧
      (d.schema.get? "env").map (·.type) = some .number ∧
      ∀ i ∈ d.issues, i.reportsDuplicate = false := by
  have hok : (ofConfiguration repeatedConfiguration).isOk = true := by decide +kernel
  cases h : ofConfiguration repeatedConfiguration with
  | error reason => rw [h] at hok; cases hok
  | ok d =>
    obtain ⟨es, hes, -, hfields⟩ :=
      ofConfiguration_of_repeated_parameters Document.parse_repeatedText rfl h
    rw [Document.written?_repeatedText] at hes
    cases hes
    obtain ⟨hlast, hsilent⟩ := hfields repeatedFields ⟨[], [], rfl, by simp⟩
    have henv := hlast "env" (.string "number")
      ⟨[("env", .string "string")], [], rfl, by simp⟩
    refine ⟨d, rfl, Document.written?_repeatedText, ?_, hsilent⟩
    rw [henv]
    rfl

end Sample

end Roster
