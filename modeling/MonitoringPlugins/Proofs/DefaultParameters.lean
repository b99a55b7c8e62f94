/-
**Default parameters in TOML manifests.**

Default parameters are opaque to the reader of a manifest: it takes any value and turns it into
JSON.  That they must be a table is only seen when the manifest is linked, and what is looked at
then is the JSON value.  This module follows the values through both steps.  The default parameters
of the linked plug-ins are the values that the document gives, one by one, in the same order.  Among
the values of TOML, those that become JSON objects are the tables, and the dates and times: JSON has
none of these, and they become an object with one entry.

Main definitions:

* `MonitoringPlugins.Toml.Value.field?` — what a document gives for a field of a structure;
* `MonitoringPlugins.Toml.defaultParameters`, `MonitoringPlugins.Manifest.defaultParameters`,
  `MonitoringPlugins.Linked.defaultParameters` — all default parameters, of check plug-ins first.

Main results:

* `MonitoringPlugins.Data.isTable_or_isDateTime` — which values become JSON objects;
* `MonitoringPlugins.Manifest.defaultParameters_ofToml`,
  `MonitoringPlugins.Manifest.defaultParameters_link` — what becomes of default parameters when a
  manifest is read, and when it is linked;
* `MonitoringPlugins.Manifest.nonTable_not_linked` — **default parameters that are no table are
  refused**, dates and times apart;
* `MonitoringPlugins.Manifest.dateTime_linked` — a date is not refused.
-/

import MonitoringPlugins.Handler.Stock
import MonitoringPlugins.Manifest.Source
import MonitoringPlugins.Proofs.DecodedStructures
import MonitoringPlugins.Proofs.Tables
import MonitoringPlugins.Proofs.WellFormedManifest

set_option autoImplicit false

namespace MonitoringPlugins

/-! ### Values of documents -/

namespace Toml

/-- Whether a value is a date or a time. -/
def Value.isDateTime : Value → Bool
  | dateTime _ => true
  | _ => false

/-- What a value that writes a structure gives for a field: what a table holds under the key, or the
item of an array in the place of the field. -/
def Value.field? (keys : List String) (key : String) : Value → Option Value
  | table entries => Table.find? key entries
  | array items => Table.find? key (keys.zip items)
  | _ => none

/-- The items of an array in a document. -/
def listed (key : String) (document : Table Value) : List Value :=
  match Table.find? key document with
  | some (.array items) => items
  | _ => []

/-- What is given as default parameters for a check plug-in: first those of its discovery. -/
def checkDefaults (plugin : Value) : List Value :=
  (plugin.field? CheckEntry.shape.keys "discovery_default_parameters").toList ++
    (plugin.field? CheckEntry.shape.keys "check_default_parameters").toList

/-- What is given as default parameters for an inventory plug-in. -/
def inventoryDefaults (plugin : Value) : List Value :=
  (plugin.field? InventoryEntry.shape.keys "inventory_default_parameters").toList

/-- **What a document gives as default parameters**, for all its plug-ins. -/
def defaultParameters (document : Table Value) : List Value :=
  (listed "check_plugin" document).flatMap checkDefaults ++
    (listed "inventory_plugin" document).flatMap inventoryDefaults

end Toml

/-! ### Values in data trees -/

namespace Data

open Toml (Value)

theorem ofTomlItems_eq (items : List Value) : ofTomlItems items = items.map ofToml := by
  induction items with
  | nil => rfl
  | cons v rest ih => rw [ofTomlItems, List.map_cons, ih]

theorem ofTomlEntries_eq (entries : Table Value) :
    ofTomlEntries entries = entries.map fun entry => (entry.1, ofToml entry.2) := by
  induction entries with
  | nil => rfl
  | cons entry rest ih => rw [ofTomlEntries, List.map_cons, ih]

theorem find?_ofTomlEntries (key : String) (entries : Table Value) :
    Table.find? key (ofTomlEntries entries) = (Table.find? key entries).map ofToml := by
  rw [ofTomlEntries_eq, Table.find?_map]

/-- **Only arrays become sequences.** -/
theorem exists_array_of_ofToml {v : Value} {items : List Data} (h : ofToml v = .seq items) :
    ∃ vs, v = .array vs ∧ vs.map ofToml = items := by
  cases v with
  | array vs =>
      rw [ofToml, seq.injEq, ofTomlItems_eq] at h
      exact ⟨vs, rfl, h⟩
  | integer n =>
      rw [ofToml] at h
      split at h
      · exact nomatch h
      · exact nomatch h
  | _ => exact nomatch h

/-- **Only tables, and dates and times, become maps.** -/
theorem table_or_dateTime_of_ofToml {v : Value} {entries : List (String × Data)}
    (h : ofToml v = .map entries) :
    (∃ vs, v = .table vs ∧ ofTomlEntries vs = entries) ∨
      ∃ d, v = .dateTime d ∧ [(dateTimeKey, str d.render)] = entries := by
  cases v with
  | table vs =>
      rw [ofToml, map.injEq] at h
      exact .inl ⟨vs, rfl, h⟩
  | dateTime d =>
      rw [ofToml, map.injEq] at h
      exact .inr ⟨d, rfl, h⟩
  | integer n =>
      rw [ofToml] at h
      split at h
      · exact nomatch h
      · exact nomatch h
  | _ => exact nomatch h

theorem ofToml_ne_null (v : Value) : ofToml v ≠ .null := by
  cases v with
  | integer n =>
      rw [ofToml]
      split
      · exact nofun
      · exact nofun
  | _ => exact nofun

/-- Only a map becomes a JSON object. -/
theorem exists_map_of_toJson? {d : Data} {fields : Table Json} (h : d.toJson? = some (.obj fields)) :
    ∃ entries, d = .map entries := by
  cases d with
  | map entries => exact ⟨entries, rfl⟩
  | seq items =>
      rw [toJson?] at h
      obtain ⟨_, -, h⟩ := Option.map_eq_some_iff.1 h
      exact nomatch h
  | _ => exact nomatch h

/-- **Which values become JSON objects**: tables, and dates and times. -/
theorem isTable_or_isDateTime {v : Value} {fields : Table Json}
    (h : (ofToml v).toJson? = some (.obj fields)) : v.isTable = true ∨ v.isDateTime = true := by
  obtain ⟨entries, hv⟩ := exists_map_of_toJson? h
  rcases table_or_dateTime_of_ofToml hv with ⟨vs, rfl, -⟩ | ⟨d, rfl, -⟩
  · exact .inl rfl
  · exact .inr rfl

/-- An optional opaque part that is not `null` is there. -/
theorem optionalOpaque_eq_ok {d : Data} (hd : d ≠ .null) {values : Option Json}
    (h : optionalOpaque d = .ok values) : ∃ w, d.toJson? = some w ∧ values = some w := by
  rw [optionalOpaque_of_ne_null hd] at h
  obtain ⟨w, hw, rfl⟩ := map_eq_ok_iff.1 h
  refine ⟨w, ?_, rfl⟩
  unfold opaqueValue at hw
  split at hw
  · next u hu => rw [hu, Except.ok.inj hw]
  · exact nomatch hw

end Data

/-! ### What is given -/

section Given

open Data

variable {shape : Shape} {g : Given} {plugin : Toml.Value}

/-- The sound fields of a structure are what the document gives for them.  A date or time is no
structure: its only entry belongs to no field. -/
theorem find?_of_given (hkeys : dateTimeKey ∉ shape.keys) (h : shape.given (ofToml plugin) = .ok g)
    (key : String) : Table.find? key g.fields = (plugin.field? shape.keys key).map ofToml := by
  have hentries := Shape.entries?_of_given h
  cases hd : ofToml plugin with
  | map entries =>
      rw [hd] at h hentries
      rw [← Option.some.inj hentries]
      rcases table_or_dateTime_of_ofToml hd with ⟨vs, rfl, rfl⟩ | ⟨d, -, rfl⟩
      · exact find?_ofTomlEntries key vs
      -- the entry of a date or time is surplus, so it would not have been let through
      · obtain ⟨hcheck, -⟩ := Shape.given_map_eq_ok_iff.1 h
        obtain ⟨check, hfield, -⟩ := Shape.checkEntry_eq_ok_iff.1 (hcheck _ List.mem_cons_self)
        exact absurd (List.mem_map.2 ⟨_, Table.mem_of_find?_eq_some hfield, rfl⟩) hkeys
  | seq items =>
      -- a structure may be given as an array, with its fields in their order
      obtain ⟨vs, rfl, rfl⟩ := exists_array_of_ofToml hd
      rw [hd] at hentries
      rw [← Option.some.inj hentries, Toml.Value.field?, ← Table.find?_map, List.zip_map_right]
      rfl
  | _ =>
      rw [hd] at hentries
      exact nomatch hentries

/-- Default parameters are read as the JSON value of what is given for them, if it is given. -/
theorem toJson?_of_optional {v? : Option Toml.Value} {key : String}
    (hg : Table.find? key g.fields = v?.map ofToml) {values : Option Json}
    (h : g.optional key optionalOpaque none = .ok values) :
    v?.toList.map (fun v => (ofToml v).toJson?) = values.toList.map some := by
  rw [Given.optional, hg] at h
  cases v? with
  | none => rw [← Except.ok.inj h]; rfl
  | some v =>
      obtain ⟨w, hw, rfl⟩ := optionalOpaque_eq_ok (ofToml_ne_null v) h
      rw [Option.toList_some, Option.toList_some, List.map_singleton, List.map_singleton, hw]

/-- A list of plug-ins is read plug-in by plug-in. -/
theorem forall₂_listed {α : Type} {document : Table Toml.Value} {item : Decoder α} {key : String}
    {missing : String → DecodeError} {as : List α}
    (h : Given.optional ⟨ofTomlEntries document, missing⟩ key (listOf item) [] = .ok as) :
    List.Forall₂ (fun w a => item (ofToml w) = .ok a) (Toml.listed key document) as := by
  rw [Given.optional, find?_ofTomlEntries] at h
  unfold Toml.listed
  cases hfound : Table.find? key document with
  | none =>
      rw [hfound] at h
      rw [← Except.ok.inj h]
      exact .nil
  | some v =>
      rw [hfound] at h
      obtain ⟨items, hv, hitems⟩ := listOf_eq_ok h
      obtain ⟨vs, rfl, rfl⟩ := exists_array_of_ofToml hv
      exact List.forall₂_map_left_iff.1 (mapM_eq_ok_iff.1 hitems)

end Given

/-! ### From documents to manifests -/

/-- What two lists hold together is the same if it is the same for each two elements. -/
theorem flatMap_eq_of_forall₂ {α β γ : Type} {R : α → β → Prop} {f : α → List γ} {g : β → List γ}
    {as : List α} {bs : List β} (h : List.Forall₂ R as bs) (hR : ∀ a b, R a b → f a = g b) :
    as.flatMap f = bs.flatMap g := by
  induction h with
  | nil => rfl
  | cons hab _ ih => rw [List.flatMap_cons, List.flatMap_cons, hR _ _ hab, ih]

/-- The default parameters of a check plug-in: first those of its discovery. -/
def CheckEntry.defaults (e : CheckEntry) : List Json :=
  e.discoveryDefaults.toList ++ e.checkDefaults.toList

/-- **The default parameters of a manifest**, for all its plug-ins. -/
def Manifest.defaultParameters (m : Manifest) : List Json :=
  m.checkPlugins.flatMap CheckEntry.defaults ++
    m.inventoryPlugins.flatMap fun e => e.inventoryDefaults.toList

/-- The default parameters of linked plug-ins. -/
def Linked.defaultParameters (l : Linked) : List Parameters :=
  (l.checkPlugins.flatMap fun p =>
    (p.discoveryDefaults.map (·.values)).toList ++ (p.checkDefaults.map (·.values)).toList) ++
    l.inventoryPlugins.flatMap fun p => (p.inventoryDefaults.map (·.values)).toList

theorem CheckEntry.toJson?_defaults {plugin : Toml.Value} {e : CheckEntry}
    (h : decode .toml (Data.ofToml plugin) = .ok e) :
    (Toml.checkDefaults plugin).map (fun v => (Data.ofToml v).toJson?) = e.defaults.map some := by
  obtain ⟨g, hg, hfields, -⟩ := decode_eq_ok_iff.1 h
  have hkeys : Data.dateTimeKey ∉ shape.keys := by decide
  rw [Toml.checkDefaults, defaults, List.map_append, List.map_append,
    toJson?_of_optional (find?_of_given hkeys hg _) hfields.discoveryDefaults,
    toJson?_of_optional (find?_of_given hkeys hg _) hfields.checkDefaults]

theorem InventoryEntry.toJson?_defaults {plugin : Toml.Value} {e : InventoryEntry}
    (h : decode .toml (Data.ofToml plugin) = .ok e) :
    (Toml.inventoryDefaults plugin).map (fun v => (Data.ofToml v).toJson?) =
      e.inventoryDefaults.toList.map some := by
  obtain ⟨g, hg, hfields, -⟩ := decode_eq_ok_iff.1 h
  have hkeys : Data.dateTimeKey ∉ shape.keys := by decide
  exact toJson?_of_optional (find?_of_given hkeys hg _) hfields.inventoryDefaults

theorem exists_eq_ok {ε α : Type} {x : Except ε α} (h : x.isOk = true) : ∃ a, x = .ok a := by
  cases x with
  | ok a => exact ⟨a, rfl⟩
  | error e => exact nomatch h

namespace Manifest

/-- **A text writes a manifest** if it is a document in which the manifest is found. -/
theorem ofToml_eq_ok_iff {text : String} {m : Manifest} :
    ofToml text = .ok m ↔ ∃ document, Toml.ofText? text = some document ∧
      decode .toml (.map (Data.ofTomlEntries document)) = .ok m := by
  unfold ofToml
  cases Toml.ofText? text with
  | none => exact ⟨nofun, nofun⟩
  | some document =>
      simp only [Option.some.injEq, exists_eq_left']
      split
      · next m' hm => simp only [hm, Except.ok.injEq]
      · next hm => exact ⟨nofun, fun h => nomatch hm.symm.trans h⟩
      · next hm => exact ⟨nofun, fun h => nomatch hm.symm.trans h⟩

/-- **What becomes of default parameters when a manifest is read**: each value that the document
gives becomes JSON. -/
theorem defaultParameters_ofToml {text : String} {document : Table Toml.Value} {m : Manifest}
    (hdocument : Toml.ofText? text = some document) (h : ofToml text = .ok m) :
    (Toml.defaultParameters document).map (fun v => (Data.ofToml v).toJson?) =
      m.defaultParameters.map some := by
  obtain ⟨_, hdocument', hdecode⟩ := ofToml_eq_ok_iff.1 h
  obtain rfl := Option.some.inj (hdocument.symm.trans hdocument')
  obtain ⟨g, hg, hfields, -⟩ := decode_eq_ok_iff.1 hdecode
  obtain ⟨-, rfl⟩ := Shape.given_map_eq_ok_iff.1 hg
  rw [Toml.defaultParameters, defaultParameters, List.map_append, List.map_append, List.map_flatMap,
    List.map_flatMap, List.map_flatMap, List.map_flatMap]
  congr 1
  · exact flatMap_eq_of_forall₂ (forall₂_listed hfields.checkPlugins)
      fun _ _ => CheckEntry.toJson?_defaults
  · exact flatMap_eq_of_forall₂ (forall₂_listed hfields.inventoryPlugins)
      fun _ _ => InventoryEntry.toJson?_defaults

/-- **What becomes of default parameters when a manifest is linked**: they are all objects, and the
plug-ins have their fields. -/
theorem defaultParameters_link {m : Manifest} {handlers : HandlerTable} {firstSerial : Nat}
    {l : Linked} (h : m.link handlers firstSerial = .ok l) :
    m.defaultParameters = l.defaultParameters.map Json.obj := by
  obtain ⟨-, hdescribes⟩ := link_eq_ok_iff.1 h
  rw [defaultParameters, Linked.defaultParameters, List.map_append, List.map_flatMap,
    List.map_flatMap]
  congr 1
  · refine flatMap_eq_of_forall₂ hdescribes.checkPlugins fun e p hp => ?_
    rw [CheckEntry.defaults, ← hp.discoveryDefaults, ← hp.checkDefaults, List.map_append]
    simp only [Option.toList_map, List.map_map]
    rfl
  · refine flatMap_eq_of_forall₂ hdescribes.inventoryPlugins fun e p hp => ?_
    rw [← hp.inventoryDefaults]
    simp only [Option.toList_map, List.map_map]
    rfl

/-- **The default parameters of linked plug-ins are what the document gives**, one by one. -/
theorem defaultParameters_eq {text : String} {document : Table Toml.Value} {m : Manifest}
    (hdocument : Toml.ofText? text = some document) (h : ofToml text = .ok m)
    {handlers : HandlerTable} {firstSerial : Nat} {l : Linked}
    (hl : m.link handlers firstSerial = .ok l) :
    (Toml.defaultParameters document).map (fun v => (Data.ofToml v).toJson?) =
      l.defaultParameters.map (some ∘ Json.obj) := by
  rw [defaultParameters_ofToml hdocument h, defaultParameters_link hl, List.map_map]

/-- **Default parameters that are no table are refused**, dates and times apart: a manifest in which
some plug-in is given such a value is not linked, if it is read at all. -/
theorem nonTable_not_linked {text : String} {document : Table Toml.Value}
    (hdocument : Toml.ofText? text = some document) {v : Toml.Value}
    (hv : v ∈ Toml.defaultParameters document) (htable : v.isTable = false)
    (hdate : v.isDateTime = false) {m : Manifest} (h : ofToml text = .ok m) (handlers : HandlerTable)
    (firstSerial : Nat) : ∃ reason, m.link handlers firstSerial = .error reason := by
  cases hl : m.link handlers firstSerial with
  | error reason => exact ⟨reason, rfl⟩
  | ok l =>
      have hmem := List.mem_map_of_mem (f := fun v => (Data.ofToml v).toJson?) hv
      rw [defaultParameters_eq hdocument h hl] at hmem
      obtain ⟨fields, -, hfields⟩ := List.mem_map.1 hmem
      rcases Data.isTable_or_isDateTime hfields.symm with htrue | htrue
      · exact nomatch htable.symm.trans htrue
      · exact nomatch hdate.symm.trans htrue

/-- A manifest with one inventory plug-in that has the given default parameters. -/
def textWithDefaults (values : String) : String :=
  "[[inventory_plugin]]\nname = 'df'\ninventory_function = 'f'\ninventory_ruleset_name = 'r'\n" ++
    "inventory_default_parameters = " ++ values

/-- A table with the only function that the manifest refers to. -/
def oneHandler : HandlerTable := .ofHandlers [("f", .inventory Stock.inventoryNothing)]

/-- Default parameters that are not a number are read, and refused. -/
theorem nonTable_not_linked_nan :
    ∃ document v m, Toml.ofText? (textWithDefaults "nan") = some document ∧
      v ∈ Toml.defaultParameters document ∧ v.isTable = false ∧ v.isDateTime = false ∧
      ofToml (textWithDefaults "nan") = .ok m ∧ ∃ reason, m.link oneHandler 0 = .error reason := by
  have hall : ((Toml.ofText? (textWithDefaults "nan")).any fun document =>
      ((Toml.defaultParameters document).any fun v => !v.isTable && !v.isDateTime) &&
        (decode .toml (.map (Data.ofTomlEntries document))).isOk) = true := by
    decide +kernel
  obtain ⟨document, hdocument, h⟩ := (Option.any_eq_true _ _).1 hall
  obtain ⟨hgiven, hdecode⟩ := Bool.and_eq_true_iff.1 h
  obtain ⟨v, hv, hkind⟩ := List.any_eq_true.1 hgiven
  obtain ⟨htable, hdate⟩ : v.isTable = false ∧ v.isDateTime = false := by simpa using hkind
  obtain ⟨m, hm⟩ := exists_eq_ok hdecode
  have hread : ofToml (textWithDefaults "nan") = .ok m :=
    ofToml_eq_ok_iff.2 ⟨document, hdocument, hm⟩
  exact ⟨document, v, m, hdocument, hv, htable, hdate, hread,
    nonTable_not_linked hdocument hv htable hdate hread oneHandler 0⟩

/-- **A date is not refused**: it becomes parameters that are a table, and its plug-in is linked. -/
theorem dateTime_linked :
    ∃ document v m l, Toml.ofText? (textWithDefaults "1979-05-27") = some document ∧
      v ∈ Toml.defaultParameters document ∧ v.isTable = false ∧ v.isDateTime = true ∧
      ofToml (textWithDefaults "1979-05-27") = .ok m ∧ m.link oneHandler 0 = .ok l := by
  have hall : ((Toml.ofText? (textWithDefaults "1979-05-27")).any fun document =>
      ((Toml.defaultParameters document).any fun v => !v.isTable && v.isDateTime) &&
        match decode .toml (.map (Data.ofTomlEntries document)) with
        | .ok m => (m.link oneHandler 0).isOk
        | .error _ => false) = true := by
    decide +kernel
  obtain ⟨document, hdocument, h⟩ := (Option.any_eq_true _ _).1 hall
  obtain ⟨hgiven, hlinked⟩ := Bool.and_eq_true_iff.1 h
  obtain ⟨v, hv, hkind⟩ := List.any_eq_true.1 hgiven
  obtain ⟨htable, hdate⟩ : v.isTable = false ∧ v.isDateTime = true := by simpa using hkind
  split at hlinked
  · next m hm =>
      obtain ⟨l, hl⟩ := exists_eq_ok hlinked
      have hread := ofToml_eq_ok_iff.2 ⟨document, hdocument, hm⟩
      exact ⟨document, v, m, l, hdocument, hv, htable, hdate, hread, hl⟩
  · exact nomatch hlinked

end Manifest

end MonitoringPlugins
