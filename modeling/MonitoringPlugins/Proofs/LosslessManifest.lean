/-
**Manifests as JSON lose nothing.**

A manifest is written as JSON with all its fields, and it may be read from JSON in which those with
a default are absent.  Each structure of a manifest has a form, which says which fields these are.
Written and read again, a manifest comes back as it was, except that default parameters which are
`null` come back as none: the written form does not tell the two apart.  Read and written again, a
value comes back with the absent fields filled in.

Main definitions:

* `MonitoringPlugins.Manifest.form` and its siblings — the forms of the structures of a manifest;
* `MonitoringPlugins.Manifest.NoNullDefaults` — no default parameters are `null`.

Main results:

* `MonitoringPlugins.lossless_text`, `MonitoringPlugins.lossless_parameters`,
  `MonitoringPlugins.lossless_rulesets` and their siblings — the leaves of a manifest lose nothing;
* `MonitoringPlugins.CheckEntry.lossless` and its siblings — its structures do neither;
* `MonitoringPlugins.Manifest.json_lossless` — **manifests as JSON lose nothing**, in either
  direction.
-/

import MonitoringPlugins.Manifest.Json
import MonitoringPlugins.Proofs.JsonForms

set_option autoImplicit false

namespace MonitoringPlugins

open Data

/-! ### Leaves -/

theorem lossless_text : Lossless .kept text .str id where
  decode_encode _ := rfl
  encode_decode {v s} _ _ hread := by
    cases v with
    | str s' => exact congrArg Json.str (Except.ok.inj hread).symm
    | _ => exact nomatch hread

theorem lossless_boolean : Lossless .kept boolean .bool id where
  decode_encode _ := rfl
  encode_decode {v b} _ _ hread := by
    cases v with
    | bool b' => exact congrArg Json.bool (Except.ok.inj hread).symm
    | _ => exact nomatch hread

theorem lossless_optionalText : Lossless .kept optionalText .optionalText id where
  decode_encode
    | none => rfl
    | some _ => rfl
  encode_decode {v s?} _ _ hread := by
    cases v with
    | null => rw [← Except.ok.inj hread]; rfl
    | str s => rw [← Except.ok.inj hread]; rfl
    | _ => exact nomatch hread

/-- Parameters as they come back from JSON, where `null` stands for none. -/
def withoutNull : Option Json → Option Json
  | some .null => none
  | values => values

theorem withoutNull_eq_self_iff {values : Option Json} :
    withoutNull values = values ↔ values ≠ some .null := by
  unfold withoutNull
  split <;> simp_all

/-- An opaque value that is not `null` is read as such. -/
theorem optionalOpaque_ofJson {v : Json} (h : v ≠ .null) :
    optionalOpaque (ofJson v) = .ok (some v) := by
  have hne : ofJson v ≠ .null := by
    cases v with
    | null => exact absurd rfl h
    | _ => exact nofun
  rw [optionalOpaque_of_ne_null hne, opaqueValue_ofJson]
  rfl

theorem lossless_parameters : Lossless .kept optionalOpaque .ofOption withoutNull where
  decode_encode values := by
    unfold withoutNull
    split
    · rfl
    · next h =>
        cases values with
        | none => rfl
        | some v => exact optionalOpaque_ofJson fun hv => h (congrArg some hv)
  encode_decode {v values} _ _ hread := by
    by_cases h : v = .null
    · -- `null` is read as none, and none is written as `null`
      subst h
      rw [← Except.ok.inj hread]
      rfl
    · rw [optionalOpaque_ofJson h] at hread
      rw [← Except.ok.inj hread]
      rfl

/-- Texts lose nothing. -/
theorem lossless_texts : Lossless .kept (listOf text) .texts id where
  decode_encode := lossless_text.listOf_id.decode_encode
  encode_decode hv _ hread :=
    (lossless_text.listOf_id.encode_decode hv (fun _ _ _ _ => trivial) hread).trans
      (Form.fill_listOf_kept _)

/-! ### Rulesets -/

/-- Rulesets as JSON. -/
def rulesetsToJson (rulesets : Std.ExtTreeMap String (List Json)) : Json :=
  .obj (rulesets.toList.map fun entry => (entry.1, .arr entry.2))

theorem listOf_opaqueValue_eq_ok_iff {v : Json} {rules : List Json} :
    listOf opaqueValue (ofJson v) = .ok rules ↔ v = .arr rules := by
  cases v with
  | arr items =>
      rw [ofJson, listOf, ofJsonItems_eq, mapM_eq_ok_iff, List.forall₂_map_left_iff]
      simp only [opaqueValue_ofJson, Except.ok.injEq, List.forall₂_eq_eq_eq, Json.arr.injEq]
  | _ =>
      constructor
      · intro h
        cases h
      · intro h
        cases h

/-- **Rules are read as they are written.** -/
theorem mapOf_rules_eq_ok_iff {entries : Table Json} {rulesets : Table (List Json)} :
    mapOf (listOf opaqueValue) (ofJson (.obj entries)) = .ok rulesets ↔
      rulesets.map (fun entry => (entry.1, Json.arr entry.2)) = entries := by
  have hone (entry : String × Json) (r : String × List Json) :
      (listOf opaqueValue (ofJson entry.2)).map (entry.1, ·) = .ok r ↔
        (r.1, Json.arr r.2) = entry := by
    simp only [map_eq_ok_iff, listOf_opaqueValue_eq_ok_iff]
    constructor
    · rintro ⟨rules, hrules, rfl⟩
      exact Prod.ext rfl hrules.symm
    · rintro rfl
      exact ⟨r.2, rfl, rfl⟩
  rw [ofJson, mapOf, ofJsonFields_eq, mapM_eq_ok_iff, List.forall₂_map_left_iff,
    ← forall₂_eq_iff_map]
  simp only [hone]

/-- Rulesets are the same when they are written and read in the order of their names. -/
theorem lossless_rulesets : Lossless .kept (mapOf (listOf opaqueValue))
    (fun rulesets => rulesetsToJson (.ofList rulesets))
    (fun rulesets => (Std.ExtTreeMap.ofList rulesets).toList) where
  decode_encode rulesets := mapOf_rules_eq_ok_iff.2 rfl
  encode_decode {v rulesets} hv _ hread := by
    cases v with
    | obj entries =>
        have hentries := mapOf_rules_eq_ok_iff.1 hread
        have hordered : Table.Ordered rulesets := by
          have h := hv.fields
          rw [← hentries] at h
          exact List.pairwise_map.1 h
        rw [rulesetsToJson, hordered.toList_ofList, hentries]
        rfl
    | _ => exact nomatch hread

/-! ### Parts of sections -/

/-- The form of a fetched table. -/
def SnmpTree.form : Form := .object [.required "base" .kept, .required "oids" .kept]

/-- **Fetched tables lose nothing.** -/
theorem SnmpTree.lossless : Lossless form (decode .json) toJson id where
  decode_encode t := by
    refine decode_eq_ok_iff.2 (Shape.exists_given_written ?_ ?_ fun g hg => ?_)
    · simp
    · simp only [List.forall_mem_cons]
      exact ⟨lossless_text.checkEntry_written rfl t.base,
        lossless_texts.checkEntry_written rfl t.oids, nofun⟩
    · exact ⟨lossless_text.required_written hg t.base (by simp),
        lossless_texts.required_written hg t.oids (by simp)⟩
  encode_decode {v t} hv hobjects hread := by
    obtain ⟨entries, rfl, -⟩ := hobjects
    obtain ⟨g, hg, h, -⟩ := decode_eq_ok_iff.1 hread
    obtain ⟨-, rfl⟩ := Shape.given_obj_eq_ok_iff.1 hg
    have hbase := lossless_text.written?_required hv (fun _ _ => trivial) h.base
    have hoids := lossless_texts.written?_required hv (fun _ _ => trivial) h.oids
    exact (Form.fill_object_eq (.cons hbase (.cons hoids .nil)) (Shape.keys_of_given hg)).symm

/-- The form of a condition. -/
def DetectAtom.form : Form :=
  .object [.required "oid" .kept, .required "pattern" .kept, .optional "negate" (.bool false) .kept]

/-- **Conditions lose nothing.** -/
theorem DetectAtom.lossless : Lossless form (decode .json) toJson id where
  decode_encode a := by
    refine decode_eq_ok_iff.2 (Shape.exists_given_written ?_ ?_ fun g hg => ?_)
    · simp
    · simp only [List.forall_mem_cons]
      exact ⟨lossless_text.checkEntry_written rfl a.oid,
        lossless_text.checkEntry_written rfl a.pattern,
        lossless_boolean.checkEntry_written rfl a.negate, nofun⟩
    · exact ⟨lossless_text.required_written hg a.oid (by simp),
        lossless_text.required_written hg a.pattern (by simp),
        lossless_boolean.optional_written hg a.negate (by simp)⟩
  encode_decode {v a} hv hobjects hread := by
    obtain ⟨entries, rfl, -⟩ := hobjects
    obtain ⟨g, hg, h, -⟩ := decode_eq_ok_iff.1 hread
    obtain ⟨-, rfl⟩ := Shape.given_obj_eq_ok_iff.1 hg
    have hoid := lossless_text.written?_required hv (fun _ _ => trivial) h.oid
    have hpattern := lossless_text.written?_required hv (fun _ _ => trivial) h.pattern
    have hnegate := lossless_boolean.written?_optional hv (fun _ _ => trivial) h.negate
    exact (Form.fill_object_eq (.cons hoid (.cons hpattern (.cons hnegate .nil)))
      (Shape.keys_of_given hg)).symm

/-! ### Sections -/

/-- The fields that sections of both sources have. -/
def sectionForm : List Field :=
  [.required "name" .kept, .optional "parsed_section_name" .null .kept,
    .required "parse_function" .kept, .optional "host_label_ruleset_name" .null .kept,
    .optional "supersedes" (.arr []) .kept]

namespace SectionEntry

/-- What is written for the fields that sections of both sources have. -/
def written (e : SectionEntry) : Table Json :=
  [("name", .str e.name), ("parsed_section_name", .optionalText e.parsedName),
    ("parse_function", .str e.parseFunction),
    ("host_label_ruleset_name", .optionalText e.hostLabelRuleset),
    ("supersedes", .texts e.supersedes)]

/-- The common fields of a section are let through. -/
theorem checkEntry_written {shape : Shape}
    (hfields : ∀ key check, Table.find? key sectionFields = some check →
      Table.find? key shape.fields = some check) (e : SectionEntry) :
    ∀ entry ∈ e.written, shape.checkEntry (entry.1, .ofJson entry.2) = .ok () := by
  simp only [written, List.forall_mem_cons]
  exact ⟨lossless_text.checkEntry_written (hfields _ _ rfl) e.name,
    lossless_optionalText.checkEntry_written (hfields _ _ rfl) e.parsedName,
    lossless_text.checkEntry_written (hfields _ _ rfl) e.parseFunction,
    lossless_optionalText.checkEntry_written (hfields _ _ rfl) e.hostLabelRuleset,
    lossless_texts.checkEntry_written (hfields _ _ rfl) e.supersedes, nofun⟩

/-- The common fields of a section are read as they were written. -/
theorem readFrom_of_holds {e : SectionEntry} {g : Given} (hg : g.Holds e.written) : e.ReadFrom g where
  name := lossless_text.required_written hg e.name (by simp [written])
  parsedName := lossless_optionalText.optional_written hg e.parsedName (by simp [written])
  parseFunction := lossless_text.required_written hg e.parseFunction (by simp [written])
  hostLabelRuleset := lossless_optionalText.optional_written hg e.hostLabelRuleset (by simp [written])
  supersedes := lossless_texts.optional_written hg e.supersedes (by simp [written])

/-- The common fields of a section are written as they are filled in. -/
theorem ReadFrom.written? {e : SectionEntry} {entries : Table Json}
    (h : e.ReadFrom ⟨ofJsonFields entries, .missingField⟩) (hv : Json.Ordered (.obj entries)) :
    List.Forall₂ (fun field entry => field.written? entries = some entry) sectionForm e.written := by
  have hname := lossless_text.written?_required hv (fun _ _ => trivial) h.name
  have hparsed := lossless_optionalText.written?_optional hv (fun _ _ => trivial) h.parsedName
  have hparse := lossless_text.written?_required hv (fun _ _ => trivial) h.parseFunction
  have hruleset :=
    lossless_optionalText.written?_optional hv (fun _ _ => trivial) h.hostLabelRuleset
  have hsupersedes := lossless_texts.written?_optional hv (fun _ _ => trivial) h.supersedes
  exact .cons hname (.cons hparsed (.cons hparse (.cons hruleset (.cons hsupersedes .nil))))

end SectionEntry

/-- The form of an agent section. -/
def AgentSectionEntry.form : Form := .object sectionForm

/-- **Agent sections lose nothing.** -/
theorem AgentSectionEntry.lossless : Lossless form (decode .json) toJson id where
  decode_encode e := by
    refine decode_eq_ok_iff.2 (Shape.exists_given_written ?_ ?_ fun g hg => ?_)
    · simp
    · exact e.checkEntry_written fun _ _ h => h
    · exact ⟨SectionEntry.readFrom_of_holds hg⟩
  encode_decode {v e} hv hobjects hread := by
    obtain ⟨entries, rfl, -⟩ := hobjects
    obtain ⟨g, hg, h, -⟩ := decode_eq_ok_iff.1 hread
    obtain ⟨-, rfl⟩ := Shape.given_obj_eq_ok_iff.1 hg
    exact (Form.fill_object_eq (h.common.written? hv) (Shape.keys_of_given hg)).symm

/-- The form of a detection. -/
def Detection.form : Form := .listOf (.listOf DetectAtom.form)

/-- The form of an SNMP section. -/
def SnmpSectionEntry.form : Form :=
  .object (sectionForm ++
    [.required "fetch" (.listOf SnmpTree.form), .optional "detect" (.arr []) Detection.form])

theorem lossless_fetch : Lossless (.listOf SnmpTree.form) (listOf (SnmpTree.decode .json))
    (fun trees => .arr (trees.map SnmpTree.toJson)) id :=
  SnmpTree.lossless.listOf_id

theorem lossless_detection : Lossless Detection.form (listOf (listOf (DetectAtom.decode .json)))
    Detection.toJson id :=
  DetectAtom.lossless.listOf_id.listOf_id

/-- **SNMP sections lose nothing.** -/
theorem SnmpSectionEntry.lossless : Lossless form (decode .json) toJson id where
  decode_encode e := by
    have hcommon : ∀ entry ∈ e.toSectionEntry.written,
        (shape .json).checkEntry (entry.1, .ofJson entry.2) = .ok () :=
      e.toSectionEntry.checkEntry_written fun key check h => by
        rw [shape, Table.find?_append, h, Option.some_or]
    refine decode_eq_ok_iff.2 (Shape.exists_given_written ?_ ?_ fun g hg => ?_)
    · simp
    · refine List.forall_mem_append.2 ⟨hcommon, ?_⟩
      simp only [List.forall_mem_cons]
      exact ⟨lossless_fetch.checkEntry_written rfl e.fetch,
        lossless_detection.checkEntry_written rfl e.detect, nofun⟩
    · exact ⟨SectionEntry.readFrom_of_holds (hg.mono (List.subset_append_left _ _)),
        lossless_fetch.required_written hg e.fetch (by simp),
        lossless_detection.optional_written hg e.detect (by simp)⟩
  encode_decode {v e} hv hobjects hread := by
    obtain ⟨entries, rfl, hobjects⟩ := hobjects
    obtain ⟨g, hg, h, -⟩ := decode_eq_ok_iff.1 hread
    obtain ⟨-, rfl⟩ := Shape.given_obj_eq_ok_iff.1 hg
    have hfetch := lossless_fetch.written?_required hv
      (hobjects (.required "fetch" (.listOf SnmpTree.form)) (by simp)) h.fetch
    have hdetect := lossless_detection.written?_optional hv
      (hobjects (.optional "detect" (.arr []) Detection.form) (by simp)) h.detect
    have hfields := List.rel_append (h.common.written? hv) (.cons hfetch (.cons hdetect .nil))
    exact (Form.fill_object_eq hfields (Shape.keys_of_given hg)).symm

/-! ### Plug-ins -/

/-- The form of a check plug-in. -/
def CheckEntry.form : Form :=
  .object
    [.required "name" .kept, .required "service_name" .kept, .optional "sections" (.arr []) .kept,
      .required "discovery_function" .kept, .optional "discovery_default_parameters" .null .kept,
      .optional "discovery_ruleset_name" .null .kept, .required "check_function" .kept,
      .optional "check_default_parameters" .null .kept, .optional "check_ruleset_name" .null .kept]

/-- A check plug-in as it comes back from JSON. -/
def CheckEntry.withoutNulls (e : CheckEntry) : CheckEntry :=
  { e with
    discoveryDefaults := withoutNull e.discoveryDefaults
    checkDefaults := withoutNull e.checkDefaults }

theorem CheckEntry.withoutNulls_eq_self_iff {e : CheckEntry} :
    e.withoutNulls = e ↔ e.discoveryDefaults ≠ some .null ∧ e.checkDefaults ≠ some .null := by
  rw [← withoutNull_eq_self_iff, ← withoutNull_eq_self_iff]
  obtain ⟨_, _, _, _, _, _, _, _, _⟩ := e
  simp [withoutNulls]

/-- **Check plug-ins lose nothing** but the difference between `null` and no parameters. -/
theorem CheckEntry.lossless : Lossless form (decode .json) toJson withoutNulls where
  decode_encode e := by
    refine decode_eq_ok_iff.2 (Shape.exists_given_written ?_ ?_ fun g hg => ?_)
    · simp
    · simp only [List.forall_mem_cons]
      exact ⟨lossless_text.checkEntry_written rfl e.name,
        lossless_text.checkEntry_written rfl e.serviceName,
        lossless_texts.checkEntry_written rfl e.sections,
        lossless_text.checkEntry_written rfl e.discoveryFunction,
        lossless_parameters.checkEntry_written rfl e.discoveryDefaults,
        lossless_optionalText.checkEntry_written rfl e.discoveryRuleset,
        lossless_text.checkEntry_written rfl e.checkFunction,
        lossless_parameters.checkEntry_written rfl e.checkDefaults,
        lossless_optionalText.checkEntry_written rfl e.checkRuleset, nofun⟩
    · exact ⟨lossless_text.required_written hg e.name (by simp),
        lossless_text.required_written hg e.serviceName (by simp),
        lossless_texts.optional_written hg e.sections (by simp),
        lossless_text.required_written hg e.discoveryFunction (by simp),
        lossless_parameters.optional_written hg e.discoveryDefaults (by simp),
        lossless_optionalText.optional_written hg e.discoveryRuleset (by simp),
        lossless_text.required_written hg e.checkFunction (by simp),
        lossless_parameters.optional_written hg e.checkDefaults (by simp),
        lossless_optionalText.optional_written hg e.checkRuleset (by simp)⟩
  encode_decode {v e} hv hobjects hread := by
    obtain ⟨entries, rfl, -⟩ := hobjects
    obtain ⟨g, hg, h, -⟩ := decode_eq_ok_iff.1 hread
    obtain ⟨-, rfl⟩ := Shape.given_obj_eq_ok_iff.1 hg
    have hname := lossless_text.written?_required hv (fun _ _ => trivial) h.name
    have hservice := lossless_text.written?_required hv (fun _ _ => trivial) h.serviceName
    have hsections := lossless_texts.written?_optional hv (fun _ _ => trivial) h.sections
    have hdiscovery := lossless_text.written?_required hv (fun _ _ => trivial) h.discoveryFunction
    have hdvalues :=
      lossless_parameters.written?_optional hv (fun _ _ => trivial) h.discoveryDefaults
    have hdruleset :=
      lossless_optionalText.written?_optional hv (fun _ _ => trivial) h.discoveryRuleset
    have hcheck := lossless_text.written?_required hv (fun _ _ => trivial) h.checkFunction
    have hcvalues := lossless_parameters.written?_optional hv (fun _ _ => trivial) h.checkDefaults
    have hcruleset := lossless_optionalText.written?_optional hv (fun _ _ => trivial) h.checkRuleset
    refine (Form.fill_object_eq ?_ (Shape.keys_of_given hg)).symm
    exact .cons hname (.cons hservice (.cons hsections (.cons hdiscovery (.cons hdvalues
      (.cons hdruleset (.cons hcheck (.cons hcvalues (.cons hcruleset .nil))))))))

/-- The form of an inventory plug-in. -/
def InventoryEntry.form : Form :=
  .object
    [.required "name" .kept, .optional "sections" (.arr []) .kept,
      .required "inventory_function" .kept, .optional "inventory_default_parameters" .null .kept,
      .optional "inventory_ruleset_name" .null .kept]

/-- An inventory plug-in as it comes back from JSON. -/
def InventoryEntry.withoutNulls (e : InventoryEntry) : InventoryEntry :=
  { e with inventoryDefaults := withoutNull e.inventoryDefaults }

theorem InventoryEntry.withoutNulls_eq_self_iff {e : InventoryEntry} :
    e.withoutNulls = e ↔ e.inventoryDefaults ≠ some .null := by
  rw [← withoutNull_eq_self_iff]
  obtain ⟨_, _, _, _, _⟩ := e
  simp [withoutNulls]

/-- **Inventory plug-ins lose nothing** but the difference between `null` and no parameters. -/
theorem InventoryEntry.lossless : Lossless form (decode .json) toJson withoutNulls where
  decode_encode e := by
    refine decode_eq_ok_iff.2 (Shape.exists_given_written ?_ ?_ fun g hg => ?_)
    · simp
    · simp only [List.forall_mem_cons]
      exact ⟨lossless_text.checkEntry_written rfl e.name,
        lossless_texts.checkEntry_written rfl e.sections,
        lossless_text.checkEntry_written rfl e.inventoryFunction,
        lossless_parameters.checkEntry_written rfl e.inventoryDefaults,
        lossless_optionalText.checkEntry_written rfl e.inventoryRuleset, nofun⟩
    · exact ⟨lossless_text.required_written hg e.name (by simp),
        lossless_texts.optional_written hg e.sections (by simp),
        lossless_text.required_written hg e.inventoryFunction (by simp),
        lossless_parameters.optional_written hg e.inventoryDefaults (by simp),
        lossless_optionalText.optional_written hg e.inventoryRuleset (by simp)⟩
  encode_decode {v e} hv hobjects hread := by
    obtain ⟨entries, rfl, -⟩ := hobjects
    obtain ⟨g, hg, h, -⟩ := decode_eq_ok_iff.1 hread
    obtain ⟨-, rfl⟩ := Shape.given_obj_eq_ok_iff.1 hg
    have hname := lossless_text.written?_required hv (fun _ _ => trivial) h.name
    have hsections := lossless_texts.written?_optional hv (fun _ _ => trivial) h.sections
    have hinventory := lossless_text.written?_required hv (fun _ _ => trivial) h.inventoryFunction
    have hvalues := lossless_parameters.written?_optional hv (fun _ _ => trivial) h.inventoryDefaults
    have hruleset :=
      lossless_optionalText.written?_optional hv (fun _ _ => trivial) h.inventoryRuleset
    refine (Form.fill_object_eq ?_ (Shape.keys_of_given hg)).symm
    exact .cons hname (.cons hsections (.cons hinventory (.cons hvalues (.cons hruleset .nil))))

/-! ### Manifests -/

theorem map_eq_self_iff {α : Type} {f : α → α} {l : List α} : l.map f = l ↔ ∀ a ∈ l, f a = a := by
  have h := List.map_inj_left (l := l) (f := f) (g := id)
  rwa [List.map_id] at h

namespace Manifest

/-- **The form of a manifest.** -/
def form : Form :=
  .object
    [.optional "agent_section" (.arr []) (.listOf AgentSectionEntry.form),
      .optional "snmp_section" (.arr []) (.listOf SnmpSectionEntry.form),
      .optional "check_plugin" (.arr []) (.listOf CheckEntry.form),
      .optional "inventory_plugin" (.arr []) (.listOf InventoryEntry.form),
      .optional "rulesets" (.obj []) .kept]

/-- A manifest as it comes back from JSON. -/
def withoutNulls (m : Manifest) : Manifest :=
  { m with
    checkPlugins := m.checkPlugins.map CheckEntry.withoutNulls
    inventoryPlugins := m.inventoryPlugins.map InventoryEntry.withoutNulls }

theorem rulesetsToJson_ofList_toList (rulesets : Std.ExtTreeMap String (List Json)) :
    rulesetsToJson (.ofList rulesets.toList) = rulesetsToJson rulesets := by
  rw [Table.ofList_toList]

/-- **Manifests lose nothing** but the difference between `null` and no parameters. -/
theorem lossless : Lossless form (decode .json) toJson withoutNulls where
  decode_encode m := by
    have hrulesets : (shape .json).checkEntry ("rulesets", .ofJson (rulesetsToJson m.rulesets)) =
        .ok () := by
      rw [← rulesetsToJson_ofList_toList]
      exact lossless_rulesets.checkEntry_written rfl m.rulesets.toList
    refine decode_eq_ok_iff.2 (Shape.exists_given_written ?_ ?_ fun g hg => ?_)
    · simp
    · simp only [List.forall_mem_cons]
      exact ⟨AgentSectionEntry.lossless.listOf_id.checkEntry_written rfl m.agentSections,
        SnmpSectionEntry.lossless.listOf_id.checkEntry_written rfl m.snmpSections,
        CheckEntry.lossless.listOf.checkEntry_written rfl m.checkPlugins,
        InventoryEntry.lossless.listOf.checkEntry_written rfl m.inventoryPlugins, hrulesets, nofun⟩
    · refine ⟨AgentSectionEntry.lossless.listOf_id.optional_written hg m.agentSections (by simp),
        SnmpSectionEntry.lossless.listOf_id.optional_written hg m.snmpSections (by simp),
        CheckEntry.lossless.listOf.optional_written hg m.checkPlugins (by simp),
        InventoryEntry.lossless.listOf.optional_written hg m.inventoryPlugins (by simp),
        _, lossless_rulesets.optional_written hg m.rulesets.toList ?_, ?_⟩
      · simp [Table.ofList_toList, rulesetsToJson]
      · rw [Table.ofList_toList, Table.ofList_toList]
        rfl
  encode_decode {v m} hv hobjects hread := by
    obtain ⟨entries, rfl, hobjects⟩ := hobjects
    obtain ⟨g, hg, h, -⟩ := decode_eq_ok_iff.1 hread
    obtain ⟨-, rfl⟩ := Shape.given_obj_eq_ok_iff.1 hg
    -- the rulesets are read as a table, which the manifest keeps as a map
    obtain ⟨rulesets, hread, hm⟩ := h.rulesets
    have hagent := AgentSectionEntry.lossless.listOf_id.written?_optional hv
      (hobjects (.optional "agent_section" (.arr []) (.listOf AgentSectionEntry.form)) (by simp))
      h.agentSections
    have hsnmp := SnmpSectionEntry.lossless.listOf_id.written?_optional hv
      (hobjects (.optional "snmp_section" (.arr []) (.listOf SnmpSectionEntry.form)) (by simp))
      h.snmpSections
    have hcheck := CheckEntry.lossless.listOf.written?_optional hv
      (hobjects (.optional "check_plugin" (.arr []) (.listOf CheckEntry.form)) (by simp))
      h.checkPlugins
    have hinventory := InventoryEntry.lossless.listOf.written?_optional hv
      (hobjects (.optional "inventory_plugin" (.arr []) (.listOf InventoryEntry.form)) (by simp))
      h.inventoryPlugins
    have hrulesets := lossless_rulesets.written?_optional hv (fun _ _ => trivial) hread
    rw [← hm] at hrulesets
    refine (Form.fill_object_eq ?_ (Shape.keys_of_given hg)).symm
    exact .cons hagent (.cons hsnmp (.cons hcheck (.cons hinventory (.cons hrulesets .nil))))

/-- No default parameters of a manifest are `null`. -/
structure NoNullDefaults (m : Manifest) : Prop where
  discovery : ∀ e ∈ m.checkPlugins, e.discoveryDefaults ≠ some .null
  check : ∀ e ∈ m.checkPlugins, e.checkDefaults ≠ some .null
  inventory : ∀ e ∈ m.inventoryPlugins, e.inventoryDefaults ≠ some .null

/-- **What comes back from JSON as it was**: the manifests without `null` as default parameters. -/
theorem withoutNulls_eq_self_iff {m : Manifest} : m.withoutNulls = m ↔ m.NoNullDefaults := by
  have hfields : m.withoutNulls = m ↔ m.checkPlugins.map CheckEntry.withoutNulls = m.checkPlugins ∧
      m.inventoryPlugins.map InventoryEntry.withoutNulls = m.inventoryPlugins := by
    obtain ⟨_, _, _, _, _⟩ := m
    simp [withoutNulls]
  rw [hfields, map_eq_self_iff, map_eq_self_iff]
  constructor
  · rintro ⟨hchecks, hinventory⟩
    exact ⟨fun e he => (CheckEntry.withoutNulls_eq_self_iff.1 (hchecks e he)).1,
      fun e he => (CheckEntry.withoutNulls_eq_self_iff.1 (hchecks e he)).2,
      fun e he => InventoryEntry.withoutNulls_eq_self_iff.1 (hinventory e he)⟩
  · rintro ⟨hdiscovery, hcheck, hinventory⟩
    exact ⟨fun e he => CheckEntry.withoutNulls_eq_self_iff.2 ⟨hdiscovery e he, hcheck e he⟩,
      fun e he => InventoryEntry.withoutNulls_eq_self_iff.2 (hinventory e he)⟩

/-- **Manifests as JSON lose nothing.**  A manifest that is written as JSON is read as it was,
exactly if no default parameters in it are `null`.  And a value in which all structures are written
as objects, and from which a manifest is read, is written again with only the absent fields filled
in, so everything that is in it is there again.  Every value that a text writes is in order
(`MonitoringPlugins.Json.ordered_of_ofText?`). -/
theorem json_lossless :
    (∀ m : Manifest, ofJson m.toJson = .ok m ↔ m.NoNullDefaults) ∧
      ∀ (v : Json) (m : Manifest), v.Ordered → form.AsObjects v → ofJson v = .ok m →
        m.toJson = form.fill v ∧ v.IsPartOf m.toJson := by
  constructor
  · intro m
    rw [← withoutNulls_eq_self_iff, ofJson, lossless.decode_encode, Except.ok.injEq]
  · intro v m hv hobjects hread
    have hfill := lossless.encode_decode hv hobjects hread
    exact ⟨hfill, hfill ▸ form.isPartOf_fill hv⟩

/-- A manifest with one SNMP section, without anything that may be absent. -/
def sparseManifest : Json :=
  .object
    [("snmp_section", .arr [.object
      [("name", .str "snmp_info"), ("parse_function", .str "parse_rows"),
        ("fetch", .arr [.object [("base", .str ".1.3.6.1.2.1.1"), ("oids", .texts ["1", "5"])]]),
        ("detect", .arr [.arr [.object
          [("oid", .str ".1.3.6.1.2.1.1.1.0"), ("pattern", .str ".*")]]])]])]

/-- What may be absent is filled in at all levels. -/
theorem json_lossless_sparseManifest :
    ∃ m, sparseManifest.Ordered ∧ form.AsObjects sparseManifest ∧ ofJson sparseManifest = .ok m ∧
      sparseManifest.IsPartOf m.toJson ∧
      m.toJson = .object
        [("agent_section", .arr []), ("check_plugin", .arr []), ("inventory_plugin", .arr []),
          ("rulesets", .obj []),
          ("snmp_section", .arr [.object
            [("name", .str "snmp_info"), ("parsed_section_name", .null),
              ("parse_function", .str "parse_rows"), ("host_label_ruleset_name", .null),
              ("supersedes", .arr []),
              ("fetch", .arr [.object
                [("base", .str ".1.3.6.1.2.1.1"), ("oids", .texts ["1", "5"])]]),
              ("detect", .arr [.arr [.object
                [("oid", .str ".1.3.6.1.2.1.1.1.0"), ("pattern", .str ".*"),
                  ("negate", .bool false)]]])]])] := by
  have hordered : sparseManifest.Ordered := by
    refine .object (List.forall_mem_singleton.2 (.arr (List.forall_mem_singleton.2 (.object ?_))))
    simp only [List.forall_mem_cons]
    refine ⟨.str _, .str _, .arr (List.forall_mem_singleton.2 (.object ?_)),
      .arr (List.forall_mem_singleton.2 (.arr (List.forall_mem_singleton.2 (.object ?_)))), nofun⟩
    · simp [Json.texts, Json.Ordered.arr, Json.Ordered.str]
    · simp [Json.Ordered.str]
  have hobjects : form.AsObjects sparseManifest := by
    refine ⟨_, rfl, ?_⟩
    simp only [List.forall_mem_cons]
    refine ⟨nofun, ?_, nofun, nofun, fun _ _ => trivial, nofun⟩
    rintro _ ⟨⟩ _ ⟨⟩
    refine List.forall_mem_singleton.2 ⟨_, rfl, ?_⟩
    refine List.forall_mem_append.2 ⟨?_, List.forall_mem_cons.2 ⟨?_, List.forall_mem_singleton.2 ?_⟩⟩
    · simp only [sectionForm, List.forall_mem_cons]
      exact ⟨fun _ _ => trivial, fun _ _ => trivial, fun _ _ => trivial, fun _ _ => trivial,
        fun _ _ => trivial, nofun⟩
    · rintro _ ⟨⟩ _ ⟨⟩
      refine List.forall_mem_singleton.2 ⟨_, rfl, ?_⟩
      simp only [List.forall_mem_cons]
      exact ⟨fun _ _ => trivial, fun _ _ => trivial, nofun⟩
    · rintro _ ⟨⟩ _ ⟨⟩
      refine List.forall_mem_singleton.2 ?_
      rintro _ ⟨⟩
      refine List.forall_mem_singleton.2 ⟨_, rfl, ?_⟩
      simp only [List.forall_mem_cons]
      exact ⟨fun _ _ => trivial, fun _ _ => trivial, fun _ _ => trivial, nofun⟩
  obtain ⟨hfill, hpart⟩ := json_lossless.2 sparseManifest _ hordered hobjects rfl
  exact ⟨_, hordered, hobjects, rfl, hpart, hfill.trans rfl⟩

end Manifest

end MonitoringPlugins
