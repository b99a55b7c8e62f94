/-
**Sections: producers of parsed data.**

A section takes the raw data of one source — the words of an agent's output, or the tables of an
SNMP walk — and parses it.  Several sections may produce the same parsed section; plug-ins subscribe
to parsed sections and do not see which raw section the data came from.  A section may supersede
others, name the ruleset that refines its host labels and, for SNMP, say what to fetch and from
which devices.

Main definitions:

* `MonitoringPlugins.SectionProfile`, `MonitoringPlugins.SectionDraft` — what the sections of both
  sources have in common, and the form in which it is asked for;
* `MonitoringPlugins.AgentSection`, `MonitoringPlugins.SnmpSection`, `MonitoringPlugins.Section` —
  the definitions of either source, and of both;
* `MonitoringPlugins.AgentSection.build`, `MonitoringPlugins.SnmpSection.build` — definitions from
  drafts;
* `MonitoringPlugins.Section.parse` — parsing data of the matching source.

Main results:

* `MonitoringPlugins.SectionProfile.ofDraft_eq_ok_iff` — **a draft is accepted exactly when it does
  not supersede itself**.
-/

import Std.Data.ExtTreeMap
import Std.Data.ExtTreeSet
import MonitoringPlugins.Json.Basic
import MonitoringPlugins.Plugin.Error

set_option autoImplicit false

namespace MonitoringPlugins

/-! ### Raw and parsed data -/

/-- Lines of words. -/
abbrev StringTable := List (List String)

/-- Raw data of one section. -/
inductive RawSection where
  | agent (table : StringTable)
  /-- One table for each fetched tree, in the order of fetching. -/
  | snmp (tables : List StringTable)

/-- The source of raw data. -/
def RawSection.source : RawSection → SectionSource
  | agent _ => .agent
  | snmp _ => .snmp

/-- The parsed sections that are at hand when a plug-in runs. -/
abbrev ParsedSections := Std.ExtTreeMap ParsedSectionName Json

/-- Parses the output of an agent, possibly to nothing. -/
abbrev AgentParser := StringTable → Except ParseError (Option Json)

/-- Parses the tables of an SNMP walk, possibly to nothing. -/
abbrev SnmpParser := List StringTable → Except ParseError (Option Json)

/-! ### What all sections have in common -/

/-- What the sections of both sources have in common. -/
structure SectionProfile where
  name : SectionName
  /-- What the section produces. -/
  parsedName : ParsedSectionName
  /-- The ruleset that refines the host labels found in the section. -/
  hostLabelRuleset : Option RulesetName
  /-- The sections that this one takes precedence over. -/
  supersedes : Std.ExtTreeSet SectionName

/-- A profile as it is asked for: the parsed section defaults to the section's own name, and the
superseded sections may be repeated. -/
structure SectionDraft where
  name : SectionName
  parsedName : Option ParsedSectionName := none
  hostLabelRuleset : Option RulesetName := none
  supersedes : List SectionName := []

namespace SectionProfile

/-- The profile of a draft. -/
def ofDraft (draft : SectionDraft) : Except DefinitionError SectionProfile :=
  if draft.name ∈ draft.supersedes then .error (.supersedesItself draft.name)
  else .ok
    { name := draft.name
      parsedName := draft.parsedName.getD draft.name.toParsedSection
      hostLabelRuleset := draft.hostLabelRuleset
      supersedes := Std.ExtTreeSet.ofList draft.supersedes }

/-- **A draft is accepted exactly when it does not supersede itself.** -/
theorem ofDraft_eq_ok_iff {draft : SectionDraft} {profile : SectionProfile} :
    ofDraft draft = .ok profile ↔ draft.name ∉ draft.supersedes ∧
      profile = ⟨draft.name, draft.parsedName.getD draft.name.toParsedSection,
        draft.hostLabelRuleset, Std.ExtTreeSet.ofList draft.supersedes⟩ := by
  unfold ofDraft
  split <;> simp_all [eq_comm]

/-- A profile on one line. -/
def describe (p : SectionProfile) : String :=
  Text.record "SectionMeta"
    [("name", p.name.describe),
      ("parsed_section_name", p.parsedName.describe),
      ("host_label_ruleset_name", Text.optional (p.hostLabelRuleset.map Name.describe)),
      ("supersedes", Text.setListing (p.supersedes.toList.map Name.describe))]

end SectionProfile

/-! ### Agent sections -/

/-- A section of the agent's output. -/
structure AgentSection extends SectionProfile where
  parse : AgentParser
  /-- The number of the definition: two definitions built separately differ in it, whatever else
  they agree in. -/
  serial : Nat

namespace AgentSection

/-- The definition of a draft. -/
def build (serial : Nat) (draft : SectionDraft) (parse : AgentParser) :
    Except DefinitionError AgentSection := do
  return { toSectionProfile := ← SectionProfile.ofDraft draft, parse, serial }

/-- A section on one line. -/
def describe (s : AgentSection) : String :=
  Text.partialRecord "AgentSectionPlugin" [("meta", s.toSectionProfile.describe)]

end AgentSection

/-! ### SNMP sections -/

/-- A fetched table: the columns below a base OID. -/
structure SnmpTree where
  base : String
  oids : List String
  deriving DecidableEq

/-- A tree on one line. -/
def SnmpTree.describe (t : SnmpTree) : String :=
  Text.record "SnmpTree"
    [("base", Text.quoted t.base), ("oids", Text.listing (t.oids.map Text.quoted))]

/-- A condition on the value of one OID. -/
structure DetectAtom where
  oid : String
  pattern : String
  negate : Bool
  deriving DecidableEq

/-- A condition on one line. -/
def DetectAtom.describe (a : DetectAtom) : String :=
  Text.record "DetectAtom"
    [("oid", Text.quoted a.oid), ("pattern", Text.quoted a.pattern),
      ("negate", if a.negate then "true" else "false")]

/-- The devices that a section is fetched from, as a disjunction of conjunctions of conditions.
Fetching evaluates it; here it is only carried. -/
abbrev Detection := List (List DetectAtom)

/-- A section of an SNMP walk. -/
structure SnmpSection extends SectionProfile where
  fetch : List SnmpTree
  detect : Detection
  parse : SnmpParser
  /-- The number of the definition: two definitions built separately differ in it, whatever else
  they agree in. -/
  serial : Nat

namespace SnmpSection

/-- The definition of a draft. -/
def build (serial : Nat) (draft : SectionDraft) (fetch : List SnmpTree) (detect : Detection)
    (parse : SnmpParser) : Except DefinitionError SnmpSection := do
  if fetch = [] then throw (.noTrees draft.name)
  if let some tree := fetch.find? (·.oids = []) then throw (.noColumns draft.name tree.base)
  return { toSectionProfile := ← SectionProfile.ofDraft draft, fetch, detect, parse, serial }

/-- A section on one line. -/
def describe (s : SnmpSection) : String :=
  Text.partialRecord "SnmpSectionPlugin"
    [("meta", s.toSectionProfile.describe),
      ("fetch", Text.listing (s.fetch.map SnmpTree.describe)),
      ("detect", Text.wrapped "SnmpDetect"
        (Text.listing (s.detect.map fun all => Text.listing (all.map DetectAtom.describe))))]

end SnmpSection

/-! ### Sections of either source -/

/-- A section of either source. -/
inductive Section where
  | agent (definition : AgentSection)
  | snmp (definition : SnmpSection)

namespace Section

/-- What the section has in common with those of the other source. -/
def profile : Section → SectionProfile
  | agent s => s.toSectionProfile
  | snmp s => s.toSectionProfile

/-- The name of the section. -/
def name (s : Section) : SectionName := s.profile.name

/-- What the section produces. -/
def parsedName (s : Section) : ParsedSectionName := s.profile.parsedName

/-- Where the data of the section comes from. -/
def source : Section → SectionSource
  | agent _ => .agent
  | snmp _ => .snmp

/-- The number of the definition. -/
def serial : Section → Nat
  | agent s => s.serial
  | snmp s => s.serial

@[simp] theorem profile_agent (s : AgentSection) : (agent s).profile = s.toSectionProfile := rfl
@[simp] theorem profile_snmp (s : SnmpSection) : (snmp s).profile = s.toSectionProfile := rfl
@[simp] theorem name_agent (s : AgentSection) : (agent s).name = s.name := rfl
@[simp] theorem name_snmp (s : SnmpSection) : (snmp s).name = s.name := rfl
@[simp] theorem source_agent (s : AgentSection) : (agent s).source = .agent := rfl
@[simp] theorem source_snmp (s : SnmpSection) : (snmp s).source = .snmp := rfl

/-- Whether two sections are one definition. -/
def isSame (s t : Section) : Bool := s.source = t.source && s.serial = t.serial

/-- Parses data of the matching source. -/
def parse : Section → RawSection → Except ParseError (Option Json)
  | agent s, .agent table => s.parse table
  | snmp s, .snmp tables => s.parse tables
  | s, raw => .error (.sourceMismatch s.name s.source raw.source)

/-- A section on one line. -/
def describe : Section → String
  | agent s => s.describe
  | snmp s => s.describe

end Section

end MonitoringPlugins
