/-
**Well-formed entries.**

An entry of a manifest is linked by a chain of small steps: each name is validated, each function is
looked up in the table of its kind, parameters must be tables, and what comes out is built.  Whether
the chain gets to its end can be said of the texts of the entry alone, without the chain, and so can
what it comes to.  This module states both, for each kind of entry, and proves that linking meets
them.

It goes through drafts.  An entry is drafted when all its texts are read; the draft is then valid,
or not, and the definition has its parts (`MonitoringPlugins.CheckDraft.build_eq_ok_iff`).  What
remains is to say validity and parts of the texts instead.

Main definitions:

* `MonitoringPlugins.SectionEntry.WellFormed` and its siblings — **the entries that can be linked**;
* `MonitoringPlugins.SectionEntry.Describes` and its siblings — **the definition that belongs to an
  entry**;
* `MonitoringPlugins.SectionEntry.Drafted` and its siblings — a draft that holds the parts of an
  entry.

Main results:

* `MonitoringPlugins.mapM_eq_ok_iff_of_spec` — steps that meet a specification do so with a list;
* `MonitoringPlugins.linkedName_eq_ok_iff_text`, `MonitoringPlugins.linkedParameters_eq_ok_iff`,
  `MonitoringPlugins.HandlerTable.resolve_eq_ok_iff` — what the steps do;
* `MonitoringPlugins.AgentSectionEntry.link_eq_ok_iff`,
  `MonitoringPlugins.SnmpSectionEntry.link_eq_ok_iff`,
  `MonitoringPlugins.CheckEntry.link_eq_ok_iff`, `MonitoringPlugins.InventoryEntry.link_eq_ok_iff` —
  **an entry is linked to what it describes**, if it is well-formed.
-/

import Mathlib.Data.List.Forall2
import Mathlib.Data.List.Nodup
import MonitoringPlugins.Manifest.Linked
import MonitoringPlugins.Proofs.Drafts

set_option autoImplicit false

namespace MonitoringPlugins

/-! ### Lists of steps -/

section Lists

variable {ε α β : Type} {f : α → Except ε β}

/-- A list of steps succeeds if each of them does. -/
theorem mapM_eq_ok_iff {xs : List α} {ys : List β} :
    xs.mapM f = .ok ys ↔ List.Forall₂ (fun x y => f x = .ok y) xs ys := by
  induction xs generalizing ys with
  | nil =>
      rw [List.mapM_nil, List.forall₂_nil_left_iff]
      exact ⟨fun h => (Except.ok.inj h).symm, fun h => congrArg Except.ok h.symm⟩
  | cons x rest ih =>
      rw [List.mapM_cons, bind_eq_ok_iff, List.forall₂_cons_left_iff]
      refine exists_congr fun y => ?_
      rw [bind_eq_ok_iff]
      constructor
      · rintro ⟨hy, ys', hrest, h⟩
        cases h
        exact ⟨ys', hy, ih.1 hrest, rfl⟩
      · rintro ⟨ys', hy, hrest, rfl⟩
        exact ⟨hy, ys', ih.2 hrest, rfl⟩

theorem exists_forall₂_iff {R : α → β → Prop} {xs : List α} :
    (∃ ys, List.Forall₂ R xs ys) ↔ ∀ x ∈ xs, ∃ y, R x y := by
  induction xs with
  | nil => exact ⟨fun _ => nofun, fun _ => ⟨[], .nil⟩⟩
  | cons x rest ih =>
      rw [List.forall_mem_cons, ← ih]
      constructor
      · rintro ⟨_, h⟩
        obtain ⟨y, ys, hy, hys, -⟩ := List.forall₂_cons_left_iff.1 h
        exact ⟨⟨y, hy⟩, ys, hys⟩
      · rintro ⟨⟨y, hy⟩, ys, hys⟩
        exact ⟨y :: ys, .cons hy hys⟩

theorem exists_mapM_iff {xs : List α} :
    (∃ ys, xs.mapM f = .ok ys) ↔ ∀ x ∈ xs, ∃ y, f x = .ok y := by
  simp only [mapM_eq_ok_iff, exists_forall₂_iff]

/-- Steps that take what satisfies `p` to what `R` relates it to do so with a list. -/
theorem mapM_eq_ok_iff_of_spec {p : α → Prop} {R : α → β → Prop}
    (hspec : ∀ x y, f x = .ok y ↔ p x ∧ R x y) {xs : List α} {ys : List β} :
    xs.mapM f = .ok ys ↔ (∀ x ∈ xs, p x) ∧ List.Forall₂ R xs ys := by
  rw [mapM_eq_ok_iff, ← List.forall₂_and_left]
  simp only [hspec]

/-- Steps that take back what `g` does succeed with the list that `g` takes there. -/
theorem forall₂_eq_iff_map {g : β → α} {xs : List α} {ys : List β} :
    List.Forall₂ (fun x y => g y = x) xs ys ↔ ys.map g = xs := by
  have hmap : List.Forall₂ (fun x y => x = g y) xs ys ↔ xs = ys.map g := by
    rw [← List.forall₂_map_right_iff, List.forall₂_eq_eq_eq]
  rw [eq_comm, ← hmap]
  exact ⟨fun h => h.imp fun _ _ => Eq.symm, fun h => h.imp fun _ _ => Eq.symm⟩

/-- What a condition on a numbered list says of the elements does not depend on their numbers. -/
theorem forall_mem_zipIdx_iff {p : α → Prop} {xs : List α} {k : Nat} :
    (∀ x ∈ xs.zipIdx k, p x.1) ↔ ∀ x ∈ xs, p x := by
  rw [← List.forall_mem_map, List.zipIdx_map_fst]

end Lists

/-! ### Parts of entries -/

section Parts

variable {kind : NameKind}

/-- **A text is linked to the name that has it.** -/
theorem linkedName_eq_ok_iff_text {text : String} {n : Name kind} :
    linkedName kind text = .ok n ↔ n.text = text := by
  rw [linkedName_eq_ok_iff]
  exact ⟨And.right, fun h => ⟨h ▸ n.isNameText, h⟩⟩

theorem linkedNames_eq_ok_iff {texts : List String} {names : List (Name kind)} :
    linkedNames kind texts = .ok names ↔ names.map Name.text = texts := by
  rw [linkedNames, mapM_eq_ok_iff, ← forall₂_eq_iff_map]
  simp only [linkedName_eq_ok_iff_text]

theorem linkedName?_eq_ok_iff {text : Option String} {n : Option (Name kind)} :
    linkedName? kind text = .ok n ↔ n.map Name.text = text := by
  cases text with
  | none => cases n <;> simp [linkedName?]
  | some text =>
      rw [linkedName?, map_eq_ok_iff]
      simp only [linkedName_eq_ok_iff_text, Option.map_eq_some_iff]
      exact exists_congr fun m => and_comm.trans (and_congr_left fun _ => eq_comm)

/-- **Parameters are linked as they are given**, if they are a table. -/
theorem linkedParameters_eq_ok_iff {plugin : String} {stage : Stage} {value : Option Json}
    {parameters : Option Parameters} :
    linkedParameters plugin stage value = .ok parameters ↔ parameters.map Json.obj = value := by
  unfold linkedParameters
  split
  · cases parameters <;> simp
  · cases parameters <;> simp [eq_comm]
  · next other htable =>
    refine ⟨nofun, fun h => ?_⟩
    obtain ⟨table, -, rfl⟩ := Option.map_eq_some_iff.1 h
    exact absurd rfl (htable table)

theorem HandlerTable.resolve_eq_ok_iff {handlers : HandlerTable} {kind : HandlerKind}
    {plugin handler : String} {function : kind.Function} :
    handlers.resolve kind plugin handler = .ok function ↔
      handlers.lookup kind handler = some function := by
  unfold HandlerTable.resolve
  cases handlers.lookup kind handler with
  | none => exact ⟨nofun, nofun⟩
  | some found => rw [Except.ok.injEq, Option.some.injEq]

/-! ### Which parts can be linked -/

theorem exists_text_iff {text : String} : (∃ n : Name kind, n.text = text) ↔ IsNameText text :=
  ⟨fun ⟨n, h⟩ => h ▸ n.isNameText, fun h => ⟨⟨text, h⟩, rfl⟩⟩

theorem exists_texts_iff {texts : List String} :
    (∃ names : List (Name kind), names.map Name.text = texts) ↔
      ∀ text ∈ texts, IsNameText text := by
  simp only [← linkedNames_eq_ok_iff, linkedNames, exists_mapM_iff, linkedName_eq_ok_iff_text,
    exists_text_iff]

theorem exists_text?_iff {text : Option String} :
    (∃ n : Option (Name kind), n.map Name.text = text) ↔ ∀ t ∈ text, IsNameText t := by
  cases text with
  | none => exact ⟨fun _ => nofun, fun _ => ⟨none, rfl⟩⟩
  | some text =>
      simp only [Option.mem_some_iff, forall_eq', Option.map_eq_some_iff]
      rw [← @exists_text_iff kind]
      exact ⟨fun ⟨_, n, _, h⟩ => ⟨n, h⟩, fun ⟨n, h⟩ => ⟨some n, n, rfl, h⟩⟩

theorem exists_parameters_iff {value : Option Json} :
    (∃ parameters : Option Parameters, parameters.map Json.obj = value) ↔
      ∀ v ∈ value, ∃ table, v = .obj table := by
  cases value with
  | none => exact ⟨fun _ => nofun, fun _ => ⟨none, rfl⟩⟩
  | some v =>
      simp only [Option.mem_some_iff, forall_eq', Option.map_eq_some_iff]
      constructor
      · rintro ⟨_, table, -, h⟩
        exact ⟨table, h.symm⟩
      · rintro ⟨table, h⟩
        exact ⟨some table, table, rfl, h.symm⟩

end Parts

/-! ### Sections -/

namespace SectionEntry

/-- **What an entry of either source needs to be linked.** -/
structure WellFormed (e : SectionEntry) : Prop where
  name : IsNameText e.name
  parsedName : ∀ text ∈ e.parsedName, IsNameText text
  hostLabelRuleset : ∀ text ∈ e.hostLabelRuleset, IsNameText text
  supersedes : ∀ text ∈ e.supersedes, IsNameText text
  notItself : e.name ∉ e.supersedes

/-- **The profile that belongs to an entry.** -/
structure Describes (e : SectionEntry) (p : SectionProfile) : Prop where
  name : p.name.text = e.name
  parsedName : p.parsedName.text = e.parsedName.getD e.name
  hostLabelRuleset : p.hostLabelRuleset.map Name.text = e.hostLabelRuleset
  supersedes : ∀ text, text ∈ e.supersedes ↔ ∃ name ∈ p.supersedes, name.text = text

/-- A draft that holds the parts of an entry. -/
structure Drafted (e : SectionEntry) (draft : SectionDraft) : Prop where
  name : draft.name.text = e.name
  supersedes : draft.supersedes.map Name.text = e.supersedes
  parsedName : draft.parsedName.map Name.text = e.parsedName
  hostLabelRuleset : draft.hostLabelRuleset.map Name.text = e.hostLabelRuleset

variable {e : SectionEntry} {draft : SectionDraft} {p : SectionProfile}

theorem linkedDraft_eq_ok_iff : e.linkedDraft = .ok draft ↔ e.Drafted draft := by
  unfold linkedDraft
  constructor
  · intro h
    obtain ⟨name, hname, h⟩ := bind_eq_ok_iff.1 h
    obtain ⟨supersedes, hsupersedes, h⟩ := bind_eq_ok_iff.1 h
    obtain ⟨parsedName, hparsed, h⟩ := bind_eq_ok_iff.1 h
    obtain ⟨hostLabelRuleset, hlabel, h⟩ := bind_eq_ok_iff.1 h
    cases h
    exact ⟨linkedName_eq_ok_iff_text.1 hname, linkedNames_eq_ok_iff.1 hsupersedes,
      linkedName?_eq_ok_iff.1 hparsed, linkedName?_eq_ok_iff.1 hlabel⟩
  · intro h
    refine bind_eq_ok_iff.2 ⟨_, linkedName_eq_ok_iff_text.2 h.name, ?_⟩
    refine bind_eq_ok_iff.2 ⟨_, linkedNames_eq_ok_iff.2 h.supersedes, ?_⟩
    refine bind_eq_ok_iff.2 ⟨_, linkedName?_eq_ok_iff.2 h.parsedName, ?_⟩
    exact bind_eq_ok_iff.2 ⟨_, linkedName?_eq_ok_iff.2 h.hostLabelRuleset, rfl⟩

namespace Drafted

/-- The name is among the superseded ones in the draft as in the texts. -/
theorem mem_supersedes_iff (h : e.Drafted draft) {name : SectionName} :
    name ∈ draft.supersedes ↔ name.text ∈ e.supersedes := by
  rw [← h.supersedes, List.mem_map_of_injective fun _ _ => Name.ext]

theorem gives_iff (h : e.Drafted draft) : draft.Gives p ↔ e.Describes p := by
  have hparsed : (draft.parsedName.getD draft.name.toParsedSection).text =
      e.parsedName.getD e.name := by
    rw [← h.parsedName, ← h.name]
    cases draft.parsedName <;> rfl
  constructor
  · intro hgives
    refine ⟨hgives.name ▸ h.name, hgives.parsedName ▸ hparsed,
      hgives.hostLabelRuleset ▸ h.hostLabelRuleset, fun text => ?_⟩
    rw [← h.supersedes, List.mem_map]
    simp only [hgives.supersedes]
  · intro hdescribes
    refine ⟨Name.ext (hdescribes.name.trans h.name.symm),
      Name.ext (hdescribes.parsedName.trans hparsed.symm), ?_, fun name => ?_⟩
    · refine Option.map_injective (fun _ _ => Name.ext) ?_
      rw [hdescribes.hostLabelRuleset, h.hostLabelRuleset]
    · rw [h.mem_supersedes_iff, hdescribes.supersedes]
      constructor
      · intro hname
        exact ⟨name, hname, rfl⟩
      · rintro ⟨other, hother, htext⟩
        rwa [← Name.ext htext]

end Drafted

theorem wellFormed_iff :
    e.WellFormed ↔ ∃ draft, e.Drafted draft ∧ draft.name ∉ draft.supersedes := by
  constructor
  · intro h
    obtain ⟨name, hname⟩ := exists_text_iff.2 h.name
    obtain ⟨supersedes, hsupersedes⟩ := exists_texts_iff.2 h.supersedes
    obtain ⟨parsedName, hparsed⟩ := exists_text?_iff.2 h.parsedName
    obtain ⟨hostLabelRuleset, hlabel⟩ := exists_text?_iff.2 h.hostLabelRuleset
    have hdrafted : e.Drafted ⟨name, parsedName, hostLabelRuleset, supersedes⟩ :=
      ⟨hname, hsupersedes, hparsed, hlabel⟩
    refine ⟨_, hdrafted, ?_⟩
    rw [hdrafted.mem_supersedes_iff, hdrafted.name]
    exact h.notItself
  · rintro ⟨draft, h, hself⟩
    rw [h.mem_supersedes_iff, h.name] at hself
    exact ⟨exists_text_iff.1 ⟨_, h.name⟩, exists_text?_iff.1 ⟨_, h.parsedName⟩,
      exists_text?_iff.1 ⟨_, h.hostLabelRuleset⟩, exists_texts_iff.1 ⟨_, h.supersedes⟩, hself⟩

end SectionEntry

namespace AgentSectionEntry

/-- **What an agent section needs to be linked.** -/
structure WellFormed (handlers : HandlerTable) (e : AgentSectionEntry) : Prop
    extends SectionEntry.WellFormed e.toSectionEntry where
  parse : ∃ function, handlers.lookup .agentParse e.parseFunction = some function

/-- **The agent section that belongs to an entry.** -/
structure Describes (handlers : HandlerTable) (serial : Nat) (e : AgentSectionEntry)
    (s : AgentSection) : Prop
    extends SectionEntry.Describes e.toSectionEntry s.toSectionProfile where
  parse : handlers.lookup .agentParse e.parseFunction = some s.parse
  serial : s.serial = serial

variable {handlers : HandlerTable} {serial : Nat} {e : AgentSectionEntry}

/-- **An agent section is linked to what its entry describes**, if the entry is well-formed. -/
theorem link_eq_ok_iff {s : AgentSection} :
    e.link handlers serial = .ok s ↔ e.WellFormed handlers ∧ e.Describes handlers serial s := by
  unfold link
  constructor
  · intro h
    obtain ⟨parse, hparse, h⟩ := bind_eq_ok_iff.1 h
    obtain ⟨draft, hdraft, h⟩ := bind_eq_ok_iff.1 h
    have hlookup := HandlerTable.resolve_eq_ok_iff.1 hparse
    have hdrafted := SectionEntry.linkedDraft_eq_ok_iff.1 hdraft
    obtain ⟨hself, hgives, rfl, hserial⟩ :=
      AgentSection.build_eq_ok_iff.1 (mapError_eq_ok_iff.1 h)
    exact ⟨⟨SectionEntry.wellFormed_iff.2 ⟨draft, hdrafted, hself⟩, _, hlookup⟩,
      hdrafted.gives_iff.1 hgives, hlookup, hserial⟩
  · rintro ⟨hwell, hdescribes⟩
    obtain ⟨draft, hdrafted, hself⟩ := SectionEntry.wellFormed_iff.1 hwell.toWellFormed
    have hgives := hdrafted.gives_iff.2 hdescribes.toDescribes
    refine bind_eq_ok_iff.2 ⟨_, HandlerTable.resolve_eq_ok_iff.2 hdescribes.parse, ?_⟩
    refine bind_eq_ok_iff.2 ⟨_, SectionEntry.linkedDraft_eq_ok_iff.2 hdrafted, ?_⟩
    exact mapError_eq_ok_iff.2
      (AgentSection.build_eq_ok_iff.2 ⟨hself, hgives, rfl, hdescribes.serial⟩)

theorem WellFormed.exists_describes (serial : Nat) (h : e.WellFormed handlers) :
    ∃ s, e.Describes handlers serial s := by
  obtain ⟨draft, hdrafted, hself⟩ := SectionEntry.wellFormed_iff.1 h.toWellFormed
  obtain ⟨profile, hgives⟩ := SectionDraft.exists_gives hself
  obtain ⟨parse, hparse⟩ := h.parse
  exact ⟨⟨profile, parse, serial⟩, hdrafted.gives_iff.1 hgives, hparse, rfl⟩

end AgentSectionEntry

namespace SnmpSectionEntry

/-- **What an SNMP section needs to be linked**: there is something to fetch, and all of it has
columns. -/
structure WellFormed (handlers : HandlerTable) (e : SnmpSectionEntry) : Prop
    extends SectionEntry.WellFormed e.toSectionEntry where
  parse : ∃ function, handlers.lookup .snmpParse e.parseFunction = some function
  fetch : e.fetch ≠ []
  columns : ∀ tree ∈ e.fetch, tree.oids ≠ []

/-- **The SNMP section that belongs to an entry.** -/
structure Describes (handlers : HandlerTable) (serial : Nat) (e : SnmpSectionEntry)
    (s : SnmpSection) : Prop
    extends SectionEntry.Describes e.toSectionEntry s.toSectionProfile where
  fetch : s.fetch = e.fetch
  detect : s.detect = e.detect
  parse : handlers.lookup .snmpParse e.parseFunction = some s.parse
  serial : s.serial = serial

variable {handlers : HandlerTable} {serial : Nat} {e : SnmpSectionEntry}

/-- **An SNMP section is linked to what its entry describes**, if the entry is well-formed. -/
theorem link_eq_ok_iff {s : SnmpSection} :
    e.link handlers serial = .ok s ↔ e.WellFormed handlers ∧ e.Describes handlers serial s := by
  unfold link
  constructor
  · intro h
    obtain ⟨parse, hparse, h⟩ := bind_eq_ok_iff.1 h
    obtain ⟨draft, hdraft, h⟩ := bind_eq_ok_iff.1 h
    have hlookup := HandlerTable.resolve_eq_ok_iff.1 hparse
    have hdrafted := SectionEntry.linkedDraft_eq_ok_iff.1 hdraft
    obtain ⟨⟨hfetch, hcolumns, hself⟩, hgives, hsame, hdetect, rfl, hserial⟩ :=
      SnmpSection.build_eq_ok_iff.1 (mapError_eq_ok_iff.1 h)
    exact ⟨⟨SectionEntry.wellFormed_iff.2 ⟨draft, hdrafted, hself⟩, ⟨_, hlookup⟩, hfetch, hcolumns⟩,
      hdrafted.gives_iff.1 hgives, hsame, hdetect, hlookup, hserial⟩
  · rintro ⟨hwell, hdescribes⟩
    obtain ⟨draft, hdrafted, hself⟩ := SectionEntry.wellFormed_iff.1 hwell.toWellFormed
    have hgives := hdrafted.gives_iff.2 hdescribes.toDescribes
    refine bind_eq_ok_iff.2 ⟨_, HandlerTable.resolve_eq_ok_iff.2 hdescribes.parse, ?_⟩
    refine bind_eq_ok_iff.2 ⟨_, SectionEntry.linkedDraft_eq_ok_iff.2 hdrafted, ?_⟩
    exact mapError_eq_ok_iff.2 (SnmpSection.build_eq_ok_iff.2
      ⟨⟨hwell.fetch, hwell.columns, hself⟩, hgives, hdescribes.fetch, hdescribes.detect, rfl,
        hdescribes.serial⟩)

theorem WellFormed.exists_describes (serial : Nat) (h : e.WellFormed handlers) :
    ∃ s, e.Describes handlers serial s := by
  obtain ⟨draft, hdrafted, hself⟩ := SectionEntry.wellFormed_iff.1 h.toWellFormed
  obtain ⟨profile, hgives⟩ := SectionDraft.exists_gives hself
  obtain ⟨parse, hparse⟩ := h.parse
  exact ⟨⟨profile, e.fetch, e.detect, parse, serial⟩, hdrafted.gives_iff.1 hgives, rfl, rfl, hparse,
    rfl⟩

end SnmpSectionEntry

/-! ### Plug-ins -/

/-- A plug-in subscribes to what its draft names, said of the texts. -/
theorem sections_eq_iff {kind : NameKind} {plugin : Name kind}
    {declared sections : List ParsedSectionName} {text : String} {texts : List String}
    (hplugin : plugin.text = text) (hdeclared : declared.map Name.text = texts) :
    (sections = if declared = [] then [plugin.toParsedSection] else declared) ↔
      sections.map Name.text = if texts = [] then [text] else texts := by
  have hinjective : Function.Injective (List.map (@Name.text .parsedSection)) :=
    List.map_injective_iff.2 fun _ _ => Name.ext
  rw [← hinjective.eq_iff, apply_ite (List.map Name.text), hdeclared, ← hplugin, ← hdeclared]
  simp

/-- Parameters and ruleset of a pair are those of the draft, said of the texts. -/
theorem defaults_eq_iff {pair : Option DefaultParameters} {values : Option Parameters}
    {value : Option Json} (hvalue : values.map Json.obj = value) :
    pair.map (·.values) = values ↔ pair.map (fun both => Json.obj both.values) = value := by
  have hinjective : Function.Injective (Option.map Json.obj) :=
    Option.map_injective fun _ _ => Json.obj.inj
  rw [← hinjective.eq_iff, hvalue, Option.map_map]
  rfl

theorem ruleset_eq_iff {found ruleset : Option RulesetName} {text : Option String}
    (htext : ruleset.map Name.text = text) : found = ruleset ↔ found.map Name.text = text := by
  rw [← (Option.map_injective fun _ _ => Name.ext).eq_iff, htext]

theorem name_eq_iff {kind : NameKind} {found name : Name kind} {text : String}
    (htext : name.text = text) : found = name ↔ found.text = text := by
  rw [← htext]
  exact ⟨congrArg Name.text, Name.ext⟩

theorem function_eq_iff {handlers : HandlerTable} {kind : HandlerKind} {handler : String}
    {found function : kind.Function} (hlookup : handlers.lookup kind handler = some function) :
    found = function ↔ handlers.lookup kind handler = some found := by
  rw [hlookup, Option.some.injEq, eq_comm]

theorem nodup_iff {declared : List ParsedSectionName} {texts : List String}
    (hdeclared : declared.map Name.text = texts) : declared.Nodup ↔ texts.Nodup := by
  rw [← hdeclared, List.nodup_map_iff fun _ _ => Name.ext]

/-- Parameters and ruleset are given together, said of the texts. -/
theorem paired_iff {values : Option Parameters} {value : Option Json}
    {ruleset : Option RulesetName} {text : Option String} (hvalue : values.map Json.obj = value)
    (htext : ruleset.map Name.text = text) :
    values.isSome = ruleset.isSome ↔ value.isSome = text.isSome := by
  rw [← hvalue, ← htext, Option.isSome_map, Option.isSome_map]

namespace CheckEntry

/-- **What a check plug-in needs to be linked.** -/
structure WellFormed (handlers : HandlerTable) (e : CheckEntry) : Prop where
  name : IsNameText e.name
  oneItem : ¬ServiceName.HoldsTwice e.serviceName
  sections : ∀ text ∈ e.sections, IsNameText text
  nodup : e.sections.Nodup
  discovery : ∃ function, handlers.lookup .discovery e.discoveryFunction = some function
  discoveryDefaults : ∀ value ∈ e.discoveryDefaults, ∃ table, value = .obj table
  discoveryRuleset : ∀ text ∈ e.discoveryRuleset, IsNameText text
  discoveryPaired : e.discoveryDefaults.isSome = e.discoveryRuleset.isSome
  check : ∃ function, handlers.lookup .check e.checkFunction = some function
  checkDefaults : ∀ value ∈ e.checkDefaults, ∃ table, value = .obj table
  checkRuleset : ∀ text ∈ e.checkRuleset, IsNameText text
  checkPaired : e.checkDefaults.isSome = e.checkRuleset.isSome

/-- **The check plug-in that belongs to an entry.** -/
structure Describes (handlers : HandlerTable) (e : CheckEntry) (p : CheckPlugin) : Prop where
  name : p.name.text = e.name
  serviceName : p.serviceName = e.serviceName
  sections : p.sections.map Name.text = if e.sections = [] then [e.name] else e.sections
  discovery : handlers.lookup .discovery e.discoveryFunction = some p.discovery
  discoveryDefaults : p.discoveryDefaults.map (fun both => Json.obj both.values) =
    e.discoveryDefaults
  discoveryRuleset : p.discoveryRuleset.map Name.text = e.discoveryRuleset
  check : handlers.lookup .check e.checkFunction = some p.check
  checkDefaults : p.checkDefaults.map (fun both => Json.obj both.values) = e.checkDefaults
  checkRuleset : p.checkRuleset.map Name.text = e.checkRuleset

/-- A draft that holds the parts of an entry. -/
structure Drafted (handlers : HandlerTable) (e : CheckEntry) (draft : CheckDraft) : Prop where
  name : draft.name.text = e.name
  serviceName : draft.serviceName = e.serviceName
  sections : draft.sections.map Name.text = e.sections
  discovery : handlers.lookup .discovery e.discoveryFunction = some draft.discovery
  discoveryDefaults : draft.discoveryDefaults.map Json.obj = e.discoveryDefaults
  discoveryRuleset : draft.discoveryRuleset.map Name.text = e.discoveryRuleset
  check : handlers.lookup .check e.checkFunction = some draft.check
  checkDefaults : draft.checkDefaults.map Json.obj = e.checkDefaults
  checkRuleset : draft.checkRuleset.map Name.text = e.checkRuleset

variable {handlers : HandlerTable} {e : CheckEntry} {draft : CheckDraft} {p : CheckPlugin}

theorem linkedDraft_eq_ok_iff : e.linkedDraft handlers = .ok draft ↔ e.Drafted handlers draft := by
  unfold linkedDraft
  constructor
  · intro h
    obtain ⟨name, hname, h⟩ := bind_eq_ok_iff.1 h
    obtain ⟨discovery, hdiscovery, h⟩ := bind_eq_ok_iff.1 h
    obtain ⟨check, hcheck, h⟩ := bind_eq_ok_iff.1 h
    obtain ⟨sections, hsections, h⟩ := bind_eq_ok_iff.1 h
    obtain ⟨discoveryDefaults, hdvalues, h⟩ := bind_eq_ok_iff.1 h
    obtain ⟨discoveryRuleset, hdruleset, h⟩ := bind_eq_ok_iff.1 h
    obtain ⟨checkDefaults, hcvalues, h⟩ := bind_eq_ok_iff.1 h
    obtain ⟨checkRuleset, hcruleset, h⟩ := bind_eq_ok_iff.1 h
    cases h
    exact ⟨linkedName_eq_ok_iff_text.1 hname, rfl, linkedNames_eq_ok_iff.1 hsections,
      HandlerTable.resolve_eq_ok_iff.1 hdiscovery, linkedParameters_eq_ok_iff.1 hdvalues,
      linkedName?_eq_ok_iff.1 hdruleset, HandlerTable.resolve_eq_ok_iff.1 hcheck,
      linkedParameters_eq_ok_iff.1 hcvalues, linkedName?_eq_ok_iff.1 hcruleset⟩
  · intro h
    refine bind_eq_ok_iff.2 ⟨_, linkedName_eq_ok_iff_text.2 h.name, ?_⟩
    refine bind_eq_ok_iff.2 ⟨_, HandlerTable.resolve_eq_ok_iff.2 h.discovery, ?_⟩
    refine bind_eq_ok_iff.2 ⟨_, HandlerTable.resolve_eq_ok_iff.2 h.check, ?_⟩
    refine bind_eq_ok_iff.2 ⟨_, linkedNames_eq_ok_iff.2 h.sections, ?_⟩
    refine bind_eq_ok_iff.2 ⟨_, linkedParameters_eq_ok_iff.2 h.discoveryDefaults, ?_⟩
    refine bind_eq_ok_iff.2 ⟨_, linkedName?_eq_ok_iff.2 h.discoveryRuleset, ?_⟩
    refine bind_eq_ok_iff.2 ⟨_, linkedParameters_eq_ok_iff.2 h.checkDefaults, ?_⟩
    refine bind_eq_ok_iff.2 ⟨_, linkedName?_eq_ok_iff.2 h.checkRuleset, ?_⟩
    rw [← h.serviceName]
    rfl

theorem link_eq_ok_iff_build :
    e.link handlers = .ok p ↔ ∃ draft, e.Drafted handlers draft ∧ draft.build = .ok p := by
  rw [link, bind_eq_ok_iff]
  simp only [linkedDraft_eq_ok_iff, mapError_eq_ok_iff]

theorem Drafted.gives_iff (h : e.Drafted handlers draft) :
    draft.Gives p ↔ e.Describes handlers p := by
  constructor
  · intro g
    exact ⟨(name_eq_iff h.name).1 g.name, g.serviceName.trans h.serviceName,
      (sections_eq_iff h.name h.sections).1 g.sections, (function_eq_iff h.discovery).1 g.discovery,
      (defaults_eq_iff h.discoveryDefaults).1 g.discoveryDefaults,
      (ruleset_eq_iff h.discoveryRuleset).1 g.discoveryRuleset, (function_eq_iff h.check).1 g.check,
      (defaults_eq_iff h.checkDefaults).1 g.checkDefaults,
      (ruleset_eq_iff h.checkRuleset).1 g.checkRuleset⟩
  · intro d
    exact ⟨(name_eq_iff h.name).2 d.name, (sections_eq_iff h.name h.sections).2 d.sections,
      d.serviceName.trans h.serviceName.symm, (function_eq_iff h.discovery).2 d.discovery,
      (defaults_eq_iff h.discoveryDefaults).2 d.discoveryDefaults,
      (ruleset_eq_iff h.discoveryRuleset).2 d.discoveryRuleset, (function_eq_iff h.check).2 d.check,
      (defaults_eq_iff h.checkDefaults).2 d.checkDefaults,
      (ruleset_eq_iff h.checkRuleset).2 d.checkRuleset⟩

theorem Drafted.valid_iff (h : e.Drafted handlers draft) : draft.Valid ↔ e.WellFormed handlers := by
  have hdiscovery := paired_iff h.discoveryDefaults h.discoveryRuleset
  have hcheck := paired_iff h.checkDefaults h.checkRuleset
  constructor
  · intro v
    exact ⟨exists_text_iff.1 ⟨_, h.name⟩, h.serviceName ▸ v.oneItem,
      exists_texts_iff.1 ⟨_, h.sections⟩, (nodup_iff h.sections).1 v.sections, ⟨_, h.discovery⟩,
      exists_parameters_iff.1 ⟨_, h.discoveryDefaults⟩, exists_text?_iff.1 ⟨_, h.discoveryRuleset⟩,
      hdiscovery.1 v.discovery, ⟨_, h.check⟩, exists_parameters_iff.1 ⟨_, h.checkDefaults⟩,
      exists_text?_iff.1 ⟨_, h.checkRuleset⟩, hcheck.1 v.check⟩
  · intro w
    exact ⟨h.serviceName ▸ w.oneItem, (nodup_iff h.sections).2 w.nodup,
      hdiscovery.2 w.discoveryPaired, hcheck.2 w.checkPaired⟩

theorem WellFormed.exists_drafted (h : e.WellFormed handlers) :
    ∃ draft, e.Drafted handlers draft := by
  obtain ⟨name, hname⟩ := exists_text_iff.2 h.name
  obtain ⟨sections, hsections⟩ := exists_texts_iff.2 h.sections
  obtain ⟨discovery, hdiscovery⟩ := h.discovery
  obtain ⟨discoveryDefaults, hdvalues⟩ := exists_parameters_iff.2 h.discoveryDefaults
  obtain ⟨discoveryRuleset, hdruleset⟩ := exists_text?_iff.2 h.discoveryRuleset
  obtain ⟨check, hcheck⟩ := h.check
  obtain ⟨checkDefaults, hcvalues⟩ := exists_parameters_iff.2 h.checkDefaults
  obtain ⟨checkRuleset, hcruleset⟩ := exists_text?_iff.2 h.checkRuleset
  exact ⟨⟨name, e.serviceName, sections, discovery, discoveryDefaults, discoveryRuleset, check,
    checkDefaults, checkRuleset⟩, hname, rfl, hsections, hdiscovery, hdvalues, hdruleset, hcheck,
    hcvalues, hcruleset⟩

/-- **A check plug-in is linked to what its entry describes**, if the entry is well-formed. -/
theorem link_eq_ok_iff :
    e.link handlers = .ok p ↔ e.WellFormed handlers ∧ e.Describes handlers p := by
  rw [link_eq_ok_iff_build]
  constructor
  · rintro ⟨draft, h, hbuild⟩
    obtain ⟨hvalid, hgives⟩ := CheckDraft.build_eq_ok_iff.1 hbuild
    exact ⟨h.valid_iff.1 hvalid, h.gives_iff.1 hgives⟩
  · rintro ⟨hwell, hdescribes⟩
    obtain ⟨draft, h⟩ := hwell.exists_drafted
    exact ⟨draft, h,
      CheckDraft.build_eq_ok_iff.2 ⟨h.valid_iff.2 hwell, h.gives_iff.2 hdescribes⟩⟩

theorem WellFormed.exists_describes (h : e.WellFormed handlers) : ∃ p, e.Describes handlers p := by
  obtain ⟨draft, hdrafted⟩ := h.exists_drafted
  obtain ⟨p, hgives⟩ := (hdrafted.valid_iff.2 h).exists_gives
  exact ⟨p, hdrafted.gives_iff.1 hgives⟩

end CheckEntry

namespace InventoryEntry

/-- **What an inventory plug-in needs to be linked.** -/
structure WellFormed (handlers : HandlerTable) (e : InventoryEntry) : Prop where
  name : IsNameText e.name
  sections : ∀ text ∈ e.sections, IsNameText text
  nodup : e.sections.Nodup
  inventory : ∃ function, handlers.lookup .inventory e.inventoryFunction = some function
  inventoryDefaults : ∀ value ∈ e.inventoryDefaults, ∃ table, value = .obj table
  inventoryRuleset : ∀ text ∈ e.inventoryRuleset, IsNameText text
  inventoryPaired : e.inventoryDefaults.isSome = e.inventoryRuleset.isSome

/-- **The inventory plug-in that belongs to an entry.** -/
structure Describes (handlers : HandlerTable) (e : InventoryEntry) (p : InventoryPlugin) :
    Prop where
  name : p.name.text = e.name
  sections : p.sections.map Name.text = if e.sections = [] then [e.name] else e.sections
  inventory : handlers.lookup .inventory e.inventoryFunction = some p.inventory
  inventoryDefaults : p.inventoryDefaults.map (fun both => Json.obj both.values) =
    e.inventoryDefaults
  inventoryRuleset : p.inventoryRuleset.map Name.text = e.inventoryRuleset

/-- A draft that holds the parts of an entry. -/
structure Drafted (handlers : HandlerTable) (e : InventoryEntry) (draft : InventoryDraft) :
    Prop where
  name : draft.name.text = e.name
  sections : draft.sections.map Name.text = e.sections
  inventory : handlers.lookup .inventory e.inventoryFunction = some draft.inventory
  inventoryDefaults : draft.inventoryDefaults.map Json.obj = e.inventoryDefaults
  inventoryRuleset : draft.inventoryRuleset.map Name.text = e.inventoryRuleset

variable {handlers : HandlerTable} {e : InventoryEntry} {draft : InventoryDraft}
  {p : InventoryPlugin}

theorem linkedDraft_eq_ok_iff : e.linkedDraft handlers = .ok draft ↔ e.Drafted handlers draft := by
  unfold linkedDraft
  constructor
  · intro h
    obtain ⟨name, hname, h⟩ := bind_eq_ok_iff.1 h
    obtain ⟨inventory, hinventory, h⟩ := bind_eq_ok_iff.1 h
    obtain ⟨sections, hsections, h⟩ := bind_eq_ok_iff.1 h
    obtain ⟨inventoryDefaults, hvalues, h⟩ := bind_eq_ok_iff.1 h
    obtain ⟨inventoryRuleset, hruleset, h⟩ := bind_eq_ok_iff.1 h
    cases h
    exact ⟨linkedName_eq_ok_iff_text.1 hname, linkedNames_eq_ok_iff.1 hsections,
      HandlerTable.resolve_eq_ok_iff.1 hinventory, linkedParameters_eq_ok_iff.1 hvalues,
      linkedName?_eq_ok_iff.1 hruleset⟩
  · intro h
    refine bind_eq_ok_iff.2 ⟨_, linkedName_eq_ok_iff_text.2 h.name, ?_⟩
    refine bind_eq_ok_iff.2 ⟨_, HandlerTable.resolve_eq_ok_iff.2 h.inventory, ?_⟩
    refine bind_eq_ok_iff.2 ⟨_, linkedNames_eq_ok_iff.2 h.sections, ?_⟩
    refine bind_eq_ok_iff.2 ⟨_, linkedParameters_eq_ok_iff.2 h.inventoryDefaults, ?_⟩
    exact bind_eq_ok_iff.2 ⟨_, linkedName?_eq_ok_iff.2 h.inventoryRuleset, rfl⟩

theorem link_eq_ok_iff_build :
    e.link handlers = .ok p ↔ ∃ draft, e.Drafted handlers draft ∧ draft.build = .ok p := by
  rw [link, bind_eq_ok_iff]
  simp only [linkedDraft_eq_ok_iff, mapError_eq_ok_iff]

theorem Drafted.gives_iff (h : e.Drafted handlers draft) :
    draft.Gives p ↔ e.Describes handlers p := by
  constructor
  · intro g
    exact ⟨(name_eq_iff h.name).1 g.name, (sections_eq_iff h.name h.sections).1 g.sections,
      (function_eq_iff h.inventory).1 g.inventory,
      (defaults_eq_iff h.inventoryDefaults).1 g.inventoryDefaults,
      (ruleset_eq_iff h.inventoryRuleset).1 g.inventoryRuleset⟩
  · intro d
    exact ⟨(name_eq_iff h.name).2 d.name, (sections_eq_iff h.name h.sections).2 d.sections,
      (function_eq_iff h.inventory).2 d.inventory,
      (defaults_eq_iff h.inventoryDefaults).2 d.inventoryDefaults,
      (ruleset_eq_iff h.inventoryRuleset).2 d.inventoryRuleset⟩

theorem Drafted.valid_iff (h : e.Drafted handlers draft) : draft.Valid ↔ e.WellFormed handlers := by
  have hpaired := paired_iff h.inventoryDefaults h.inventoryRuleset
  constructor
  · intro v
    exact ⟨exists_text_iff.1 ⟨_, h.name⟩, exists_texts_iff.1 ⟨_, h.sections⟩,
      (nodup_iff h.sections).1 v.sections, ⟨_, h.inventory⟩,
      exists_parameters_iff.1 ⟨_, h.inventoryDefaults⟩, exists_text?_iff.1 ⟨_, h.inventoryRuleset⟩,
      hpaired.1 v.inventory⟩
  · intro w
    exact ⟨(nodup_iff h.sections).2 w.nodup, hpaired.2 w.inventoryPaired⟩

theorem WellFormed.exists_drafted (h : e.WellFormed handlers) :
    ∃ draft, e.Drafted handlers draft := by
  obtain ⟨name, hname⟩ := exists_text_iff.2 h.name
  obtain ⟨sections, hsections⟩ := exists_texts_iff.2 h.sections
  obtain ⟨inventory, hinventory⟩ := h.inventory
  obtain ⟨inventoryDefaults, hvalues⟩ := exists_parameters_iff.2 h.inventoryDefaults
  obtain ⟨inventoryRuleset, hruleset⟩ := exists_text?_iff.2 h.inventoryRuleset
  exact ⟨⟨name, sections, inventory, inventoryDefaults, inventoryRuleset⟩, hname, hsections,
    hinventory, hvalues, hruleset⟩

/-- **An inventory plug-in is linked to what its entry describes**, if the entry is well-formed. -/
theorem link_eq_ok_iff :
    e.link handlers = .ok p ↔ e.WellFormed handlers ∧ e.Describes handlers p := by
  rw [link_eq_ok_iff_build]
  constructor
  · rintro ⟨draft, h, hbuild⟩
    obtain ⟨hvalid, hgives⟩ := InventoryDraft.build_eq_ok_iff.1 hbuild
    exact ⟨h.valid_iff.1 hvalid, h.gives_iff.1 hgives⟩
  · rintro ⟨hwell, hdescribes⟩
    obtain ⟨draft, h⟩ := hwell.exists_drafted
    exact ⟨draft, h,
      InventoryDraft.build_eq_ok_iff.2 ⟨h.valid_iff.2 hwell, h.gives_iff.2 hdescribes⟩⟩

theorem WellFormed.exists_describes (h : e.WellFormed handlers) : ∃ p, e.Describes handlers p := by
  obtain ⟨draft, hdrafted⟩ := h.exists_drafted
  obtain ⟨p, hgives⟩ := (hdrafted.valid_iff.2 h).exists_gives
  exact ⟨p, hdrafted.gives_iff.1 hgives⟩

end InventoryEntry

end MonitoringPlugins
