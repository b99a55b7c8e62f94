/-
**Forms of JSON values.**

A form says what is written in some place: an opaque value, a list, or a structure with its fields.
A field of a structure may be absent if it has a default.  A form therefore fills in values: where a
field with a default is absent, the default is put, at all levels.  Nothing else is touched, and
nothing that is there is lost.

A reader and a writer that belong to a form lose nothing if writing what has been read gives the
value filled in, and if reading what has been written gives the same again — up to what the type of
the values tells apart and the written form does not.

Main definitions:

* `MonitoringPlugins.Json.IsPartOf` — **everything that is in a value is in another one**;
* `MonitoringPlugins.Form`, `MonitoringPlugins.Field` — forms of values, and the fields of a
  structure;
* `MonitoringPlugins.Form.listOf`, `MonitoringPlugins.Form.object` — the forms of lists and
  structures;
* `MonitoringPlugins.Lossless` — **a reader and a writer that lose nothing**.

Main results:

* `MonitoringPlugins.Form.fill_object_eq` — what a structure is filled in to;
* `MonitoringPlugins.Lossless.listOf` — lists lose nothing if their items do not;
* `MonitoringPlugins.Lossless.written?_required`, `MonitoringPlugins.Lossless.written?_optional`,
  `MonitoringPlugins.Lossless.required_written`, `MonitoringPlugins.Lossless.optional_written` — the
  fields of a structure, read and written.
-/

import MonitoringPlugins.Proofs.DecodedStructures
import MonitoringPlugins.Proofs.OrderedJson
import MonitoringPlugins.Proofs.WellFormedEntry

set_option autoImplicit false

namespace MonitoringPlugins

/-! ### Parts of values -/

namespace Json

/-- **Everything that is in a value is in another one**, in the same place: the items of arrays, all
of them, and the fields of objects, which may have further fields there. -/
inductive IsPartOf : Json → Json → Prop
  | refl (v : Json) : IsPartOf v v
  | arr {vs ws : List Json} (all : List.Forall₂ IsPartOf vs ws) : IsPartOf (arr vs) (arr ws)
  | obj {vs ws : Table Json} (keys : ∀ key ∈ vs.map Prod.fst, key ∈ ws.map Prod.fst)
      (all : ∀ key v w, Table.find? key vs = some v → Table.find? key ws = some w → IsPartOf v w) :
      IsPartOf (obj vs) (obj ws)

end Json

/-! ### Forms -/

/-- What is written in some place. -/
structure Form where
  /-- The value with everything filled in that may be absent. -/
  fill : Json → Json
  /-- Whether all structures in a value are written as objects. -/
  AsObjects : Json → Prop
  /-- Filling in loses nothing. -/
  isPartOf_fill : ∀ {v : Json}, v.Ordered → v.IsPartOf (fill v)

/-- A field of a structure: its key, what stands for it if it is absent, unless it must be there,
and its form. -/
structure Field where
  key : String
  default? : Option Json
  form : Form

namespace Field

/-- A field that must be given. -/
def required (key : String) (form : Form) : Field := ⟨key, none, form⟩

/-- A field that need not be given. -/
def optional (key : String) (default : Json) (form : Form) : Field := ⟨key, some default, form⟩

/-- What is written for the field of an object, if it is there or has a default. -/
def value? (field : Field) (entries : Table Json) : Option Json :=
  match Table.find? field.key entries with
  | some v => some (field.form.fill v)
  | none => field.default?

/-- The entry that is written for the field of an object. -/
def written? (field : Field) (entries : Table Json) : Option (String × Json) :=
  (field.value? entries).map (field.key, ·)

end Field

namespace Form

/-- An opaque value, or a leaf. -/
def kept : Form where
  fill := id
  AsObjects _ := True
  isPartOf_fill _ := .refl _

/-- The items of an array filled in. -/
def fillItems (item : Form) : Json → Json
  | .arr items => .arr (items.map item.fill)
  | v => v

/-- A list. -/
def listOf (item : Form) : Form where
  fill := item.fillItems
  AsObjects v := ∀ items, v = .arr items → ∀ w ∈ items, item.AsObjects w
  isPartOf_fill {v} hv := by
    cases v with
    | arr items =>
        refine .arr (List.forall₂_map_right_iff.2 (List.forall₂_same.2 fun w hw => ?_))
        exact item.isPartOf_fill (hv.of_mem hw)
    | _ => exact .refl _

/-- Nothing is filled in to a list of leaves. -/
theorem fill_listOf_kept (v : Json) : (listOf kept).fill v = v := by
  cases v with
  | arr items => exact congrArg Json.arr (List.map_id items)
  | _ => rfl

/-- The fields of an object filled in.  Entries that belong to no field stay as they are. -/
def fillFields (fields : List Field) : Json → Json
  | .obj entries => .object (entries ++ fields.filterMap (·.written? entries))
  | v => v

/-- What is found in an object that is filled in: what is written for a field, or else what was
there before. -/
theorem find?_filled {fields : List Field} {entries : Table Json} (h : entries.Ordered)
    (key : String) :
    Table.find? key (Table.ofEntries (entries ++ fields.filterMap (·.written? entries))) =
      (Table.find? key (fields.filterMap (·.written? entries)).reverse).or
        (Table.find? key entries) := by
  rw [Table.find?_ofEntries, List.reverse_append, Table.find?_append,
    ← Table.find?_ofEntries key entries, Table.find?_ofEntries_of_nodup h.nodup_keys]

/-- Filling in the fields of an object loses nothing. -/
theorem isPartOf_fillFields {fields : List Field} {v : Json} (hv : v.Ordered) :
    v.IsPartOf (fillFields fields v) := by
  cases v with
  | obj entries =>
      refine .obj ?_ ?_
      · intro key hkey
        contrapose! hkey
        rw [← Table.find?_eq_none_iff, find?_filled hv.fields, Option.or_eq_none_iff] at hkey
        exact Table.find?_eq_none_iff.1 hkey.2
      · intro key v w hfound hfilled
        rw [find?_filled hv.fields] at hfilled
        cases hnew : Table.find? key (fields.filterMap (·.written? entries)).reverse with
        | none =>
            rw [hnew, Option.none_or, hfound] at hfilled
            obtain rfl := Option.some.inj hfilled
            exact .refl v
        | some u =>
            rw [hnew, Option.some_or] at hfilled
            obtain rfl := Option.some.inj hfilled
            -- what is put under the key is written for a field, and that is what was there, filled in
            have hmem := Table.mem_of_find?_eq_some hnew
            obtain ⟨field, -, hentry⟩ := List.mem_filterMap.1 (List.mem_reverse.1 hmem)
            obtain ⟨_, hvalue, heq⟩ := Option.map_eq_some_iff.1 hentry
            obtain ⟨rfl, rfl⟩ := Prod.mk.inj heq
            rw [Field.value?, hfound] at hvalue
            obtain rfl := Option.some.inj hvalue
            exact field.form.isPartOf_fill (hv.of_find? hfound)
  | _ => exact .refl _

/-- A structure. -/
def object (fields : List Field) : Form where
  fill := fillFields fields
  AsObjects v := ∃ entries, v = .obj entries ∧
    ∀ field ∈ fields, ∀ w, Table.find? field.key entries = some w → field.form.AsObjects w
  isPartOf_fill := isPartOf_fillFields

/-- **What a structure is filled in to**, if it has no other entries than those of its fields: the
object of what is written for them. -/
theorem fill_object_eq {fields : List Field} {entries written : Table Json}
    (hwritten : List.Forall₂ (fun field entry => field.written? entries = some entry) fields written)
    (hkeys : ∀ key ∈ entries.map Prod.fst, key ∈ written.map Prod.fst) :
    (object fields).fill (.obj entries) = .object written := by
  have hwritten : fields.filterMap (·.written? entries) = written := by
    clear hkeys
    induction hwritten with
    | nil => rfl
    | cons hentry _ ih => rw [List.filterMap_cons, hentry, ih]
  have hnone (key : String) (h : Table.find? key written.reverse = none) :
      Table.find? key entries.reverse = none := by
    rw [Table.find?_eq_none_iff, List.map_reverse, List.mem_reverse] at h ⊢
    exact fun hkey => h (hkeys key hkey)
  change Json.object (entries ++ fields.filterMap (·.written? entries)) = .object written
  rw [hwritten]
  -- the entries that are filled in come last and are found first, so the others do not matter
  refine congrArg Json.obj ((Table.ordered_ofEntries _).eq_of_find?_eq (Table.ordered_ofEntries _)
    fun key => ?_)
  rw [Table.find?_ofEntries, Table.find?_ofEntries, List.reverse_append, Table.find?_append]
  cases h : Table.find? key written.reverse with
  | none => rw [Option.none_or, hnone key h]
  | some w => rw [Option.some_or]

end Form

/-! ### Reading and writing -/

namespace Data

theorem ofJsonItems_eq (items : List Json) : ofJsonItems items = items.map ofJson := by
  induction items with
  | nil => rfl
  | cons v rest ih => rw [ofJsonItems, List.map_cons, ih]

theorem ofJsonFields_eq (fields : Table Json) :
    ofJsonFields fields = fields.map fun entry => (entry.1, ofJson entry.2) := by
  induction fields with
  | nil => rfl
  | cons entry rest ih => rw [ofJsonFields, List.map_cons, ih]

theorem find?_ofJsonFields (key : String) (entries : Table Json) :
    Table.find? key (ofJsonFields entries) = (Table.find? key entries).map ofJson := by
  rw [ofJsonFields_eq, Table.find?_map]

end Data

/-- The entries of a JSON object are found among the sound fields of a structure. -/
def Given.Holds (g : Given) (written : Table Json) : Prop :=
  ∀ entry ∈ written, Table.find? entry.1 g.fields = some (.ofJson entry.2)

theorem Given.Holds.mono {g : Given} {written written' : Table Json} (h : g.Holds written')
    (hsub : written ⊆ written') : g.Holds written :=
  fun entry hentry => h entry (hsub hentry)

/-- **A reader and a writer that lose nothing.**  What has been written is read again, up to what
`norm` takes together; and writing what has been read gives the value filled in. -/
structure Lossless {α : Type} (form : Form) (decode : Decoder α) (encode : α → Json) (norm : α → α) :
    Prop where
  decode_encode : ∀ a, decode (.ofJson (encode a)) = .ok (norm a)
  encode_decode : ∀ {v a}, v.Ordered → form.AsObjects v → decode (.ofJson v) = .ok a →
    encode a = form.fill v

namespace Lossless

variable {α : Type} {form : Form} {decode : Decoder α} {encode : α → Json} {norm : α → α}

/-- **Lists lose nothing if their items do not.** -/
theorem listOf (h : Lossless form decode encode norm) :
    Lossless form.listOf (Data.listOf decode) (fun as => .arr (as.map encode)) (List.map norm) where
  decode_encode as := by
    rw [Data.ofJson, Data.listOf, Data.ofJsonItems_eq, mapM_eq_ok_iff]
    simp only [List.map_map, List.forall₂_map_left_iff, List.forall₂_map_right_iff,
      List.forall₂_same, Function.comp_apply]
    exact fun a _ => h.decode_encode a
  encode_decode {v as} hv hobjects hread := by
    cases v with
    | arr items =>
        rw [Data.ofJson, Data.listOf, Data.ofJsonItems_eq, mapM_eq_ok_iff,
          List.forall₂_map_left_iff] at hread
        have hitems : ∀ w ∈ items, w.Ordered ∧ form.AsObjects w :=
          fun w hw => ⟨hv.of_mem hw, hobjects items rfl w hw⟩
        have hfill : List.Forall₂ (fun w a => encode a = form.fill w) items as :=
          ((List.forall₂_and_left _ _).2 ⟨hitems, hread⟩).imp
            fun w a ⟨⟨hw, hobject⟩, ha⟩ => h.encode_decode hw hobject ha
        exact congrArg Json.arr (forall₂_eq_iff_map.1 (List.forall₂_map_left_iff.2 hfill))
    | _ => exact nomatch hread

/-- Lists come back as they were if their items do. -/
theorem listOf_id (h : Lossless form decode encode id) :
    Lossless form.listOf (Data.listOf decode) (fun as => .arr (as.map encode)) id := by
  simpa only [List.map_id_fun] using h.listOf

/-! #### Fields of an object -/

section Fields

variable {key : String} {entries written : Table Json}

/-- A field that must be given **is written as it is filled in**, if it has been read. -/
theorem written?_required (h : Lossless form decode encode norm) (hv : Json.Ordered (.obj entries))
    (hobjects : ∀ w, Table.find? key entries = some w → form.AsObjects w) {a : α}
    (hread : Given.required ⟨Data.ofJsonFields entries, .missingField⟩ key decode = .ok a) :
    (Field.required key form).written? entries = some (key, encode a) := by
  rw [Given.required, Data.find?_ofJsonFields] at hread
  cases hfound : Table.find? key entries with
  | none =>
      rw [hfound] at hread
      exact nomatch hread
  | some w =>
      rw [hfound] at hread
      have hfill := h.encode_decode (hv.of_find? hfound) (hobjects w hfound) hread
      simp only [Field.written?, Field.value?, Field.required, hfound, hfill, Option.map_some]

/-- A field that need not be given **is written as it is filled in**, if it has been read. -/
theorem written?_optional (h : Lossless form decode encode norm) (hv : Json.Ordered (.obj entries))
    (hobjects : ∀ w, Table.find? key entries = some w → form.AsObjects w) {a default : α}
    (hread : Given.optional ⟨Data.ofJsonFields entries, .missingField⟩ key decode default = .ok a) :
    (Field.optional key (encode default) form).written? entries = some (key, encode a) := by
  rw [Given.optional, Data.find?_ofJsonFields] at hread
  cases hfound : Table.find? key entries with
  | none =>
      rw [hfound] at hread
      obtain rfl := Except.ok.inj hread
      simp only [Field.written?, Field.value?, Field.optional, hfound, Option.map_some]
  | some w =>
      rw [hfound] at hread
      have hfill := h.encode_decode (hv.of_find? hfound) (hobjects w hfound) hread
      simp only [Field.written?, Field.value?, Field.optional, hfound, hfill, Option.map_some]

/-- A field that has been written is let through. -/
theorem checkEntry_written (h : Lossless form decode encode norm) {shape : Shape}
    (hfield : Table.find? key shape.fields = some (accepts decode)) (a : α) :
    shape.checkEntry (key, .ofJson (encode a)) = .ok () := by
  refine Shape.checkEntry_eq_ok_iff.2 ⟨_, hfield, ?_⟩
  rw [accepts, h.decode_encode]
  rfl

/-- A field that must be given **is read as it was written**. -/
theorem required_written (h : Lossless form decode encode norm) {g : Given} (hg : g.Holds written)
    (a : α) (hwritten : (key, encode a) ∈ written) : g.required key decode = .ok (norm a) := by
  rw [Given.required, hg _ hwritten]
  exact h.decode_encode a

/-- A field that need not be given **is read as it was written**. -/
theorem optional_written (h : Lossless form decode encode norm) {g : Given} (hg : g.Holds written)
    (a : α) (hwritten : (key, encode a) ∈ written) {default : α} :
    g.optional key decode default = .ok (norm a) := by
  rw [Given.optional, hg _ hwritten]
  exact h.decode_encode a

end Fields

end Lossless

/-! ### Structures -/

namespace Shape

variable {shape : Shape} {entries written : Table Json} {g : Given}

/-- **An object is let through** if each of its entries is; then it has no other entries than those
of the fields. -/
theorem given_obj_eq_ok_iff :
    shape.given (.ofJson (.obj entries)) = .ok g ↔
      (∀ entry ∈ entries, shape.checkEntry (entry.1, .ofJson entry.2) = .ok ()) ∧
        g = ⟨Data.ofJsonFields entries, .missingField⟩ := by
  rw [Data.ofJson, given_map_eq_ok_iff, Data.ofJsonFields_eq, List.forall_mem_map]

theorem keys_of_given (h : shape.given (.ofJson (.obj entries)) = .ok g) :
    ∀ key ∈ entries.map Prod.fst, key ∈ shape.keys := by
  rw [List.forall_mem_map]
  intro entry hentry
  obtain ⟨check, hcheck, -⟩ := checkEntry_eq_ok_iff.1 ((given_obj_eq_ok_iff.1 h).1 entry hentry)
  exact List.mem_map.2 ⟨_, Table.mem_of_find?_eq_some hcheck, rfl⟩

/-- What has been written is let through if each of its entries is, and then each of them is
found. -/
theorem exists_given_written {format : Format} {R : Given → Prop}
    (hnodup : (written.map Prod.fst).Nodup)
    (hcheck : ∀ entry ∈ written, shape.checkEntry (entry.1, .ofJson entry.2) = .ok ())
    (hread : ∀ g : Given, g.Holds written → R g) :
    ∃ g, shape.given (.ofJson (.object written)) = .ok g ∧ R g ∧
      shape.noSurplus format (.ofJson (.object written)) = .ok () := by
  have hgiven := given_obj_eq_ok_iff.2
    ⟨fun entry hentry => hcheck entry (Table.mem_of_mem_ofEntries hentry), rfl⟩
  refine ⟨_, hgiven, hread _ fun entry hentry => ?_, rfl⟩
  rw [Data.find?_ofJsonFields, Table.find?_ofEntries_of_nodup hnodup,
    (Table.find?_eq_some_iff_of_nodup hnodup).2 hentry]
  rfl

end Shape

end MonitoringPlugins
