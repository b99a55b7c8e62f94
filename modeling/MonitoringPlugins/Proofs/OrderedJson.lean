/-
**JSON values in order.**

The fields of a JSON object are a table, so each key is there once, and the order in which fields
were given is forgotten.  The type of the values does not say so.  This module says it, for the
objects at all levels of a value, and proves it of every value that a text writes.

Main definitions:

* `MonitoringPlugins.Json.Ordered` — **the values whose objects are tables in order**, at all
  levels.

Main results:

* `MonitoringPlugins.Json.ReadsOrdered.value_succ`, `MonitoringPlugins.Json.readsOrdered` — what is
  read is in order, by one step and by all of them;
* `MonitoringPlugins.Json.ordered_of_ofText?` — **a value that a text writes is in order**.
-/

import MonitoringPlugins.Json.Reader
import MonitoringPlugins.Proofs.Tables

set_option autoImplicit false

namespace MonitoringPlugins.Json

/-! ### Values in order -/

/-- **All objects are tables**: their keys are in order, each of them once, at all levels. -/
inductive Ordered : Json → Prop
  | null : Ordered null
  | bool (b : Bool) : Ordered (bool b)
  | int (n : Int) : Ordered (int n)
  | float (x : Decimal.Binary64) : Ordered (float x)
  | str (s : String) : Ordered (str s)
  | arr {items : List Json} (all : ∀ v ∈ items, Ordered v) : Ordered (arr items)
  | obj {fields : Table Json} (ordered : fields.Ordered) (all : ∀ entry ∈ fields, Ordered entry.2) :
      Ordered (obj fields)

theorem Ordered.of_mem {items : List Json} (h : Ordered (.arr items)) {v : Json} (hv : v ∈ items) :
    v.Ordered := by
  cases h with
  | arr all => exact all v hv

theorem Ordered.fields {fields : Table Json} (h : Ordered (.obj fields)) : fields.Ordered := by
  cases h with
  | obj ordered _ => exact ordered

theorem Ordered.of_find? {fields : Table Json} (h : Ordered (.obj fields)) {key : String} {v : Json}
    (hv : Table.find? key fields = some v) : v.Ordered := by
  cases h with
  | obj _ all => exact all (key, v) (Table.mem_of_find?_eq_some hv)

/-- An object is a table, whatever the order in which its fields are given. -/
theorem Ordered.object {fields : List (String × Json)} (h : ∀ entry ∈ fields, entry.2.Ordered) :
    (object fields).Ordered :=
  .obj (Table.ordered_ofEntries fields) fun entry hentry => h entry (Table.mem_of_mem_ofEntries hentry)

/-! ### Values of texts -/

theorem ordered_of_number? {negative : Bool} {whole : List Char} {fraction : Option (List Char)}
    {exponent : Option Int} {v : Json} (h : number? negative whole fraction exponent = some v) :
    v.Ordered := by
  unfold number? at h
  extract_lets value at h
  split at h
  · cases h
    exact .int value
  · obtain ⟨x, -, rfl⟩ := Option.map_eq_some_iff.1 h
    exact .float x

theorem ordered_of_number {cs rest : List Char} {v : Json} (h : number cs = some (v, rest)) :
    v.Ordered := by
  unfold number at h
  extract_lets negative at h
  split at h
  extract_lets body at h
  split at h
  · exact nomatch h
  · obtain ⟨⟨fraction, rest₁⟩, -, h⟩ := Option.bind_eq_some_iff.1 h
    obtain ⟨⟨exponent, rest₂⟩, -, h⟩ := Option.bind_eq_some_iff.1 h
    obtain ⟨w, hw, h⟩ := Option.bind_eq_some_iff.1 h
    cases h
    exact ordered_of_number? hw

/-- What is read with so much fuel is in order. -/
structure ReadsOrdered (fuel : Nat) : Prop where
  value : ∀ {cs v rest}, value fuel cs = some (v, rest) → v.Ordered
  items : ∀ {cs vs rest}, items fuel cs = some (vs, rest) → ∀ v ∈ vs, v.Ordered
  fields : ∀ {cs fs rest}, fields fuel cs = some (fs, rest) → ∀ entry ∈ fs, entry.2.Ordered

theorem ReadsOrdered.value_succ {fuel : Nat} (ih : ReadsOrdered fuel) {cs rest : List Char} {v : Json}
    (h : Json.value (fuel + 1) cs = some (v, rest)) : v.Ordered := by
  rw [Json.value] at h
  cases hcs : skipBlanks cs with
  | nil => exact nomatch hcs ▸ h
  | cons c tail =>
      simp only [hcs] at h
      -- the first character tells: texts, arrays, objects, the three literals, and else numbers
      split at h
      · obtain ⟨⟨s, _⟩, -, h⟩ := Option.map_eq_some_iff.1 h
        cases h
        exact .str s
      split at h
      · split at h
        · cases h
          exact .arr nofun
        · obtain ⟨⟨vs, _⟩, hvs, h⟩ := Option.map_eq_some_iff.1 h
          cases h
          exact .arr (ih.items hvs)
      split at h
      · split at h
        · cases h
          exact .obj .nil nofun
        · obtain ⟨⟨fs, _⟩, hfs, h⟩ := Option.map_eq_some_iff.1 h
          cases h
          exact .object (ih.fields hfs)
      split at h
      · obtain ⟨_, -, h⟩ := Option.map_eq_some_iff.1 h
        cases h
        exact .bool true
      split at h
      · obtain ⟨_, -, h⟩ := Option.map_eq_some_iff.1 h
        cases h
        exact .bool false
      split at h
      · obtain ⟨_, -, h⟩ := Option.map_eq_some_iff.1 h
        cases h
        exact .null
      · exact ordered_of_number h

theorem readsOrdered (fuel : Nat) : ReadsOrdered fuel := by
  -- values, items and fields are read by each other, each with less fuel
  induction fuel with
  | zero => exact ⟨nofun, nofun, nofun⟩
  | succ fuel ih =>
      refine ⟨ih.value_succ, fun {cs vs rest} h => ?_, fun {cs fs rest} h => ?_⟩
      · rw [Json.items] at h
        obtain ⟨⟨v, _⟩, hv, h⟩ := Option.bind_eq_some_iff.1 h
        dsimp only at h
        split at h
        · obtain ⟨⟨vs', _⟩, hvs, h⟩ := Option.bind_eq_some_iff.1 h
          cases h
          exact List.forall_mem_cons.2 ⟨ih.value hv, ih.items hvs⟩
        · cases h
          exact List.forall_mem_cons.2 ⟨ih.value hv, nofun⟩
        · exact nomatch h
      · rw [Json.fields] at h
        obtain ⟨_, -, h⟩ := Option.bind_eq_some_iff.1 h
        obtain ⟨⟨key, _⟩, -, h⟩ := Option.bind_eq_some_iff.1 h
        obtain ⟨_, -, h⟩ := Option.bind_eq_some_iff.1 h
        obtain ⟨⟨v, _⟩, hv, h⟩ := Option.bind_eq_some_iff.1 h
        dsimp only at h
        split at h
        · obtain ⟨⟨fs', _⟩, hfs, h⟩ := Option.bind_eq_some_iff.1 h
          cases h
          exact List.forall_mem_cons.2 ⟨ih.value hv, ih.fields hfs⟩
        · cases h
          exact List.forall_mem_cons.2 ⟨ih.value hv, nofun⟩
        · exact nomatch h

/-- **A value that a text writes is in order.** -/
theorem ordered_of_ofText? {text : String} {v : Json} (h : ofText? text = some v) : v.Ordered := by
  unfold ofText? at h
  dsimp only at h
  split at h
  · next w rest hw =>
      split at h
      · cases h
        exact (readsOrdered _).value hw
      · exact nomatch h
  · exact nomatch h

end MonitoringPlugins.Json
