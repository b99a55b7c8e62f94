/-
**What tables hold.**

A table lists its entries in the order of their keys, each key once.  Its type does not say so; this
module does.  Insertions keep the order, so a table that is built from entries has it, and a table
in order is determined by what is found in it.

Main definitions:

* `MonitoringPlugins.Table.Ordered` — **the keys are in order**, each of them once.

Main results:

* `MonitoringPlugins.Table.find?_ofEntries` — of several values under one key the last counts;
* `MonitoringPlugins.Table.find?_eq_some_iff_of_nodup` — if each key occurs once, all entries are
  found;
* `MonitoringPlugins.Table.Ordered.eq_of_find?_eq` — **a table in order is determined by what is
  found in it**;
* `MonitoringPlugins.Table.Ordered.toList_ofList`, `MonitoringPlugins.Table.ofList_toList` — tables
  and tree maps are the same data.
-/

import Mathlib.Data.List.Sort
import Std.Data.ExtTreeMap
import MonitoringPlugins.Table

set_option autoImplicit false

namespace MonitoringPlugins.Table

universe u v

variable {α : Type u} {β : Type v}

/-! ### What is found -/

theorem find?_append (key : String) (l l' : Table α) :
    find? key (l ++ l') = (find? key l).or (find? key l') := by
  induction l with
  | nil => simp
  | cons entry rest ih =>
      rw [List.cons_append, find?_cons, find?_cons, ih]
      split <;> simp

theorem find?_map (f : α → β) (key : String) (l : Table α) :
    find? key (l.map fun entry => (entry.1, f entry.2)) = (find? key l).map f := by
  induction l with
  | nil => simp
  | cons entry rest ih =>
      rw [List.map_cons, find?_cons, find?_cons, ih]
      split <;> simp

theorem find?_eq_none_iff {key : String} {l : Table α} :
    find? key l = none ↔ key ∉ l.map Prod.fst := by
  induction l with
  | nil => simp
  | cons entry rest ih =>
      rw [find?_cons, List.map_cons, List.mem_cons, not_or, ← ih]
      split
      · next h => simp [h]
      · next h => simp [Ne.symm h]

theorem mem_of_find?_eq_some {key : String} {l : Table α} {a : α} (h : find? key l = some a) :
    (key, a) ∈ l := by
  induction l with
  | nil => simp at h
  | cons entry rest ih =>
      rw [find?_cons] at h
      split at h
      · next hkey =>
          obtain rfl := Option.some.inj h
          simp [← hkey]
      · exact List.mem_cons_of_mem _ (ih h)

theorem find?_foldl_insert (key : String) (l table : Table α) :
    find? key (l.foldl (fun table entry => insert entry.1 entry.2 table) table) =
      (find? key l.reverse).or (find? key table) := by
  induction l generalizing table with
  | nil => simp
  | cons entry rest ih =>
      rw [List.foldl_cons, ih, find?_insert, List.reverse_cons, find?_append, Option.or_assoc]
      congr 1
      simp only [find?_cons, find?_nil]
      split <;> simp

/-- **If each key occurs once, all entries are found.** -/
theorem find?_eq_some_iff_of_nodup {l : Table α} (h : (l.map Prod.fst).Nodup) {key : String} {a : α} :
    find? key l = some a ↔ (key, a) ∈ l := by
  refine ⟨mem_of_find?_eq_some, fun hmem => ?_⟩
  induction l with
  | nil => simp at hmem
  | cons first rest ih =>
      obtain ⟨hfirst, hrest⟩ := List.nodup_cons.1 h
      rw [find?_cons]
      rcases List.mem_cons.1 hmem with rfl | hmem
      · simp
      · have hne : first.1 ≠ key := by
          rintro rfl
          exact hfirst (List.mem_map.2 ⟨_, hmem, rfl⟩)
        rw [if_neg hne]
        exact ih hrest hmem

/-- **Of several values under one key the last counts.** -/
theorem find?_ofEntries (key : String) (l : List (String × α)) :
    find? key (ofEntries l) = find? key l.reverse := by
  rw [ofEntries, find?_foldl_insert, find?_nil, Option.or_none]

/-- If each key occurs once, the table that is built from entries holds them all. -/
theorem find?_ofEntries_of_nodup {l : Table α} (h : (l.map Prod.fst).Nodup) (key : String) :
    find? key (ofEntries l) = find? key l := by
  have hreverse : (l.reverse.map Prod.fst).Nodup := by rwa [List.map_reverse, List.nodup_reverse]
  refine Option.ext fun a => ?_
  rw [find?_ofEntries, find?_eq_some_iff_of_nodup hreverse, find?_eq_some_iff_of_nodup h,
    List.mem_reverse]

theorem mem_insert {key : String} {value : α} {table : Table α} {entry : String × α}
    (h : entry ∈ insert key value table) : entry = (key, value) ∨ entry ∈ table := by
  induction table with
  | nil => simpa [insert] using h
  | cons first rest ih =>
      rw [insert] at h
      split at h
      · simpa using h
      · rcases List.mem_cons.1 h with h | h
        · exact .inl h
        · exact .inr (List.mem_cons_of_mem _ h)
      · rcases List.mem_cons.1 h with h | h
        · exact .inr (h ▸ List.mem_cons_self)
        · exact (ih h).imp_right (List.mem_cons_of_mem _)

/-- A table that is built from entries has no others. -/
theorem mem_of_mem_ofEntries {entries : List (String × α)} {entry : String × α}
    (h : entry ∈ ofEntries entries) : entry ∈ entries := by
  suffices hfold : ∀ table : Table α,
      entry ∈ entries.foldl (fun table entry => insert entry.1 entry.2 table) table →
        entry ∈ entries ∨ entry ∈ table from (hfold [] h).resolve_right List.not_mem_nil
  clear h
  induction entries with
  | nil => exact fun table h => .inr h
  | cons first rest ih =>
      intro table h
      rcases ih _ h with hrest | hinsert
      · exact .inl (List.mem_cons_of_mem _ hrest)
      -- the first entry has been inserted before the others
      · rcases mem_insert hinsert with rfl | htable
        · exact .inl List.mem_cons_self
        · exact .inr htable

/-! ### Order -/

/-- **The keys are in order**, each of them once. -/
def Ordered (table : Table α) : Prop := table.Pairwise fun a b => compare a.1 b.1 = .lt

theorem compare_self_ne_lt (key : String) : compare key key ≠ .lt := by
  simp [Std.ReflCmp.compare_self]

theorem ordered_nil : Ordered ([] : Table α) := .nil

/-- **An insertion keeps the order.** -/
theorem Ordered.insert {table : Table α} (h : table.Ordered) (key : String) (value : α) :
    Ordered (insert key value table) := by
  induction table with
  | nil => exact List.pairwise_singleton _ _
  | cons first rest ih =>
      obtain ⟨hfirst, hrest⟩ := List.pairwise_cons.1 h
      rw [Table.insert]
      split
      · next hlt =>
          refine List.pairwise_cons.2 ⟨fun entry hentry => ?_, h⟩
          rcases List.mem_cons.1 hentry with rfl | hentry
          · exact hlt
          · exact Std.TransCmp.lt_trans hlt (hfirst entry hentry)
      · next heq =>
          obtain rfl : key = first.1 := Std.LawfulEqCmp.eq_of_compare heq
          exact List.pairwise_cons.2 ⟨hfirst, hrest⟩
      · next hgt =>
          refine List.pairwise_cons.2 ⟨fun entry hentry => ?_, ih hrest⟩
          rcases mem_insert hentry with rfl | hentry
          · exact Std.OrientedCmp.lt_of_gt hgt
          · exact hfirst entry hentry

/-- A table that is built from entries is in order. -/
theorem ordered_ofEntries (entries : List (String × α)) : (ofEntries entries).Ordered := by
  suffices h : ∀ table : Table α, table.Ordered →
      Ordered (entries.foldl (fun table entry => insert entry.1 entry.2 table) table) from
    h [] ordered_nil
  induction entries with
  | nil => exact fun table h => h
  | cons entry rest ih => exact fun table h => ih _ (h.insert entry.1 entry.2)

/-- In a table in order each key occurs once. -/
theorem Ordered.nodup_keys {table : Table α} (h : table.Ordered) : (table.map Prod.fst).Nodup := by
  refine List.pairwise_map.2 (h.imp ?_)
  intro a b hlt heq
  rw [heq] at hlt
  exact compare_self_ne_lt b.1 hlt

/-- **A table in order is determined by what is found in it.** -/
theorem Ordered.eq_of_find?_eq {l l' : Table α} (h : l.Ordered) (h' : l'.Ordered)
    (hfind : ∀ key, find? key l = find? key l') : l = l' := by
  have hirrefl : Std.Irrefl fun a b : String × α => compare a.1 b.1 = .lt :=
    ⟨fun a => compare_self_ne_lt a.1⟩
  have hantisymm : Std.Antisymm fun a b : String × α => compare a.1 b.1 = .lt :=
    ⟨fun a b hab hba => absurd hba (Std.OrientedCmp.not_lt_of_lt hab)⟩
  refine List.Pairwise.eq_of_mem_iff h h' fun entry => ?_
  rw [← find?_eq_some_iff_of_nodup h.nodup_keys, ← find?_eq_some_iff_of_nodup h'.nodup_keys, hfind]

/-! ### Tree maps -/

section TreeMaps

theorem ordered_toList (t : Std.ExtTreeMap String α) : Ordered t.toList :=
  Std.ExtTreeMap.ordered_keys_toList

theorem find?_toList (t : Std.ExtTreeMap String α) (key : String) : find? key t.toList = t[key]? := by
  refine Option.ext fun a => ?_
  rw [find?_eq_some_iff_of_nodup (ordered_toList t).nodup_keys,
    Std.ExtTreeMap.mem_toList_iff_getElem?_eq_some]

/-- A tree map that is built from the entries of a table holds what is found there. -/
theorem Ordered.getElem?_ofList {l : Table α} (h : l.Ordered) (key : String) :
    (Std.ExtTreeMap.ofList l)[key]? = find? key l := by
  cases hfound : find? key l with
  | none =>
      have hkey := find?_eq_none_iff.1 hfound
      refine Std.ExtTreeMap.getElem?_ofList_of_contains_eq_false ?_
      simpa using hkey
  | some a =>
      have hdistinct : l.Pairwise fun a b => ¬compare a.1 b.1 = .eq :=
        h.imp fun hlt heq => nomatch hlt.symm.trans heq
      exact Std.ExtTreeMap.getElem?_ofList_of_mem Std.ReflCmp.compare_self hdistinct
        (mem_of_find?_eq_some hfound)

/-- **A tree map keeps a table as it is.** -/
theorem Ordered.toList_ofList {l : Table α} (h : l.Ordered) :
    (Std.ExtTreeMap.ofList l).toList = l := by
  refine (ordered_toList _).eq_of_find?_eq h fun key => ?_
  rw [find?_toList, h.getElem?_ofList]

theorem ofList_toList (t : Std.ExtTreeMap String α) : Std.ExtTreeMap.ofList t.toList = t := by
  refine Std.ExtTreeMap.ext_getElem? fun key => ?_
  rw [(ordered_toList t).getElem?_ofList, find?_toList]

end TreeMaps

end MonitoringPlugins.Table
