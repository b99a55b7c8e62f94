/-
**Tables: values under text keys.**

Parameters, rules and manifests are trees whose inner nodes are tables.  A table is kept as the list
of its entries in the order of the keys (code point by code point, which is also the order of their
UTF-8 bytes), so that two tables with the same entries are the same value and walking a table visits
its keys in order.  It is a plain list, and no type of its own, because trees of tables are
inductive types.

Main definitions:

* `MonitoringPlugins.Table` — entries in the order of their keys;
* `MonitoringPlugins.Table.insert`, `MonitoringPlugins.Table.ofEntries`,
  `MonitoringPlugins.Table.find?` — building and reading a table.

Main results:

* `MonitoringPlugins.Table.find?_insert` — **an insertion changes one key and no other**.
-/

set_option autoImplicit false

namespace MonitoringPlugins

universe u

/-- Entries in the order of their keys, each key once. -/
abbrev Table (α : Type u) := List (String × α)

namespace Table

variable {α : Type u}

/-- Puts a value under a key, in place of an earlier one. -/
def insert (key : String) (value : α) : Table α → Table α
  | [] => [(key, value)]
  | entry :: rest =>
    match compare key entry.1 with
    | .lt => (key, value) :: entry :: rest
    | .eq => (key, value) :: rest
    | .gt => entry :: insert key value rest

/-- The table of some entries in any order; of several values under one key the last counts. -/
def ofEntries (entries : List (String × α)) : Table α :=
  entries.foldl (fun table entry => insert entry.1 entry.2 table) []

/-- The value under a key. -/
def find? (key : String) : Table α → Option α
  | [] => none
  | entry :: rest => if entry.1 = key then some entry.2 else find? key rest

@[simp] theorem find?_nil (key : String) : find? key ([] : Table α) = none := rfl

@[simp] theorem find?_cons (key : String) (entry : String × α) (rest : Table α) :
    find? key (entry :: rest) = if entry.1 = key then some entry.2 else find? key rest := rfl

/-- **An insertion changes one key and no other.** -/
theorem find?_insert (key other : String) (value : α) (table : Table α) :
    find? other (insert key value table) =
      if key = other then some value else find? other table := by
  induction table with
  | nil => simp [insert]
  | cons entry rest ih =>
    simp only [insert]
    split
    · simp
    · next h =>
      have hk : key = entry.1 := Std.LawfulEqCmp.eq_of_compare h
      by_cases ho : key = other
      · simp [ho]
      · simp [ho, ← hk]
    · next h =>
      have hk : entry.1 ≠ key := by
        rintro rfl
        simp [Std.ReflCmp.compare_self] at h
      by_cases ho : key = other
      · subst ho
        simp [ih, hk]
      · simp [ih, ho]

end Table

end MonitoringPlugins
