/-
**Assembling the tables of a document.**

The tables of a document are put together from headers and assignments that may stand far apart, and
the format says which of them may meet.  A table that a header names is complete as far as headers
and dotted keys go; a table that is only passed through on the way to another may be named by a
header later, or extended by a dotted key; a table made or extended by a dotted key may be extended
by further dotted keys, but not named by a header; a value, and with it an inline table, is closed.
Both headers and dotted keys go through an array of tables into its last element; but that element
belongs to its header, so a dotted key can only reach tables below it.  The nodes of the tree under
construction remember how they came about.

Main definitions:

* `MonitoringPlugins.Toml.Origin`, `MonitoringPlugins.Toml.Node` — how a table came about, and the
  nodes of the tree;
* `MonitoringPlugins.Toml.under` — changing the table at the end of a path of a header;
* `MonitoringPlugins.Toml.openTable`, `MonitoringPlugins.Toml.openElement`,
  `MonitoringPlugins.Toml.assign` — what headers and assignments do;
* `MonitoringPlugins.Toml.Node.finish` — the value of a finished node.
-/

import MonitoringPlugins.Toml.Value

set_option autoImplicit false

namespace MonitoringPlugins.Toml

/-! ### Nodes -/

/-- How a table under construction came about. -/
inductive Origin where
  /-- A header names it. -/
  | named
  /-- A header passes through it. -/
  | passed
  /-- A dotted key made it, or extended it after headers had only passed through it. -/
  | dotted
  deriving DecidableEq

/-- A node of the tree under construction. -/
inductive Node where
  /-- A closed value. -/
  | value (value : Value)
  /-- A table. -/
  | table (origin : Origin) (entries : List (String × Node))
  /-- An array of tables that headers have opened; the last one may still grow. -/
  | tables (elements : List (List (String × Node)))

/-! ### Headers -/

/-- Changes the table at the end of a path of a header; tables that the path is the first to mention
are passed through. -/
def under (change : Table Node → Option (Table Node)) :
    List String → Table Node → Option (Table Node)
  | [], entries => change entries
  | key :: path, entries =>
    match Table.find? key entries with
    | none =>
      (under change path []).map fun inner => Table.insert key (.table .passed inner) entries
    | some (.table origin inner) =>
      (under change path inner).map fun inner => Table.insert key (.table origin inner) entries
    | some (.tables elements) => do
      let last ← elements.getLast?
      let last ← under change path last
      return Table.insert key (.tables (elements.dropLast ++ [last])) entries
    | some (.value _) => none

/-- A header names a table: a new one, or one that has only been passed through. -/
def openTable (path : List String) (key : String) : Table Node → Option (Table Node) :=
  under (fun entries =>
    match Table.find? key entries with
    | none => some (Table.insert key (.table .named []) entries)
    | some (.table .passed inner) => some (Table.insert key (.table .named inner) entries)
    | _ => none) path

/-- A header opens a further element of an array of tables. -/
def openElement (path : List String) (key : String) : Table Node → Option (Table Node) :=
  under (fun entries =>
    match Table.find? key entries with
    | none => some (Table.insert key (.tables [[]]) entries)
    | some (.tables elements) => some (Table.insert key (.tables (elements ++ [[]])) entries)
    | _ => none) path

/-! ### Assignments -/

/-- Assigns a value to a key at the end of a dotted path.  The path leads through tables that no
header names, and from now on none may, and through the last elements of arrays of tables, where it
does not end; no key is assigned twice. -/
def assign (key : String) (value : Value) : List String → Table Node → Option (Table Node)
  | [], entries =>
    match Table.find? key entries with
    | none => some (Table.insert key (.value value) entries)
    | some _ => none
  | part :: path, entries =>
    match Table.find? part entries with
    | none =>
      (assign key value path []).map fun inner =>
        Table.insert part (.table .dotted inner) entries
    | some (.table origin inner) =>
      if origin = .named then none
      else (assign key value path inner).map fun inner =>
        Table.insert part (.table .dotted inner) entries
    | some (.tables elements) =>
      if path.isEmpty then none
      else do
        let last ← elements.getLast?
        let last ← assign key value path last
        return Table.insert part (.tables (elements.dropLast ++ [last])) entries
    | some (.value _) => none

/-! ### Finished trees -/

mutual

/-- The value of a finished node. -/
def Node.finish : Node → Value
  | .value v => v
  | .table _ entries => .table (finishEntries entries)
  | .tables elements => .array (finishElements elements)

/-- The entries of a finished table. -/
def finishEntries : List (String × Node) → List (String × Value)
  | [] => []
  | (key, node) :: rest => (key, node.finish) :: finishEntries rest

/-- The elements of a finished array of tables. -/
def finishElements : List (List (String × Node)) → List Value
  | [] => []
  | entries :: rest => .table (finishEntries entries) :: finishElements rest

end

end MonitoringPlugins.Toml
