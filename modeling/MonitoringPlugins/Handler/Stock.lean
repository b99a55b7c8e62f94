/-
**Stock functions.**

A small set of plug-in functions that need no particular device: they count what they are given,
hand it on, or fail.  Manifests are tried out against them, and they show what a plug-in function
sees — its item, its parameters and the parsed sections at hand.

Main definitions:

* `MonitoringPlugins.Stock.handlers`, `MonitoringPlugins.Stock.table` — the functions under their
  names.
-/

import MonitoringPlugins.Handler.Table
import MonitoringPlugins.Json.Printer

set_option autoImplicit false

namespace MonitoringPlugins.Stock

/-! ### Parse functions -/

/-- The number of rows. -/
def parseRows : AgentParser := fun table => .ok (some (.int table.length))

/-- The rows themselves. -/
def parseTable : AgentParser := fun table => .ok (some (.arr (table.map Json.texts)))

/-- Nothing, from an agent. -/
def parseNoRows : AgentParser := fun _ => .ok none

/-- Fails with the first word of the first line. -/
def failOnRows : AgentParser := fun table =>
  .error (.malformed ((table.head?.bind List.head?).getD "empty"))

/-- The number of tables. -/
def parseTables : SnmpParser := fun tables => .ok (some (.int tables.length))

/-- The number of rows of each table. -/
def parseRowCounts : SnmpParser := fun tables =>
  .ok (some (.arr (tables.map fun table => .int table.length)))

/-- Nothing, from an SNMP walk. -/
def parseNoTables : SnmpParser := fun _ => .ok none

/-- Fails with the number of tables. -/
def failOnTables : SnmpParser := fun tables =>
  .error (.malformed (toString tables.length ++ " tables"))

/-! ### Discovery functions -/

/-- No service. -/
def discoverNone : DiscoveryFunction := fun _ _ => []

/-- One service without item. -/
def discoverSingle : DiscoveryFunction := fun _ _ => [{ item := none }]

/-- One service for each text in the list that the parameters hold under `items`. -/
def discoverItems : DiscoveryFunction := fun parameters _ =>
  match Table.find? "items" parameters with
  | some (.arr items) =>
    items.filterMap fun
      | .str item => some { item := some item }
      | _ => none
  | _ => []

/-- One service that shows the parameters of discovery as its own. -/
def discoverParameters : DiscoveryFunction := fun parameters _ => [{ item := none, parameters }]

/-- One service for each parsed section at hand. -/
def discoverSections : DiscoveryFunction := fun _ sections =>
  sections.keys.map fun name => { item := some name.text }

/-! ### Check functions -/

/-- No result. -/
def checkNone : CheckFunction := fun _ _ _ => []

/-- All is well. -/
def checkOk : CheckFunction := fun _ _ _ => [⟨.ok, "fine"⟩]

/-- Every state once. -/
def checkStates : CheckFunction := fun _ _ _ =>
  [.ok, .warn, .crit, .unknown].map fun state => ⟨state, ""⟩

/-- The state that the parameters hold under `state`; good, if they hold none. -/
def requestedState (parameters : Parameters) : State :=
  match Table.find? "state" parameters with
  | some (.str label) => ([.warn, .crit, .unknown].find? (·.label = label)).getD .ok
  | _ => .ok

/-- Shows the item, and each parsed section at hand, in the requested state. -/
def checkEcho : CheckFunction := fun item parameters sections =>
  ⟨requestedState parameters, "item=" ++ item.getD "-"⟩ ::
    sections.toList.map fun entry => ⟨.ok, entry.1.text ++ "=" ++ entry.2.compress⟩

/-! ### Inventory functions -/

/-- No row. -/
def inventoryNothing : InventoryFunction := fun _ _ => []

/-- One row for each parsed section at hand, with the texts among the parameters as attributes. -/
def inventoryEcho : InventoryFunction := fun parameters sections =>
  let attributes := parameters.filterMap fun
    | (key, .str text) => some (key, text)
    | _ => none
  sections.keys.map fun name => { path := ["sections", name.text], attributes }

/-! ### The table -/

/-- **The stock functions**, by kind and name. -/
def handlers : List (String × Handler) :=
  [("parse_rows", .agentParse parseRows),
    ("parse_table", .agentParse parseTable),
    ("parse_none", .agentParse parseNoRows),
    ("parse_fail", .agentParse failOnRows),
    ("parse_tables", .snmpParse parseTables),
    ("parse_row_counts", .snmpParse parseRowCounts),
    ("parse_none", .snmpParse parseNoTables),
    ("parse_fail", .snmpParse failOnTables),
    ("discover_none", .discovery discoverNone),
    ("discover_single", .discovery discoverSingle),
    ("discover_items", .discovery discoverItems),
    ("discover_params", .discovery discoverParameters),
    ("discover_sections", .discovery discoverSections),
    ("check_none", .check checkNone),
    ("check_ok", .check checkOk),
    ("check_states", .check checkStates),
    ("check_echo", .check checkEcho),
    ("inventory_nothing", .inventory inventoryNothing),
    ("inventory_echo", .inventory inventoryEcho)]

/-- The table of all stock functions. -/
def table : HandlerTable := HandlerTable.ofHandlers handlers

end MonitoringPlugins.Stock
