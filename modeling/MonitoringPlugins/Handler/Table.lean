/-
**Handler tables.**

A manifest cannot hold functions, so it refers to them by name.  A handler table resolves the names,
separately for each kind of function: the same name may stand for a discovery function and for a
check function.  Registering a name again replaces the earlier function.

Main definitions:

* `MonitoringPlugins.HandlerKind`, `MonitoringPlugins.Handler` — the kinds of function, and a
  function of one of them;
* `MonitoringPlugins.HandlerTable` — the functions that manifests may refer to;
* `MonitoringPlugins.HandlerTable.register`, `MonitoringPlugins.HandlerTable.ofHandlers` — building
  a table.

Main results:

* `MonitoringPlugins.HandlerTable.lookup_register` — **a registration changes one name of one kind
  and no other**.
-/

import MonitoringPlugins.Plugin.Check
import MonitoringPlugins.Plugin.Inventory

set_option autoImplicit false

namespace MonitoringPlugins

/-! ### Handlers -/

/-- The kinds of function that a manifest refers to. -/
inductive HandlerKind where
  | agentParse
  | snmpParse
  | discovery
  | check
  | inventory
  deriving DecidableEq

/-- The kind of function, as error messages call it. -/
def HandlerKind.label : HandlerKind → String
  | agentParse => "agent parse function"
  | snmpParse => "SNMP parse function"
  | discovery => "discovery function"
  | check => "check function"
  | inventory => "inventory function"

/-- The type of the functions of a kind. -/
abbrev HandlerKind.Function : HandlerKind → Type
  | agentParse => AgentParser
  | snmpParse => SnmpParser
  | discovery => DiscoveryFunction
  | check => CheckFunction
  | inventory => InventoryFunction

/-- A function of one of the kinds. -/
inductive Handler where
  | agentParse (parse : AgentParser)
  | snmpParse (parse : SnmpParser)
  | discovery (discover : DiscoveryFunction)
  | check (check : CheckFunction)
  | inventory (extract : InventoryFunction)

/-- What a function offers to those who look for a function of a kind: itself, if it is one. -/
def Handler.as? : Handler → (kind : HandlerKind) → Option kind.Function
  | .agentParse f, .agentParse => some f
  | .snmpParse f, .snmpParse => some f
  | .discovery f, .discovery => some f
  | .check f, .check => some f
  | .inventory f, .inventory => some f
  | _, _ => none

/-! ### Tables -/

/-- The functions that manifests may refer to, by name. -/
structure HandlerTable where
  agentParse : Std.ExtTreeMap String AgentParser := ∅
  snmpParse : Std.ExtTreeMap String SnmpParser := ∅
  discovery : Std.ExtTreeMap String DiscoveryFunction := ∅
  check : Std.ExtTreeMap String CheckFunction := ∅
  inventory : Std.ExtTreeMap String InventoryFunction := ∅

namespace HandlerTable

/-- The table without any function. -/
def empty : HandlerTable := {}

/-- Makes a function available under a name, in place of an earlier one of the same kind. -/
def register (table : HandlerTable) (name : String) : Handler → HandlerTable
  | .agentParse f => { table with agentParse := table.agentParse.insert name f }
  | .snmpParse f => { table with snmpParse := table.snmpParse.insert name f }
  | .discovery f => { table with discovery := table.discovery.insert name f }
  | .check f => { table with check := table.check.insert name f }
  | .inventory f => { table with inventory := table.inventory.insert name f }

/-- The table of some registrations, in order. -/
def ofHandlers (handlers : List (String × Handler)) : HandlerTable :=
  handlers.foldl (fun table entry => table.register entry.1 entry.2) empty

/-- The function of a kind under a name. -/
def lookup (table : HandlerTable) : (kind : HandlerKind) → String → Option kind.Function
  | .agentParse, name => table.agentParse[name]?
  | .snmpParse, name => table.snmpParse[name]?
  | .discovery, name => table.discovery[name]?
  | .check, name => table.check[name]?
  | .inventory, name => table.inventory[name]?

/-- The function of a kind under a name, with its kind. -/
def find? (table : HandlerTable) (kind : HandlerKind) (name : String) : Option Handler :=
  match kind with
  | .agentParse => (table.lookup .agentParse name).map .agentParse
  | .snmpParse => (table.lookup .snmpParse name).map .snmpParse
  | .discovery => (table.lookup .discovery name).map .discovery
  | .check => (table.lookup .check name).map .check
  | .inventory => (table.lookup .inventory name).map .inventory

/-- A table on one line: how many functions there are of each kind. -/
def describe (table : HandlerTable) : String :=
  Text.record "HandlerTable"
    [("agent_parse", toString table.agentParse.size),
      ("snmp_parse", toString table.snmpParse.size),
      ("discovery", toString table.discovery.size),
      ("check", toString table.check.size),
      ("inventory", toString table.inventory.size)]

/-! ### Resolution -/

@[simp] theorem lookup_empty (kind : HandlerKind) (name : String) :
    empty.lookup kind name = none := by
  cases kind <;> simp [lookup, empty]

/-- **A registration changes one name of one kind and no other.** -/
theorem lookup_register (table : HandlerTable) (name other : String) (handler : Handler)
    (kind : HandlerKind) :
    (table.register name handler).lookup kind other =
      if name = other then (handler.as? kind).or (table.lookup kind other)
      else table.lookup kind other := by
  cases handler <;> cases kind <;>
    simp only [register, lookup, Handler.as?, Std.ExtTreeMap.getElem?_insert,
      Std.LawfulEqCmp.compare_eq_iff_eq] <;>
    split <;> rfl

end HandlerTable

end MonitoringPlugins
