/-
**Registrations as data.**

Everything that changes a registry is a registration.  A list of registrations is carried out in
order and stops at the first conflict; what was registered before it stays.

Main definitions:

* `MonitoringPlugins.Registration` — one change of a registry;
* `MonitoringPlugins.Registration.perform`, `MonitoringPlugins.Registration.events` — its effect,
  and what it leaves in the log;
* `MonitoringPlugins.Registry.performAll` — carrying out a list of registrations.

Main results:

* `MonitoringPlugins.Registry.performAll_append` — **a list of registrations may be carried out in
  two parts**.
-/

import MonitoringPlugins.Registry.Basic
import MonitoringPlugins.Registry.Event

set_option autoImplicit false

namespace MonitoringPlugins

/-- One change of a registry. -/
inductive Registration where
  | addSection (new : Section)
  | addCheck (new : CheckPlugin)
  | addInventory (new : InventoryPlugin)
  | declareRuleset (use : RulesetUse) (name : RulesetName)
  | setRuleset (use : RulesetUse) (name : RulesetName) (rules : List Rule)

namespace Registration

/-- Carries out a registration. -/
def perform (r : Registry) : Registration → Except ItemConflict Registry
  | addSection new => .ok (r.addSection new)
  | addCheck new => r.addCheck new
  | addInventory new => .ok (r.addInventory new)
  | declareRuleset use name => .ok (r.declareRuleset use name)
  | setRuleset use name rules => .ok (r.setRuleset use name rules)

/-- What the registration of a section says about the definition that it replaces. -/
def replacementEvents (previous new : Section) : List Event :=
  (if previous.parsedName = new.parsedName then []
    else [.parsedNameChanged new.name previous.parsedName new.parsedName]) ++
  (if previous.source = new.source then []
    else [.sourceChanged new.name previous.source new.source])

/-- What a registration leaves in the log. -/
def events (r : Registry) : Registration → List Event
  | addSection new =>
    ((r.findSection? new.name).map (replacementEvents · new)).getD [] ++
      [.sectionRegistered new.name new.parsedName new.source]
  | addCheck new =>
    match r.addCheck new with
    | .ok _ => [.checkRegistered new.name new.checkRuleset]
    | .error _ => []
  | addInventory new => [.inventoryRegistered new.name]
  | declareRuleset .. | setRuleset .. => []

end Registration

/-! ### Lists of registrations -/

/-- How far some registrations got. -/
structure Progress where
  registry : Registry
  /-- What they left in the log. -/
  events : List Event := []
  /-- What they stopped at, if they did not get to the end. -/
  conflict : Option ItemConflict := none

namespace Registry

/-- Carries out registrations in order, up to the first conflict. -/
def performAll (r : Registry) : List Registration → Progress
  | [] => { registry := r }
  | first :: rest =>
    match first.perform r with
    | .error conflict => { registry := r, events := first.events r, conflict := some conflict }
    | .ok r' =>
      let later := r'.performAll rest
      { later with events := first.events r ++ later.events }

@[simp] theorem performAll_nil (r : Registry) : r.performAll [] = { registry := r } := rfl

theorem performAll_cons_ok {r r' : Registry} {first : Registration} (rest : List Registration)
    (h : first.perform r = .ok r') :
    r.performAll (first :: rest) =
      { r'.performAll rest with events := first.events r ++ (r'.performAll rest).events } := by
  simp [performAll, h]

theorem performAll_cons_error {r : Registry} {first : Registration} {conflict : ItemConflict}
    (rest : List Registration) (h : first.perform r = .error conflict) :
    r.performAll (first :: rest) =
      { registry := r, events := first.events r, conflict := some conflict } := by
  simp [performAll, h]

/-- **A list of registrations may be carried out in two parts**; the second part is not reached if
the first one stops. -/
theorem performAll_append (r : Registry) (first second : List Registration) :
    r.performAll (first ++ second) =
      match (r.performAll first).conflict with
      | some _ => r.performAll first
      | none =>
        let later := (r.performAll first).registry.performAll second
        { later with events := (r.performAll first).events ++ later.events } := by
  induction first generalizing r with
  | nil => simp
  | cons a rest ih =>
    cases h : a.perform r with
    | error conflict => simp [performAll_cons_error _ h]
    | ok r' =>
      simp only [List.cons_append, performAll_cons_ok _ h, ih]
      split <;> simp_all

end Registry

end MonitoringPlugins
