/-
**A registry under construction.**

Plug-ins are loaded by several loaders that share one registry.  Each registration has the registry
for itself, so the registrations of all loaders form one sequence, and the item consistency check
sees every plug-in that was registered before.  When loading is done the registry is taken out.

Main definitions:

* `MonitoringPlugins.Loader` — a registry that loaders share;
* `MonitoringPlugins.Loader.perform`, `MonitoringPlugins.Loader.access` — one registration, and any
  other use of the registry;
* `MonitoringPlugins.Loader.finish` — the finished registry.
-/

import MonitoringPlugins.Registry.Registration

set_option autoImplicit false

namespace MonitoringPlugins

/-- A registry that loaders share. -/
structure Loader where
  registry : Registry := {}

namespace Loader

/-- Carries out a registration; a conflict leaves the registry as it is. -/
def perform (l : Loader) (a : Registration) : Except ItemConflict Loader :=
  (a.perform l.registry).map Loader.mk

/-- Uses the registry while nobody else does. -/
def access {α : Type} (l : Loader) (use : Registry → Registry × α) : Loader × α :=
  let (registry, result) := use l.registry
  (⟨registry⟩, result)

/-- The finished registry. -/
def finish (l : Loader) : Registry := l.registry

end Loader

end MonitoringPlugins
