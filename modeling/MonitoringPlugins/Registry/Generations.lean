/-
**Generations of registries.**

Readers consult the current registry while a new one is built.  A finished registry takes the place
of the current one as a whole, and whoever still reads the old one keeps it unchanged.  A small
change goes through an update: a copy of the current registry is changed and then put in its place,
but only if nobody else has put another registry there meanwhile; otherwise the change is made once
more, on a copy of the newer registry.  A change that gives up leaves everything as others left it.

What others do while a change is being made — and a change may use the store itself — is given as a
list of windows: the first one is open during the first attempt, the second one during the second,
and after the last one nobody interferes.  The callers of a store may remember something between
calls, which is threaded through.

Main definitions:

* `MonitoringPlugins.Generation` — a registry with its number: the state of a store;
* `MonitoringPlugins.Generation.Call`, `MonitoringPlugins.Generation.Report` — uses of a store, and
  what they come to;
* `MonitoringPlugins.Generation.Call.run` — the effect of a call.

Main results:

* `MonitoringPlugins.Generation.Session.attempt_of_error`,
  `MonitoringPlugins.Generation.Session.attempt_of_ok_same`,
  `MonitoringPlugins.Generation.Session.attempt_of_ok_other` — **the three ways an attempt ends**.
-/

import MonitoringPlugins.Registry.Basic
import MonitoringPlugins.Registry.Event

set_option autoImplicit false

namespace MonitoringPlugins

/-! ### Generations -/

/-- A registry that is or was current.  The state of a store is its current generation. -/
structure Generation where
  /-- How many registries were put in the place of the first one up to this one. -/
  number : Nat := 0
  registry : Registry := {}

namespace Generation

/-- The generation that puts a registry in the place of the current one. -/
def next (g : Generation) (registry : Registry) : Generation := ⟨g.number + 1, registry⟩

/-- The number of a generation as it is shown: it starts again after `2 ^ 64` of them. -/
def shownNumber (g : Generation) : UInt64 := UInt64.ofNat g.number

/-- Whether two generations of one store are the same.  Two generations with equal registries may be
different ones. -/
def isSame (g h : Generation) : Bool := g.number = h.number

/-- A store with this current generation, on one line. -/
def describe (g : Generation) : String :=
  Text.record "PluginStore"
    [("generation", toString g.shownNumber.toNat), ("current", g.registry.describe)]

/-! ### Calls -/

variable {σ ε : Type}

/-- A use of a store by callers that remember a `σ`. -/
inductive Call (σ ε : Type) where
  /-- Looks at the current generation. -/
  | load
  /-- Puts a registry in the place of the current one. -/
  | publish (make : σ → σ × Registry)
  /-- Changes a copy of the current registry and puts it in its place.  During the attempts the
  calls of the windows are made. -/
  | update (windows : List (List (Call σ ε))) (change : σ → Registry → σ × Except ε Registry)

/-- What a call comes to. -/
inductive Report (ε : Type) where
  | loaded (current : Generation)
  | published (previous current : Generation)
  | updated (attempts : Nat) (current : Generation)
  | abandoned (attempts : Nat) (reason : ε)

/-- What a call leaves in the log. -/
def Report.event? : Report ε → Option Event
  | published _ current => some (.published current.shownNumber)
  | updated _ current => some (.updated current.shownNumber)
  | loaded _ | abandoned .. => none

/-- A store in use. -/
structure Session (σ ε : Type) where
  current : Generation
  /-- What the callers remember. -/
  memory : σ
  /-- What the calls came to, in the order in which they ended. -/
  reports : List (Report ε) := []

namespace Session

/-- Ends a call. -/
def report (s : Session σ ε) (r : Report ε) : Session σ ε := { s with reports := s.reports ++ [r] }

/-- Puts a registry in the place of the current one. -/
def publish (s : Session σ ε) (make : σ → σ × Registry) : Session σ ε :=
  let (memory, registry) := make s.memory
  let current := s.current.next registry
  { s with memory, current }.report (.published s.current current)

/-- How an attempt at a change ends. -/
inductive Attempt (σ ε : Type) where
  /-- The call is over: the changed copy is current, or the change gave up. -/
  | ended (s : Session σ ε)
  /-- Somebody else was faster, so the change has to be made once more. -/
  | lost (s : Session σ ε)

/-- The store after an attempt. -/
def Attempt.session : Attempt σ ε → Session σ ε
  | ended s | lost s => s

/-- Makes a change on a copy of the generation `start` and tries to put the copy in the place of the
current registry.  If the current generation is another one by now, the attempt is lost: only what
the callers remember may have changed. -/
def attempt (s : Session σ ε) (change : σ → Registry → σ × Except ε Registry) (count : Nat)
    (start : Generation) : Attempt σ ε :=
  let (memory, result) := change s.memory start.registry
  let s := { s with memory }
  match result with
  | .error reason => .ended (s.report (.abandoned count reason))
  | .ok registry =>
    if start.isSame s.current then
      let current := s.current.next registry
      .ended ({ s with current }.report (.updated count current))
    else .lost s

section Attempt

variable {s : Session σ ε} {change : σ → Registry → σ × Except ε Registry} {start : Generation}
  {memory : σ}

/-- A change that gives up ends the call. -/
theorem attempt_of_error {reason : ε} (count : Nat)
    (h : change s.memory start.registry = (memory, .error reason)) :
    s.attempt change count start =
      .ended ({ s with memory }.report (.abandoned count reason)) := by
  simp [attempt, h]

/-- A changed copy takes the place of the generation it was made from. -/
theorem attempt_of_ok_same {registry : Registry} (count : Nat)
    (h : change s.memory start.registry = (memory, .ok registry))
    (hs : start.number = s.current.number) :
    s.attempt change count start =
      .ended ({ s with memory, current := s.current.next registry }.report
        (.updated count (s.current.next registry))) := by
  simp [attempt, h, isSame, hs]

/-- A changed copy of an older generation is discarded. -/
theorem attempt_of_ok_other {registry : Registry} (count : Nat)
    (h : change s.memory start.registry = (memory, .ok registry))
    (hs : start.number ≠ s.current.number) :
    s.attempt change count start = .lost { s with memory } := by
  simp [attempt, h, isSame, hs]

end Attempt

end Session

/-! ### Running calls -/

mutual

/-- **The effect of a call.** -/
def Call.run : Call σ ε → Session σ ε → Session σ ε
  | .load, s => s.report (.loaded s.current)
  | .publish make, s => s.publish make
  | .update windows change, s => runAttempts change 1 windows s

/-- The effect of some calls, one after the other. -/
def runAll : List (Call σ ε) → Session σ ε → Session σ ε
  | [], s => s
  | call :: rest, s => runAll rest (call.run s)

/-- The attempts of an update from number `count` on.  In each of them the calls of its window are
made after the copy is taken. -/
def runAttempts (change : σ → Registry → σ × Except ε Registry) (count : Nat) :
    List (List (Call σ ε)) → Session σ ε → Session σ ε
  | [], s => (s.attempt change count s.current).session
  | window :: rest, s =>
    match (runAll window s).attempt change count s.current with
    | .ended s => s
    | .lost s => runAttempts change (count + 1) rest s

end

end Generation

end MonitoringPlugins
