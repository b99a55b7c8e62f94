/-
**Updates are atomic.**

An update works on a copy and may have to start over, with a change that is run anew each time and
may give up at any attempt.  To its caller and to everybody else it looks like one step all the
same.  If the last run of the change succeeds, the update has changed the very registry that it
replaces; if it gives up, the update has done nothing; and of the runs that were discarded nothing
is left.

An attempt is lost if the number of the current generation is another one than at its start.  That
this happens exactly if somebody else made a registry current meanwhile, even an equal one, is what
the history of the calls made meanwhile says: each of its steps adds one to the number, and without
a step nothing changes.

Updates of several callers may also overlap in other ways than one being made during an attempt of
another.  So the same is shown for callers whose attempts are interleaved at will: each of them
holds the generation that it copied, until it tries to replace it.

Main definitions:

* `MonitoringPlugins.Generation.Round` — an attempt together with what others do meanwhile;
* `MonitoringPlugins.Generation.Retries` — the rounds of an update: those that are lost, and the
  last;
* `MonitoringPlugins.Generation.Callers`, `MonitoringPlugins.Generation.Callers.move` — callers
  whose attempts overlap, and what one of them does next.

Main results:

* `MonitoringPlugins.Generation.Round.interfered_iff` — **the number of the current generation tells
  whether there was interference**;
* `MonitoringPlugins.Generation.Round.interfered_iff_exists`,
  `MonitoringPlugins.Generation.Round.interfered_of_publish` — so do the calls: a publication always
  interferes;
* `MonitoringPlugins.Generation.runAttempts_retries` — an update ends as its last round ends;
* `MonitoringPlugins.Generation.Callers.move_swap_of_current` — what is made of a copy that is still
  current becomes current;
* `MonitoringPlugins.Generation.Callers.moves_continue` — interleaved attempts continue one history;
* `MonitoringPlugins.Generation.updates_linearizable` — **updates are atomic**, in either way.
-/

import Mathlib.Logic.Function.Basic
import MonitoringPlugins.Proofs.LinearHistory
import MonitoringPlugins.Proofs.Runs

set_option autoImplicit false

namespace MonitoringPlugins.Generation

variable {σ ε : Type}

/-! ### Rounds -/

/-- An attempt at an update together with the calls that others make before its copy is put in
place. -/
structure Round (σ ε : Type) where
  /-- The store when the copy is taken. -/
  start : Session σ ε
  window : List (Call σ ε)

namespace Round

/-- The store when the copy is to be put in place. -/
def atSwap (a : Round σ ε) : Session σ ε := runAll a.window a.start

/-- What others made current during the round. -/
def interference (a : Round σ ε) : List Generation :=
  commits (a.atSwap.reports.drop a.start.reports.length)

/-- Whether others made something current during the round, be it an equal registry. -/
def Interfered (a : Round σ ε) : Prop := a.interference ≠ []

variable (change : σ → Registry → σ × Except ε Registry)

/-- What the change makes of the copy. -/
def result (a : Round σ ε) : σ × Except ε Registry :=
  change a.atSwap.memory a.start.current.registry

/-- Whether the change succeeds. -/
def Succeeds (a : Round σ ε) : Prop := ∃ registry, (a.result change).2 = .ok registry

/-- The store after a round that is lost: nothing but what the callers remember tells of it. -/
def afterLoss (a : Round σ ε) : Session σ ε := { a.atSwap with memory := (a.result change).1 }

/-- The store after a round that is not lost. -/
def finish (a : Round σ ε) (count : Nat) : Session σ ε :=
  match (a.result change).2 with
  | .ok registry =>
    { a.afterLoss change with current := a.atSwap.current.next registry }.report
      (.updated count (a.atSwap.current.next registry))
  | .error reason => (a.afterLoss change).report (.abandoned count reason)

/-- What the others do continues the history by their steps. -/
theorem atSwap_continues (a : Round σ ε) :
    a.start.Continues (fun g h => ∃ call ∈ a.window, call.Commits g h) a.atSwap :=
  runAll_continues a.window a.start

/-- **The number of the current generation tells whether there was interference.** -/
theorem interfered_iff (a : Round σ ε) :
    a.Interfered ↔ a.start.current.number ≠ a.atSwap.current.number := by
  obtain ⟨reports, hreports, hhistory⟩ := a.atSwap_continues
  have hnumber := hhistory.number_eq fun g h ⟨_, _, step⟩ => step.number_eq
  have hinterference : a.interference = commits reports := by
    rw [interference, hreports, List.drop_left]
  rw [Interfered, hinterference, ← List.length_pos_iff]
  omega

/-- There is interference exactly if one of the calls makes something current when its turn
comes. -/
theorem interfered_iff_exists (a : Round σ ε) :
    a.Interfered ↔ ∃ before call after, a.window = before ++ call :: after ∧
      (runAll before a.start).current.number <
        (call.run (runAll before a.start)).current.number := by
  have hle : a.start.current.number ≤ a.atSwap.current.number := number_le_runAll a.window a.start
  rw [interfered_iff, ← number_lt_runAll_iff]
  exact ⟨Nat.lt_of_le_of_ne hle, Nat.ne_of_lt⟩

/-- **A publication interferes**, be it of an equal registry. -/
theorem interfered_of_publish {a : Round σ ε} {make : σ → σ × Registry}
    (h : .publish make ∈ a.window) : a.Interfered := by
  obtain ⟨before, after, hwindow⟩ := List.append_of_mem h
  exact a.interfered_iff_exists.2 ⟨before, _, after, hwindow, Nat.lt_succ_self _⟩

/-- Without interference the round ends with the generation it started from. -/
theorem current_eq (a : Round σ ε) (h : ¬ a.Interfered) : a.start.current = a.atSwap.current := by
  have hnumber : a.start.current.number = a.atSwap.current.number := by
    by_contra hne
    exact h (a.interfered_iff.2 hne)
  exact a.atSwap_continues.eq_of_number (fun g h ⟨_, _, step⟩ => step.number_eq) hnumber

/-- An attempt is lost exactly if its change succeeds and others interfered. -/
theorem attempt_of_interfered (a : Round σ ε) (count : Nat) (hok : a.Succeeds change)
    (h : a.Interfered) :
    a.atSwap.attempt change count a.start.current = .lost (a.afterLoss change) := by
  obtain ⟨registry, hr⟩ := hok
  have hresult : change a.atSwap.memory a.start.current.registry =
      ((a.result change).1, .ok registry) := Prod.ext rfl hr
  exact Session.attempt_of_ok_other count hresult (a.interfered_iff.1 h)

theorem attempt_of_not_interfered (a : Round σ ε) (count : Nat)
    (h : a.Succeeds change → ¬ a.Interfered) :
    a.atSwap.attempt change count a.start.current = .ended (a.finish change count) := by
  cases hr : (a.result change).2 with
  | error reason =>
      have hresult : change a.atSwap.memory a.start.current.registry =
          ((a.result change).1, .error reason) := Prod.ext rfl hr
      rw [Session.attempt_of_error count hresult, finish, hr]
      rfl
  | ok registry =>
      have hresult : change a.atSwap.memory a.start.current.registry =
          ((a.result change).1, .ok registry) := Prod.ext rfl hr
      have hsame := congrArg Generation.number (a.current_eq (h ⟨registry, hr⟩))
      rw [Session.attempt_of_ok_same count hresult hsame, finish, hr]
      rfl

end Round

/-! ### The rounds of an update -/

/-- `Retries change windows s lost last` says that an update that starts at `s` takes the rounds
`lost` and then `last`.  Each round has the next window.  In every round that is lost the change
succeeded and others interfered, and the next round starts from what they left; if the change
succeeds in the last round, nobody interfered. -/
inductive Retries (change : σ → Registry → σ × Except ε Registry) :
    List (List (Call σ ε)) → Session σ ε → List (Round σ ε) → Round σ ε → Prop
  | last (windows : List (List (Call σ ε))) (s : Session σ ε)
      (kept : Round.Succeeds change ⟨s, windows.headD []⟩ →
        ¬ Round.Interfered ⟨s, windows.headD []⟩) :
      Retries change windows s [] ⟨s, windows.headD []⟩
  | lost {window : List (Call σ ε)} {rest : List (List (Call σ ε))} {s : Session σ ε}
      {later : List (Round σ ε)} {last : Round σ ε} (ok : Round.Succeeds change ⟨s, window⟩)
      (interfered : Round.Interfered ⟨s, window⟩)
      (again : Retries change rest (Round.afterLoss change ⟨s, window⟩) later last) :
      Retries change (window :: rest) s (⟨s, window⟩ :: later) last

/-- An update ends as its last round ends. -/
theorem runAttempts_retries (change : σ → Registry → σ × Except ε Registry) (count : Nat)
    (windows : List (List (Call σ ε))) (s : Session σ ε) :
    ∃ lost last, Retries change windows s lost last ∧
      runAttempts change count windows s = last.finish change (count + lost.length) := by
  induction windows generalizing count s with
  | nil =>
      -- after the last window there is nobody to interfere
      have hnone : ¬ Round.Interfered (⟨s, []⟩ : Round σ ε) := fun h =>
        (Round.interfered_iff _).1 h rfl
      refine ⟨[], ⟨s, []⟩, .last [] s fun _ => hnone, ?_⟩
      have hattempt := Round.attempt_of_not_interfered change ⟨s, []⟩ count fun _ => hnone
      exact congrArg Session.Attempt.session hattempt
  | cons window rest ih =>
      by_cases hlost : Round.Succeeds change ⟨s, window⟩ ∧ Round.Interfered ⟨s, window⟩
      · obtain ⟨hok, hinterfered⟩ := hlost
        have hattempt := Round.attempt_of_interfered change ⟨s, window⟩ count hok hinterfered
        obtain ⟨lost, last, hretries, hrun⟩ :=
          ih (count + 1) (Round.afterLoss change ⟨s, window⟩)
        refine ⟨⟨s, window⟩ :: lost, last, .lost hok hinterfered hretries, ?_⟩
        rw [List.length_cons, Nat.add_comm lost.length, ← Nat.add_assoc, ← hrun, runAttempts]
        exact hattempt ▸ rfl
      · have hkept : Round.Succeeds change ⟨s, window⟩ → ¬ Round.Interfered ⟨s, window⟩ := by
          intro hok hinterfered
          exact hlost ⟨hok, hinterfered⟩
        have hattempt := Round.attempt_of_not_interfered change ⟨s, window⟩ count hkept
        refine ⟨[], ⟨s, window⟩, .last (window :: rest) s hkept, ?_⟩
        rw [runAttempts]
        exact hattempt ▸ rfl

/-- Up to the end of its last round an update takes no steps, only the others do. -/
theorem Retries.continues {change : σ → Registry → σ × Except ε Registry}
    {windows : List (List (Call σ ε))} {s : Session σ ε} {lost : List (Round σ ε)}
    {last : Round σ ε} (h : Retries change windows s lost last) :
    s.Continues (fun g h => ∃ window ∈ windows, ∃ call ∈ window, call.Commits g h) last.atSwap := by
  induction h with
  | last windows s _ =>
      refine (Round.atSwap_continues ⟨s, windows.headD []⟩).mono ?_
      rintro g h ⟨call, hc, step⟩
      cases windows with
      | nil => cases hc
      | cons window rest => exact ⟨window, List.mem_cons_self, call, hc, step⟩
  | @lost window rest s later last ok interfered again ih =>
      -- a round that is lost leaves what the others left
      have hround : s.Continues (fun g h => ∃ call ∈ window, call.Commits g h)
          (Round.afterLoss change ⟨s, window⟩) := Round.atSwap_continues ⟨s, window⟩
      refine (hround.mono ?_).trans (ih.mono ?_)
      · rintro g h ⟨call, hc, step⟩
        exact ⟨window, List.mem_cons_self, call, hc, step⟩
      · rintro g h ⟨w, hw, call, hc, step⟩
        exact ⟨w, List.mem_cons_of_mem window hw, call, hc, step⟩

/-- In its last round a change that succeeds is made on the registry that it replaces. -/
theorem Retries.current_eq {change : σ → Registry → σ × Except ε Registry}
    {windows : List (List (Call σ ε))} {s : Session σ ε} {lost : List (Round σ ε)}
    {last : Round σ ε} (h : Retries change windows s lost last) (ok : last.Succeeds change) :
    last.start.current = last.atSwap.current := by
  induction h with
  | last windows s kept => exact Round.current_eq _ (kept ok)
  | lost _ _ _ ih => exact ih ok

/-! ### Overlapping updates -/

/-- What a caller may do next while others use the store. -/
inductive Move (ι σ : Type) where
  /-- Copies the current generation for an attempt at its update. -/
  | pin (caller : ι)
  /-- Changes the copy and tries to put it in place. -/
  | swap (caller : ι)
  /-- Puts a registry in the place of the current one. -/
  | publish (make : σ → σ × Registry)

/-- A store in use by callers whose updates overlap. -/
structure Callers (ι σ ε : Type) where
  session : Session σ ε
  /-- The generations that were copied for the attempts under way. -/
  pinned : ι → Option Generation
  /-- How many attempts at the updates under way were lost. -/
  lost : ι → Nat

namespace Callers

variable {ι : Type}

/-- No update is under way. -/
def idle (s : Session σ ε) : Callers ι σ ε := ⟨s, fun _ => none, fun _ => 0⟩

/-- The generations that were copied are current, or older than the current one. -/
def Consistent (c : Callers ι σ ε) : Prop :=
  ∀ i g, c.pinned i = some g → g.number ≤ c.session.current.number ∧
    (g.number = c.session.current.number → g = c.session.current)

/-- Steps of a history make copied generations older. -/
theorem Consistent.of_continues {step : Generation → Generation → Prop} {c d : Callers ι σ ε}
    (h : c.Consistent) (hstep : ∀ a b, step a b → b.number = a.number + 1)
    (hcontinues : c.session.Continues step d.session)
    (hpinned : ∀ i g, d.pinned i = some g → c.pinned i = some g ∨ g = d.session.current) :
    d.Consistent := by
  have hnumber := hcontinues.number_le hstep
  intro i g hg
  rcases hpinned i g hg with hbefore | rfl
  · obtain ⟨hle, hsame⟩ := h i g hbefore
    refine ⟨by omega, fun he => ?_⟩
    have hsession := hcontinues.eq_of_number hstep (by omega)
    rw [← hsession] at he ⊢
    exact hsame he
  · exact ⟨Nat.le_refl _, fun _ => rfl⟩

variable [DecidableEq ι] (change : ι → σ → Registry → σ × Except ε Registry)

/-- What a caller does next.  After a lost attempt it has to copy the current generation anew. -/
def move (c : Callers ι σ ε) : Move ι σ → Callers ι σ ε
  | .pin i => { c with pinned := Function.update c.pinned i (some c.session.current) }
  | .swap i =>
    match c.pinned i with
    | none => c
    | some start =>
      let pinned := Function.update c.pinned i none
      match c.session.attempt (change i) (c.lost i + 1) start with
      | .ended session => ⟨session, pinned, Function.update c.lost i 0⟩
      | .lost session => ⟨session, pinned, Function.update c.lost i (c.lost i + 1)⟩
  | .publish make => { c with session := c.session.publish make }

/-- The callers after some moves. -/
def run (c : Callers ι σ ε) (moves : List (Move ι σ)) : Callers ι σ ε :=
  moves.foldl (move change) c

/-- The call that a move may complete. -/
def call? : Move ι σ → Option (Call σ ε)
  | .pin _ => none
  | .swap i => some (.update [] (change i))
  | .publish make => some (.publish make)

variable {change}

/-- **What the change makes of a copy that is still current becomes current**, and the caller is
told so. -/
theorem move_swap_of_current {c : Callers ι σ ε} {i : ι} {start : Generation} {registry : Registry}
    (hpinned : c.pinned i = some start) (hcurrent : start.number = c.session.current.number)
    (hok : (change i c.session.memory start.registry).2 = .ok registry) :
    (c.move change (.swap i)).session.current = c.session.current.next registry ∧
      (c.move change (.swap i)).session.reports =
        c.session.reports ++ [.updated (c.lost i + 1) (c.session.current.next registry)] := by
  have hresult : change i c.session.memory start.registry =
      ((change i c.session.memory start.registry).1, .ok registry) := Prod.ext rfl hok
  rw [move, hpinned]
  dsimp only
  rw [Session.attempt_of_ok_same _ hresult hcurrent]
  exact ⟨rfl, rfl⟩

/-- **A move continues the history by the call that it completes**, or not at all. -/
theorem move_continues {c : Callers ι σ ε} (h : c.Consistent) (m : Move ι σ) :
    c.session.Continues (fun g h => ∃ call ∈ call? change m, call.Commits g h)
      (c.move change m).session := by
  cases m with
  | pin i => exact .refl _
  | publish make =>
      refine ((Call.publish make).run_continues c.session).mono ?_
      intro g h step
      exact ⟨.publish make, rfl, step⟩
  | swap i =>
      simp only [move]
      cases hp : c.pinned i with
      | none => exact .refl _
      | some start =>
          have hattempt : c.session.Continues
              (fun g h => ∃ call ∈ call? change (.swap i), call.Commits g h)
              (c.session.attempt (change i) (c.lost i + 1) start).session := by
            refine (c.session.attempt_continues [] (change i) _ start (h i start hp).2).mono ?_
            intro g h step
            exact ⟨.update [] (change i), rfl, step⟩
          dsimp only
          cases ha : c.session.attempt (change i) (c.lost i + 1) start with
          | ended s => rwa [ha] at hattempt
          | lost s => rwa [ha] at hattempt

theorem Consistent.move {c : Callers ι σ ε} (h : c.Consistent) (m : Move ι σ) :
    (c.move change m).Consistent := by
  refine h.of_continues (fun g h ⟨_, _, step⟩ => step.number_eq) (move_continues h m) ?_
  intro j g hg
  cases m with
  | publish make => exact .inl hg
  | pin i =>
      simp only [Callers.move] at hg
      by_cases hj : j = i
      · subst hj
        rw [Function.update_self] at hg
        exact .inr (Option.some.inj hg).symm
      · rw [Function.update_of_ne hj] at hg
        exact .inl hg
  | swap i =>
      -- a caller that tries to put its copy in place lets go of it
      have hkept (hg : Function.update c.pinned i none j = some g) : c.pinned j = some g := by
        by_cases hj : j = i
        · subst hj
          simp at hg
        · rwa [Function.update_of_ne hj] at hg
      simp only [Callers.move] at hg
      cases hp : c.pinned i with
      | none =>
          rw [hp] at hg
          exact .inl hg
      | some start =>
          rw [hp] at hg
          dsimp only at hg
          cases ha : c.session.attempt (change i) (c.lost i + 1) start with
          | ended s =>
              rw [ha] at hg
              exact .inl (hkept hg)
          | lost s =>
              rw [ha] at hg
              exact .inl (hkept hg)

/-- **Interleaved attempts continue one history**, in which every call that is completed is one
step, or none. -/
theorem moves_continue {c : Callers ι σ ε} (h : c.Consistent) (moves : List (Move ι σ)) :
    c.session.Continues (fun g h => ∃ call ∈ moves.filterMap (call? change), call.Commits g h)
      (c.run change moves).session := by
  induction moves generalizing c with
  | nil => exact .refl _
  | cons m rest ih =>
      have hmoved : (c.move change m).Consistent := h.move m
      refine Session.Continues.trans ((move_continues h m).mono ?_) ((ih hmoved).mono ?_)
      · rintro g h ⟨call, hc, step⟩
        exact ⟨call, List.mem_filterMap.2 ⟨m, List.mem_cons_self, hc⟩, step⟩
      · rintro g h ⟨call, hc, step⟩
        obtain ⟨n, hn, hcall⟩ := List.mem_filterMap.1 hc
        exact ⟨call, List.mem_filterMap.2 ⟨n, List.mem_cons_of_mem m hn, hcall⟩, step⟩

end Callers

/-! ### Both together -/

/-- **Updates are atomic.**  Let others make the calls of the windows during the attempts of an
update.  Then exactly the attempts whose change succeeded while others made something current are
lost.  If the change succeeds in the last attempt, it is made on the very registry that is current
before the copy is put in its place.  If it gives up, what others left stays.  And updates whose
attempts are interleaved in any other way continue one history, too, in which each of them is at
most one step. -/
theorem updates_linearizable :
    (∀ (windows : List (List (Call σ ε))) (change : σ → Registry → σ × Except ε Registry)
      (s : Session σ ε), ∃ lost last, Retries change windows s lost last ∧
        s.Continues (fun g h => ∃ window ∈ windows, ∃ call ∈ window, call.Commits g h)
          last.atSwap ∧
        (∀ registry, (last.result change).2 = .ok registry →
          (change last.atSwap.memory last.atSwap.current.registry).2 = .ok registry ∧
          ((Call.update windows change).run s).current = last.atSwap.current.next registry ∧
          ((Call.update windows change).run s).reports = last.atSwap.reports ++
            [.updated (lost.length + 1) (last.atSwap.current.next registry)]) ∧
        ∀ reason, (last.result change).2 = .error reason →
          ((Call.update windows change).run s).current = last.atSwap.current ∧
          ((Call.update windows change).run s).reports =
            last.atSwap.reports ++ [.abandoned (lost.length + 1) reason]) ∧
    ∀ {ι : Type} [DecidableEq ι] (change : ι → σ → Registry → σ × Except ε Registry)
      (moves : List (Move ι σ)) (s : Session σ ε),
        s.Continues (fun g h => ∃ call ∈ moves.filterMap (Callers.call? change), call.Commits g h)
          ((Callers.idle s).run change moves).session := by
  constructor
  · intro windows change s
    obtain ⟨lost, last, hretries, hrun⟩ := runAttempts_retries change 1 windows s
    have hcall : (Call.update windows change).run s = last.finish change (lost.length + 1) := by
      rw [Call.run, hrun, Nat.add_comm]
    refine ⟨lost, last, hretries, hretries.continues, ?_, ?_⟩
    · intro registry hr
      have hsame := hretries.current_eq ⟨registry, hr⟩
      rw [hcall, Round.finish, hr]
      refine ⟨?_, rfl, rfl⟩
      rw [← hsame]
      exact hr
    · intro reason hr
      rw [hcall, Round.finish, hr]
      exact ⟨rfl, rfl⟩
  · intro ι _ change moves s
    refine Callers.moves_continue ?_ moves
    intro i g hg
    cases hg

/-- A change that declares a ruleset. -/
def declaring (name : RulesetName) (memory : Nat) (r : Registry) : Nat × Except String Registry :=
  (memory, .ok (r.declareRuleset .discovery name))

/-- A change that succeeds once and gives up from then on. -/
def wavering (attempts : Nat) (r : Registry) : Nat × Except String Registry :=
  if attempts = 0 then (1, .ok (r.declareRuleset .discovery .groups))
  else (attempts + 1, .error "no further attempt")

/-- A store without registrations, and what others do during the attempts at an update: they publish
the registry that is current already, and then make an update of their own. -/
def racing : Session Nat String × List (List (Call Nat String)) :=
  ({ current := {}, memory := 0 },
    [[.publish fun memory => (memory, {})], [.update [] (declaring .filesystems)]])

/-- The changes of two callers. -/
def overlapping (second : Bool) : Nat → Registry → Nat × Except String Registry :=
  declaring (if second then .groups else .filesystems)

/-- Both callers copy the same registry.  The first one puts its copy in place, and the second one,
who comes too late, has to copy anew. -/
def overlappingMoves : List (Move Bool Nat) :=
  [.pin false, .pin true, .swap false, .swap true, .pin true, .swap true]

/-- Both interferences cost an attempt, and all changes are there in the end.  A change that gives
up when it is made again leaves what the others left.  Of two callers whose attempts overlap one
loses an attempt, and neither change gets lost. -/
theorem updates_linearizable_racing :
    (∃ lost last, Retries (declaring .groups) racing.2 racing.1 lost last ∧ lost.length = 2 ∧
      Round.Interfered ⟨racing.1, racing.2.headD []⟩ ∧
      let final := (Call.update racing.2 (declaring .groups)).run racing.1
      final.current.number = 3 ∧ final.current.registry.rulesets.Knows .filesystems ∧
        final.current.registry.rulesets.Knows .groups) ∧
    (∃ lost last, Retries wavering racing.2 racing.1 lost last ∧ lost.length = 1 ∧
      let final := (Call.update racing.2 wavering).run racing.1
      final.current = last.atSwap.current ∧ final.current.number = 2 ∧
        final.current.registry.rulesets.Knows .filesystems ∧
        ¬final.current.registry.rulesets.Knows .groups) ∧
    (let before := (Callers.idle racing.1).run overlapping overlappingMoves.dropLast
      let final := (Callers.idle racing.1).run overlapping overlappingMoves
      racing.1.Continues
        (fun g h => ∃ call ∈ overlappingMoves.filterMap (Callers.call? overlapping),
          call.Commits g h) final.session ∧
      before.lost true = 1 ∧ before.session.current.registry.rulesets.Knows .filesystems ∧
      final.session.current = before.session.current.next
        (before.session.current.registry.declareRuleset .discovery .groups)) := by
  refine ⟨?_, ?_, ?_⟩
  · obtain ⟨lost, last, hretries, -, hok, -⟩ :=
      updates_linearizable.1 racing.2 (declaring .groups) racing.1
    obtain ⟨-, -, hreports⟩ := hok _ rfl
    refine ⟨lost, last, hretries, ?_, Round.interfered_of_publish List.mem_cons_self, by rfl,
      by decide, by decide⟩
    have hlast := congrArg List.getLast? hreports
    rw [List.getLast?_concat] at hlast
    have hcount : Report.updated 3 _ = Report.updated (lost.length + 1) _ := Option.some.inj hlast
    injection hcount with hcount
    omega
  · obtain ⟨lost, last, hretries, -, hok, herror⟩ :=
      updates_linearizable.1 racing.2 wavering racing.1
    have hlast : ((Call.update racing.2 wavering).run racing.1).reports.getLast? =
        some (.abandoned 2 "no further attempt") := by rfl
    cases hr : (last.result wavering).2 with
    | ok registry =>
        obtain ⟨-, -, hreports⟩ := hok registry hr
        rw [hreports, List.getLast?_concat] at hlast
        cases hlast
    | error reason =>
        obtain ⟨hcurrent, hreports⟩ := herror reason hr
        rw [hreports, List.getLast?_concat] at hlast
        have hcount : Report.abandoned (lost.length + 1) reason = Report.abandoned 2 _ :=
          Option.some.inj hlast
        injection hcount with hcount
        exact ⟨lost, last, hretries, by omega, hcurrent, by rfl, by decide, by decide⟩
  · have hcontinues := updates_linearizable.2 overlapping overlappingMoves racing.1
    refine ⟨hcontinues, by rfl, by decide, ?_⟩
    -- the second caller's last copy is still current when it is put in place
    change (((Callers.idle racing.1).run overlapping overlappingMoves.dropLast).move overlapping
      (.swap true)).session.current = _
    exact (Callers.move_swap_of_current rfl rfl rfl).1

end MonitoringPlugins.Generation
