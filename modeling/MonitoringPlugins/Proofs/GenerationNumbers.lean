/-
**Counting generations.**

The number of the current generation counts the publications and the successful updates of a store.
Calls may be nested: while an update makes its change, the store may be used in any way, other
generations may become current, and the update may then have to start over or give up.  So this
module looks at every point of a run, also at those during an attempt, and says what the calls
completed up to there tell about the store: which generation is current, which number it has, and
what is in the log.

All of it follows from the fact that the reports of a run tell a history.  The generation from which
a history goes on is the last one that became current before, and each step adds one to the number.

Main definitions:

* `MonitoringPlugins.Generation.Visits` — the states of a store during calls, however deep they are
  nested;
* `MonitoringPlugins.Generation.Callers.Use` — what callers whose updates overlap may do, looking at
  the store included;
* `MonitoringPlugins.Generation.Session.Counted` — **what is counted, logged and returned**.

Main results:

* `MonitoringPlugins.Generation.History.current_eq`,
  `MonitoringPlugins.Generation.History.numbers_eq`,
  `MonitoringPlugins.Generation.History.events_eq` — what a history says about its end, about the
  numbers and about the log;
* `MonitoringPlugins.Generation.Visits.continues` — **every point of a run continues the history**;
* `MonitoringPlugins.Generation.generations_counted` — **generations are counted**, at every point
  of every run.
-/

import MonitoringPlugins.Proofs.AtomicUpdates

set_option autoImplicit false

namespace MonitoringPlugins.Generation

variable {σ ε : Type}

/-! ### What histories say -/

/-- A generation is the successor of another one if its number is the next one. -/
def Successor (g h : Generation) : Prop := h.number = g.number + 1

/-- The generation that the reported calls leave current, if `g` was current before them. -/
def latestCommit (g : Generation) (reports : List (Report ε)) : Generation :=
  (commits reports).getLastD g

/-- The event that a call leaves in the log, but for its number. -/
def Report.entry? : Report ε → Option (UInt64 → Event)
  | published .. => some Event.published
  | updated .. => some Event.updated
  | loaded _ | abandoned .. => none

/-- The events that the reported calls leave in the log if they are numbered from `start` on. -/
def numberedEvents (start : Nat) (reports : List (Report ε)) : List Event :=
  ((reports.filterMap Report.entry?).zipIdx start).map fun (entry, k) => entry (UInt64.ofNat k)

namespace History

variable {g h : Generation} {reports before after : List (Report ε)}

/-- A history may be cut anywhere. -/
theorem exists_of_append {step : Generation → Generation → Prop}
    (all : History step g (before ++ after) h) :
    ∃ m, History step g before m ∧ History step m after h := by
  induction before generalizing g with
  | nil => exact ⟨g, .nil g, all⟩
  | cons report rest ih =>
      cases all with
      | loaded later =>
          obtain ⟨m, hfirst, hsecond⟩ := ih later
          exact ⟨m, .loaded hfirst, hsecond⟩
      | published now later =>
          obtain ⟨m, hfirst, hsecond⟩ := ih later
          exact ⟨m, .published now hfirst, hsecond⟩
      | updated attempts now later =>
          obtain ⟨m, hfirst, hsecond⟩ := ih later
          exact ⟨m, .updated attempts now hfirst, hsecond⟩
      | abandoned attempts reason later =>
          obtain ⟨m, hfirst, hsecond⟩ := ih later
          exact ⟨m, .abandoned attempts reason hfirst, hsecond⟩

/-- **A history ends with the last generation that became current.** -/
theorem current_eq {step : Generation → Generation → Prop} (all : History step g reports h) :
    h = latestCommit g reports := by
  induction all with
  | nil g => rfl
  | loaded _ ih => exact ih
  | @published g g' h rest now _ ih =>
      have hcommits : commits (.published g g' :: rest) = g' :: commits rest := rfl
      rw [latestCommit, hcommits, List.getLastD_cons]
      exact ih
  | @updated g g' h rest attempts now _ ih =>
      have hcommits : commits (.updated attempts g' :: rest) = g' :: commits rest := rfl
      rw [latestCommit, hcommits, List.getLastD_cons]
      exact ih
  | abandoned _ _ _ ih => exact ih

/-- **The generations that become current are numbered one after the other.** -/
theorem numbers_eq (all : History Successor g reports h) :
    (commits reports).map Generation.number =
      List.range' (g.number + 1) (commits reports).length := by
  induction all with
  | nil g => rfl
  | loaded _ ih => exact ih
  | @published g g' h rest now _ ih =>
      have hcommits : commits (.published g g' :: rest) = g' :: commits rest := rfl
      have hnumber : g'.number = g.number + 1 := now
      rw [hcommits, List.map_cons, ih, List.length_cons, List.range'_succ, hnumber]
  | @updated g g' h rest attempts now _ ih =>
      have hcommits : commits (.updated attempts g' :: rest) = g' :: commits rest := rfl
      have hnumber : g'.number = g.number + 1 := now
      rw [hcommits, List.map_cons, ih, List.length_cons, List.range'_succ, hnumber]
  | abandoned _ _ _ ih => exact ih

/-- **Every generation that becomes current leaves one event with its number**, and nothing else
leaves any. -/
theorem events_eq (all : History Successor g reports h) :
    reports.filterMap Report.event? = numberedEvents (g.number + 1) reports := by
  induction all with
  | nil g => rfl
  | loaded _ ih => exact ih
  | @published g g' h rest now _ ih =>
      have hnumber : g'.number = g.number + 1 := now
      have hentries : numberedEvents (g.number + 1) (.published g g' :: rest) =
          .published (UInt64.ofNat g'.number) :: numberedEvents (g'.number + 1) rest := by
        rw [hnumber]
        rfl
      rw [hentries, ← ih]
      rfl
  | @updated g g' h rest attempts now _ ih =>
      have hnumber : g'.number = g.number + 1 := now
      have hentries : numberedEvents (g.number + 1) (.updated attempts g' :: rest) =
          .updated (UInt64.ofNat g'.number) :: numberedEvents (g'.number + 1) rest := by
        rw [hnumber]
        rfl
      rw [hentries, ← ih]
      rfl
  | abandoned _ _ _ ih => exact ih

/-- A publication returns what was made current last before it. -/
theorem previous_eq {step : Generation → Generation → Prop} {previous current : Generation}
    (all : History step g (before ++ .published previous current :: after) h) :
    previous = latestCommit g before := by
  obtain ⟨m, hbefore, hrest⟩ := exists_of_append all
  cases hrest with
  | published _ _ => exact hbefore.current_eq

/-- Whoever looks at the store sees what was made current last before. -/
theorem loaded_eq {step : Generation → Generation → Prop} {shown : Generation}
    (all : History step g (before ++ .loaded shown :: after) h) :
    shown = latestCommit g before := by
  obtain ⟨m, hbefore, hrest⟩ := exists_of_append all
  cases hrest with
  | loaded _ => exact hbefore.current_eq

end History

/-! ### What is counted -/

/-- Whether a call is a publication. -/
def Report.isPublication : Report ε → Bool
  | published .. => true
  | loaded _ | updated .. | abandoned .. => false

/-- Whether a call is an update that succeeded. -/
def Report.isUpdate : Report ε → Bool
  | updated .. => true
  | loaded _ | published .. | abandoned .. => false

/-- Publications and successful updates make one generation current each. -/
theorem length_commits (reports : List (Report ε)) :
    (commits reports).length =
      reports.countP Report.isPublication + reports.countP Report.isUpdate := by
  induction reports with
  | nil => rfl
  | cons report rest ih =>
      rw [List.countP_cons, List.countP_cons]
      cases report with
      | loaded shown => exact ih
      | published previous current =>
          have hcommits : commits (.published previous current :: rest) =
              current :: commits rest := rfl
          rw [hcommits, List.length_cons, ih]
          simp only [Report.isPublication, Report.isUpdate, Bool.false_eq_true, if_true, if_false]
          omega
      | updated attempts current =>
          have hcommits : commits (.updated attempts current :: rest) =
              current :: commits rest := rfl
          rw [hcommits, List.length_cons, ih]
          simp only [Report.isPublication, Report.isUpdate, Bool.false_eq_true, if_true, if_false]
          omega
      | abandoned attempts reason => exact ih

/-- **What is counted, logged and returned** up to some point of a run that begins with a registry:
the calls completed so far tell which generation is current and what its number is, the generations
that became current are numbered from one on and have one event each, and publications and whoever
looks at the store get the generation that became current last before. -/
structure Session.Counted (first : Registry) (s : Session σ ε) : Prop where
  current : s.current = latestCommit ⟨0, first⟩ s.reports
  number : s.current.shownNumber.toNat =
    (s.reports.countP Report.isPublication + s.reports.countP Report.isUpdate) % UInt64.size
  numbers : (commits s.reports).map Generation.number = List.range' 1 (commits s.reports).length
  events : s.reports.filterMap Report.event? = numberedEvents 1 s.reports
  published : ∀ before previous current after,
    s.reports = before ++ .published previous current :: after →
      previous = latestCommit ⟨0, first⟩ before
  loaded : ∀ before shown after, s.reports = before ++ .loaded shown :: after →
    shown = latestCommit ⟨0, first⟩ before

/-- A store that is new, with callers who remember something. -/
def Session.start (first : Registry) (memory : σ) : Session σ ε := { current := ⟨0, first⟩, memory }

/-- **What continues the history of a new store is counted.** -/
theorem Session.Continues.counted {first : Registry} {memory : σ} {t : Session σ ε}
    (h : (Session.start first memory).Continues Successor t) : t.Counted first := by
  obtain ⟨reports, hreports, hhistory⟩ := h
  obtain rfl : t.reports = reports := hreports
  constructor
  · exact hhistory.current_eq
  · have hnumber := hhistory.number_eq fun a b step => step
    have hzero : (Session.start first memory : Session σ ε).current.number = 0 := rfl
    rw [shownNumber, UInt64.toNat_ofNat', hnumber, hzero, Nat.zero_add, length_commits]
  · exact hhistory.numbers_eq
  · exact hhistory.events_eq
  · intro before previous current after hsplit
    rw [hsplit] at hhistory
    exact hhistory.previous_eq
  · intro before shown after hsplit
    rw [hsplit] at hhistory
    exact hhistory.loaded_eq

/-! ### The points of a run -/

mutual

/-- `Visits calls s t` says that `t` is the state of the store at some point while the calls are
made from `s` on: before the first call, during or after one of them. -/
inductive Visits : List (Call σ ε) → Session σ ε → Session σ ε → Prop
  | now (calls : List (Call σ ε)) (s : Session σ ε) : Visits calls s s
  | later {call : Call σ ε} {rest : List (Call σ ε)} {s t : Session σ ε}
      (h : Visits rest (call.run s) t) : Visits (call :: rest) s t
  | during {windows : List (List (Call σ ε))} {change : σ → Registry → σ × Except ε Registry}
      {rest : List (Call σ ε)} {s t : Session σ ε} (h : VisitsAttempts change 1 windows s t) :
      Visits (.update windows change :: rest) s t

/-- `VisitsAttempts change count windows s t` says the same of the attempts of an update from number
`count` on: `t` is a state during the calls of a window. -/
inductive VisitsAttempts : (σ → Registry → σ × Except ε Registry) → Nat →
    List (List (Call σ ε)) → Session σ ε → Session σ ε → Prop
  | window {change : σ → Registry → σ × Except ε Registry} {count : Nat}
      {window : List (Call σ ε)} {rest : List (List (Call σ ε))} {s t : Session σ ε}
      (h : Visits window s t) : VisitsAttempts change count (window :: rest) s t
  | again {change : σ → Registry → σ × Except ε Registry} {count : Nat}
      {window : List (Call σ ε)} {rest : List (List (Call σ ε))} {s s' t : Session σ ε}
      (lost : (runAll window s).attempt change count s.current = .lost s')
      (h : VisitsAttempts change (count + 1) rest s' t) :
      VisitsAttempts change count (window :: rest) s t

end

/-- A call continues the history by successors. -/
theorem Call.run_continues_successor (call : Call σ ε) (s : Session σ ε) :
    s.Continues Successor (call.run s) :=
  (call.run_continues s).mono fun _ _ step => step.number_eq

/-- So does an attempt that is lost, with the calls made meanwhile. -/
theorem lost_continues_successor {change : σ → Registry → σ × Except ε Registry} {count : Nat}
    {window : List (Call σ ε)} {s t : Session σ ε}
    (lost : (runAll window s).attempt change count s.current = .lost t) :
    s.Continues Successor t := by
  have hwindow : s.Continues Successor (runAll window s) := by
    refine (runAll_continues window s).mono fun _ _ h => ?_
    obtain ⟨call, -, step⟩ := h
    exact step.number_eq
  -- if the number is the same after the window, so is the generation that the change was made to
  have hattempt := (runAll window s).attempt_continues [] change count s.current
    (hwindow.eq_of_number fun _ _ step => step)
  rw [lost] at hattempt
  exact hwindow.trans (hattempt.mono fun _ _ step => step.number_eq)

mutual

/-- **Every point of a run continues the history.** -/
theorem Visits.continues {calls : List (Call σ ε)} {s t : Session σ ε} :
    Visits calls s t → s.Continues Successor t
  | .now _ s => .refl s
  | @Visits.later _ _ call _ s _ h => (call.run_continues_successor s).trans h.continues
  | .during h => h.continues

theorem VisitsAttempts.continues {change : σ → Registry → σ × Except ε Registry} {count : Nat}
    {windows : List (List (Call σ ε))} {s t : Session σ ε} :
    VisitsAttempts change count windows s t → s.Continues Successor t
  | .window h => h.continues
  | .again lost h => (lost_continues_successor lost).trans h.continues

end

/-- The end of a run is a point of it. -/
theorem visits_runAll (calls : List (Call σ ε)) (s : Session σ ε) :
    Visits calls s (runAll calls s) := by
  induction calls generalizing s with
  | nil => exact .now [] s
  | cons call rest ih => exact .later (ih (call.run s))

/-! ### Overlapping updates -/

namespace Callers

variable {ι : Type} [DecidableEq ι] {change : ι → σ → Registry → σ × Except ε Registry}

/-- What a caller may do next, looking at the store included. -/
inductive Use (ι σ : Type) where
  | load
  | move (m : Move ι σ)

/-- What a caller does next. -/
def use (change : ι → σ → Registry → σ × Except ε Registry) (c : Callers ι σ ε) :
    Use ι σ → Callers ι σ ε
  | .load => { c with session := c.session.report (.loaded c.session.current) }
  | .move m => c.move change m

/-- The callers after some uses. -/
def useAll (change : ι → σ → Registry → σ × Except ε Registry) (c : Callers ι σ ε)
    (uses : List (Use ι σ)) : Callers ι σ ε :=
  uses.foldl (use change) c

/-- **Whatever callers do continues the history**, and leaves no copy that is newer than the current
generation. -/
theorem use_continues {c : Callers ι σ ε} (h : c.Consistent) (u : Use ι σ) :
    c.session.Continues Successor (c.use change u).session ∧ (c.use change u).Consistent := by
  cases u with
  | load => exact ⟨⟨[.loaded c.session.current], rfl, .loaded (.nil _)⟩, h⟩
  | move m =>
      have hmove : c.session.Continues
          (fun g h => ∃ call ∈ call? change m, call.Commits g h) (c.move change m).session :=
        move_continues h m
      exact ⟨hmove.mono fun _ _ ⟨_, _, step⟩ => step.number_eq, h.move m⟩

theorem useAll_continues {c : Callers ι σ ε} (h : c.Consistent) (uses : List (Use ι σ)) :
    c.session.Continues Successor (c.useAll change uses).session := by
  induction uses generalizing c with
  | nil => exact .refl c.session
  | cons u rest ih =>
      have hfirst : c.session.Continues Successor (c.use change u).session := (use_continues h u).1
      have hconsistent : (c.use change u).Consistent := (use_continues h u).2
      exact hfirst.trans (ih hconsistent)

end Callers

/-! ### Every point of every run -/

/-- **Generations are counted**, at every point of every run of a new store: while calls are made
that may be nested in updates, which may have to start over or give up, and while callers take turns
with their updates at will. -/
theorem generations_counted (first : Registry) (memory : σ) :
    (∀ (calls : List (Call σ ε)) (t : Session σ ε), Visits calls (.start first memory) t →
      t.Counted first) ∧
    ∀ {ι : Type} [DecidableEq ι] (change : ι → σ → Registry → σ × Except ε Registry)
      (uses : List (Callers.Use ι σ)),
        ((Callers.idle (.start first memory)).useAll change uses).session.Counted first := by
  constructor
  · intro calls t h
    exact h.continues.counted
  · intro ι _ change uses
    have hidle : (Callers.idle (.start first memory) : Callers ι σ ε).Consistent := by
      -- nobody has a copy yet
      intro i g hg
      cases hg
    exact (Callers.useAll_continues hidle uses).counted

/-- An update with a wavering change.  During its first attempt a registry is published; during the
second one another update is made, and somebody looks at the store. -/
def waveringCalls : List (Call Nat String) :=
  [.update
    [[.publish fun attempts => (attempts, {})],
      [.update [] fun attempts r => (attempts, .ok (r.declareRuleset .discovery .filesystems)),
        .load]]
    wavering]

/-- When somebody looks at the store, the update is still under way and two generations are counted;
after it has given up there are no more. -/
theorem generations_counted_waveringCalls :
    (∃ t, Visits waveringCalls (.start {} 0) t ∧ t.Counted {} ∧ t.reports.length = 3 ∧
      t.current.number = 2 ∧ (commits t.reports).length = 2) ∧
    (runAll waveringCalls (.start {} 0)).Counted {} ∧
    (runAll waveringCalls (.start {} 0)).reports.length = 4 ∧
    (runAll waveringCalls (.start {} 0)).reports.filterMap Report.event? =
      [.published 1, .updated 2] := by
  have hcounted : ∀ t : Session Nat String, Visits waveringCalls (.start {} 0) t → t.Counted {} :=
    (generations_counted {} 0).1 waveringCalls
  have hend : Visits waveringCalls (.start {} 0) (runAll waveringCalls (.start {} 0)) :=
    visits_runAll waveringCalls _
  have hlook : ∃ t : Session Nat String, Visits waveringCalls (.start {} 0) t ∧
      t.reports.length = 3 ∧ t.current.number = 2 ∧ (commits t.reports).length = 2 :=
    ⟨_, .during (.again (by rfl) (.window (.later (.later (.now [] _))))), by rfl, by rfl, by rfl⟩
  obtain ⟨t, hvisits, hreports, hnumber, hcommits⟩ := hlook
  exact ⟨⟨t, hvisits, hcounted t hvisits, hreports, hnumber, hcommits⟩, hcounted _ hend, by rfl,
    by rfl⟩

end MonitoringPlugins.Generation
