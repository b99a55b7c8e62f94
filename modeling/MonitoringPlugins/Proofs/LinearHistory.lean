/-
**The history of a store.**

Calls of a store overlap: during the attempts of an update other calls are made, which may be
updates themselves.  All the same a store has one history.  Each call that puts a registry in the
place of the current one does so in one step, and works on the very generation that it replaces; the
reports of the calls, in the order in which the calls end, tell these steps one after the other.

Main definitions:

* `MonitoringPlugins.Generation.Call.Commits` — the step that a call may take;
* `MonitoringPlugins.Generation.History` — reports that tell a history from one generation to
  another;
* `MonitoringPlugins.Generation.Session.Continues` — what a session adds to an earlier one is such a
  history;
* `MonitoringPlugins.Generation.commits` — the generations that became current, as reports tell;
* `MonitoringPlugins.Generation.Call.Keeps` — calls that keep a property of registries.

Main results:

* `MonitoringPlugins.Generation.runAll_continues` — **whatever calls are made, their reports tell a
  history**;
* `MonitoringPlugins.Generation.Call.reports_run_publish` — a publication leaves one report;
* `MonitoringPlugins.Generation.number_lt_runAll_iff` — calls make something current exactly if one
  of them does;
* `MonitoringPlugins.Generation.History.number_eq`,
  `MonitoringPlugins.Generation.History.eq_of_commits` — the number of a generation counts the
  steps, and without a step nothing changes;
* `MonitoringPlugins.Generation.registries_runAll` — **what all calls keep holds of every registry
  that the store shows**.
-/

import MonitoringPlugins.Registry.Generations

set_option autoImplicit false

namespace MonitoringPlugins.Generation

variable {σ ε : Type}

/-! ### Steps -/

/-- `call.Commits g h` says that the call may put `h` in the place of `g` in one step: a publication
puts a registry of its own there, and an update what its change makes of the registry of `g`.  The
calls made during an update take steps of their own. -/
inductive Call.Commits : Call σ ε → Generation → Generation → Prop
  | publish (make : σ → σ × Registry) (memory : σ) (g : Generation) :
      Commits (.publish make) g (g.next (make memory).2)
  | update (windows : List (List (Call σ ε))) {change : σ → Registry → σ × Except ε Registry}
      {memory : σ} {g : Generation} {registry : Registry}
      (h : (change memory g.registry).2 = .ok registry) :
      Commits (.update windows change) g (g.next registry)
  | nested {windows : List (List (Call σ ε))} {window : List (Call σ ε)} {call : Call σ ε}
      (change : σ → Registry → σ × Except ε Registry) {g h : Generation} (hw : window ∈ windows)
      (hc : call ∈ window) (step : Commits call g h) : Commits (.update windows change) g h

theorem Call.Commits.number_eq {call : Call σ ε} {g h : Generation} (step : call.Commits g h) :
    h.number = g.number + 1 := by
  induction step with
  | publish make memory g => rfl
  | update windows h => rfl
  | nested change hw hc step ih => exact ih

/-- An update with fewer windows takes fewer steps. -/
theorem Call.Commits.of_windows {windows more : List (List (Call σ ε))}
    {change : σ → Registry → σ × Except ε Registry} {g h : Generation}
    (step : (Call.update windows change).Commits g h) (hsub : windows ⊆ more) :
    (Call.update more change).Commits g h := by
  cases step with
  | update _ hr => exact .update more hr
  | nested _ hw hc step => exact .nested change (hsub hw) hc step

/-! ### Histories -/

/-- **Reports that tell a history.**  Each report speaks of the generation that is current when its
call ends, and the current generation changes by steps only. -/
inductive History (step : Generation → Generation → Prop) :
    Generation → List (Report ε) → Generation → Prop
  | nil (g : Generation) : History step g [] g
  | loaded {g h : Generation} {rest : List (Report ε)} (later : History step g rest h) :
      History step g (.loaded g :: rest) h
  | published {g g' h : Generation} {rest : List (Report ε)} (now : step g g')
      (later : History step g' rest h) : History step g (.published g g' :: rest) h
  | updated {g g' h : Generation} {rest : List (Report ε)} (attempts : Nat) (now : step g g')
      (later : History step g' rest h) : History step g (.updated attempts g' :: rest) h
  | abandoned {g h : Generation} {rest : List (Report ε)} (attempts : Nat) (reason : ε)
      (later : History step g rest h) : History step g (.abandoned attempts reason :: rest) h

/-- The generation that a call made current, as its report tells. -/
def Report.commit? : Report ε → Option Generation
  | published _ current => some current
  | updated _ current => some current
  | loaded _ | abandoned .. => none

/-- The generations that became current, as reports tell. -/
def commits (reports : List (Report ε)) : List Generation := reports.filterMap Report.commit?

/-- The generations that a report shows to its caller. -/
def Report.generations : Report ε → List Generation
  | loaded current => [current]
  | published previous current => [previous, current]
  | updated _ current => [current]
  | abandoned .. => []

namespace History

variable {step more : Generation → Generation → Prop} {g h k : Generation}
  {reports later : List (Report ε)}

theorem append (first : History step g reports h) (second : History step h later k) :
    History step g (reports ++ later) k := by
  induction first with
  | nil => exact second
  | loaded _ ih => exact .loaded (ih second)
  | published now _ ih => exact .published now (ih second)
  | updated attempts now _ ih => exact .updated attempts now (ih second)
  | abandoned attempts reason _ ih => exact .abandoned attempts reason (ih second)

theorem mono (first : History step g reports h) (hsub : ∀ a b, step a b → more a b) :
    History more g reports h := by
  induction first with
  | nil g => exact .nil g
  | loaded _ ih => exact .loaded ih
  | published now _ ih => exact .published (hsub _ _ now) ih
  | updated attempts now _ ih => exact .updated attempts (hsub _ _ now) ih
  | abandoned attempts reason _ ih => exact .abandoned attempts reason ih

/-- **The number of a generation counts the steps.** -/
theorem number_eq (first : History step g reports h)
    (hstep : ∀ a b, step a b → b.number = a.number + 1) :
    h.number = g.number + (commits reports).length := by
  induction first with
  | nil => rfl
  | loaded _ ih => exact ih
  | published now _ ih =>
      rw [ih, hstep _ _ now]
      simp only [commits, Report.commit?, List.filterMap_cons, List.length_cons]
      omega
  | updated attempts now _ ih =>
      rw [ih, hstep _ _ now]
      simp only [commits, Report.commit?, List.filterMap_cons, List.length_cons]
      omega
  | abandoned attempts reason _ ih => exact ih

/-- Without a step nothing changes. -/
theorem eq_of_commits (first : History step g reports h) (hnone : commits reports = []) :
    h = g := by
  induction first with
  | nil => rfl
  | loaded _ ih => exact ih hnone
  | published => simp [commits, Report.commit?] at hnone
  | updated => simp [commits, Report.commit?] at hnone
  | abandoned _ _ _ ih => exact ih hnone

/-- **What every step keeps holds of every registry that the reports show.** -/
theorem registries {P : Registry → Prop} (first : History step g reports h)
    (hstep : ∀ a b, step a b → P a.registry → P b.registry) (hg : P g.registry) :
    P h.registry ∧ ∀ report ∈ reports, ∀ shown ∈ report.generations, P shown.registry := by
  induction first with
  | nil => exact ⟨hg, by simp⟩
  | loaded _ ih =>
      obtain ⟨hlast, hrest⟩ := ih hg
      refine ⟨hlast, ?_⟩
      simpa [Report.generations, hg] using hrest
  | published now _ ih =>
      have hnow := hstep _ _ now hg
      obtain ⟨hlast, hrest⟩ := ih hnow
      refine ⟨hlast, ?_⟩
      simpa [Report.generations, hg, hnow] using hrest
  | updated attempts now _ ih =>
      have hnow := hstep _ _ now hg
      obtain ⟨hlast, hrest⟩ := ih hnow
      refine ⟨hlast, ?_⟩
      simpa [Report.generations, hnow] using hrest
  | abandoned attempts reason _ ih =>
      obtain ⟨hlast, hrest⟩ := ih hg
      refine ⟨hlast, ?_⟩
      simpa [Report.generations] using hrest

end History

/-! ### Sessions -/

namespace Session

/-- What a session adds to an earlier one is a history. -/
def Continues (step : Generation → Generation → Prop) (s t : Session σ ε) : Prop :=
  ∃ reports, t.reports = s.reports ++ reports ∧ History step s.current reports t.current

/-- The registries that are current or were shown to a caller. -/
def registries (s : Session σ ε) : List Registry :=
  s.current.registry :: (s.reports.flatMap Report.generations).map (·.registry)

namespace Continues

variable {step more : Generation → Generation → Prop} {s t u : Session σ ε}

theorem refl (s : Session σ ε) : s.Continues step s := ⟨[], by simp, .nil _⟩

theorem trans (first : s.Continues step t) (second : t.Continues step u) : s.Continues step u := by
  obtain ⟨reports, ht, hfirst⟩ := first
  obtain ⟨later, hu, hsecond⟩ := second
  exact ⟨reports ++ later, by rw [hu, ht, List.append_assoc], hfirst.append hsecond⟩

theorem mono (first : s.Continues step t) (hsub : ∀ a b, step a b → more a b) :
    s.Continues more t := by
  obtain ⟨reports, ht, hfirst⟩ := first
  exact ⟨reports, ht, hfirst.mono hsub⟩

end Continues

end Session

/-! ### Calls continue the history -/

/-- An attempt at a change of the generation that is current then, or of an older one, ends the call
with a step or without one, or is lost. -/
theorem Session.attempt_continues (s : Session σ ε) (windows : List (List (Call σ ε)))
    (change : σ → Registry → σ × Except ε Registry) (count : Nat) (start : Generation)
    (hsame : start.number = s.current.number → start = s.current) :
    s.Continues (Call.update windows change).Commits (s.attempt change count start).session := by
  rcases hc : change s.memory start.registry with ⟨memory, result⟩
  cases result with
  | error reason =>
      rw [Session.attempt_of_error count hc]
      exact ⟨[.abandoned count reason], rfl, .abandoned count reason (.nil _)⟩
  | ok registry =>
      by_cases hs : start.number = s.current.number
      · rw [Session.attempt_of_ok_same count hc hs]
        have hstep : (Call.update windows change).Commits s.current (s.current.next registry) :=
          .update windows (by rw [← hsame hs, hc])
        exact ⟨[.updated count (s.current.next registry)], rfl, .updated count hstep (.nil _)⟩
      · rw [Session.attempt_of_ok_other count hc hs]
        exact ⟨[], by simp [Session.Attempt.session], .nil _⟩

/-- Numbers do not get smaller. -/
theorem Session.Continues.number_le {step : Generation → Generation → Prop} {s t : Session σ ε}
    (h : s.Continues step t) (hstep : ∀ a b, step a b → b.number = a.number + 1) :
    s.current.number ≤ t.current.number := by
  obtain ⟨reports, -, hhistory⟩ := h
  rw [hhistory.number_eq hstep]
  exact Nat.le_add_right _ _

/-- A history that leads back to the same number leads back to the same generation. -/
theorem Session.Continues.eq_of_number {step : Generation → Generation → Prop}
    {s t : Session σ ε} (h : s.Continues step t)
    (hstep : ∀ a b, step a b → b.number = a.number + 1) (hn : s.current.number = t.current.number) :
    s.current = t.current := by
  obtain ⟨reports, -, hhistory⟩ := h
  have hlength := hhistory.number_eq hstep
  have hnone : commits reports = [] := List.eq_nil_of_length_eq_zero (by omega)
  exact (hhistory.eq_of_commits hnone).symm

/-- **A publication leaves one report**, of the generation that it replaces and the one that it
makes current. -/
theorem Call.reports_run_publish (make : σ → σ × Registry) (s : Session σ ε) :
    ((Call.publish make).run s).reports =
      s.reports ++ [.published s.current (s.current.next (make s.memory).2)] := rfl

mutual

/-- **A call continues the history by its own steps.** -/
theorem Call.run_continues : ∀ (call : Call σ ε) (s : Session σ ε),
    s.Continues call.Commits (call.run s)
  | .load, s => ⟨[.loaded s.current], rfl, .loaded (.nil _)⟩
  | .publish make, s =>
    ⟨_, Call.reports_run_publish make s, .published (.publish make s.memory s.current) (.nil _)⟩
  | .update windows change, s => runAttempts_continues change 1 windows s

/-- **Whatever calls are made, their reports tell a history.** -/
theorem runAll_continues : ∀ (calls : List (Call σ ε)) (s : Session σ ε),
    s.Continues (fun g h => ∃ call ∈ calls, call.Commits g h) (runAll calls s)
  | [], s => .refl s
  | call :: rest, s => by
    have hfirst : s.Continues (fun g h => ∃ c ∈ call :: rest, c.Commits g h) (call.run s) :=
      (call.run_continues s).mono fun g h step => ⟨call, List.mem_cons_self, step⟩
    have hrest : (call.run s).Continues (fun g h => ∃ c ∈ call :: rest, c.Commits g h)
        (runAll rest (call.run s)) :=
      (runAll_continues rest (call.run s)).mono
        fun g h ⟨c, hc, step⟩ => ⟨c, List.mem_cons_of_mem _ hc, step⟩
    exact hfirst.trans hrest

theorem runAttempts_continues (change : σ → Registry → σ × Except ε Registry) (count : Nat) :
    ∀ (windows : List (List (Call σ ε))) (s : Session σ ε),
      s.Continues (Call.update windows change).Commits (runAttempts change count windows s)
  | [], s => s.attempt_continues [] change count s.current fun _ => rfl
  | window :: rest, s => by
    -- the calls of the window come first, then the attempt, on the generation from before them
    have hothers := runAll_continues window s
    have hwindow : s.Continues (Call.update (window :: rest) change).Commits (runAll window s) :=
      hothers.mono fun g h ⟨call, hc, step⟩ => .nested change List.mem_cons_self hc step
    have hattempt := (runAll window s).attempt_continues (window :: rest) change count s.current
      (hothers.eq_of_number fun g h ⟨_, _, step⟩ => step.number_eq)
    rw [runAttempts]
    cases ha : (runAll window s).attempt change count s.current with
    | ended t =>
        rw [ha] at hattempt
        exact hwindow.trans hattempt
    | lost t =>
        rw [ha] at hattempt
        have hlater := (runAttempts_continues change (count + 1) rest t).mono
          fun g h step => step.of_windows (List.subset_cons_self window rest)
        exact (hwindow.trans hattempt).trans hlater

end

/-! ### Calls that make something current -/

theorem Call.number_le_run (call : Call σ ε) (s : Session σ ε) :
    s.current.number ≤ (call.run s).current.number :=
  (call.run_continues s).number_le fun _ _ step => step.number_eq

theorem number_le_runAll (calls : List (Call σ ε)) (s : Session σ ε) :
    s.current.number ≤ (runAll calls s).current.number :=
  (runAll_continues calls s).number_le fun _ _ ⟨_, _, step⟩ => step.number_eq

/-- **Calls make something current exactly if one of them does** when its turn comes. -/
theorem number_lt_runAll_iff {calls : List (Call σ ε)} {s : Session σ ε} :
    s.current.number < (runAll calls s).current.number ↔
      ∃ before call after, calls = before ++ call :: after ∧
        (runAll before s).current.number < (call.run (runAll before s)).current.number := by
  induction calls generalizing s with
  | nil =>
      constructor
      · intro h
        exact absurd h (Nat.lt_irrefl _)
      · rintro ⟨before, call, after, hsplit, -⟩
        exact absurd hsplit (by simp)
  | cons first rest ih =>
      rw [runAll]
      constructor
      · intro h
        by_cases hfirst : s.current.number < (first.run s).current.number
        · exact ⟨[], first, rest, rfl, hfirst⟩
        · have hrest : (first.run s).current.number < (runAll rest (first.run s)).current.number :=
            Nat.lt_of_le_of_lt (Nat.le_of_not_lt hfirst) h
          obtain ⟨before, call, after, rfl, hcall⟩ := ih.1 hrest
          exact ⟨first :: before, call, after, rfl, hcall⟩
      · rintro ⟨before, call, after, hsplit, hcall⟩
        cases before with
        | nil =>
            cases hsplit
            exact Nat.lt_of_lt_of_le hcall (number_le_runAll rest (first.run s))
        | cons b before =>
            cases hsplit
            have hrest := ih.2 ⟨before, call, after, rfl, hcall⟩
            exact Nat.lt_of_le_of_lt (first.number_le_run s) hrest

/-! ### Properties that calls keep -/

/-- Calls that keep a property of registries: a publication puts only such registries in the place
of the current one, and a change makes such a registry of one. -/
inductive Call.Keeps (P : Registry → Prop) : Call σ ε → Prop
  | load : Keeps P .load
  | publish {make : σ → σ × Registry} (h : ∀ memory, P (make memory).2) : Keeps P (.publish make)
  | update {windows : List (List (Call σ ε))} {change : σ → Registry → σ × Except ε Registry}
      (h : ∀ memory r r', P r → (change memory r).2 = .ok r' → P r')
      (hw : ∀ window ∈ windows, ∀ call ∈ window, Keeps P call) : Keeps P (.update windows change)

theorem Call.Keeps.of_commits {P : Registry → Prop} {call : Call σ ε} {g h : Generation}
    (keeps : call.Keeps P) (step : call.Commits g h) (hg : P g.registry) : P h.registry := by
  induction step with
  | publish make memory g =>
      cases keeps with
      | publish hmake => exact hmake memory
  | update windows hr =>
      cases keeps with
      | update hchange _ => exact hchange _ _ _ hg hr
  | nested change hw hc _ ih =>
      cases keeps with
      | update _ hwindows => exact ih (hwindows _ hw _ hc) hg

/-- **What all calls keep holds of every registry that the store shows.** -/
theorem registries_runAll {P : Registry → Prop} {calls : List (Call σ ε)} {s : Session σ ε}
    (keeps : ∀ call ∈ calls, call.Keeps P) (hs : ∀ r ∈ s.registries, P r) :
    ∀ r ∈ (runAll calls s).registries, P r := by
  obtain ⟨reports, hreports, hhistory⟩ := runAll_continues calls s
  have hstep : ∀ g h, (∃ call ∈ calls, call.Commits g h) → P g.registry → P h.registry := by
    rintro g h ⟨call, hc, step⟩ hg
    exact (keeps call hc).of_commits step hg
  obtain ⟨hlast, hshown⟩ := hhistory.registries hstep (hs _ List.mem_cons_self)
  intro r hr
  rcases List.mem_cons.1 hr with rfl | hr
  · exact hlast
  · rw [hreports, List.flatMap_append, List.map_append, List.mem_append] at hr
    rcases hr with hr | hr
    · exact hs r (List.mem_cons_of_mem _ hr)
    · obtain ⟨shown, hmem, rfl⟩ := List.mem_map.1 hr
      obtain ⟨report, hreport, hmem⟩ := List.mem_flatMap.1 hmem
      exact hshown report hreport shown hmem

end MonitoringPlugins.Generation
