/-
**The first fault counts.**

A definition is made in steps, and the first step that fails settles the error.  What can be wrong
is listed here as causes, in the order of the steps: each cause says which errors it has, and has
none where nothing is wrong.  A computation then fails exactly with the error of the first cause
that applies, and this can be read off its steps: what follows a step adds its causes behind those
of the step, and a list of steps has the causes of the first one, then those of the second one, and
so on.

Main definitions:

* `MonitoringPlugins.Cause`, `MonitoringPlugins.FirstOf` — causes, and the error of the first one
  that applies;
* `MonitoringPlugins.FailsBy` — **a computation fails by the first of its causes**, and only then.

Main results:

* `MonitoringPlugins.firstOf_append_iff`, `MonitoringPlugins.firstOf_flatMap_iff` — causes one after
  the other;
* `MonitoringPlugins.FailsBy.bind`, `MonitoringPlugins.FailsBy.mapM`,
  `MonitoringPlugins.FailsBy.mapError` — the causes of a computation, step by step;
* `MonitoringPlugins.FailsBy.exists_ok_iff` — it succeeds exactly if no cause applies.
-/

set_option autoImplicit false

namespace MonitoringPlugins

variable {ε ε' α β : Type}

/-! ### Causes -/

/-- Something that may be wrong: the errors that it leads to, and none if it is not the case. -/
abbrev Cause (ε : Type) := ε → Prop

/-- Nothing of the kind is wrong. -/
def Cause.Absent (c : Cause ε) : Prop := ∀ e, ¬c e

/-- The same thing, reported differently. -/
def Cause.reportedAs (f : ε → ε') (c : Cause ε) : Cause ε' := fun e => ∃ d, c d ∧ f d = e

/-- **The error of the first cause that applies.** -/
def FirstOf (causes : List (Cause ε)) (e : ε) : Prop :=
  ∃ before cause after, causes = before ++ cause :: after ∧ (∀ c ∈ before, c.Absent) ∧ cause e

theorem not_firstOf_nil (e : ε) : ¬FirstOf [] e := by
  rintro ⟨before, cause, after, h, -, -⟩
  exact List.append_ne_nil_of_right_ne_nil _ (List.cons_ne_nil _ _) h.symm

theorem firstOf_cons_iff {c : Cause ε} {causes : List (Cause ε)} {e : ε} :
    FirstOf (c :: causes) e ↔ c e ∨ c.Absent ∧ FirstOf causes e := by
  constructor
  · rintro ⟨before, cause, after, h, hbefore, hcause⟩
    rcases List.cons_eq_append_iff.1 h with ⟨-, hhead⟩ | ⟨rest, rfl, hrest⟩
    · cases hhead
      exact .inl hcause
    · obtain ⟨hc, hpassed⟩ := List.forall_mem_cons.1 hbefore
      exact .inr ⟨hc, rest, cause, after, hrest, hpassed, hcause⟩
  · rintro (hc | ⟨hc, before, cause, after, rfl, hbefore, hcause⟩)
    · exact ⟨[], c, causes, rfl, nofun, hc⟩
    · exact ⟨c :: before, cause, after, rfl, List.forall_mem_cons.2 ⟨hc, hbefore⟩, hcause⟩

/-- There is a first one as soon as there is one. -/
theorem forall_absent_iff {causes : List (Cause ε)} :
    (∀ c ∈ causes, c.Absent) ↔ ∀ e, ¬FirstOf causes e := by
  induction causes with
  | nil => exact ⟨fun _ => not_firstOf_nil, fun _ => nofun⟩
  | cons c rest ih =>
      simp only [List.forall_mem_cons, ih, firstOf_cons_iff, not_or, not_and]
      constructor
      · rintro ⟨hc, hrest⟩ e
        exact ⟨hc e, fun _ => hrest e⟩
      · intro h
        have hc : c.Absent := fun e => (h e).1
        exact ⟨hc, fun e => (h e).2 hc⟩

/-- **Later causes count if no earlier one applies.** -/
theorem firstOf_append_iff {first second : List (Cause ε)} {e : ε} :
    FirstOf (first ++ second) e ↔
      FirstOf first e ∨ (∀ c ∈ first, c.Absent) ∧ FirstOf second e := by
  induction first with
  | nil => simp [not_firstOf_nil]
  | cons c rest ih =>
      rw [List.cons_append, firstOf_cons_iff, firstOf_cons_iff, ih, List.forall_mem_cons, or_assoc,
        and_or_left, and_assoc]

/-- What comes behind a cause that applies does not matter. -/
theorem FirstOf.append {first : List (Cause ε)} {e : ε} (h : FirstOf first e)
    (second : List (Cause ε)) : FirstOf (first ++ second) e :=
  firstOf_append_iff.2 (.inl h)

/-- **The causes of a list of things** are those of the first one that any apply to. -/
theorem firstOf_flatMap_iff {causes : α → List (Cause ε)} {xs : List α} {e : ε} :
    FirstOf (xs.flatMap causes) e ↔ ∃ before x after, xs = before ++ x :: after ∧
      (∀ y ∈ before, ∀ c ∈ causes y, c.Absent) ∧ FirstOf (causes x) e := by
  induction xs with
  | nil => simp [not_firstOf_nil]
  | cons x rest ih =>
      rw [List.flatMap_cons, firstOf_append_iff, ih]
      constructor
      · rintro (hx | ⟨hx, before, y, after, rfl, hbefore, hy⟩)
        · exact ⟨[], x, rest, rfl, nofun, hx⟩
        · exact ⟨x :: before, y, after, rfl, List.forall_mem_cons.2 ⟨hx, hbefore⟩, hy⟩
      · rintro ⟨before, y, after, h, hbefore, hy⟩
        rcases List.cons_eq_append_iff.1 h with ⟨-, hhead⟩ | ⟨passed, rfl, hrest⟩
        · cases hhead
          exact .inl hy
        · obtain ⟨hx, hpassed⟩ := List.forall_mem_cons.1 hbefore
          exact .inr ⟨hx, passed, y, after, hrest, hpassed, hy⟩

theorem Cause.absent_reportedAs_iff {f : ε → ε'} {c : Cause ε} :
    (c.reportedAs f).Absent ↔ c.Absent :=
  ⟨fun h e he => h (f e) ⟨e, he, rfl⟩, fun h _ ⟨d, hd, _⟩ => h d hd⟩

theorem firstOf_reportedAs_iff {f : ε → ε'} {causes : List (Cause ε)} {e : ε'} :
    FirstOf (causes.map (Cause.reportedAs f)) e ↔ ∃ d, FirstOf causes d ∧ f d = e := by
  induction causes with
  | nil => simp [not_firstOf_nil]
  | cons c rest ih =>
      simp only [List.map_cons, firstOf_cons_iff, ih, Cause.absent_reportedAs_iff, or_and_right,
        and_assoc, exists_or, exists_and_left]
      rfl

/-! ### Computations -/

/-- **A computation fails by the first of its causes**: with its error, and only if one applies. -/
def FailsBy (x : Except ε α) (causes : List (Cause ε)) : Prop :=
  ∀ e, x = .error e ↔ FirstOf causes e

namespace FailsBy

variable {x : Except ε α} {causes more : List (Cause ε)}

theorem ok (a : α) : FailsBy (.ok a : Except ε α) [] :=
  fun e => ⟨nofun, fun h => absurd h (not_firstOf_nil e)⟩

/-- **A computation succeeds exactly if no cause applies.** -/
theorem exists_ok_iff (h : FailsBy x causes) : (∃ a, x = .ok a) ↔ ∀ c ∈ causes, c.Absent := by
  rw [forall_absent_iff]
  cases x with
  | error d => exact ⟨nofun, fun hnone => absurd ((h d).1 rfl) (hnone d)⟩
  | ok a => exact ⟨fun _ e he => absurd ((h e).2 he) nofun, fun _ => ⟨a, rfl⟩⟩

/-- A first cause that leads to its error at once. -/
theorem cons {c : Cause ε} (happlies : ∀ e, c e → x = .error e)
    (habsent : c.Absent → FailsBy x causes) : FailsBy x (c :: causes) := by
  intro e
  rw [firstOf_cons_iff]
  by_cases hc : c.Absent
  · rw [habsent hc e]
    exact ⟨fun h => .inr ⟨hc, h⟩, fun h => h.elim (fun hce => absurd hce (hc e)) And.right⟩
  · obtain ⟨d, hd⟩ : ∃ d, c d := Classical.not_forall_not.1 hc
    constructor
    · intro h
      -- a computation has one error, so the cause leads to no other one
      obtain rfl : d = e := Except.error.inj ((happlies d hd).symm.trans h)
      exact .inl hd
    · exact fun h => h.elim (happlies e) fun h => absurd h.1 hc

/-- A single step that may fail. -/
theorem single {c : Cause ε} (happlies : ∀ e, c e → x = .error e)
    (habsent : c.Absent → ∃ a, x = .ok a) : FailsBy x [c] := by
  refine cons happlies fun hc => ?_
  obtain ⟨a, rfl⟩ := habsent hc
  exact ok a

/-- **What follows a step adds its causes behind those of the step.** -/
theorem bind {f : α → Except ε β} (hx : FailsBy x causes)
    (hf : ∀ a, x = .ok a → FailsBy (f a) more) : FailsBy (x >>= f) (causes ++ more) := by
  intro e
  rw [firstOf_append_iff]
  cases x with
  | error d =>
      have hsome : ¬∀ c ∈ causes, c.Absent := fun h => forall_absent_iff.1 h d ((hx d).1 rfl)
      constructor
      · intro h
        obtain rfl : d = e := Except.error.inj h
        exact .inl ((hx d).1 rfl)
      · rintro (h | h)
        · exact congrArg Except.error (Except.error.inj ((hx e).2 h))
        · exact absurd h.1 hsome
  | ok a =>
      have hnone : ∀ c ∈ causes, c.Absent := hx.exists_ok_iff.1 ⟨a, rfl⟩
      constructor
      · intro h
        exact .inr ⟨hnone, (hf a rfl e).1 h⟩
      · rintro (h | h)
        · exact absurd h (forall_absent_iff.1 hnone e)
        · exact (hf a rfl e).2 h.2

/-- What cannot fail adds nothing. -/
theorem bindOk (hx : FailsBy x causes) (f : α → β) : FailsBy (x >>= fun a => .ok (f a)) causes :=
  List.append_nil causes ▸ hx.bind fun a _ => ok (f a)

theorem map (f : α → β) (hx : FailsBy x causes) : FailsBy (x.map f) causes := by
  intro e
  rw [← hx e]
  cases x with
  | error d => simp [Except.map]
  | ok a => exact ⟨nofun, nofun⟩

/-- Reporting errors differently does not change when they arise. -/
theorem mapError (f : ε → ε') (hx : FailsBy x causes) :
    FailsBy (x.mapError f) (causes.map (Cause.reportedAs f)) := by
  intro e
  simp only [firstOf_reportedAs_iff, ← hx _]
  cases x with
  | error d =>
      constructor
      · intro h
        exact ⟨d, rfl, Except.error.inj h⟩
      · rintro ⟨d', hd, rfl⟩
        obtain rfl := Except.error.inj hd
        rfl
  | ok a => exact ⟨nofun, nofun⟩

/-- **A list of steps fails by the causes of the first one, then of the second one, and so on.** -/
theorem mapM {f : α → Except ε β} {causes : α → List (Cause ε)} {xs : List α}
    (h : ∀ x ∈ xs, FailsBy (f x) (causes x)) : FailsBy (xs.mapM f) (xs.flatMap causes) := by
  induction xs with
  | nil => exact ok []
  | cons x rest ih =>
      obtain ⟨hfirst, hrest⟩ := List.forall_mem_cons.1 h
      rw [List.mapM_cons, List.flatMap_cons]
      exact hfirst.bind fun y _ => (ih hrest).bindOk fun ys => y :: ys

end FailsBy

end MonitoringPlugins
