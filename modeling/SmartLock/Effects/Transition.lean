import Mathlib.Algebra.GroupWithZero.Nat
import Mathlib.Data.List.Basic

/-! # Runs of a labelled transition system

A transition system is a partial step function `step : σ → κ → Option σ`: `none` says that the
environment does not offer the label in that state.

* **`runLabels`** — the state after a sequence of labels.
* **`AlwaysAlong`** — a predicate holds in every state a sequence of labels passes through.
* **`alwaysAlong_iff`** — when, from a good state, a step leads to a good state exactly if its label
  is good, a run stays good exactly if it starts good and all its labels are good.
* **`runLabels_invariant`, `runLabels_simulation`** — what every step keeps, and what every step
  simulates, lifts to runs.
* **`runLabels_past`, `runLabels_conservation`** — invariants over the state and the labels so far,
  and quantities that every step moves but none creates.
* **`runLabels_filter`** — labels that change nothing can be dropped from a run.
* **`runLabels_realization`** — where every step of an abstract system can be realized, so can its
  runs. -/

namespace Effects

variable {σ τ κ ι : Type*} {step : σ → κ → Option σ} {I : σ → Prop}

/-- The state reached from `s` by the labels `ks`, if every step is offered. -/
def runLabels (step : σ → κ → Option σ) (s : σ) (ks : List κ) : Option σ := ks.foldlM step s

@[simp] theorem runLabels_nil (step : σ → κ → Option σ) (s : σ) :
    runLabels step s [] = some s := rfl

theorem runLabels_cons (step : σ → κ → Option σ) (s : σ) (k : κ) (ks : List κ) :
    runLabels step s (k :: ks) = (step s k).bind fun s' => runLabels step s' ks := rfl

/-- A run over `k :: ks` that ends somewhere takes the step `k` first. -/
theorem runLabels_cons_eq_some {s t : σ} {k : κ} {ks : List κ} :
    runLabels step s (k :: ks) = some t ↔
      ∃ s', step s k = some s' ∧ runLabels step s' ks = some t := by
  rw [runLabels_cons, Option.bind_eq_some_iff]

/-- `I` holds in every state that the labels `ks` pass through from `s`, the first and the last
included. -/
def AlwaysAlong (step : σ → κ → Option σ) (I : σ → Prop) (s : σ) (ks : List κ) : Prop :=
  ∀ before after t, ks = before ++ after → runLabels step s before = some t → I t

/-- Nothing but the start is passed through when there are no labels. -/
@[simp] theorem alwaysAlong_nil (s : σ) : AlwaysAlong step I s [] ↔ I s := by
  constructor
  · intro h
    exact h [] [] s rfl rfl
  · intro hs before after t hks hrun
    obtain ⟨rfl, -⟩ := List.append_eq_nil_iff.mp hks.symm
    obtain rfl := Option.some.inj hrun
    exact hs

/-- Along `k :: ks`, the start and everything after the step `k` are passed through. -/
theorem alwaysAlong_cons {s s' : σ} {k : κ} {ks : List κ} (hstep : step s k = some s') :
    AlwaysAlong step I s (k :: ks) ↔ I s ∧ AlwaysAlong step I s' ks := by
  constructor
  · intro h
    refine ⟨h [] (k :: ks) s rfl rfl, fun before after t hks hrun => ?_⟩
    refine h (k :: before) after t (by rw [hks, List.cons_append]) ?_
    exact runLabels_cons_eq_some.mpr ⟨s', hstep, hrun⟩
  · rintro ⟨hs, h⟩ before after t hks hrun
    cases before with
    | nil =>
        obtain rfl := Option.some.inj hrun
        exact hs
    | cons b before =>
        obtain ⟨rfl, htail⟩ := List.cons.inj hks
        obtain ⟨u, hu, hrun⟩ := runLabels_cons_eq_some.mp hrun
        obtain rfl := Option.some.inj (hstep.symm.trans hu)
        exact h before after t htail hrun

/-- **Good runs are the runs of good labels.** If every step from a good state leads to a good state
exactly when its label is good, then a run passes only through good states exactly when it starts
in one and all its labels are good. -/
theorem alwaysAlong_iff {G : κ → Prop}
    (hstep : ∀ s k s', I s → step s k = some s' → (I s' ↔ G k)) {s t : σ} {ks : List κ}
    (hrun : runLabels step s ks = some t) :
    AlwaysAlong step I s ks ↔ I s ∧ ∀ k ∈ ks, G k := by
  induction ks generalizing s with
  | nil => simp
  | cons k ks ih =>
      obtain ⟨s', hk, hrest⟩ := runLabels_cons_eq_some.mp hrun
      rw [alwaysAlong_cons hk, ih hrest, List.forall_mem_cons]
      exact and_congr_right fun hs => and_congr_left' (hstep s k s' hs hk)

/-- **Invariants lift to runs.** What every step keeps, every run keeps. -/
theorem runLabels_invariant (hstep : ∀ s k s', I s → step s k = some s' → I s') {s t : σ}
    {ks : List κ} (hs : I s) (hrun : runLabels step s ks = some t) : I t := by
  induction ks generalizing s with
  | nil =>
      obtain rfl := Option.some.inj hrun
      exact hs
  | cons k ks ih =>
      obtain ⟨s', hk, hrest⟩ := runLabels_cons_eq_some.mp hrun
      exact ih (hstep s k s' hs hk) hrest

/-- **Simulation lifts to runs.** If `I` is kept by every step and, from `I`-states, `step` is
matched by `step'` through `abs` and `lab`, then every run is matched by the run over the same
labels. -/
theorem runLabels_simulation {step' : τ → ι → Option τ} {abs : σ → τ} {lab : κ → ι}
    (hstep : ∀ s k s', I s → step s k = some s' →
      I s' ∧ step' (abs s) (lab k) = some (abs s')) {s t : σ} {ks : List κ}
    (hs : I s) (hrun : runLabels step s ks = some t) :
    I t ∧ runLabels step' (abs s) (ks.map lab) = some (abs t) := by
  induction ks generalizing s with
  | nil =>
      obtain rfl := Option.some.inj hrun
      exact ⟨hs, rfl⟩
  | cons k ks ih =>
      obtain ⟨s', hk, hrest⟩ := runLabels_cons_eq_some.mp hrun
      obtain ⟨hs', hmatch⟩ := hstep s k s' hs hk
      obtain ⟨ht, hrun'⟩ := ih hs' hrest
      exact ⟨ht, runLabels_cons_eq_some.mpr ⟨abs s', hmatch, hrun'⟩⟩

/-- **Invariants over the past lift to runs**: what holds of the start after the labels `past`, and
is kept when a step adds its label to them, holds at the end of a run. -/
theorem runLabels_past {J : σ → List κ → Prop}
    (hstep : ∀ s past k s', J s past → step s k = some s' → J s' (past ++ [k])) {s t : σ}
    {past ks : List κ} (hs : J s past) (hrun : runLabels step s ks = some t) :
    J t (past ++ ks) := by
  induction ks generalizing s past with
  | nil =>
      obtain rfl := Option.some.inj hrun
      rwa [List.append_nil]
  | cons k ks ih =>
      obtain ⟨s', hk, hrest⟩ := runLabels_cons_eq_some.mp hrun
      have ht := ih (hstep s past k s' hs hk) hrest
      rwa [List.append_assoc, List.singleton_append] at ht

/-- **Conservation.** If every step takes from `f` what its label says, then the end of a run and
its labels together have what the start had. -/
theorem runLabels_conservation {f : σ → ℕ} {g : κ → ℕ}
    (hstep : ∀ s k s', step s k = some s' → f s' + g k = f s) {s t : σ} {ks : List κ}
    (hrun : runLabels step s ks = some t) : f t + (ks.map g).sum = f s := by
  induction ks generalizing s with
  | nil =>
      obtain rfl := Option.some.inj hrun
      simp
  | cons k ks ih =>
      obtain ⟨s', hk, hrest⟩ := runLabels_cons_eq_some.mp hrun
      have hhead := hstep s k s' hk
      have htail := ih hrest
      rw [List.map_cons, List.sum_cons]
      omega

/-- **Labels that change nothing can be dropped.** If a label outside of `P` leaves every state as
it is, then a run is the run over its labels in `P`. -/
theorem runLabels_filter {P : κ → Prop} [DecidablePred P]
    (hstep : ∀ s k, ¬ P k → step s k = some s) (s : σ) (ks : List κ) :
    runLabels step s (ks.filter P) = runLabels step s ks := by
  induction ks generalizing s with
  | nil => rfl
  | cons k ks ih =>
      rw [runLabels_cons, List.filter_cons]
      by_cases hk : P k
      · rw [if_pos (decide_eq_true hk), runLabels_cons]
        exact congrArg _ (funext ih)
      · rw [if_neg (by simpa using hk), hstep s k hk, ih, Option.bind_some]

/-- **Realization lifts to runs.** If every step of `step'` is realized by a step between the
representatives of its states, under some label that stands for its label, then so is every run. -/
theorem runLabels_realization {step' : τ → ι → Option τ} {rep : τ → σ} {lab : κ → ι}
    (hstep : ∀ a e a', step' a e = some a' → ∃ k, lab k = e ∧ step (rep a) k = some (rep a'))
    {a b : τ} {es : List ι} (hrun : runLabels step' a es = some b) :
    ∃ ks : List κ, ks.map lab = es ∧ runLabels step (rep a) ks = some (rep b) := by
  induction es generalizing a with
  | nil =>
      obtain rfl := Option.some.inj hrun
      exact ⟨[], rfl, rfl⟩
  | cons e es ih =>
      obtain ⟨a', he, hrest⟩ := runLabels_cons_eq_some.mp hrun
      obtain ⟨k, rfl, hk⟩ := hstep a e a' he
      obtain ⟨ks, rfl, hks⟩ := ih hrest
      exact ⟨k :: ks, rfl, runLabels_cons_eq_some.mpr ⟨rep a', hk, hks⟩⟩

end Effects
