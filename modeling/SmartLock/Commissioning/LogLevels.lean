import Mathlib.Tactic.ByContra
import SmartLock.Commissioning.SignalHandler

/-! # Two builds of the signal handler

The compiled log level is meant to have no influence on commissioning. Two builds are compared on
one sequence of signals, each with its own replies of the stack.

* **`effects_eq`** — the commissioning calls of a run, signal by signal; they do not depend on the
  replies.
* **`sameEffects_iff`** — two builds agree exactly when they agree on INFO, or when no signal of the
  sequence starts a procedure. -/

namespace SmartLock

open Effects

/-- The commissioning calls of a build on a sequence of signals, each with its replies: the modes of
the procedures started, and the alarms with callback, parameter and delay. -/
def effects (build : LogLevel) (run : List (AppSignal × StackReply)) : List StackOp :=
  run.flatMap fun entry =>
    (commissioned ((espZbAppSignalHandler build entry.1).trace entry.2.answers)).map Sigma.fst

/-- The two builds perform the same effects on the signals, whatever the stack replies to each. -/
def SameEffects (build build' : LogLevel) (signals : List AppSignal) : Prop :=
  ∀ run run' : List (AppSignal × StackReply),
    run.map Prod.fst = signals → run'.map Prod.fst = signals →
      effects build run = effects build' run'

/-- The signal starts a commissioning procedure. -/
def AppSignal.Starts (signal : AppSignal) : Prop :=
  signal.sigType = signalSkipStartup ∨ signal.sigType = signalDeviceFirstStart ∨
    signal.sigType = signalDeviceReboot

/-- **The effects of a run**, signal by signal: the replies do not matter. -/
theorem effects_eq (build : LogLevel) (run : List (AppSignal × StackReply)) :
    effects build run = (run.map Prod.fst).flatMap (AppSignal.ops build) := by
  rw [effects, List.flatMap_map]
  congr 1
  funext entry
  rw [commissioned_handler, List.map_map]
  exact List.map_id _

/-- Nothing stands in the log messages of a signal exactly when it starts no procedure. -/
theorem AppSignal.loggedOps_eq_nil (signal : AppSignal) :
    signal.loggedOps = [] ↔ ¬ signal.Starts := by
  rw [AppSignal.loggedOps, AppSignal.Starts]
  by_cases hskip : signal.sigType = signalSkipStartup
  · rw [if_pos hskip]
    exact iff_of_false (List.cons_ne_nil _ _) (fun h => h (Or.inl hskip))
  rw [if_neg hskip]
  by_cases hstart : signal.sigType = signalDeviceFirstStart ∨ signal.sigType = signalDeviceReboot
  · rw [if_pos hstart]
    exact iff_of_false (List.cons_ne_nil _ _) (fun h => h (Or.inr hstart))
  · rw [if_neg hstart]
    exact iff_of_true rfl (not_or.mpr ⟨hskip, hstart⟩)

/-- No call stands in a log message of one signal and outside of those of another: the first are
starts, the others alarms. -/
theorem not_mem_plainOps {op : StackOp} {signal signal' : AppSignal} (hop : op ∈ signal.loggedOps) :
    op ∉ signal'.plainOps := by
  have hstart : ∃ mode, op = .espZbBdbStartTopLevelCommissioning mode := by
    rw [AppSignal.loggedOps] at hop
    split at hop
    · exact ⟨_, List.mem_singleton.mp hop⟩
    · split at hop
      · exact ⟨_, List.mem_singleton.mp hop⟩
      · exact absurd hop List.not_mem_nil
  obtain ⟨mode, rfl⟩ := hstart
  intro hplain
  rw [AppSignal.plainOps] at hplain
  split at hplain
  · have hsame : StackOp.espZbBdbStartTopLevelCommissioning mode = retrySteering :=
      List.mem_singleton.mp hplain
    cases hsame
  · exact absurd hplain List.not_mem_nil

/-- A build with INFO and one without agree on a sequence exactly when it starts no procedure. -/
theorem flatMap_ops_eq_iff {build build' : LogLevel} (hinfo : build.HasInfo)
    (hquiet : ¬ build'.HasInfo) (signals : List AppSignal) :
    signals.flatMap (AppSignal.ops build) = signals.flatMap (AppSignal.ops build') ↔
      ∀ signal ∈ signals, ¬ signal.Starts := by
  have hloud (signal : AppSignal) : signal.ops build = signal.loggedOps ++ signal.plainOps := by
    rw [AppSignal.ops, if_pos hinfo]
  have hmute (signal : AppSignal) : signal.ops build' = signal.plainOps := by
    rw [AppSignal.ops, if_neg hquiet, List.nil_append]
  constructor
  · -- a start made by the first build would have to be among the alarms of the second
    intro heq signal hsignal hstarts
    have hlogged : signal.loggedOps ≠ [] := fun h => signal.loggedOps_eq_nil.mp h hstarts
    obtain ⟨op, hop⟩ := List.exists_mem_of_ne_nil _ hlogged
    have hmem : op ∈ signals.flatMap (AppSignal.ops build) := by
      refine List.mem_flatMap.mpr ⟨signal, hsignal, ?_⟩
      rw [hloud]
      exact List.mem_append_left _ hop
    rw [heq] at hmem
    obtain ⟨signal', -, hop'⟩ := List.mem_flatMap.mp hmem
    rw [hmute] at hop'
    exact not_mem_plainOps hop hop'
  · intro hnone
    refine List.flatMap_congr fun signal hsignal => ?_
    rw [hloud, hmute, signal.loggedOps_eq_nil.mpr (hnone signal hsignal), List.nil_append]

/-- Two builds that agree on INFO make the same calls on every signal. -/
theorem ops_congr {build build' : LogLevel} (h : build.HasInfo ↔ build'.HasInfo) :
    AppSignal.ops build = AppSignal.ops build' := by
  funext signal
  rw [AppSignal.ops, AppSignal.ops]
  exact congrArg (· ++ signal.plainOps) (if_congr h rfl rfl)

/-- Whatever the stack replies, two builds perform the same effects exactly when their calls agree
signal by signal. -/
theorem sameEffects_iff_ops (build build' : LogLevel) (signals : List AppSignal) :
    SameEffects build build' signals ↔
      signals.flatMap (AppSignal.ops build) = signals.flatMap (AppSignal.ops build') := by
  let reply : StackReply := ⟨espOk, Vector.replicate 8 0, 0, 0, 0⟩
  have hfst : (signals.map fun signal => (signal, reply)).map Prod.fst = signals := by
    rw [List.map_map]
    exact List.map_id _
  constructor
  · intro hsame
    have heffects := hsame _ _ hfst hfst
    rwa [effects_eq, effects_eq, hfst] at heffects
  · intro hops run run' hrun hrun'
    rw [effects_eq, effects_eq, hrun, hrun', hops]

/-- **When logging does not matter.** For every sequence of signals and every pair of levels: the
two builds perform the same effects exactly when both or neither have INFO compiled in, or when the
sequence has no SKIP_STARTUP, DEVICE_FIRST_START or DEVICE_REBOOT. -/
theorem sameEffects_iff (build build' : LogLevel) (signals : List AppSignal) :
    SameEffects build build' signals ↔
      (build.HasInfo ↔ build'.HasInfo) ∨ ∀ signal ∈ signals, ¬ signal.Starts := by
  rw [sameEffects_iff_ops]
  by_cases hagree : build.HasInfo ↔ build'.HasInfo
  · exact iff_of_true (by rw [ops_congr hagree]) (Or.inl hagree)
  rw [or_iff_right hagree]
  by_cases hinfo : build.HasInfo
  · have hquiet : ¬ build'.HasInfo := fun h => hagree (iff_of_true hinfo h)
    exact flatMap_ops_eq_iff hinfo hquiet signals
  · have hinfo' : build'.HasInfo := by
      by_contra hquiet
      exact hagree (iff_of_false hinfo hquiet)
    rw [eq_comm]
    exact flatMap_ops_eq_iff hinfo' hinfo signals

/-- A build without INFO messages never starts commissioning. -/
theorem skipStartup_differs :
    ¬ SameEffects .info .warn [{ sigType := signalSkipStartup, errStatus := espOk }] := by
  rw [sameEffects_iff_ops]
  decide

end SmartLock
