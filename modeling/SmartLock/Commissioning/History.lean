import SmartLock.Commissioning.Phases

/-! # What commissioning has asked for

The calls of a build over a whole run, and what they say about it.

* **`realizes`, `run_iff`** — the machine of the phases is exact: every run of it is the run of some
  device, so the two have the same runs.
* **`load_add_losses`** — nothing is lost unnoticed: what the device still holds (membership, an
  outstanding procedure or a pending alarm) and the failed starts and departures of the run always
  sum up to one.
* **`commissioningCalls_eq`** — the commissioning calls of a run are a prefix of one fixed word: the
  initialization once, then steering, then an alarm and steering again for every failed attempt. -/

namespace SmartLock

open Effects

/-! ## The machine is exact -/

/-- **Everything one step of the machine can do.** -/
theorem Phase.next_cases {phase phase' : Phase} {e : PhaseEvent} (h : phase.next e = some phase') :
    (∃ started, phase = initializing ∧ e = .initialized started ∧ phase' = steeringIf started) ∨
      (phase = steering ∧ e = .steered true ∧ phase' = joined) ∨
      (phase = steering ∧ e = .steered false ∧ phase' = waiting) ∨
      (∃ started, phase = waiting ∧ e = .retried started ∧ phase' = steeringIf started) ∨
      (phase = joined ∧ e = .left ∧ phase' = stalled) ∨
      (e = .other ∧ phase' = phase) := by
  cases e with
  | initialized started => cases phase <;> cases h; simp
  | steered ok => cases ok <;> cases phase <;> cases h <;> simp
  | retried started => cases phase <;> cases h; simp
  | left => cases phase <;> cases h; simp
  | other => cases phase <;> cases h <;> simp

/-- The signal or alarm that brings a device in the phase to the event. -/
def PhaseEvent.netEvent : PhaseEvent → NetEvent
  | .initialized started =>
      .signal { sigType := signalDeviceFirstStart, errStatus := espOk }
        (NetState.replying (if started then espOk else espFail))
  | .steered ok =>
      .signal { sigType := signalSteering, errStatus := if ok then espOk else espFail }
        (NetState.replying espOk)
  | .retried started =>
      .alarmFires NetState.retryAlarm (NetState.replying (if started then espOk else espFail))
  | .left => .signal { sigType := signalLeave, errStatus := espOk } (NetState.replying espOk)
  | .other => .signal { sigType := 0, errStatus := espOk } (NetState.replying espOk)

theorem PhaseEvent.phaseEvent_netEvent (e : PhaseEvent) : e.netEvent.phaseEvent = e := by
  cases e with
  | initialized started => cases started <;> rfl
  | steered ok => cases ok <;> rfl
  | retried started => cases started <;> rfl
  | left => rfl
  | other => rfl

namespace NetState

/-- Where the machine has a step, the stack can bring the device to it. -/
theorem exists_step (build : LogLevel) {phase phase' : Phase} {e : PhaseEvent}
    (hnext : phase.next e = some phase') :
    ∃ st', phase.state.step build e.netEvent = some st' := by
  rcases Phase.next_cases hnext with ⟨started, rfl, rfl, -⟩ | ⟨rfl, rfl, -⟩ | ⟨rfl, rfl, -⟩ |
    ⟨started, rfl, rfl, -⟩ | ⟨rfl, rfl, -⟩ | ⟨rfl, -⟩
  · exact ⟨_, rfl⟩
  · exact ⟨_, rfl⟩
  · exact ⟨_, rfl⟩
  · exact ⟨_, rfl⟩
  · exact ⟨_, rfl⟩
  · exact ⟨_, rfl⟩

section Runs

variable {build : LogLevel} (hinfo : build.HasInfo)

include hinfo

/-- **Every step of the machine is the step of a device.** -/
theorem realizes {phase phase' : Phase} {e : PhaseEvent} (hnext : phase.next e = some phase') :
    ∃ k : NetEvent, k.phaseEvent = e ∧ phase.state.step build k = some phase'.state := by
  obtain ⟨st', hstep⟩ := exists_step build hnext
  obtain ⟨phase'', rfl, hnext'⟩ := state_step hinfo hstep
  rw [PhaseEvent.phaseEvent_netEvent, hnext] at hnext'
  obtain rfl := Option.some.inj hnext'
  exact ⟨e.netEvent, e.phaseEvent_netEvent, hstep⟩

/-- **The device and the machine have the same runs.** From a phase, the machine can go through a
sequence of events exactly if some sequence of signals, alarms and replies of the stack takes the
device through it, and both end in the same phase. -/
theorem run_iff (phase phase' : Phase) (es : List PhaseEvent) :
    runLabels Phase.next phase es = some phase' ↔
      ∃ events : List NetEvent, events.map NetEvent.phaseEvent = es ∧
        runLabels (step build) phase.state events = some phase'.state := by
  constructor
  · intro hrun
    exact runLabels_realization (fun _ _ _ hnext => realizes hinfo hnext) hrun
  · rintro ⟨events, rfl, hrun⟩
    obtain ⟨phase'', hstate, hes⟩ := run_refines hinfo hrun
    have hphase : phase' = phase'' := by
      rw [← Phase.phase_state phase', hstate, Phase.phase_state]
    rw [hes, hphase]

end Runs

/-- Three failed attempts in a row and a fourth one that works are a run of the shipped build. -/
theorem run_iff_fourth :
    ∃ events : List NetEvent,
      events.map NetEvent.phaseEvent
        = [.steered false, .retried true, .steered false, .retried true, .steered false,
          .retried true, .steered true] ∧
      runLabels (step shippedLogLevel) Phase.steering.state events = some Phase.joined.state :=
  (run_iff (by decide) .steering .joined _).mp rfl

end NetState

/-! ## Nothing is lost unnoticed -/

/-- What the device holds in a phase: nothing when stalled, one thing otherwise. -/
def Phase.load : Phase → ℕ
  | .stalled => 0
  | _ => 1

/-- What an event loses: a start that fails, or the network. -/
def PhaseEvent.loss : PhaseEvent → ℕ
  | .initialized false => 1
  | .retried false => 1
  | .left => 1
  | _ => 0

/-- **One step** moves what the device holds, or loses it. -/
theorem Phase.load_next {phase phase' : Phase} {e : PhaseEvent}
    (hnext : phase.next e = some phase') : phase'.load + e.loss = phase.load := by
  rcases Phase.next_cases hnext with ⟨started, rfl, rfl, rfl⟩ | ⟨rfl, rfl, rfl⟩ | ⟨rfl, rfl, rfl⟩ |
    ⟨started, rfl, rfl, rfl⟩ | ⟨rfl, rfl, rfl⟩ | ⟨rfl, rfl⟩
  · cases started <;> rfl
  · rfl
  · rfl
  · cases started <;> rfl
  · rfl
  · rfl

/-- What the device holds, in terms of its state. -/
theorem Phase.load_state (phase : Phase) :
    phase.state.joined.toNat + phase.state.outstanding.length + phase.state.alarms.length
      = phase.load := by
  cases phase <;> rfl

namespace NetState

/-- **Nothing is lost unnoticed.** On every run of a build with INFO from start-up, whatever fails:
what the device holds at the end, plus one if the initialization could not be started, plus one for
every later start that failed and for every LEAVE, is one. -/
theorem load_add_losses {build : LogLevel} (hinfo : build.HasInfo) (errStatus : EspErr)
    (r : StackReply) {events : List NetEvent} {st : NetState}
    (hrun : runLabels (step build) (boot build errStatus r) events = some st) :
    st.joined.toNat + st.outstanding.length + st.alarms.length
        + (if r.start = espOk then 0 else 1)
        + (events.map fun k => k.phaseEvent.loss).sum = 1 := by
  rw [boot_eq_state hinfo] at hrun
  obtain ⟨phase, rfl, hes⟩ := run_refines hinfo hrun
  have hsum := runLabels_conservation (f := Phase.load) (g := PhaseEvent.loss)
    (fun _ _ _ => Phase.load_next) hes
  rw [List.map_map] at hsum
  rw [Phase.load_state]
  split at hsum
  · next hok =>
      rw [if_pos hok]
      exact hsum
  · next hok =>
      rw [if_neg hok]
      have hzero : phase.load + (events.map fun k => k.phaseEvent.loss).sum = 0 := hsum
      omega

/-- The joining run loses nothing. -/
theorem load_add_losses_joiningRun :
    (joiningRun.map fun k => k.phaseEvent.loss).sum = 0 := by
  have hrun : runLabels (step shippedLogLevel) (boot shippedLogLevel espOk (replying espOk))
      joiningRun = some { initial with joined := true } := by decide
  have hsum := load_add_losses (by decide) espOk (replying espOk) hrun
  exact Nat.add_left_cancel hsum

end NetState

/-! ## The calls of a run -/

/-- The commissioning calls of a trace, without their answers. -/
def commissioningCalls (tr : List StackEvent) : List StackOp := (commissioned tr).map Sigma.fst

/-- The calls of the stack during a step of a build. -/
def NetEvent.trace (build : LogLevel) : NetEvent → List StackEvent
  | .signal s r => (espZbAppSignalHandler build s).trace r.answers
  | .alarmFires alarm r => (alarm.cb.program alarm.param).trace r.answers

/-- The calls of the stack from power-on: those of SKIP_STARTUP, then those of the steps. -/
def netTrace (build : LogLevel) (errStatus : EspErr) (r : StackReply) (events : List NetEvent) :
    List StackEvent :=
  (espZbAppSignalHandler build { sigType := signalSkipStartup, errStatus := errStatus }).trace
      r.answers
    ++ events.flatMap (NetEvent.trace build)

/-- The `n`-th commissioning call of a device that has no luck: initialization, steering, and then
an alarm and steering again for ever. -/
def commissioningCall : ℕ → StackOp
  | 0 => .espZbBdbStartTopLevelCommissioning bdbModeInitialization
  | n + 1 =>
      if n % 2 = 0 then .espZbBdbStartTopLevelCommissioning bdbModeNetworkSteering
      else retrySteering

/-- The commissioning calls that follow an event. -/
def PhaseEvent.calls : PhaseEvent → List StackOp
  | .initialized _ => [.espZbBdbStartTopLevelCommissioning bdbModeNetworkSteering]
  | .steered false => [retrySteering]
  | .retried _ => [.espZbBdbStartTopLevelCommissioning bdbModeNetworkSteering]
  | _ => []

/-- In the phase, `n` calls have been made and `failed` attempts to join have failed; `booted` tells
whether the initialization could be started. A device on which it could not is stalled from the
first call on. -/
def Phase.Fits (booted : Bool) (failed n : ℕ) (phase : Phase) : Prop :=
  match booted, phase with
  | true, .initializing => failed = 0 ∧ n = 1
  | true, .waiting => 1 ≤ failed ∧ n = 2 * failed + 1
  | true, _ => n = 2 * failed + 2
  | false, .stalled => failed = 0 ∧ n = 1
  | false, _ => False

/-- After a start, whether it fails or not. -/
theorem Phase.fits_steeringIf {failed n : ℕ} (h : n = 2 * failed + 2) (started : Bool) :
    (steeringIf started).Fits true failed n := by
  cases started with
  | false => exact h
  | true => exact h

/-- Outside of the stalled phase the initialization was started. -/
theorem Phase.Fits.booted {booted : Bool} {failed n : ℕ} {phase : Phase}
    (h : phase.Fits booted failed n) (hphase : phase ≠ stalled) : booted = true := by
  cases booted with
  | true => rfl
  | false => cases phase <;> first | exact h.elim | exact absurd rfl hphase

/-- The calls after `past`, and what the phase says about them. -/
def Phase.CallsFit (booted : Bool) (phase : Phase) (past : List PhaseEvent) : Prop :=
  ∃ n, commissioningCall 0 :: past.flatMap PhaseEvent.calls = (List.range n).map commissioningCall ∧
    phase.Fits booted (past.count (.steered false)) n

/-- **One step** makes the next call of the word, or none. -/
theorem Phase.callsFit_next {booted : Bool} {phase phase' : Phase} {past : List PhaseEvent}
    {e : PhaseEvent} (hfit : phase.CallsFit booted past) (hnext : phase.next e = some phase') :
    phase'.CallsFit booted (past ++ [e]) := by
  obtain ⟨n, hcalls, hn⟩ := hfit
  -- a call that is the next one of the word makes the history longer by one
  have hcall (call : StackOp) (hcall : commissioningCall n = call) :
      commissioningCall 0 :: (past.flatMap PhaseEvent.calls ++ [call])
        = (List.range (n + 1)).map commissioningCall := by
    rw [← List.cons_append, hcalls, List.range_succ, List.map_append, List.map_singleton, hcall]
  unfold Phase.CallsFit
  rw [List.flatMap_append, List.flatMap_singleton, List.count_append]
  rcases Phase.next_cases hnext with ⟨started, rfl, rfl, rfl⟩ | ⟨rfl, rfl, rfl⟩ | ⟨rfl, rfl, rfl⟩ |
    ⟨started, rfl, rfl, rfl⟩ | ⟨rfl, rfl, rfl⟩ | ⟨rfl, rfl⟩
  · -- the initialization is over: steering is the second call
    obtain rfl := hn.booted (by decide)
    obtain ⟨hfailed, rfl⟩ := hn
    have hnone : [PhaseEvent.initialized started].count (.steered false) = 0 := by simp
    refine ⟨2, hcall _ rfl, fits_steeringIf ?_ started⟩
    omega
  · obtain rfl := hn.booted (by decide)
    refine ⟨n, by simpa [PhaseEvent.calls] using hcalls, ?_⟩
    simpa [Fits] using hn
  · -- an attempt failed: the alarm is next
    obtain rfl := hn.booted (by decide)
    have hn : n = 2 * past.count (.steered false) + 2 := hn
    refine ⟨n + 1, hcall _ ?_, ?_⟩
    · rw [hn, commissioningCall, if_neg (by omega)]
    · simp only [Fits, List.count_singleton_self]
      omega
  · -- the alarm has fired: steering again
    obtain rfl := hn.booted (by decide)
    obtain ⟨-, hn⟩ := hn
    have hnone : [PhaseEvent.retried started].count (.steered false) = 0 := by simp
    refine ⟨n + 1, hcall _ ?_, fits_steeringIf (by omega) started⟩
    rw [hn, commissioningCall, if_pos (by omega)]
  · obtain rfl := hn.booted (by decide)
    refine ⟨n, by simpa [PhaseEvent.calls] using hcalls, ?_⟩
    simpa [Fits] using hn
  · refine ⟨n, by simpa [PhaseEvent.calls] using hcalls, ?_⟩
    have hnone : [PhaseEvent.other].count (.steered false) = 0 := by simp
    rwa [hnone]

/-! ## The calls of the device -/

theorem commissioningCalls_append (tr tr' : List StackEvent) :
    commissioningCalls (tr ++ tr') = commissioningCalls tr ++ commissioningCalls tr' := by
  rw [commissioningCalls, commissioned, List.filter_append, List.map_append]
  rfl

/-- The commissioning calls of one entry of the handler. -/
theorem commissioningCalls_handler (build : LogLevel) (s : AppSignal) (r : StackReply) :
    commissioningCalls ((espZbAppSignalHandler build s).trace r.answers) = s.ops build := by
  rw [commissioningCalls, commissioned_handler, List.map_map]
  exact List.map_id _

/-- **The calls of one step** are those of its event. -/
theorem commissioningCalls_step {build : LogLevel} (hinfo : build.HasInfo) {phase : Phase}
    {k : NetEvent} {st' : NetState} (hstep : phase.state.step build k = some st') :
    commissioningCalls (k.trace build) = k.phaseEvent.calls := by
  cases k with
  | signal s r =>
      obtain ⟨mid, hdeliver, -⟩ := Option.map_eq_some_iff.mp hstep
      have hskip : s.sigType ≠ signalSkipStartup := by
        intro hskip
        rw [NetState.deliver, if_pos hskip] at hdeliver
        cases hdeliver
      rw [NetEvent.trace, commissioningCalls_handler, AppSignal.ops, if_pos hinfo,
        AppSignal.loggedOps, AppSignal.plainOps, NetEvent.phaseEvent, if_neg hskip]
      by_cases hstart : s.sigType = signalDeviceFirstStart ∨ s.sigType = signalDeviceReboot
      · have hother : ¬ (s.sigType = signalSteering ∧ s.errStatus ≠ espOk) := fun h =>
          AppSignal.not_deviceStart_of_steering h.1 hstart
        rw [if_pos hstart, if_pos hstart, if_neg hother, List.append_nil]
        rfl
      rw [if_neg hstart, if_neg hstart, List.nil_append]
      by_cases hsteering : s.sigType = signalSteering
      · rw [if_pos hsteering]
        by_cases hok : s.errStatus = espOk
        · rw [if_neg (fun h => h.2 hok), decide_eq_true hok]
          rfl
        · rw [if_pos ⟨hsteering, hok⟩, decide_eq_false hok]
          rfl
      · rw [if_neg (fun h => hsteering h.1), if_neg hsteering]
        split
        · rfl
        · rfl
  | alarmFires alarm r =>
      obtain ⟨hmem, -⟩ := NetState.alarm_cases hstep
      obtain ⟨-, rfl⟩ := NetState.eq_waiting hmem
      rfl

namespace NetState

/-- The calls of the steps of a run are those of its events. -/
theorem commissioningCalls_flatMap {build : LogLevel} (hinfo : build.HasInfo) {phase : Phase}
    {events : List NetEvent} {st : NetState}
    (hrun : runLabels (step build) phase.state events = some st) :
    commissioningCalls (events.flatMap (NetEvent.trace build))
      = (events.map NetEvent.phaseEvent).flatMap PhaseEvent.calls := by
  have hstart : (∃ phase' : Phase, phase.state = phase'.state) ∧
      commissioningCalls (([] : List NetEvent).flatMap (NetEvent.trace build))
        = (([] : List NetEvent).map NetEvent.phaseEvent).flatMap PhaseEvent.calls :=
    ⟨⟨phase, rfl⟩, rfl⟩
  refine (runLabels_past (J := fun st past => (∃ phase' : Phase, st = phase'.state) ∧
    commissioningCalls (past.flatMap (NetEvent.trace build))
      = (past.map NetEvent.phaseEvent).flatMap PhaseEvent.calls) ?_ hstart hrun).2
  rintro _ past k st' ⟨⟨phase, rfl⟩, hcalls⟩ hstep
  obtain ⟨phase', rfl, -⟩ := state_step hinfo hstep
  refine ⟨⟨phase', rfl⟩, ?_⟩
  rw [List.flatMap_append, List.flatMap_singleton, commissioningCalls_append, hcalls,
    commissioningCalls_step hinfo hstep, List.map_append, List.flatMap_append]
  exact congrArg _ (List.flatMap_singleton _ _).symm

/-- **The calls of a run are a prefix of one word.** On every run of a build with INFO from
start-up, whatever fails: the device starts the initialization, then steering, then an alarm and
steering again for every attempt that failed, and makes no other commissioning call. How many calls
it has made follows from its phase, the number of attempts that failed and whether the
initialization could be started. -/
theorem commissioningCalls_eq {build : LogLevel} (hinfo : build.HasInfo) (errStatus : EspErr)
    (r : StackReply) {events : List NetEvent} {st : NetState}
    (hrun : runLabels (step build) (boot build errStatus r) events = some st) :
    ∃ n, commissioningCalls (netTrace build errStatus r events)
        = (List.range n).map commissioningCall ∧
      st.phase.Fits (r.start = espOk)
        ((events.map NetEvent.phaseEvent).count (.steered false)) n := by
  rw [boot_eq_state hinfo] at hrun
  have hcalls := commissioningCalls_flatMap hinfo hrun
  obtain ⟨phase, rfl, hes⟩ := run_refines hinfo hrun
  have hstart : (if r.start = espOk then Phase.initializing else Phase.stalled).CallsFit
      (r.start = espOk) [] := by
    refine ⟨1, rfl, ?_⟩
    by_cases hok : r.start = espOk
    · simp [hok, Phase.Fits]
    · simp [hok, Phase.Fits]
  obtain ⟨n, hword, hn⟩ := runLabels_past (J := Phase.CallsFit (r.start = espOk))
    (fun _ _ _ _ => Phase.callsFit_next) hstart hes
  refine ⟨n, ?_, by rwa [Phase.phase_state]⟩
  rw [netTrace, commissioningCalls_append, commissioningCalls_handler, hcalls, AppSignal.ops,
    if_pos hinfo]
  exact hword

/-- The joining run makes the first four calls of the word. -/
theorem commissioningCalls_joiningRun :
    commissioningCalls (netTrace shippedLogLevel espOk (replying espOk) joiningRun)
      = (List.range 4).map commissioningCall := by
  have hrun : runLabels (step shippedLogLevel) (boot shippedLogLevel espOk (replying espOk))
      joiningRun = some { initial with joined := true } := by decide
  obtain ⟨n, hcalls, hn⟩ := commissioningCalls_eq (by decide) espOk (replying espOk) hrun
  rw [hcalls, show n = 4 from hn]

end NetState

end SmartLock
