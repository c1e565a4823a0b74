import SmartLock.Commissioning.Progress

/-! # The five phases of commissioning

What commissioning amounts to, without modes, alarms and lists: a machine with five phases. The
device refines it, so what holds of the phases holds of the device.

* **`Phase`, `Phase.next`** — the machine: from initialization over steering onto the network, a
  waiting phase before each retry, and a stalled phase that nothing leaves.
* **`NetState.state_step`, `run_refines`** — in a build with INFO every step and every run of the
  device is one of the machine.
* **`canJoin_iff`** — the network stays within reach exactly outside of the stalled phase.
* **`quiet_stalls`** — a build without INFO is stalled from start-up on. -/

namespace SmartLock

open Effects

/-! ## The machine -/

/-- The phases of commissioning. -/
inductive Phase
  | initializing
  | steering
  | waiting
  | joined
  | stalled
  deriving DecidableEq, Repr

/-- What happens to commissioning: a phase completes or the device leaves. `started` tells whether
the procedure that should follow could be started. -/
inductive PhaseEvent
  | initialized (started : Bool)
  | steered (ok : Bool)
  | retried (started : Bool)
  | left
  | other
  deriving DecidableEq, Repr

namespace Phase

/-- The phase after a start. -/
def steeringIf (started : Bool) : Phase := if started then steering else stalled

/-- One step of the machine, where it is possible. -/
def next : Phase → PhaseEvent → Option Phase
  | initializing, .initialized started => some (steeringIf started)
  | steering, .steered true => some joined
  | steering, .steered false => some waiting
  | waiting, .retried started => some (steeringIf started)
  | joined, .left => some stalled
  | phase, .other => some phase
  | _, _ => none

/-- Nothing leaves the stalled phase. -/
theorem next_stalled {e : PhaseEvent} {phase : Phase} (h : next stalled e = some phase) :
    phase = stalled := by
  cases e with
  | other => exact (Option.some.inj h).symm
  | initialized started => cases h
  | steered ok => cases h
  | retried started => cases h
  | left => cases h

/-- No run leaves the stalled phase. -/
theorem runLabels_stalled {es : List PhaseEvent} {phase : Phase}
    (hrun : runLabels next stalled es = some phase) : phase = stalled := by
  refine runLabels_invariant (I := fun phase => phase = stalled) ?_ rfl hrun
  rintro phase e phase' rfl hnext
  exact next_stalled hnext

/-! ## The device in a phase -/

/-- The state of a device in the phase. -/
def state : Phase → NetState
  | initializing => { NetState.initial with outstanding := [bdbModeInitialization] }
  | steering => { NetState.initial with outstanding := [bdbModeNetworkSteering] }
  | waiting => { NetState.initial with alarms := [NetState.retryAlarm] }
  | joined => { NetState.initial with joined := true }
  | stalled => NetState.initial

end Phase

/-- The phase of a state. -/
def NetState.phase (st : NetState) : Phase :=
  if st.joined then .joined
  else if st.outstanding = [bdbModeInitialization] then .initializing
  else if st.outstanding = [bdbModeNetworkSteering] then .steering
  else if st.alarms = [NetState.retryAlarm] then .waiting
  else .stalled

@[simp] theorem Phase.phase_state (phase : Phase) : phase.state.phase = phase := by
  cases phase <;> rfl

/-- What a step of the device is to the machine. -/
def NetEvent.phaseEvent : NetEvent → PhaseEvent
  | .signal s r =>
      if s.sigType = signalDeviceFirstStart ∨ s.sigType = signalDeviceReboot then
        .initialized (r.start = espOk)
      else if s.sigType = signalSteering then .steered (s.errStatus = espOk)
      else if s.sigType = signalLeave then .left
      else .other
  | .alarmFires _ r => .retried (r.start = espOk)

namespace NetState

/-- A device that has just called for steering, and done nothing else, is in the phase after
that. -/
theorem started_eq_state (err : EspErr) :
    { initial with outstanding := startedBy bdbModeNetworkSteering err ++ [] }
      = (Phase.steeringIf (err = espOk)).state := by
  rw [startedBy, Phase.steeringIf]
  by_cases hok : err = espOk
  · simp [hok, Phase.state]
  · simp [hok, Phase.state, initial]

/-- Only the initializing phase has an initialization outstanding. -/
theorem eq_initializing {phase : Phase} (h : bdbModeInitialization ∈ phase.state.outstanding) :
    phase = .initializing := by
  cases phase <;> first | rfl | exact absurd h (by decide)

/-- Only the steering phase has network steering outstanding. -/
theorem eq_steering {phase : Phase} (h : bdbModeNetworkSteering ∈ phase.state.outstanding) :
    phase = .steering := by
  cases phase <;> first | rfl | exact absurd h (by decide)

/-- Only the waiting phase has an alarm pending, the retry. -/
theorem eq_waiting {phase : Phase} {alarm : Alarm} (h : alarm ∈ phase.state.alarms) :
    phase = .waiting ∧ alarm = retryAlarm := by
  cases phase <;> first | exact ⟨rfl, List.mem_singleton.mp h⟩ | exact absurd h List.not_mem_nil

/-- Only the joined phase is on the network. -/
theorem eq_joined {phase : Phase} (h : phase.state.joined = true) : phase = .joined := by
  cases phase <;> first | rfl | exact absurd h (by decide)

/-- **One step of the device in a phase** is a step of the machine, and ends in a phase. -/
theorem state_step {build : LogLevel} (hinfo : build.HasInfo) {phase : Phase} {k : NetEvent}
    {st' : NetState} (hstep : phase.state.step build k = some st') :
    ∃ phase', st' = phase'.state ∧ phase.next k.phaseEvent = some phase' := by
  cases k with
  | signal s r =>
      have hleft : s.sigType = signalLeave →
          ¬ (s.sigType = signalDeviceFirstStart ∨ s.sigType = signalDeviceReboot) ∧
            s.sigType ≠ signalSteering := by
        intro htype
        rw [htype]
        decide
      rw [NetEvent.phaseEvent]
      rcases signal_cases hinfo hstep with ⟨htype, hmem, rfl⟩ | ⟨htype, hok, hmem, rfl⟩ |
        ⟨htype, hfail, hmem, rfl⟩ | ⟨htype, hjoined, rfl⟩ | ⟨hsteering, hleave, hstart, rfl⟩
      · obtain rfl := eq_initializing hmem
        rw [if_pos htype]
        exact ⟨_, started_eq_state r.start, rfl⟩
      · obtain rfl := eq_steering hmem
        rw [if_neg (AppSignal.not_deviceStart_of_steering htype), if_pos htype, decide_eq_true hok]
        exact ⟨.joined, rfl, rfl⟩
      · obtain rfl := eq_steering hmem
        rw [if_neg (AppSignal.not_deviceStart_of_steering htype), if_pos htype,
          decide_eq_false hfail]
        exact ⟨.waiting, rfl, rfl⟩
      · obtain rfl := eq_joined hjoined
        rw [if_neg (hleft htype).1, if_neg (hleft htype).2, if_pos htype]
        exact ⟨.stalled, rfl, rfl⟩
      · rw [if_neg hstart, if_neg hsteering, if_neg hleave]
        exact ⟨phase, rfl, by cases phase <;> rfl⟩
  | alarmFires alarm r =>
      obtain ⟨hmem, rfl⟩ := alarm_cases hstep
      obtain ⟨rfl, rfl⟩ := eq_waiting hmem
      exact ⟨_, started_eq_state r.start, rfl⟩

/-- The state after start-up is that of a phase. -/
theorem boot_eq_state {build : LogLevel} (hinfo : build.HasInfo) (errStatus : EspErr)
    (r : StackReply) :
    boot build errStatus r
      = (if r.start = espOk then Phase.initializing else Phase.stalled).state := by
  rw [boot_eq hinfo, startedBy]
  split
  · rfl
  · rfl

/-! ## Whole runs -/

section Runs

variable {build : LogLevel} (hinfo : build.HasInfo)

include hinfo

/-- **Every run of the device is a run of the machine.** -/
theorem run_refines {phase : Phase} {events : List NetEvent} {st : NetState}
    (hrun : runLabels (step build) phase.state events = some st) :
    ∃ phase' : Phase, st = phase'.state ∧
      runLabels Phase.next phase (events.map NetEvent.phaseEvent) = some phase' := by
  -- the invariant of the simulation: the state is that of its own phase
  have hsim : ∀ st k st', st.phase.state = st → step build st k = some st' →
      st'.phase.state = st' ∧ Phase.next st.phase k.phaseEvent = some st'.phase := by
    intro st k st' hst hstep
    rw [← hst] at hstep
    obtain ⟨phase', rfl, hnext⟩ := state_step hinfo hstep
    rw [Phase.phase_state]
    exact ⟨rfl, hnext⟩
  have hphase : phase.state.phase.state = phase.state := by rw [Phase.phase_state]
  obtain ⟨hst, hes⟩ := runLabels_simulation hsim hphase hrun
  rw [Phase.phase_state] at hes
  exact ⟨st.phase, hst.symm, hes⟩

/-- **A stalled device stays stalled**: no signal and no alarm brings it back. -/
theorem stalled_forever {events : List NetEvent} {st : NetState}
    (hrun : runLabels (step build) Phase.stalled.state events = some st) :
    st = Phase.stalled.state := by
  obtain ⟨phase, rfl, hes⟩ := run_refines hinfo hrun
  rw [Phase.runLabels_stalled hes]

end Runs

/-- **The network stays within reach** of the shipped build exactly outside of the stalled phase. -/
theorem canJoin_iff (phase : Phase) :
    (∃ (events : List NetEvent) (st : NetState),
        runLabels (step shippedLogLevel) phase.state events = some st ∧ st.joined = true) ↔
      phase ≠ .stalled := by
  have hinfo : shippedLogLevel.HasInfo := by decide
  let join : NetEvent := .signal { sigType := signalSteering, errStatus := espOk } (replying espOk)
  constructor
  · rintro ⟨events, st, hrun, hjoined⟩ rfl
    rw [stalled_forever hinfo hrun] at hjoined
    exact absurd hjoined (by decide)
  · intro hphase
    cases phase with
    | initializing =>
        let start : NetEvent :=
          .signal { sigType := signalDeviceFirstStart, errStatus := espOk } (replying espOk)
        exact ⟨[start, join], Phase.joined.state, by decide, rfl⟩
    | steering => exact ⟨[join], Phase.joined.state, by decide, rfl⟩
    | waiting =>
        exact ⟨[.alarmFires retryAlarm (replying espOk), join], Phase.joined.state, by decide, rfl⟩
    | joined => exact ⟨[], Phase.joined.state, rfl, rfl⟩
    | stalled => exact absurd rfl hphase

/-! ## Builds without INFO -/

/-- Without INFO, start-up starts nothing. -/
theorem boot_eq_stalled {build : LogLevel} (hquiet : ¬ build.HasInfo) (errStatus : EspErr)
    (r : StackReply) : boot build errStatus r = Phase.stalled.state := by
  rw [boot, afterTrace_handler, AppSignal.ops, if_neg hquiet]
  rfl

/-- To a device that has done nothing, no completion and no LEAVE can be delivered. -/
theorem deliver_stalled {s : AppSignal} {mid : NetState}
    (hdeliver : Phase.stalled.state.deliver s = some mid) :
    s.sigType ≠ signalSteering ∧ mid = Phase.stalled.state := by
  have hnone (mode : UInt8) : mode ∉ Phase.stalled.state.outstanding := List.not_mem_nil
  unfold deliver at hdeliver
  split at hdeliver
  · cases hdeliver
  · split at hdeliver
    · rw [if_neg (hnone _)] at hdeliver
      cases hdeliver
    · split at hdeliver
      · rw [if_neg (hnone _)] at hdeliver
        cases hdeliver
      · next hsteering =>
          split at hdeliver
          · cases hdeliver
          · exact ⟨hsteering, (Option.some.inj hdeliver).symm⟩

/-- Without INFO, a device that has done nothing does nothing: the signals that reach it start
nothing outside of the log messages. -/
theorem quiet_step {build : LogLevel} (hquiet : ¬ build.HasInfo) {k : NetEvent} {st' : NetState}
    (hstep : Phase.stalled.state.step build k = some st') : st' = Phase.stalled.state := by
  cases k with
  | signal s r =>
      obtain ⟨mid, hdeliver, rfl⟩ := Option.map_eq_some_iff.mp hstep
      obtain ⟨hsteering, rfl⟩ := deliver_stalled hdeliver
      rw [afterTrace_handler, AppSignal.ops, if_neg hquiet, AppSignal.plainOps,
        if_neg (fun h => hsteering h.1)]
      rfl
  | alarmFires alarm r =>
      obtain ⟨hmem, -⟩ := alarm_cases hstep
      exact absurd hmem List.not_mem_nil

/-- **A build without INFO is stalled from start-up on**, whatever the stack replies. -/
theorem quiet_stalls {build : LogLevel} (hquiet : ¬ build.HasInfo) (errStatus : EspErr)
    (r : StackReply) {events : List NetEvent} {st : NetState}
    (hrun : runLabels (step build) (boot build errStatus r) events = some st) :
    st = Phase.stalled.state := by
  refine runLabels_invariant (I := fun st => st = Phase.stalled.state) ?_
    (boot_eq_stalled hquiet errStatus r) hrun
  rintro st k st' rfl hstep
  exact quiet_step hquiet hstep

/-- A build without any log stays stalled over a signal that the handler only logs. -/
theorem quiet_stalls_silent :
    ∃ st, runLabels (step .none) (boot .none espOk (replying espOk))
        [.signal { sigType := 0x36, errStatus := espOk } (replying espOk)] = some st ∧
      st = Phase.stalled.state := by
  have hrun : runLabels (step .none) (boot .none espOk (replying espOk))
      [.signal { sigType := 0x36, errStatus := espOk } (replying espOk)]
        = some NetState.initial := by decide
  exact ⟨_, hrun, quiet_stalls (by decide) espOk (replying espOk) hrun⟩

end NetState

end SmartLock
