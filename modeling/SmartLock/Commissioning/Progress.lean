import SmartLock.Commissioning.SignalHandler
import SmartLock.Effects.Transition

/-! # Progress of commissioning

The device between the signals it handles: is it on the network, which procedures has it started
that have not completed, which alarms has it scheduled that have not fired. A step is a signal the
stack may deliver in that state, or an alarm that fires; the handler of the build runs in it.

* **`signal_cases`, `alarm_cases`** — everything one step can do.
* **`inOnePhase_step_iff`** — from a state with exactly one of the three, a step keeps exactly one
  unless a start fails in it or the device leaves the network.
* **`neverStalls_iff`** — the same over whole runs from start-up. -/

namespace SmartLock

open Effects

/-! ## The state between two signals -/

/-- A scheduled alarm. -/
structure Alarm where
  cb : AlarmCallback
  param : UInt8
  time : UInt32
  deriving DecidableEq, Repr

/-- Network membership, outstanding commissioning procedures by mode, pending alarms. -/
structure NetState where
  /-- The last STEERING signal had `ESP_OK`, and no LEAVE came since. -/
  joined : Bool
  outstanding : List UInt8
  alarms : List Alarm
  deriving DecidableEq, Repr

/-- `CONFIG_LOG_DEFAULT_LEVEL` of the shipped configuration. -/
def shippedLogLevel : LogLevel := .info

namespace NetState

/-- The procedure that a call of `esp_zb_bdb_start_top_level_commissioning` starts: none if it
returns an error. -/
def startedBy (mode : UInt8) (err : EspErr) : List UInt8 := if err = espOk then [mode] else []

/-- What a call leaves behind: the procedure it starts is outstanding, its alarm is pending. -/
def after (st : NetState) : StackEvent → NetState
  | ⟨.espZbBdbStartTopLevelCommissioning mode, err⟩ =>
      { st with outstanding := startedBy mode err ++ st.outstanding }
  | ⟨.espZbSchedulerAlarm cb param time, _⟩ =>
      { st with alarms := { cb := cb, param := param, time := time } :: st.alarms }
  | _ => st

/-- What a trace leaves behind. -/
def afterTrace (st : NetState) (tr : List StackEvent) : NetState := tr.foldl after st

/-- What the stack changes when it delivers a signal, or `none` when it may not deliver it:
SKIP_STARTUP comes once, before all steps; a completion needs its procedure; LEAVE needs a device on
the network. -/
def deliver (st : NetState) (signal : AppSignal) : Option NetState :=
  if signal.sigType = signalSkipStartup then none
  else if signal.sigType = signalDeviceFirstStart ∨ signal.sigType = signalDeviceReboot then
    if bdbModeInitialization ∈ st.outstanding then
      some { st with outstanding := st.outstanding.erase bdbModeInitialization }
    else none
  else if signal.sigType = signalSteering then
    if bdbModeNetworkSteering ∈ st.outstanding then
      some { st with
        joined := signal.errStatus = espOk
        outstanding := st.outstanding.erase bdbModeNetworkSteering }
    else none
  else if signal.sigType = signalLeave then
    if st.joined then some { st with joined := false } else none
  else some st

end NetState

/-- What an alarm calls. -/
def AlarmCallback.program : AlarmCallback → UInt8 → Stack Unit
  | .espZbBdbStartTopLevelCommissioning, param =>
      Program.perform (.espZbBdbStartTopLevelCommissioning param)

/-- A step of the device: a signal or an alarm, with the replies of the stack during it. -/
inductive NetEvent
  | signal (s : AppSignal) (r : StackReply)
  | alarmFires (alarm : Alarm) (r : StackReply)

namespace NetState

/-- One step of a build. A pending alarm fires once. -/
def step (build : LogLevel) (st : NetState) : NetEvent → Option NetState
  | .signal s r =>
      (st.deliver s).map fun st' =>
        st'.afterTrace ((espZbAppSignalHandler build s).trace r.answers)
  | .alarmFires alarm r =>
      if alarm ∈ st.alarms then
        some ({ st with alarms := st.alarms.erase alarm }.afterTrace
          ((alarm.cb.program alarm.param).trace r.answers))
      else none

/-- A device that has done nothing. -/
def initial : NetState where
  joined := false
  outstanding := []
  alarms := []

/-- The state of a build after it has handled SKIP_STARTUP. -/
def boot (build : LogLevel) (errStatus : EspErr) (r : StackReply) : NetState :=
  initial.afterTrace
    ((espZbAppSignalHandler build
      { sigType := signalSkipStartup, errStatus := errStatus }).trace r.answers)

/-- Exactly one of: the device is on the network, one procedure is outstanding, one alarm is
pending. -/
def InOnePhase (st : NetState) : Prop :=
  st.joined.toNat + st.outstanding.length + st.alarms.length = 1

instance (st : NetState) : Decidable st.InOnePhase := inferInstanceAs (Decidable (_ = _))

theorem inOnePhase_mk (joined : Bool) (outstanding : List UInt8) (alarms : List Alarm) :
    (mk joined outstanding alarms).InOnePhase ↔
      joined.toNat + outstanding.length + alarms.length = 1 := Iff.rfl

/-! ## What a step does -/

/-- Only commissioning calls leave something behind. -/
theorem after_eq_self (st : NetState) {e : StackEvent} (he : ¬ e.1.isCommissioning = true) :
    st.after e = st := by
  obtain ⟨op, r⟩ := e
  cases op with
  | espZbBdbStartTopLevelCommissioning mode => exact absurd rfl he
  | espZbSchedulerAlarm cb param time => exact absurd rfl he
  | espZbGetExtendedPanId => rfl
  | espZbGetPanId => rfl
  | espZbGetCurrentChannel => rfl
  | espZbGetShortAddress => rfl
  | espLogWrite level => rfl

/-- What a trace leaves behind is what its commissioning calls leave behind. -/
theorem afterTrace_commissioned (st : NetState) (tr : List StackEvent) :
    st.afterTrace (commissioned tr) = st.afterTrace tr := by
  have hafter : (fun (st : NetState) (e : StackEvent) =>
      if e.1.isCommissioning = true then st.after e else st) = after := by
    funext st e
    by_cases he : e.1.isCommissioning = true
    · rw [if_pos he]
    · rw [if_neg he, after_eq_self st he]
  rw [afterTrace, afterTrace, commissioned, List.foldl_filter, hafter]

/-- What an entry of the handler leaves behind. -/
theorem afterTrace_handler (build : LogLevel) (st : NetState) (s : AppSignal) (r : StackReply) :
    st.afterTrace ((espZbAppSignalHandler build s).trace r.answers)
      = st.afterTrace ((s.ops build).map fun op => ⟨op, r.answer op⟩) := by
  rw [← afterTrace_commissioned, commissioned_handler]

section Steps

variable {build : LogLevel} {st st' : NetState}

/-- The alarm that the handler schedules. -/
def retryAlarm : Alarm where
  cb := .espZbBdbStartTopLevelCommissioning
  param := bdbModeNetworkSteering
  time := 1000

/-- **Everything a signal can do** in a build with INFO: complete the initialization and start
steering, complete the steering with or without success, take the device off the network, or
nothing. -/
theorem signal_cases (hinfo : build.HasInfo) {s : AppSignal} {r : StackReply}
    (hstep : st.step build (.signal s r) = some st') :
    ((s.sigType = signalDeviceFirstStart ∨ s.sigType = signalDeviceReboot) ∧
        bdbModeInitialization ∈ st.outstanding ∧
        st' = { st with
          outstanding := startedBy bdbModeNetworkSteering r.start
            ++ st.outstanding.erase bdbModeInitialization }) ∨
      (s.sigType = signalSteering ∧ s.errStatus = espOk ∧
        bdbModeNetworkSteering ∈ st.outstanding ∧
        st' = { st with
          joined := true
          outstanding := st.outstanding.erase bdbModeNetworkSteering }) ∨
      (s.sigType = signalSteering ∧ s.errStatus ≠ espOk ∧
        bdbModeNetworkSteering ∈ st.outstanding ∧
        st' = { joined := false
                outstanding := st.outstanding.erase bdbModeNetworkSteering
                alarms := retryAlarm :: st.alarms }) ∨
      (s.sigType = signalLeave ∧ st.joined = true ∧ st' = { st with joined := false }) ∨
      (s.sigType ≠ signalSteering ∧ s.sigType ≠ signalLeave ∧
        ¬ (s.sigType = signalDeviceFirstStart ∨ s.sigType = signalDeviceReboot) ∧ st' = st) := by
  obtain ⟨mid, hdeliver, rfl⟩ := Option.map_eq_some_iff.mp hstep
  rw [afterTrace_handler, AppSignal.ops, if_pos hinfo, AppSignal.loggedOps, AppSignal.plainOps]
  rw [deliver] at hdeliver
  by_cases hskip : s.sigType = signalSkipStartup
  · rw [if_pos hskip] at hdeliver
    cases hdeliver
  rw [if_neg hskip] at hdeliver ⊢
  by_cases hstart : s.sigType = signalDeviceFirstStart ∨ s.sigType = signalDeviceReboot
  · rw [if_pos hstart] at hdeliver ⊢
    have hother : ¬ (s.sigType = signalSteering ∧ s.errStatus ≠ espOk) := fun h =>
      AppSignal.not_deviceStart_of_steering h.1 hstart
    rw [if_neg hother]
    by_cases hmem : bdbModeInitialization ∈ st.outstanding
    · rw [if_pos hmem] at hdeliver
      obtain rfl := Option.some.inj hdeliver
      exact Or.inl ⟨hstart, hmem, rfl⟩
    · rw [if_neg hmem] at hdeliver
      cases hdeliver
  rw [if_neg hstart] at hdeliver ⊢
  by_cases hsteering : s.sigType = signalSteering
  · rw [if_pos hsteering] at hdeliver
    by_cases hmem : bdbModeNetworkSteering ∈ st.outstanding
    · rw [if_pos hmem] at hdeliver
      obtain rfl := Option.some.inj hdeliver
      by_cases hok : s.errStatus = espOk
      · rw [if_neg (fun h => h.2 hok)]
        refine Or.inr (Or.inl ⟨hsteering, hok, hmem, ?_⟩)
        rw [decide_eq_true hok]
        rfl
      · rw [if_pos ⟨hsteering, hok⟩]
        refine Or.inr (Or.inr (Or.inl ⟨hsteering, hok, hmem, ?_⟩))
        rw [decide_eq_false hok]
        rfl
    · rw [if_neg hmem] at hdeliver
      cases hdeliver
  rw [if_neg hsteering] at hdeliver
  rw [if_neg (fun h => hsteering h.1)]
  by_cases hleave : s.sigType = signalLeave
  · rw [if_pos hleave] at hdeliver
    by_cases hjoined : st.joined = true
    · rw [if_pos hjoined] at hdeliver
      obtain rfl := Option.some.inj hdeliver
      exact Or.inr (Or.inr (Or.inr (Or.inl ⟨hleave, hjoined, rfl⟩)))
    · rw [if_neg hjoined] at hdeliver
      cases hdeliver
  · rw [if_neg hleave] at hdeliver
    obtain rfl := Option.some.inj hdeliver
    exact Or.inr (Or.inr (Or.inr (Or.inr ⟨hsteering, hleave, hstart, rfl⟩)))

/-- **Everything an alarm can do**: start the procedure of its parameter. -/
theorem alarm_cases {alarm : Alarm} {r : StackReply}
    (hstep : st.step build (.alarmFires alarm r) = some st') :
    alarm ∈ st.alarms ∧
      st' = { st with
        outstanding := startedBy alarm.param r.start ++ st.outstanding
        alarms := st.alarms.erase alarm } := by
  rw [step] at hstep
  by_cases hmem : alarm ∈ st.alarms
  · rw [if_pos hmem] at hstep
    refine ⟨hmem, ?_⟩
    obtain rfl := Option.some.inj hstep
    cases alarm.cb
    rfl
  · rw [if_neg hmem] at hstep
    cases hstep

/-- What start-up leaves behind: the initialization, if it could be started. -/
theorem boot_eq (hinfo : build.HasInfo) (errStatus : EspErr) (r : StackReply) :
    boot build errStatus r
      = { initial with outstanding := startedBy bdbModeInitialization r.start } := by
  rw [boot, afterTrace_handler, AppSignal.ops, if_pos hinfo]
  exact congrArg (NetState.mk false · []) (List.append_nil _)

end Steps

/-! ## One phase at a time -/

theorem length_startedBy (mode : UInt8) (err : EspErr) :
    (startedBy mode err).length = if err = espOk then 1 else 0 := by
  rw [startedBy]
  split
  · rfl
  · rfl

end NetState

/-- The step keeps commissioning going: the device does not leave, and the procedure it starts, if
any, can be started. -/
def NetEvent.Keeps : NetEvent → Prop
  | .signal s r =>
      s.sigType ≠ signalLeave ∧
        (s.sigType = signalDeviceFirstStart ∨ s.sigType = signalDeviceReboot → r.start = espOk)
  | .alarmFires _ r => r.start = espOk

/-- The end of a steering procedure starts nothing. -/
theorem NetEvent.keeps_of_steering {s : AppSignal} (r : StackReply)
    (htype : s.sigType = signalSteering) : (NetEvent.signal s r).Keeps := by
  have hleave : s.sigType ≠ signalLeave := by
    rw [htype]
    decide
  exact ⟨hleave, fun h => absurd h (AppSignal.not_deviceStart_of_steering htype)⟩

namespace NetState

/-- **One step.** From a state in exactly one phase, a step leads to another one exactly when it
keeps commissioning going. -/
theorem inOnePhase_step_iff {build : LogLevel} (hinfo : build.HasInfo) (st : NetState)
    (k : NetEvent) (st' : NetState) (hst : st.InOnePhase) (hstep : st.step build k = some st') :
    st'.InOnePhase ↔ k.Keeps := by
  rw [InOnePhase] at hst
  cases k with
  | signal s r =>
      rw [NetEvent.Keeps]
      rcases signal_cases hinfo hstep with ⟨htype, hmem, rfl⟩ | ⟨htype, -, hmem, rfl⟩ |
        ⟨htype, -, hmem, rfl⟩ | ⟨hleave, hjoined, rfl⟩ | ⟨-, hleave, hstart, rfl⟩
      · -- the initialization is the one phase; steering takes its place if it can be started
        have hpos := List.length_pos_of_mem hmem
        have hleave : s.sigType ≠ signalLeave := by
          intro hleave
          rw [hleave] at htype
          exact absurd htype (by decide)
        rw [inOnePhase_mk, List.length_append, length_startedBy, List.length_erase_of_mem hmem,
          and_iff_right hleave, forall_prop_of_true htype]
        split
        · next hok => exact iff_of_true (by omega) hok
        · next hok => exact iff_of_false (by omega) hok
      · -- steering succeeded: membership takes its place
        have hpos := List.length_pos_of_mem hmem
        have hkeeps := NetEvent.keeps_of_steering r htype
        rw [inOnePhase_mk, List.length_erase_of_mem hmem, Bool.toNat_true]
        exact iff_of_true (by omega) hkeeps
      · -- steering failed: the retry alarm takes its place
        have hpos := List.length_pos_of_mem hmem
        have hkeeps := NetEvent.keeps_of_steering r htype
        rw [inOnePhase_mk, List.length_erase_of_mem hmem, List.length_cons, Bool.toNat_false]
        exact iff_of_true (by omega) hkeeps
      · -- LEAVE ends the membership, and nothing takes its place
        rw [hjoined, Bool.toNat_true] at hst
        rw [inOnePhase_mk, Bool.toNat_false]
        exact iff_of_false (by omega) (fun hkeeps => hkeeps.1 hleave)
      · exact iff_of_true hst ⟨hleave, fun h => absurd h hstart⟩
  | alarmFires alarm r =>
      -- the alarm is the one phase; its procedure takes its place if it can be started
      obtain ⟨hmem, rfl⟩ := alarm_cases hstep
      have hpos := List.length_pos_of_mem hmem
      rw [NetEvent.Keeps, inOnePhase_mk, List.length_append, length_startedBy,
        List.length_erase_of_mem hmem]
      split
      · next hok => exact iff_of_true (by omega) hok
      · next hok => exact iff_of_false (by omega) hok

/-- Start-up reaches one phase exactly when the initialization can be started. -/
theorem inOnePhase_boot {build : LogLevel} (hinfo : build.HasInfo) (errStatus : EspErr)
    (r : StackReply) : (boot build errStatus r).InOnePhase ↔ r.start = espOk := by
  rw [boot_eq hinfo, inOnePhase_mk, length_startedBy]
  split
  · next hok => exact iff_of_true rfl hok
  · next hok => exact iff_of_false Nat.zero_ne_one hok

/-- **When commissioning never stalls.** For every run of the shipped build after start-up: exactly
one of membership, an outstanding procedure and a pending alarm holds in every state of the run, if
and only if the initialization could be started and every step keeps commissioning going. -/
theorem neverStalls_iff (errStatus : EspErr) (r : StackReply) (events : List NetEvent)
    (st : NetState)
    (hrun : runLabels (step shippedLogLevel) (boot shippedLogLevel errStatus r) events = some st) :
    AlwaysAlong (step shippedLogLevel) InOnePhase (boot shippedLogLevel errStatus r) events ↔
      r.start = espOk ∧ ∀ k ∈ events, k.Keeps := by
  have hinfo : shippedLogLevel.HasInfo := by decide
  rw [alwaysAlong_iff (inOnePhase_step_iff hinfo) hrun, inOnePhase_boot hinfo]

/-- Replies of a stack that answers every start by `err`. -/
def replying (err : EspErr) : StackReply where
  start := err
  extendedPanId := Vector.replicate 8 0
  panId := 0x1A62
  currentChannel := 15
  shortAddress := 0x7C3D

/-- A device that fails to join once, retries and joins. -/
def joiningRun : List NetEvent :=
  [.signal { sigType := signalDeviceFirstStart, errStatus := espOk } (replying espOk),
    .signal { sigType := signalSteering, errStatus := espFail } (replying espOk),
    .alarmFires retryAlarm (replying espOk),
    .signal { sigType := signalSteering, errStatus := espOk } (replying espOk)]

/-- The joining run never stalls. -/
theorem joiningRun_neverStalls :
    AlwaysAlong (step shippedLogLevel) InOnePhase (boot shippedLogLevel espOk (replying espOk))
      joiningRun := by
  have hrun : runLabels (step shippedLogLevel) (boot shippedLogLevel espOk (replying espOk))
      joiningRun = some { initial with joined := true } := by decide
  refine (neverStalls_iff espOk (replying espOk) joiningRun _ hrun).mpr ⟨rfl, ?_⟩
  simp [joiningRun, NetEvent.Keeps, replying]
  decide

/-- A device whose initialization cannot be started is in no phase after start-up. -/
theorem failedBoot_stalls :
    ¬ AlwaysAlong (step shippedLogLevel) InOnePhase
      (boot shippedLogLevel espOk (replying espFail)) [] := by
  rw [alwaysAlong_nil]
  decide

end NetState

end SmartLock
