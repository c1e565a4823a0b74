import SmartLock.Device.Code

/-! # Runs of the whole device

From power-on: `app_main` creates the task, the task sets the stack up and enters its main loop, the
stack delivers SKIP_STARTUP, and from then on it delivers signals, fires alarms and hands commands
and attribute writes to the registered handlers, in any order. Each of them runs as a program over
the whole interface, in an environment of its own.

* **`DeviceState.deliver`, `DeviceState.step`** — what the stack lets in, and one step. Signals and
  alarms obey the rules of commissioning. A command or a write gets to its handler only on a device
  that the stack has accepted; elsewhere it is lost.
* **`runLabels_device`** — the independence: a run of the device is the run of commissioning over
  its signals and alarms, and asks of the hardware what its entries ask.
* **`device_run_iff`** — the runs from power-on.
* **`device_run_filter`** — the events that make a difference: five kinds of signals, the alarms and
  the commands on which the callback's test holds. All others can be dropped from a run. -/

namespace SmartLock

open Effects

/-! ## The main loop -/

/-- What the main loop of the stack hands to the firmware. -/
inductive Arrival
  | signal (s : AppSignal)
  | alarm (alarm : Alarm)
  | entry (call : ZigbeeCall)

/-- An arrival, and what its code meets. -/
structure DeviceEvent where
  arrival : Arrival
  env : Environment

namespace DeviceState

/-- The stack enters the handler of a command or a write: the device is accepted, and the handler is
registered. -/
def Serves (d : DeviceState) (call : ZigbeeCall) : Prop :=
  d.setup.accepted = true ∧ call.handler ∈ d.setup.handlers

instance (d : DeviceState) (call : ZigbeeCall) : Decidable (d.Serves call) :=
  inferInstanceAs (Decidable (_ ∧ _))

/-- The state and the code that an arrival leads to, or `none` when the stack may not let it in. -/
def deliver (build : LogLevel) (d : DeviceState) : Arrival → Option (DeviceState × DeviceCode Unit)
  | .signal s => (d.net.deliver s).map fun net => ({ d with net := net }, s.code build)
  | .alarm alarm =>
      if alarm ∈ d.net.alarms then
        some ({ d with net := { d.net with alarms := d.net.alarms.erase alarm } }, alarm.code)
      else none
  | .entry call => some (d, if d.Serves call then call.code else return ())

/-- One step of a build. -/
def step (build : LogLevel) (d : DeviceState) (k : DeviceEvent) : Option DeviceState :=
  (d.deliver build k.arrival).map fun entered => entered.1.run entered.2 k.env

end DeviceState

/-! ## Independence -/

namespace DeviceEvent

/-- The step of commissioning that an event is. -/
def asNet : DeviceEvent → Option NetEvent
  | ⟨.signal s, env⟩ => some (.signal s env.reply)
  | ⟨.alarm alarm, env⟩ => some (.alarmFires alarm env.reply)
  | ⟨.entry _, _⟩ => none

/-- The entry into the Zigbee component that an event is. -/
def asEntry : DeviceEvent → Option (ZigbeeCall × Board)
  | ⟨.entry call, env⟩ => some (call, env.board)
  | _ => none

end DeviceEvent

/-- The signals and alarms of a sequence of events. -/
def netEvents (ks : List DeviceEvent) : List NetEvent := ks.filterMap DeviceEvent.asNet

/-- The commands and writes. -/
def entries (ks : List DeviceEvent) : List (ZigbeeCall × Board) := ks.filterMap DeviceEvent.asEntry

namespace DeviceState

/-- What an entry asks of the hardware on the device. -/
def served (d : DeviceState) (entry : ZigbeeCall × Board) : List HwEvent :=
  if d.Serves entry.1 then entry.1.events entry.2 else []

/-- **A signal or an alarm** is a step of commissioning, and leaves the rest as it is. -/
theorem step_net (build : LogLevel) (d : DeviceState) {k : DeviceEvent} {e : NetEvent}
    (hk : k.asNet = some e) :
    d.step build k = (d.net.step build e).map fun net => { d with net := net } := by
  obtain ⟨arrival, env⟩ := k
  cases arrival with
  | signal s =>
      obtain rfl := Option.some.inj hk
      rw [step, deliver, NetState.step, Option.map_map, Option.map_map]
      refine congrArg (Option.map · _) (funext fun net => ?_)
      exact run_onStack { d with net := net } env _
  | alarm alarm =>
      obtain rfl := Option.some.inj hk
      rw [step, deliver, NetState.step]
      split
      · exact congrArg some (run_onStack _ env _)
      · rfl
  | entry call => cases hk

/-- **A command or a write** asks something of the hardware, and leaves the rest as it is. -/
theorem step_entry (build : LogLevel) (d : DeviceState) {k : DeviceEvent}
    {entry : ZigbeeCall × Board} (hk : k.asEntry = some entry) :
    d.step build k = some { d with hw := d.hw ++ d.served entry } := by
  obtain ⟨arrival, env⟩ := k
  cases arrival with
  | signal s => cases hk
  | alarm alarm => cases hk
  | entry call =>
      obtain rfl := Option.some.inj hk
      rw [step, deliver, served, Option.map_some]
      split
      · exact congrArg some (run_onHw d env _)
      · rw [List.append_nil]
        rfl

/-- **Independence.** A run of the device is the run of commissioning over its signals and alarms,
and asks of the hardware what its commands and writes ask, whatever order they come in. -/
theorem runLabels_device (build : LogLevel) (d : DeviceState) (ks : List DeviceEvent) :
    runLabels (step build) d ks
      = (runLabels (NetState.step build) d.net (netEvents ks)).map fun net =>
          { d with net := net, hw := d.hw ++ (entries ks).flatMap d.served } := by
  induction ks generalizing d with
  | nil => simp [netEvents, entries]
  | cons k ks ih =>
      rw [runLabels_cons]
      cases hnet : k.asNet with
      | some e =>
          have hentry : k.asEntry = none := by
            obtain ⟨arrival, env⟩ := k
            cases arrival <;> first | rfl | cases hnet
          have hnets : netEvents (k :: ks) = e :: netEvents ks := List.filterMap_cons_some hnet
          have hentries : entries (k :: ks) = entries ks := List.filterMap_cons_none hentry
          rw [step_net build d hnet, hnets, hentries, runLabels_cons]
          cases d.net.step build e with
          | none => rfl
          | some net => exact ih { d with net := net }
      | none =>
          obtain ⟨entry, hentry⟩ : ∃ entry, k.asEntry = some entry := by
            obtain ⟨arrival, env⟩ := k
            cases arrival <;> first | exact ⟨_, rfl⟩ | cases hnet
          have hnets : netEvents (k :: ks) = netEvents ks := List.filterMap_cons_none hnet
          have hentries : entries (k :: ks) = entry :: entries ks :=
            List.filterMap_cons_some hentry
          rw [step_entry build d hentry, Option.bind_some, ih, hnets, hentries, List.flatMap_cons,
            ← List.append_assoc]
          rfl

end DeviceState

/-! ## From power-on -/

/-- What the device meets from power-on until SKIP_STARTUP has been handled. -/
structure PowerOn where
  /-- During `app_main`. -/
  main : Environment
  /-- What the task finds in the uninitialized `app_device_version`. -/
  appDeviceVersion : Fin 16
  /-- During the task. -/
  task : Environment
  /-- The status of SKIP_STARTUP. -/
  errStatus : EspErr
  /-- During SKIP_STARTUP. -/
  skipStartup : Environment

namespace PowerOn

/-- The device after the task, if it was created. -/
def afterTask (on : PowerOn) : DeviceState :=
  (DeviceState.off.run appMain on.main).run (TaskFunction.rtosTask.code on.appDeviceVersion) on.task

/-- The device in the main loop after SKIP_STARTUP, if it gets there. -/
def start (build : LogLevel) (on : PowerOn) : Option DeviceState :=
  if (DeviceState.off.run appMain on.main).taskCreated = true ∧
      (TaskFunction.rtosTask.code on.appDeviceVersion).result on.task.answers = .inMainLoop then
    some (on.afterTask.run
      (AppSignal.code build { sigType := signalSkipStartup, errStatus := on.errStatus })
      on.skipStartup)
  else none

/-- The device after the events `ks` of the main loop. -/
def run (build : LogLevel) (on : PowerOn) (ks : List DeviceEvent) : Option DeviceState :=
  (on.start build).bind fun d => runLabels (DeviceState.step build) d ks

/-- `Zigbee::init` returns, the task is created, and it gets to the main loop. -/
def Starts (on : PowerOn) : Prop :=
  Zigbee.init.onHardware.result on.main.board.answers = .completed ∧ on.main.taskCreated = true ∧
    (Zigbee.rtosTask on.appDeviceVersion).result on.task.setup = .inMainLoop

/-- The stack answers `ESP_OK` to the registration of the device. -/
def Accepted (on : PowerOn) : Prop :=
  ∃ e ∈ (Zigbee.rtosTask on.appDeviceVersion).trace on.task.setup, SetupEvent.accepts e = true

instance (on : PowerOn) : Decidable on.Accepted := inferInstanceAs (Decidable (∃ e ∈ _, _))

/-- The device in the main loop. -/
def started (build : LogLevel) (on : PowerOn) : DeviceState where
  net := NetState.boot build on.errStatus on.skipStartup.reply
  hw := Zigbee.init.onHardware.trace on.main.board.answers
  setup := setupContract.after .off
    ((Zigbee.rtosTask on.appDeviceVersion).trace on.task.setup)
  taskCreated := true

/-- What start-up, the task and SKIP_STARTUP make of a device that has done nothing. -/
theorem run_afterTask (build : LogLevel) (on : PowerOn)
    (hcreated : (DeviceState.off.run appMain on.main).taskCreated = true) :
    on.afterTask.run
        (AppSignal.code build { sigType := signalSkipStartup, errStatus := on.errStatus })
        on.skipStartup
      = on.started build := by
  rw [DeviceState.run_appMain] at hcreated
  dsimp only at hcreated
  rw [afterTask, TaskFunction.code, AppSignal.code, DeviceState.run_onStack,
    DeviceState.run_onSetup, DeviceState.run_appMain, hcreated, started, NetState.boot]
  simp only [DeviceState.off, List.nil_append]

/-- The device gets to the main loop exactly if it starts, and what it is like then. -/
theorem start_eq_some {build : LogLevel} {on : PowerOn} {d : DeviceState} :
    on.start build = some d ↔ on.Starts ∧ d = on.started build := by
  have hresult : (TaskFunction.rtosTask.code on.appDeviceVersion).result on.task.answers
      = (Zigbee.rtosTask on.appDeviceVersion).result on.task.setup := Program.result_embed ..
  have hcreated : (DeviceState.off.run appMain on.main).taskCreated = true ↔
      Zigbee.init.onHardware.result on.main.board.answers = .completed ∧
        on.main.taskCreated = true := by
    rw [DeviceState.run_appMain]
    simp [DeviceState.off]
  rw [start, hresult, Option.ite_none_right_eq_some]
  constructor
  · rintro ⟨⟨htask, hmain⟩, hstate⟩
    obtain ⟨hinit, hexists⟩ := hcreated.mp htask
    rw [run_afterTask build on htask] at hstate
    exact ⟨⟨hinit, hexists, hmain⟩, (Option.some.inj hstate).symm⟩
  · rintro ⟨⟨hinit, hexists, hmain⟩, rfl⟩
    have htask := hcreated.mpr ⟨hinit, hexists⟩
    exact ⟨⟨htask, hmain⟩, congrArg some (run_afterTask build on htask)⟩

/-- On the device in the main loop, an entry asks what it asks if the device is accepted. -/
theorem served_started (build : LogLevel) (on : PowerOn) (entry : ZigbeeCall × Board) :
    (on.started build).served entry = if on.Accepted then entry.1.events entry.2 else [] := by
  obtain ⟨haccepted, hhandlers⟩ := rtosTask_registration on.appDeviceVersion on.task.setup
  have hmem : entry.1.handler ∈ (on.started build).setup.handlers := by
    rw [started, hhandlers]
    cases entry.1 with
    | actionHandler callbackId message => exact List.mem_cons_of_mem _ List.mem_cons_self
    | rawCommand buf => exact List.mem_cons_self
  have hserves : (on.started build).Serves entry.1 ↔ on.Accepted :=
    (and_iff_left hmem).trans haccepted
  exact if_congr hserves rfl rfl

end PowerOn

/-- **The runs of the device.** From power-on the device goes through the events `ks` of the main
loop, in whichever order signals, alarms, commands and attribute writes arrive, exactly if it gets
to the main loop and the signals and alarms among `ks` are a commissioning run. What it has asked of
the hardware by then is what start-up and the commands and writes among `ks` ask without any
commissioning, or start-up alone if the stack has not accepted the device. -/
theorem device_run_iff (build : LogLevel) (on : PowerOn) (ks : List DeviceEvent) (d : DeviceState) :
    on.run build ks = some d ↔
      on.Starts ∧
      runLabels (NetState.step build) (NetState.boot build on.errStatus on.skipStartup.reply)
        (netEvents ks) = some d.net ∧
      d.hw = firmwareTrace on.main.board (if on.Accepted then entries ks else []) ∧
      d.setup = setupContract.after .off
        ((Zigbee.rtosTask on.appDeviceVersion).trace on.task.setup) ∧
      d.taskCreated = true := by
  have hserved (hstarts : on.Starts) :
      Zigbee.init.onHardware.trace on.main.board.answers
          ++ (entries ks).flatMap (on.started build).served
        = firmwareTrace on.main.board (if on.Accepted then entries ks else []) := by
    rw [firmwareTrace, hstarts.1, funext (on.served_started build)]
    split
    · rfl
    · simp
  rw [PowerOn.run, Option.bind_eq_some_iff]
  simp only [PowerOn.start_eq_some, DeviceState.runLabels_device, Option.map_eq_some_iff]
  constructor
  · rintro ⟨_, ⟨hstarts, rfl⟩, net, hnet, rfl⟩
    refine ⟨hstarts, hnet, hserved hstarts, ?_, ?_⟩
    · rw [PowerOn.started]
    · rw [PowerOn.started]
  · rintro ⟨hstarts, hnet, hhw, hsetup, hcreated⟩
    refine ⟨_, ⟨hstarts, rfl⟩, d.net, hnet, DeviceState.ext rfl ?_ ?_ ?_⟩
    · exact (hserved hstarts).trans hhw.symm
    · rw [hsetup, PowerOn.started]
    · rw [hcreated, PowerOn.started]

/-! ## Events that make a difference -/

/-- The signals that commissioning knows. -/
def AppSignal.Matters (s : AppSignal) : Prop :=
  s.sigType = signalSkipStartup ∨ s.sigType = signalDeviceFirstStart ∨
    s.sigType = signalDeviceReboot ∨ s.sigType = signalSteering ∨ s.sigType = signalLeave

instance : DecidablePred AppSignal.Matters := fun _ => inferInstanceAs (Decidable (_ ∨ _))

/-- Any other signal is delivered and changes nothing, in every state and every build. -/
theorem NetState.step_of_not_matters (build : LogLevel) (st : NetState) {s : AppSignal}
    (hs : ¬ s.Matters) (r : StackReply) : st.step build (.signal s r) = some st := by
  simp only [AppSignal.Matters, not_or] at hs
  obtain ⟨hskip, hfirst, hreboot, hsteering, hleave⟩ := hs
  have hdeliver : st.deliver s = some st := by
    simp only [deliver, hskip, hfirst, hreboot, hsteering, hleave, or_self, if_false]
  have hops : s.ops build = [] := by
    simp only [AppSignal.ops, AppSignal.loggedOps, AppSignal.plainOps, hskip, hfirst, hreboot,
      hsteering, or_self, if_false, false_and, ite_self, List.append_nil]
  rw [step, hdeliver, Option.map_some, afterTrace_handler, hops]
  rfl

/-- An entry that does not open the lock does not reach the hardware. -/
theorem ZigbeeCall.events_of_not_opensLock {call : ZigbeeCall} (hcall : ¬ call.OpensLock)
    (b : Board) : call.events b = [] := by
  cases call with
  | actionHandler callbackId message => exact events_actionHandler callbackId message b
  | rawCommand buf => exact (events_rawCommand buf b).trans (if_neg hcall)

/-- The event may make a difference to the device. -/
def DeviceEvent.Matters (k : DeviceEvent) : Prop :=
  match k.arrival with
  | .signal s => s.Matters
  | .alarm _ => True
  | .entry call => call.OpensLock

instance : DecidablePred DeviceEvent.Matters := fun k =>
  match k with
  | ⟨.signal s, _⟩ => inferInstanceAs (Decidable s.Matters)
  | ⟨.alarm _, _⟩ => inferInstanceAs (Decidable True)
  | ⟨.entry call, _⟩ => inferInstanceAs (Decidable call.OpensLock)

/-- Any other event leaves the device as it is. -/
theorem DeviceState.step_of_not_matters (build : LogLevel) (d : DeviceState) {k : DeviceEvent}
    (hk : ¬ k.Matters) : d.step build k = some d := by
  obtain ⟨arrival, env⟩ := k
  cases arrival with
  | signal s =>
      have hnet : DeviceEvent.asNet ⟨.signal s, env⟩ = some (.signal s env.reply) := rfl
      have hstep := NetState.step_of_not_matters build d.net hk env.reply
      rw [step_net build d hnet, hstep]
      rfl
  | alarm alarm => exact absurd trivial hk
  | entry call =>
      have hentry : DeviceEvent.asEntry ⟨.entry call, env⟩ = some (call, env.board) := rfl
      have hserved : d.served (call, env.board) = [] := by
        rw [served, ZigbeeCall.events_of_not_opensLock hk, ite_self]
      rw [step_entry build d hentry, hserved, List.append_nil]

/-- **What makes no difference.** In every build, dropping from any sequence of events all attribute
writes, all commands but those on which the callback's test holds, and all signals but five,
wherever they stand, changes neither whether the device goes through the sequence nor its state at
the end: commissioning, what the hardware was asked for, and what was registered. -/
theorem device_run_filter (build : LogLevel) (on : PowerOn) (ks : List DeviceEvent) :
    on.run build (ks.filter DeviceEvent.Matters) = on.run build ks := by
  rw [PowerOn.run, PowerOn.run]
  refine congrArg _ (funext fun d => ?_)
  exact runLabels_filter (fun d _ => DeviceState.step_of_not_matters build d) d ks

end SmartLock
