import Mathlib.Data.List.Basic
import SmartLock.Driver.Hardware

/-! # The application signal handler

`esp_zb_app_signal_handler` of `main.cpp`, as a program over the calls of the Zigbee stack. The log
macros evaluate their arguments only when their level is compiled in, and some of these arguments
start a commissioning procedure. Log texts are left out.

* **`Stack`, `StackReply`** — the calls of the stack and what it answers during one entry.
* **`espLog`** — `ESP_LOGI` and `ESP_LOGW`, with the compiled level as a parameter.
* **`commissioned_handler`** — the commissioning calls of one entry (`AppSignal.ops`): those of
  `loggedOps` if the level INFO is compiled in, and those of `plainOps` in any build. -/

namespace SmartLock

open Effects

/-! ## Calls of the stack -/

/-- `esp_log_level_t`. -/
inductive LogLevel
  | none
  | error
  | warn
  | info
  | debug
  | verbose
  deriving DecidableEq, Repr

/-- The number of a level. -/
def LogLevel.value : LogLevel → ℕ
  | .none => 0
  | .error => 1
  | .warn => 2
  | .info => 3
  | .debug => 4
  | .verbose => 5

/-- The functions handed to the scheduler as alarm callbacks. -/
inductive AlarmCallback
  | espZbBdbStartTopLevelCommissioning
  deriving DecidableEq, Repr

/-- The calls of the signal handler, with their arguments. -/
inductive StackOp
  | espZbBdbStartTopLevelCommissioning (modeMask : UInt8)
  | espZbSchedulerAlarm (cb : AlarmCallback) (param : UInt8) (time : UInt32)
  | espZbGetExtendedPanId
  | espZbGetPanId
  | espZbGetCurrentChannel
  | espZbGetShortAddress
  | espLogWrite (level : LogLevel)
  deriving DecidableEq, Repr

/-- The answer type of every call. -/
abbrev StackRet : StackOp → Type
  | .espZbBdbStartTopLevelCommissioning _ => EspErr
  | .espZbSchedulerAlarm .. => Unit
  | .espZbGetExtendedPanId => Vector UInt8 8
  | .espZbGetPanId => UInt16
  | .espZbGetCurrentChannel => UInt8
  | .espZbGetShortAddress => UInt16
  | .espLogWrite _ => Unit

/-- Code that talks to the stack. -/
abbrev Stack := Program StackRet

/-- A call of the stack with its answer. -/
abbrev StackEvent := Event StackRet

/-- What the stack answers during one entry. No entry makes the same call twice. -/
structure StackReply where
  start : EspErr
  extendedPanId : Vector UInt8 8
  panId : UInt16
  currentChannel : UInt8
  shortAddress : UInt16

/-- The answer to every call. -/
def StackReply.answer (r : StackReply) : (op : StackOp) → StackRet op
  | .espZbBdbStartTopLevelCommissioning _ => r.start
  | .espZbSchedulerAlarm .. => ()
  | .espZbGetExtendedPanId => r.extendedPanId
  | .espZbGetPanId => r.panId
  | .espZbGetCurrentChannel => r.currentChannel
  | .espZbGetShortAddress => r.shortAddress
  | .espLogWrite _ => ()

/-- The behaviour of the stack that always replies by `r`. -/
def StackReply.answers (r : StackReply) : Answers StackRet := fun _ => r.answer

@[simp] theorem StackReply.answers_after (r : StackReply) (n : ℕ) :
    r.answers.after n = r.answers := rfl

/-- `ESP_LOGI` and `ESP_LOGW`: in a build with the level `build`, a message of the level `level`
whose arguments are `args`. -/
def espLog (build level : LogLevel) (args : Stack Unit) : Stack Unit := do
  if level.value ≤ build.value then
    args
    Program.perform (.espLogWrite level)

/-! ## The handler -/

/-- `ESP_ZB_BDB_MODE_INITIALIZATION` and `ESP_ZB_BDB_MODE_NETWORK_STEERING`. -/
def bdbModeInitialization : UInt8 := 0
def bdbModeNetworkSteering : UInt8 := 2

/-- The signals the handler knows, and `ESP_ZB_ZDO_SIGNAL_LEAVE`, which it does not. -/
def signalSkipStartup : UInt32 := 1
def signalLeave : UInt32 := 3
def signalDeviceFirstStart : UInt32 := 5
def signalDeviceReboot : UInt32 := 6
def signalSteering : UInt32 := 10

/-- `esp_zb_app_signal_t`, with the signal its first field points at. -/
structure AppSignal where
  sigType : UInt32
  errStatus : EspErr
  deriving DecidableEq, Repr

/-- The alarm that retries network steering. -/
def retrySteering : StackOp :=
  .espZbSchedulerAlarm .espZbBdbStartTopLevelCommissioning bdbModeNetworkSteering 1000

/-- `esp_zb_app_signal_handler`. -/
def espZbAppSignalHandler (build : LogLevel) (signal : AppSignal) : Stack Unit := do
  espLog build .info (return ())
  if signal.sigType = signalSkipStartup then
    -- the start is an argument of the log message, here and in the next branch
    espLog build .info (Program.perform (.espZbBdbStartTopLevelCommissioning bdbModeInitialization))
    espLog build .info (return ())
  else if signal.sigType = signalDeviceFirstStart ∨ signal.sigType = signalDeviceReboot then
    espLog build .info
      (Program.perform (.espZbBdbStartTopLevelCommissioning bdbModeNetworkSteering))
  else if signal.sigType = signalSteering then
    if signal.errStatus = espOk then
      Program.perform .espZbGetExtendedPanId
      -- the other three reads are arguments of the message
      espLog build .info do
        Program.perform .espZbGetPanId
        Program.perform .espZbGetCurrentChannel
        Program.perform .espZbGetShortAddress
    else
      espLog build .warn (return ())
      Program.perform retrySteering
      espLog build .info (return ())
  else
    espLog build .info (return ())

/-! ## Commissioning calls -/

/-- The call starts a procedure or schedules an alarm. -/
def StackOp.isCommissioning : StackOp → Bool
  | .espZbBdbStartTopLevelCommissioning _ => true
  | .espZbSchedulerAlarm .. => true
  | _ => false

/-- The commissioning calls of a trace. -/
def commissioned (tr : List StackEvent) : List StackEvent := tr.filter fun e => e.1.isCommissioning

/-- The commissioning calls that stand in the arguments of an INFO message. -/
def AppSignal.loggedOps (signal : AppSignal) : List StackOp :=
  if signal.sigType = signalSkipStartup then
    [.espZbBdbStartTopLevelCommissioning bdbModeInitialization]
  else if signal.sigType = signalDeviceFirstStart ∨ signal.sigType = signalDeviceReboot then
    [.espZbBdbStartTopLevelCommissioning bdbModeNetworkSteering]
  else []

/-- The commissioning calls that stand outside of the log messages. -/
def AppSignal.plainOps (signal : AppSignal) : List StackOp :=
  if signal.sigType = signalSteering ∧ signal.errStatus ≠ espOk then [retrySteering] else []

/-- The build has the messages of the level INFO compiled in. -/
def LogLevel.HasInfo (build : LogLevel) : Prop := LogLevel.info.value ≤ build.value

instance (build : LogLevel) : Decidable build.HasInfo := inferInstanceAs (Decidable (_ ≤ _))

/-- The commissioning calls of a build on one signal. -/
def AppSignal.ops (build : LogLevel) (signal : AppSignal) : List StackOp :=
  (if build.HasInfo then signal.loggedOps else []) ++ signal.plainOps

/-- The end of steering is not the end of the initialization. -/
theorem AppSignal.not_deviceStart_of_steering {s : AppSignal} (h : s.sigType = signalSteering) :
    ¬ (s.sigType = signalDeviceFirstStart ∨ s.sigType = signalDeviceReboot) := by
  rw [h]
  decide

section Commissioned

variable (r : StackReply)

/-- The commissioning calls of a sequence. -/
theorem commissioned_bind {α β : Type} (p : Stack α) (f : α → Stack β) :
    commissioned ((p >>= f).trace r.answers)
      = commissioned (p.trace r.answers)
        ++ commissioned ((f (p.result r.answers)).trace r.answers) := by
  rw [Program.trace_bind, StackReply.answers_after, commissioned, List.filter_append]
  rfl

theorem commissioned_pure {α : Type} (value : α) :
    commissioned ((pure value : Stack α).trace r.answers) = [] := rfl

/-- A call of the stack is recorded if it is a commissioning call. -/
theorem commissioned_perform (op : StackOp) :
    commissioned ((Program.perform op : Stack Unit).trace r.answers)
      = if op.isCommissioning then [⟨op, r.answer op⟩] else [] := by
  rw [Program.trace_perform, commissioned, List.filter_cons, List.filter_nil]
  rfl

/-- A log message makes the calls of its arguments if its level is compiled in. -/
theorem commissioned_espLog (build level : LogLevel) (args : Stack Unit) :
    commissioned ((espLog build level args).trace r.answers)
      = if level.value ≤ build.value then commissioned (args.trace r.answers) else [] := by
  rw [espLog]
  split
  · rw [commissioned_bind, commissioned_perform]
    exact List.append_nil _
  · rfl

/-- **The commissioning calls of one entry.** -/
theorem commissioned_handler (build : LogLevel) (signal : AppSignal) :
    commissioned ((espZbAppSignalHandler build signal).trace r.answers)
      = (signal.ops build).map fun op => ⟨op, r.answer op⟩ := by
  have hlogged : (if build.HasInfo then signal.loggedOps else [])
      = if LogLevel.info.value ≤ build.value then signal.loggedOps else [] := rfl
  rw [espZbAppSignalHandler, commissioned_bind, commissioned_espLog, commissioned_pure, ite_self,
    List.nil_append, AppSignal.ops, hlogged]
  unfold AppSignal.loggedOps AppSignal.plainOps
  by_cases hskip : signal.sigType = signalSkipStartup
  · have hother : ¬ (signal.sigType = signalSteering ∧ signal.errStatus ≠ espOk) := fun h =>
      absurd (hskip.symm.trans h.1) (by decide)
    rw [if_pos hskip, if_pos hskip, if_neg hother, List.append_nil, commissioned_bind,
      commissioned_espLog, commissioned_espLog, commissioned_perform, commissioned_pure, ite_self,
      List.append_nil]
    split
    · rfl
    · rfl
  rw [if_neg hskip, if_neg hskip]
  by_cases hstart : signal.sigType = signalDeviceFirstStart ∨ signal.sigType = signalDeviceReboot
  · have hother : ¬ (signal.sigType = signalSteering ∧ signal.errStatus ≠ espOk) := fun h =>
      AppSignal.not_deviceStart_of_steering h.1 hstart
    rw [if_pos hstart, if_pos hstart, if_neg hother, List.append_nil, commissioned_espLog,
      commissioned_perform]
    split
    · rfl
    · rfl
  rw [if_neg hstart, if_neg hstart, ite_self, List.nil_append]
  by_cases hsteering : signal.sigType = signalSteering
  · rw [if_pos hsteering]
    by_cases hok : signal.errStatus = espOk
    · -- the reads of the network parameters are calls of the stack, but not commissioning calls
      rw [if_pos hok, if_neg (fun h => h.2 hok), commissioned_bind, commissioned_perform,
        commissioned_espLog, commissioned_bind, commissioned_bind, commissioned_perform,
        commissioned_perform, commissioned_perform]
      exact ite_self _
    · rw [if_neg hok, if_pos ⟨hsteering, hok⟩, commissioned_bind, commissioned_bind,
        commissioned_espLog, commissioned_espLog, commissioned_perform, commissioned_pure, ite_self,
        ite_self]
      rfl
  · rw [if_neg hsteering, if_neg (fun h => hsteering h.1), commissioned_espLog, commissioned_pure,
      ite_self]
    rfl

end Commissioned

end SmartLock
