import SmartLock.Commissioning.History
import SmartLock.Zigbee.Registration
import SmartLock.Zigbee.Transmission

/-! # The code of the whole device

One interface for everything that code on the device can ask for, and one state for everything that
such a call can change. Every entry of the firmware is a program over that interface: `app_main`,
the Zigbee task, the signal handler, the alarm, and the two handlers of the task.

* **`DeviceOp`, `DeviceCode`** — the interface: ESP-IDF, the set-up of the stack, the stack, and the
  creation of a task.
* **`appMain`** — `app_main`; the entries that were given over a part of the interface are embedded.
* **`DeviceState.after`** — what a call leaves behind.
* **`DeviceState.run_onHw`, `run_onSetup`, `run_onStack`** — code over a part of the interface
  changes the corresponding part of the state, and leaves the others as they are. -/

namespace SmartLock

open Effects

/-! ## Interface -/

/-- The functions started as tasks. -/
inductive TaskFunction
  | rtosTask
  deriving DecidableEq, Repr

/-- What code on the device can ask for. -/
inductive DeviceOp
  | hw (op : HwOp)
  | setup (op : SetupOp)
  | stack (op : StackOp)
  | xTaskCreate (code : TaskFunction) (name : String) (stackDepth : UInt32) (priority : ℕ)

/-- The answer type of every call; `xTaskCreate` tells whether the task was created. -/
abbrev DeviceRet : DeviceOp → Type
  | .hw op => HwRet op
  | .setup op => SetupRet op
  | .stack op => StackRet op
  | .xTaskCreate .. => Bool

/-- Code on the device. -/
abbrev DeviceCode := Program DeviceRet

section Parts

variable {α : Type}

/-- Code over ESP-IDF, as code on the device. -/
def onHw (p : Hw α) : DeviceCode α := Program.embed DeviceOp.hw p

/-- Code over the set-up calls. -/
def onSetup (p : Setup α) : DeviceCode α := Program.embed DeviceOp.setup p

/-- Code over the stack. -/
def onStack (p : Stack α) : DeviceCode α := Program.embed DeviceOp.stack p

end Parts

/-! ## Entries -/

/-- `app_main`: a failing `Zigbee::init` does not return. The result of `xTaskCreate` is dropped. -/
def appMain : DeviceCode Startup := do
  if (← onHw Zigbee.init.onHardware) = .aborted then
    return .aborted
  Program.perform (.xTaskCreate .rtosTask "Zigbee_main" 4096 5)
  return .completed

/-- The task that `app_main` creates. -/
def TaskFunction.code (appDeviceVersion : Fin 16) : TaskFunction → DeviceCode TaskOutcome
  | .rtosTask => onSetup (Zigbee.rtosTask appDeviceVersion)

/-- The code of an entry into the Zigbee component. -/
def ZigbeeCall.code (call : ZigbeeCall) : DeviceCode Unit := onHw call.program.onHardware

/-- The handler of an entry. -/
def ZigbeeCall.handler : ZigbeeCall → Handler
  | .actionHandler _ _ => .actionHandler
  | .rawCommand _ => .espZbZclRawCommandCallback

/-- The code of an alarm. -/
def Alarm.code (alarm : Alarm) : DeviceCode Unit := onStack (alarm.cb.program alarm.param)

/-- The signal handler. -/
def AppSignal.code (build : LogLevel) (signal : AppSignal) : DeviceCode Unit :=
  onStack (espZbAppSignalHandler build signal)

/-! ## Environment and state -/

/-- What an entry meets: the hardware, the stack, and the scheduler. -/
structure Environment where
  board : Board
  setup : Answers SetupRet
  reply : StackReply
  taskCreated : Bool

/-- The answers to everything that code can ask for. -/
def Environment.answers (env : Environment) : Answers DeviceRet := fun n op =>
  match op with
  | .hw op => env.board.answers n op
  | .setup op => env.setup n op
  | .stack op => env.reply.answers n op
  | .xTaskCreate .. => env.taskCreated

/-- The device: commissioning, what was asked of the hardware, what was asked of the stack in the
set-up, and whether the task exists. -/
@[ext] structure DeviceState where
  net : NetState
  hw : List HwEvent
  setup : SetupRecord
  taskCreated : Bool

namespace DeviceState

/-- A device that has done nothing. -/
def off : DeviceState where
  net := NetState.initial
  hw := []
  setup := SetupRecord.off
  taskCreated := false

/-- What a call leaves behind. -/
def after (d : DeviceState) : Event DeviceRet → DeviceState
  | ⟨.hw op, r⟩ => { d with hw := d.hw ++ [⟨op, r⟩] }
  | ⟨.setup op, r⟩ => { d with setup := setupContract.next d.setup ⟨op, r⟩ }
  | ⟨.stack op, r⟩ => { d with net := d.net.after ⟨op, r⟩ }
  | ⟨.xTaskCreate .., created⟩ => { d with taskCreated := d.taskCreated || created }

/-- The device after some code has run. -/
def run {α : Type} (d : DeviceState) (p : DeviceCode α) (env : Environment) : DeviceState :=
  (p.trace env.answers).foldl after d

/-! ## Frames -/

/-- Events of the hardware change nothing else. -/
theorem foldl_after_hw (d : DeviceState) (tr : List HwEvent) :
    List.foldl after d (tr.map (Program.embedEvent DeviceOp.hw))
      = { d with hw := d.hw ++ tr } := by
  induction tr generalizing d with
  | nil => simp
  | cons e tr ih =>
      rw [List.map_cons, List.foldl_cons, ih]
      simp [after, Program.embedEvent]

/-- Set-up calls change the record only. -/
theorem foldl_after_setup (d : DeviceState) (tr : List SetupEvent) :
    List.foldl after d (tr.map (Program.embedEvent DeviceOp.setup))
      = { d with setup := setupContract.after d.setup tr } := by
  induction tr generalizing d with
  | nil => rfl
  | cons e tr ih => exact ih _

/-- Calls of the stack change commissioning only. -/
theorem foldl_after_stack (d : DeviceState) (tr : List StackEvent) :
    List.foldl after d (tr.map (Program.embedEvent DeviceOp.stack))
      = { d with net := d.net.afterTrace tr } := by
  induction tr generalizing d with
  | nil => rfl
  | cons e tr ih => exact ih _

section Run

variable {α : Type} (d : DeviceState) (env : Environment)

/-- **Code over ESP-IDF** changes what was asked of the hardware. -/
theorem run_onHw (p : Hw α) :
    d.run (onHw p) env = { d with hw := d.hw ++ p.trace env.board.answers } := by
  rw [run, onHw, Program.trace_embed]
  exact d.foldl_after_hw _

/-- **Code over the set-up calls** changes the record. -/
theorem run_onSetup (p : Setup α) :
    d.run (onSetup p) env
      = { d with setup := setupContract.after d.setup (p.trace env.setup) } := by
  rw [run, onSetup, Program.trace_embed]
  exact d.foldl_after_setup _

/-- **Code over the stack** changes commissioning. -/
theorem run_onStack (p : Stack α) :
    d.run (onStack p) env = { d with net := d.net.afterTrace (p.trace env.reply.answers) } := by
  rw [run, onStack, Program.trace_embed]
  exact d.foldl_after_stack _

/-- **`app_main`** runs `Zigbee::init`, and creates the task if that returns. -/
theorem run_appMain :
    d.run appMain env =
      { d with
        hw := d.hw ++ Zigbee.init.onHardware.trace env.board.answers
        taskCreated := d.taskCreated ||
          (Zigbee.init.onHardware.result env.board.answers = .completed && env.taskCreated) } := by
  have hinit := d.run_onHw env Zigbee.init.onHardware
  have hresult : (onHw Zigbee.init.onHardware).result env.answers
      = Zigbee.init.onHardware.result env.board.answers := Program.result_embed ..
  rw [run] at hinit
  rw [run, appMain, Program.trace_bind, List.foldl_append, hinit, hresult]
  cases Zigbee.init.onHardware.result env.board.answers with
  | completed => rfl
  | aborted => simp

end Run

end DeviceState

end SmartLock
