import SmartLock.Driver.Traffic
import SmartLock.Zigbee.RawCommand

/-! # Runs of the firmware

From power-on: `Zigbee::init`, then any sequence of entries by the stack, each meeting its own
behaviour of the hardware.

* **`events_actionHandler`, `events_rawCommand`** — an entry reaches the hardware only through
  `Lock.open()`, from a raw command on which the callback's test holds.
* **`mem_frames_of_writes`** — every frame written belongs to the operation that is running.
* **`trace_init_onHardware`, `result_init_onHardware`** — start-up, and when it completes. -/

namespace SmartLock

open Effects

/-- The Zigbee component on ESP-IDF: every operation is run. -/
def Zb.onHardware {α : Type} (p : Zb α) : Hw α := p.handle lower

/-- An entry of the stack into the Zigbee component. -/
inductive ZigbeeCall
  | actionHandler (callbackId : UInt32) (message : SetAttrValueMessage)
  | rawCommand (buf : ZbBuf)

namespace ZigbeeCall

/-- The function entered; the stack drops its result. -/
def program : ZigbeeCall → Zb Unit
  | .actionHandler callbackId message => do
      let _ ← Zigbee.actionHandler callbackId message
      return ()
  | .rawCommand buf => do
      let _ ← Zigbee.espZbZclRawCommandCallback buf
      return ()

/-- The entry opens the lock: a raw command on which the callback's own test holds, wherever the
tails of its buffer are. -/
def OpensLock : ZigbeeCall → Prop
  | .actionHandler _ _ => False
  | .rawCommand buf => buf.LooksLikeUnlockDoor

instance : DecidablePred OpensLock := fun call =>
  match call with
  | .actionHandler _ _ => inferInstanceAs (Decidable False)
  | .rawCommand buf => inferInstanceAs (Decidable buf.LooksLikeUnlockDoor)

/-- The hardware events of the entry on the board `b`. -/
def events (call : ZigbeeCall) (b : Board) : List HwEvent :=
  call.program.onHardware.trace b.answers

end ZigbeeCall

/-- The hardware events from power-on: the start-up on the board `b₀`, then the entries `steps`,
each on its own board. After an abort nothing is entered any more. -/
def firmwareTrace (b₀ : Board) (steps : List (ZigbeeCall × Board)) : List HwEvent :=
  Zigbee.init.onHardware.trace b₀.answers ++
    match Zigbee.init.onHardware.result b₀.answers with
    | .completed => steps.flatMap fun step => step.1.events step.2
    | .aborted => []

/-! ## Entries -/

/-- The action handler does not reach the hardware. -/
theorem events_actionHandler (callbackId : UInt32) (message : SetAttrValueMessage) (b : Board) :
    (ZigbeeCall.actionHandler callbackId message).events b = [] := by
  rw [ZigbeeCall.events, ZigbeeCall.program, actionHandler_eq]
  rfl

/-- The raw command callback reaches the hardware through `Lock.open()`. -/
theorem events_rawCommand (buf : ZbBuf) (b : Board) :
    (ZigbeeCall.rawCommand buf).events b
      = if buf.LooksLikeUnlockDoor then Lock.open.trace b.answers else [] := by
  rw [ZigbeeCall.events, ZigbeeCall.program, espZbZclRawCommandCallback_eq]
  split
  · simp only [Zb.onHardware, Program.handle_bind, Program.handle_pure, Program.trace_bind,
      Program.trace_pure, Program.trace_handle_perform, List.append_nil]
    rfl
  · rfl

/-! ## Frames -/

/-- The frames an operation may write. -/
def ZigbeeOp.frames : ZigbeeOp → List (List UInt8)
  | .lockSetKey => [setKeyFrame]
  | .lockOpen => [openFrame]
  | .lockTurnOffAutomaticLatch => [wakeupFrame, disableLatchFrame]
  | _ => []

/-- Every frame written belongs to the operation that is running. -/
theorem mem_frames_of_writes (a : Answers HwRet) (op : ZigbeeOp) {e : HwEvent}
    (he : e ∈ (lower op).trace a) {frame : List UInt8} (hw : HwEvent.Writes frame e) :
    frame ∈ op.frames := by
  cases op with
  | lockInit rxPin txPin =>
      -- three configuration calls or none, and no write
      rw [lower, trace_lockInit] at he
      split at he
      · exact absurd he List.not_mem_nil
      · simp only [List.mem_cons, List.not_mem_nil, or_false] at he
        rcases he with rfl | rfl | rfl
        · exact hw.elim
        · exact hw.elim
        · exact hw.elim
  | lockSetKey => exact List.mem_singleton.mpr (eq_of_writes_sendData a he hw)
  | lockOpen => exact List.mem_singleton.mpr (eq_of_writes_sendData a he hw)
  | lockTurnOffAutomaticLatch =>
      rw [lower, trace_turnOffAutomaticLatch, List.mem_append, List.mem_cons] at he
      rcases he with he | rfl | he
      · rw [eq_of_writes_sendData a he hw]
        exact List.mem_cons_self
      · exact hw.elim
      · rw [eq_of_writes_sendData _ he hw]
        exact List.mem_cons_of_mem _ List.mem_cons_self
  | nvsFlashInit =>
      obtain rfl := List.mem_singleton.mp he
      exact hw.elim
  | espZbPlatformConfig config =>
      obtain rfl := List.mem_singleton.mp he
      exact hw.elim

/-- A program that never asks for an operation with the frame never writes it. -/
theorem not_writes_onHardware {α : Type} (p : Zb α) (a : Answers HwRet) {frame : List UInt8}
    (hcalls : ∀ op, p.MayCall op → frame ∉ op.frames) :
    ∀ e ∈ p.onHardware.trace a, ¬ HwEvent.Writes frame e := by
  intro e he hw
  obtain ⟨op, hop, n, hn⟩ := Program.trace_handle lower a p he
  exact hcalls op (Program.mayCall_of_mem_calls hop) (mem_frames_of_writes _ op hn hw)

/-! ## Start-up -/

/-- What `Zigbee::init` does after sending the key. -/
def Zigbee.initAfterKey : Zb Startup := do
  Program.perform .lockTurnOffAutomaticLatch
  if (← Program.call ZigbeeOp.nvsFlashInit) ≠ espOk then
    return .aborted
  if (← Program.call (ZigbeeOp.espZbPlatformConfig
      { radioMode := .native, hostConnectionMode := .none })) ≠ espOk then
    return .aborted
  return .completed

theorem Zigbee.init_eq :
    Zigbee.init = (do
      Program.perform (.lockInit uartRxPin uartTxPin)
      Program.perform .lockSetKey
      Zigbee.initAfterKey) := rfl

/-- The operations of start-up after the key. -/
theorem mayCall_initAfterKey {op : ZigbeeOp} (hop : Zigbee.initAfterKey.MayCall op) :
    op = .lockTurnOffAutomaticLatch ∨ op = .nvsFlashInit ∨
      ∃ config, op = .espZbPlatformConfig config := by
  rcases Program.mayCall_bind hop with hop | ⟨_, hop⟩
  · exact Or.inl (Program.eq_of_mayCall_perform hop)
  rcases Program.mayCall_bind hop with hop | ⟨_, hop⟩
  · exact Or.inr (Or.inl (Program.eq_of_mayCall_call hop))
  split at hop
  · exact absurd hop (Program.not_mayCall_pure op _)
  rcases Program.mayCall_bind hop with hop | ⟨_, hop⟩
  · exact Or.inr (Or.inr ⟨_, Program.eq_of_mayCall_call hop⟩)
  split at hop
  · exact absurd hop (Program.not_mayCall_pure op _)
  · exact absurd hop (Program.not_mayCall_pure op _)

/-- The events of start-up: the configuration of the UART, the key, and the rest. -/
theorem trace_init_onHardware (a : Answers HwRet) :
    Zigbee.init.onHardware.trace a
      = (Lock.init uartRxPin uartTxPin).trace a
        ++ (Lock.setKey.trace (a.after 3)
          ++ Zigbee.initAfterKey.onHardware.trace
            (a.after (3 + (Lock.setKey.trace (a.after 3)).length))) := by
  have hlen : ((Lock.init uartRxPin uartTxPin).trace a).length = 3 := by
    rw [trace_lockInit, if_neg (by decide)]
    rfl
  rw [Zigbee.init_eq, Zb.onHardware, Program.handle_bind, Program.handle_bind, Program.trace_bind,
    Program.trace_bind, Program.trace_handle_perform, Program.trace_handle_perform, lower, lower,
    hlen, Answers.after_after, Nat.add_comm 3]
  rfl

/-- Start-up completes exactly when its two checked calls succeed. -/
theorem result_init_onHardware (b : Board) :
    Zigbee.init.onHardware.result b.answers = .completed ↔
      b.nvsFlashInit = espOk ∧ b.espZbPlatformConfig = espOk := by
  have hres : ∀ n, Zigbee.initAfterKey.onHardware.result (b.answers.after n) = .completed ↔
      b.nvsFlashInit = espOk ∧ b.espZbPlatformConfig = espOk := by
    intro n
    simp only [Zigbee.initAfterKey, Zb.onHardware, Program.handle_bind, Program.result_bind,
      Program.handle_call, lower, Program.result_call, Answers.after_apply, ↓Program.handle_ite,
      ↓Program.result_ite, Program.handle_pure, Program.result_pure, Board.answers]
    by_cases hnvs : b.nvsFlashInit = espOk
    · by_cases hplatform : b.espZbPlatformConfig = espOk
      · simp [hnvs, hplatform]
      · simp [hnvs, hplatform]
    · simp [hnvs]
  rw [Zigbee.init_eq, Zb.onHardware, Program.handle_bind, Program.handle_bind, Program.result_bind,
    Program.result_bind, Answers.after_after]
  exact hres _

end SmartLock
