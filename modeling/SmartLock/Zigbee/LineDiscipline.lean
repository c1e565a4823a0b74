import SmartLock.Effects.Contract
import SmartLock.Zigbee.Firmware

/-! # How the firmware uses its UART

Over any run from power-on and on any hardware, what the firmware asks of the UART follows one
protocol.

* **`uartDiscipline`** — the protocol: the port is configured once, then its pins, then the driver
  is installed once; after that every write directly follows a positive answer to the question
  whether the driver is installed, hands over a whole frame and goes to the port that was set up.
* **`firmwareTrace_obeys`** — every run obeys it.
* **`write_follows_check`, `setUp_once`** — the same without the automaton, for the writes and for
  the set-up. -/

namespace SmartLock

open Effects

/-! ## The protocol -/

/-- What the firmware knows of its UART. -/
inductive LineState
  /-- Nothing is set up. -/
  | off
  /-- The parameters are set, the pins are not. -/
  | configured
  /-- The pins are set, the driver is not installed. -/
  | pinned
  /-- Set up; the firmware does not know whether the driver is there. -/
  | idle
  /-- The driver has just reported to be there. -/
  | ready
  deriving DecidableEq, Repr

namespace LineState

/-- What may be asked in a state. -/
def May : LineState → HwOp → Prop
  | off, .uartParamConfig uartNum _ => uartNum = espDefaultUartPort
  | configured, .uartSetPin uartNum .. => uartNum = espDefaultUartPort
  | pinned, .uartDriverInstall uartNum .. => uartNum = espDefaultUartPort
  | idle, .uartIsDriverInstalled uartNum => uartNum = espDefaultUartPort
  | ready, .uartWriteBytes uartNum src size => uartNum = espDefaultUartPort ∧ size = src.length
  | idle, .vTaskDelay _ => True
  | idle, .nvsFlashInit => True
  | idle, .espZbPlatformConfig _ => True
  | _, _ => False

/-- The state after a call. -/
def next : LineState → HwEvent → LineState
  | _, ⟨.uartParamConfig .., _⟩ => configured
  | _, ⟨.uartSetPin .., _⟩ => pinned
  | _, ⟨.uartIsDriverInstalled _, installed⟩ => if installed then ready else idle
  | _, _ => idle

/-- A write needs a fresh answer, the port and the whole frame. -/
theorem may_write {s : LineState} {uartNum : UartPort} {src : List UInt8} {size : ℕ}
    (h : s.May (.uartWriteBytes uartNum src size)) :
    s = ready ∧ uartNum = espDefaultUartPort ∧ size = src.length := by
  cases s with
  | ready => exact ⟨rfl, h⟩
  | off => exact h.elim
  | configured => exact h.elim
  | pinned => exact h.elim
  | idle => exact h.elim

/-- The driver is asked about on the port, after the set-up. -/
theorem may_check {s : LineState} {uartNum : UartPort}
    (h : s.May (.uartIsDriverInstalled uartNum)) : uartNum = espDefaultUartPort := by
  cases s with
  | idle => exact h
  | off => exact h.elim
  | configured => exact h.elim
  | pinned => exact h.elim
  | ready => exact h.elim

end LineState

/-- The protocol of the UART. The hardware promises nothing. -/
def uartDiscipline : Contract HwRet LineState where
  may := LineState.May
  grants _ _ := True
  next := LineState.next

/-- The hardware keeps its promise. -/
theorem uartDiscipline_granted (s : LineState) (tr : List HwEvent) :
    uartDiscipline.Granted s tr := Contract.granted_of_forall (fun _ _ => trivial) s tr

/-! ## Functions -/

/-- `UartDriver::sendData` asks, writes only after a positive answer, and is done. -/
theorem wp_sendData {data : List UInt8} {length : ℕ} (hlength : length = data.length) :
    Program.wp uartDiscipline (UartDriver.sendData data length) (fun _ s => s = .idle) .idle := by
  simp only [UartDriver.sendData, uartIsDriverInstalled, uartWriteBytes, Program.wp_bind,
    Program.wp_call, ↓Program.wp_ite, Program.wp_pure]
  refine ⟨rfl, fun installed _ => ?_⟩
  cases installed with
  | false => rfl
  | true =>
      refine ⟨⟨rfl, hlength⟩, fun written _ => ?_⟩
      split
      · rfl
      · rfl

/-- `Lock::init` on usable pins sets the UART up. -/
theorem wp_lockInit {rxPin txPin : UInt8} (hpins : ¬ (rxPin = 0 ∨ txPin = 0)) :
    Program.wp uartDiscipline (Lock.init rxPin txPin) (fun _ s => s = .idle) .off := by
  have hcts := UartDriver.toNat_ne_uartPinNoChange (UInt8.ofInt uartPinNoChange)
  simp only [Lock.init, hpins, if_false, UartDriver.init, hcts, false_and, uartParamConfig,
    uartSetPin, uartDriverInstall, Program.wp_bind, Program.wp_call]
  exact ⟨rfl, fun _ _ => ⟨rfl, fun _ _ => ⟨rfl, fun _ _ => rfl⟩⟩⟩

/-- `Lock::turnOffAutomaticLatch` sends two frames. -/
theorem wp_turnOffAutomaticLatch :
    Program.wp uartDiscipline Lock.turnOffAutomaticLatch (fun _ s => s = .idle) .idle := by
  have hwakeup : dataLen wakeupFrame = wakeupFrame.length := dataLen_eq_length (by decide)
  have hdisable : dataLen disableLatchFrame = disableLatchFrame.length :=
    dataLen_eq_length (by decide)
  simp only [Lock.turnOffAutomaticLatch, vTaskDelay, Program.wp_bind, Program.wp_call]
  apply Program.wp_mono _ (wp_sendData hwakeup)
  rintro _ _ rfl
  exact ⟨trivial, fun _ _ => wp_sendData hdisable⟩

/-- An operation that sets nothing up leaves the UART set up. -/
theorem wp_lower {op : ZigbeeOp} (hop : ∀ rxPin txPin, op ≠ .lockInit rxPin txPin) :
    Program.wp uartDiscipline (lower op) (fun _ s => s = .idle) .idle := by
  cases op with
  | lockInit rxPin txPin => exact absurd rfl (hop rxPin txPin)
  | lockSetKey => exact wp_sendData (dataLen_eq_length (by decide))
  | lockOpen => exact wp_sendData (dataLen_eq_length (by decide))
  | lockTurnOffAutomaticLatch => exact wp_turnOffAutomaticLatch
  | nvsFlashInit => exact ⟨trivial, fun _ _ => rfl⟩
  | espZbPlatformConfig config => exact ⟨trivial, fun _ _ => rfl⟩

/-- A program of the Zigbee component that sets nothing up leaves the UART set up. -/
theorem wp_onHardware {α : Type} (p : Zb α)
    (hp : ∀ rxPin txPin, ¬ p.MayCall (.lockInit rxPin txPin)) :
    Program.wp uartDiscipline p.onHardware (fun _ s => s = .idle) .idle := by
  induction p with
  | done value => rfl
  | request op next ih =>
      have hop : ∀ rxPin txPin, op ≠ .lockInit rxPin txPin := by
        rintro rxPin txPin rfl
        exact hp rxPin txPin (Or.inl rfl)
      rw [Zb.onHardware, Program.handle, Program.wp_bind]
      apply Program.wp_mono _ (wp_lower hop)
      rintro r _ rfl
      exact ih r fun rxPin txPin h => hp rxPin txPin (Or.inr ⟨r, h⟩)

/-- `Zigbee::init` sets the UART up and goes on. -/
theorem wp_init :
    Program.wp uartDiscipline Zigbee.init.onHardware (fun _ s => s = .idle) .off := by
  have hkey : ∀ rxPin txPin, ZigbeeOp.lockSetKey ≠ .lockInit rxPin txPin := by simp
  have hrest : ∀ rxPin txPin, ¬ Zigbee.initAfterKey.MayCall (.lockInit rxPin txPin) := by
    intro rxPin txPin hop
    rcases mayCall_initAfterKey hop with h | h | ⟨config, h⟩
    · cases h
    · cases h
    · cases h
  have hpins : ¬ (uartRxPin = 0 ∨ uartTxPin = 0) := by decide
  rw [Zigbee.init_eq, Zb.onHardware, Program.handle_bind, Program.handle_bind, Program.perform,
    Program.perform]
  simp only [Program.handle_bind, Program.handle_call, Program.handle_pure, Program.wp_bind,
    Program.wp_pure]
  apply Program.wp_mono _ (wp_lockInit hpins)
  rintro _ _ rfl
  apply Program.wp_mono _ (wp_lower hkey)
  rintro _ _ rfl
  exact wp_onHardware _ hrest

/-! ## Runs -/

/-- An entry of the stack leaves the UART set up. -/
theorem events_obeys (call : ZigbeeCall) (b : Board) :
    uartDiscipline.Obeys .idle (call.events b)
      ∧ uartDiscipline.after .idle (call.events b) = .idle := by
  cases call with
  | actionHandler callbackId message =>
      rw [events_actionHandler]
      exact ⟨trivial, rfl⟩
  | rawCommand buf =>
      have hopen : ∀ rxPin txPin, ZigbeeOp.lockOpen ≠ .lockInit rxPin txPin := by simp
      rw [events_rawCommand]
      split
      · exact Program.wp_sound (wp_lower hopen) b.answers (uartDiscipline_granted _ _)
      · exact ⟨trivial, rfl⟩

/-- **Every run obeys the protocol of the UART**, whatever the hardware answers. -/
theorem firmwareTrace_obeys (b₀ : Board) (steps : List (ZigbeeCall × Board)) :
    uartDiscipline.Obeys .off (firmwareTrace b₀ steps) := by
  obtain ⟨hinit, hidle⟩ := Program.wp_sound wp_init b₀.answers (uartDiscipline_granted _ _)
  rw [firmwareTrace, Contract.obeys_append, hidle]
  refine ⟨hinit, ?_⟩
  split
  · refine (Contract.obeys_flatMap (I := (· = LineState.idle)) ?_ rfl).1
    rintro step - _ rfl
    exact events_obeys step.1 step.2
  · trivial

/-- The firmware knows that the driver is there only from the last answer. -/
theorem eq_append_of_ready {s : LineState} (hs : s ≠ .ready) {tr : List HwEvent}
    (h : uartDiscipline.after s tr = .ready) :
    ∃ tr' uartNum, tr = tr' ++ [⟨.uartIsDriverInstalled uartNum, true⟩] := by
  rcases List.eq_nil_or_concat tr with rfl | ⟨tr', e, rfl⟩
  · exact absurd h hs
  rw [List.concat_eq_append] at h ⊢
  rw [Contract.after_append] at h
  -- only a positive answer leads to `ready`
  obtain ⟨op, r⟩ := e
  cases op with
  | uartIsDriverInstalled uartNum =>
      cases r with
      | false => cases h
      | true => exact ⟨tr', uartNum, rfl⟩
  | uartParamConfig uartNum uartConfig => cases h
  | uartSetPin uartNum txIoNum rxIoNum rtsIoNum ctsIoNum => cases h
  | uartDriverInstall uartNum rx tx queueSize uartQueue flags => cases h
  | uartWriteBytes uartNum src size => cases h
  | vTaskDelay ticks => cases h
  | nvsFlashInit => cases h
  | espZbPlatformConfig config => cases h

/-- **Every write directly follows a positive check.** Over any run from power-on and on any
hardware: a write goes to the lock's port, hands over a whole frame, and the call just before it
found the driver of that port installed. -/
theorem write_follows_check (b₀ : Board) (steps : List (ZigbeeCall × Board))
    (before later : List HwEvent) (uartNum : UartPort) (src : List UInt8) (size : ℕ)
    (written : WriteResult size)
    (hrun : firmwareTrace b₀ steps
      = before ++ ⟨.uartWriteBytes uartNum src size, written⟩ :: later) :
    uartNum = espDefaultUartPort ∧ size = src.length ∧
      ∃ earlier, before = earlier ++ [⟨.uartIsDriverInstalled espDefaultUartPort, true⟩] := by
  have hobeys := firmwareTrace_obeys b₀ steps
  obtain ⟨hready, hport, hsize⟩ := LineState.may_write (hobeys.may_of_eq_append hrun)
  obtain ⟨earlier, uartNum', rfl⟩ := eq_append_of_ready (by decide) hready
  rw [List.append_assoc, List.singleton_append] at hrun
  -- the check itself went to the port of the lock
  obtain rfl := LineState.may_check (hobeys.may_of_eq_append hrun)
  exact ⟨hport, hsize, earlier, rfl⟩

/-- The first write of start-up on an accepting board follows a check. -/
theorem write_follows_check_key :
    ∃ earlier, (firmwareTrace Board.accepting []).take 4
      = earlier ++ [⟨.uartIsDriverInstalled espDefaultUartPort, true⟩] :=
  (write_follows_check Board.accepting [] _ ((firmwareTrace Board.accepting []).drop 5)
    espDefaultUartPort setKeyFrame 50 ⟨50, le_rfl⟩ rfl).2.2

/-- The call sets the UART up. -/
def HwOp.SetsUp : HwOp → Prop
  | .uartParamConfig .. => True
  | .uartSetPin .. => True
  | .uartDriverInstall .. => True
  | _ => False

/-- Once the UART is set up, a call neither sets it up again nor leads back. -/
theorem LineState.next_of_isSetUp {s : LineState} (hs : s = .idle ∨ s = .ready) {op : HwOp}
    (hmay : s.May op) (r : HwRet op) :
    ¬ op.SetsUp ∧ (s.next ⟨op, r⟩ = .idle ∨ s.next ⟨op, r⟩ = .ready) := by
  have hnot : ¬ op.SetsUp := by
    intro hop
    cases op with
    | uartParamConfig uartNum uartConfig => rcases hs with rfl | rfl <;> exact hmay
    | uartSetPin uartNum tx rx rts cts => rcases hs with rfl | rfl <;> exact hmay
    | uartDriverInstall uartNum rx tx queue ptr flags => rcases hs with rfl | rfl <;> exact hmay
    | uartIsDriverInstalled uartNum => exact hop
    | uartWriteBytes uartNum src size => exact hop
    | vTaskDelay ticks => exact hop
    | nvsFlashInit => exact hop
    | espZbPlatformConfig config => exact hop
  refine ⟨hnot, ?_⟩
  cases op with
  | uartParamConfig uartNum uartConfig => exact absurd trivial hnot
  | uartSetPin uartNum tx rx rts cts => exact absurd trivial hnot
  | uartDriverInstall uartNum rx tx queue ptr flags => exact Or.inl rfl
  | uartIsDriverInstalled uartNum =>
      cases r with
      | false => exact Or.inl rfl
      | true => exact Or.inr rfl
  | uartWriteBytes uartNum src size => exact Or.inl rfl
  | vTaskDelay ticks => exact Or.inl rfl
  | nvsFlashInit => exact Or.inl rfl
  | espZbPlatformConfig config => exact Or.inl rfl

/-- Once the UART is set up, nothing sets it up again. -/
theorem not_setsUp_of_obeys {s : LineState} (hs : s = .idle ∨ s = .ready) {tr : List HwEvent}
    (h : uartDiscipline.Obeys s tr) : ∀ e ∈ tr, ¬ e.1.SetsUp := by
  induction tr generalizing s with
  | nil => exact fun _ he => absurd he List.not_mem_nil
  | cons e tr ih =>
      obtain ⟨hnot, hnext⟩ := LineState.next_of_isSetUp hs h.1 e.2
      exact List.forall_mem_cons.mpr ⟨hnot, ih hnext h.2⟩

/-- **The UART is set up once.** Every run from power-on begins with the three set-up calls, in this
order and with these parameters whatever they answer, and no later call sets the UART up. -/
theorem setUp_once (b₀ : Board) (steps : List (ZigbeeCall × Board)) :
    ∃ later, firmwareTrace b₀ steps
        = ⟨.uartParamConfig espDefaultUartPort lockUartConfig, b₀.err 0⟩
          :: ⟨.uartSetPin espDefaultUartPort espDefaultUartTxPin espDefaultUartRxPin
            espDefaultUartCtsPin espDefaultUartRtsPin, b₀.err 1⟩
          :: ⟨.uartDriverInstall espDefaultUartPort 256 0 0 none 0, b₀.err 2⟩ :: later ∧
      ∀ e ∈ later, ¬ e.1.SetsUp := by
  have hpins : ¬ (uartRxPin = 0 ∨ uartTxPin = 0) := by decide
  have hobeys := firmwareTrace_obeys b₀ steps
  rw [firmwareTrace, trace_init_onHardware, trace_lockInit, if_neg hpins, List.append_assoc]
    at hobeys ⊢
  refine ⟨_, rfl, not_setsUp_of_obeys (Or.inl rfl) ?_⟩
  exact hobeys.2.2.2

end SmartLock
