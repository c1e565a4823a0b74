import Mathlib.Tactic.ByContra
import SmartLock.Driver.Lock

/-! # The UART configuration asked for and made

A caller of `UartDriver::init` names a port, a configuration, four pins, two buffer sizes, a queue
and interrupt flags as C `int`s; the `uint8_t` parameters take them modulo `2^8`. `InitRequest` is
what the caller asks, `ConfiguredAsAsked` what the three configuration calls should then be.

* **`configuredAsAsked_iff`** — the calls are the ones asked for exactly when the request names the
  driver's own port, pins and buffer sizes, fits the `uint8_t` parameters and does not ask to leave
  both flow-control pins alone.
* **`not_configuredAsAsked_lockInit`** — what `Lock::init` asks is never what is configured.
* **`uart_configuration_iff`** — both together. -/

namespace SmartLock

open Effects

/-! ## Narrowing -/

/-- An `int` survives a `uint8_t` parameter exactly when it is between 0 and 255. -/
theorem toNat_ofInt_eq_iff (n : ℤ) : ((UInt8.ofInt n).toNat : ℤ) = n ↔ 0 ≤ n ∧ n < 256 := by
  have hval : ((UInt8.ofInt n).toNat : ℤ) = n % 256 := by
    rw [UInt8.ofInt, UInt8.toNat_ofNat']
    omega
  rw [hval]
  omega

/-! ## Requests -/

/-- What a caller of `UartDriver::init` asks for. -/
structure InitRequest where
  uartPort : UartPort
  uartConfig : UartConfig
  rxPin : ℤ
  txPin : ℤ
  ctsPin : ℤ
  rtsPin : ℤ
  rxBufferSize : ℤ
  txBufferSize : ℤ
  queueSize : ℤ
  uartQueue : QueueHandlePtr
  flagAllocateInterrupt : ℤ

namespace InitRequest

/-- The call: every `uint8_t` parameter narrows its argument. -/
def submit (req : InitRequest) : Hw EspErr :=
  UartDriver.init req.uartPort req.uartConfig (UInt8.ofInt req.rxPin) (UInt8.ofInt req.txPin)
    (UInt8.ofInt req.ctsPin) (UInt8.ofInt req.rtsPin) req.rxBufferSize req.txBufferSize
    (UInt8.ofInt req.queueSize) req.uartQueue (UInt8.ofInt req.flagAllocateInterrupt)

/-- The caller asks to leave both flow-control pins as they are. -/
def KeepsFlowControlPins (req : InitRequest) : Prop :=
  req.ctsPin = uartPinNoChange ∧ req.rtsPin = uartPinNoChange

/-- The requests that the driver's fixed values happen to meet. -/
def MatchesDriver (req : InitRequest) : Prop :=
  req.uartPort = uartNum1 ∧ req.txPin = 5 ∧ req.rxPin = 4 ∧
    req.rxBufferSize = 256 ∧ req.txBufferSize = 0 ∧
    (0 ≤ req.queueSize ∧ req.queueSize < 256) ∧
    (0 ≤ req.flagAllocateInterrupt ∧ req.flagAllocateInterrupt < 256) ∧
    ¬ req.KeepsFlowControlPins

end InitRequest

/-- The configuration calls are exactly the ones asked for: the requested port, configuration, data
pins, buffer sizes, queue and flags, and no change of the flow-control pins if the caller keeps
them. -/
def ConfiguredAsAsked (req : InitRequest) (ops : List HwOp) : Prop :=
  ∃ rts cts : ℤ,
    ops = [.uartParamConfig req.uartPort req.uartConfig,
      .uartSetPin req.uartPort req.txPin req.rxPin rts cts,
      .uartDriverInstall req.uartPort req.rxBufferSize req.txBufferSize req.queueSize req.uartQueue
        req.flagAllocateInterrupt] ∧
    (req.KeepsFlowControlPins → rts = uartPinNoChange ∧ cts = uartPinNoChange)

/-- The calls the driver makes for a request. -/
theorem calls_submit (a : Answers HwRet) (req : InitRequest) :
    req.submit.calls a
      = [.uartParamConfig uartNum1 req.uartConfig, .uartSetPin uartNum1 5 4 10 11,
        .uartDriverInstall uartNum1 256 0 (UInt8.ofInt req.queueSize).toNat req.uartQueue
          (UInt8.ofInt req.flagAllocateInterrupt).toNat] := by
  rw [InitRequest.submit, Program.calls, UartDriver.trace_init]
  rfl

/-- **When the driver configures what was asked.** -/
theorem configuredAsAsked_iff (a : Answers HwRet) (req : InitRequest) :
    ConfiguredAsAsked req (req.submit.calls a) ↔ req.MatchesDriver := by
  rw [calls_submit, ConfiguredAsAsked, InitRequest.MatchesDriver]
  constructor
  · rintro ⟨rts, cts, hops, hkeep⟩
    simp only [List.cons.injEq, HwOp.uartParamConfig.injEq, HwOp.uartSetPin.injEq,
      HwOp.uartDriverInstall.injEq, and_true, true_and] at hops
    obtain ⟨hport, ⟨-, htx, hrx, hrts, -⟩, -, hrxSize, htxSize, hqueue, hflags⟩ := hops
    refine ⟨hport.symm, htx.symm, hrx.symm, hrxSize.symm, htxSize.symm,
      (toNat_ofInt_eq_iff _).mp hqueue, (toNat_ofInt_eq_iff _).mp hflags, fun hkeeps => ?_⟩
    -- the driver sets RTS to 10, which is not "no change"
    have hchanged : rts = uartPinNoChange := (hkeep hkeeps).1
    rw [← hrts] at hchanged
    exact absurd hchanged (by decide)
  · rintro ⟨hport, htx, hrx, hrxSize, htxSize, hqueue, hflags, hkeeps⟩
    refine ⟨10, 11, ?_, fun h => absurd h hkeeps⟩
    rw [(toNat_ofInt_eq_iff _).mpr hqueue, (toNat_ofInt_eq_iff _).mpr hflags, hport, htx, hrx,
      hrxSize, htxSize]

/-! ## `Lock::init` -/

/-- What `Lock::init` asks for: its two pins on `UART_NUM_1`, 256 bytes in each direction, no queue
and no flow-control pin. -/
def lockRequest (rxPin txPin : UInt8) : InitRequest where
  uartPort := uartNum1
  uartConfig := lockUartConfig
  rxPin := rxPin.toNat
  txPin := txPin.toNat
  ctsPin := uartPinNoChange
  rtsPin := uartPinNoChange
  rxBufferSize := 256
  txBufferSize := 256
  queueSize := 0
  uartQueue := none
  flagAllocateInterrupt := 0

/-- `Lock::init` on usable pins configures the UART as it asks. -/
def LockInitConfigures (a : Answers HwRet) (rxPin txPin : UInt8) : Prop :=
  rxPin ≠ 0 → txPin ≠ 0 →
    ConfiguredAsAsked (lockRequest rxPin txPin) ((Lock.init rxPin txPin).calls a)

/-- On usable pins `Lock::init` never configures what it asks: both flow-control pins are claimed
and the transmit buffer has size 0. -/
theorem not_configuredAsAsked_lockInit (a : Answers HwRet) {rxPin txPin : UInt8} (hrx : rxPin ≠ 0)
    (htx : txPin ≠ 0) :
    ¬ ConfiguredAsAsked (lockRequest rxPin txPin) ((Lock.init rxPin txPin).calls a) := by
  rintro ⟨rts, cts, hops, -⟩
  rw [Program.calls, trace_lockInit, if_neg (by simp [hrx, htx])] at hops
  simp [lockRequest] at hops

/-- `Lock::init` configures what it asks only where it has nothing to configure. -/
theorem lockInitConfigures_iff (a : Answers HwRet) (rxPin txPin : UInt8) :
    LockInitConfigures a rxPin txPin ↔ rxPin = 0 ∨ txPin = 0 := by
  constructor
  · intro h
    by_contra hpins
    obtain ⟨hrx, htx⟩ := not_or.mp hpins
    exact not_configuredAsAsked_lockInit a hrx htx (h hrx htx)
  · rintro (hrx | htx) hrx' htx'
    · exact absurd hrx hrx'
    · exact absurd htx htx'

/-- **The configuration made is the one asked for** exactly on the requests that match the driver's
fixed values, and for `Lock::init` on no usable pins at all. -/
theorem uart_configuration_iff (a : Answers HwRet) :
    (∀ req : InitRequest, ConfiguredAsAsked req (req.submit.calls a) ↔ req.MatchesDriver) ∧
      ∀ rxPin txPin : UInt8, LockInitConfigures a rxPin txPin ↔ rxPin = 0 ∨ txPin = 0 :=
  ⟨configuredAsAsked_iff a, lockInitConfigures_iff a⟩

/-- On the lock's own pins 4 and 5, `Lock::init` claims the flow-control pins 10 and 11. -/
theorem lockInit_claims_flow_control :
    ¬ LockInitConfigures Board.accepting.answers 4 5 := by
  intro h
  obtain ⟨rts, cts, hops, hkeep⟩ := h (by decide) (by decide)
  obtain ⟨hrts, -⟩ := hkeep ⟨rfl, rfl⟩
  rw [hrts] at hops
  simp [Program.calls, trace_lockInit, uartPinNoChange, espDefaultUartCtsPin] at hops

end SmartLock
