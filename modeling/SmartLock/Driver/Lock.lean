import SmartLock.Driver.UartDriver

/-! # The lock component

`Lock` of `components/Lock_Driver`: four member functions over the UART driver, each with its frames
as the source has them. `uint8_t` variables that carry sizes narrow modulo `2^8`.

* **`setKeyFrame`, `openFrame`, `wakeupFrame`, `disableLatchFrame`** — the bytes sent.
* **`trace_lockInit`, `trace_turnOffAutomaticLatch`** — the calls under any answers of ESP-IDF;
  `Lock.setKey` and `Lock.open` are one `sendData` each. -/

namespace SmartLock

open Effects

/-! ## Frames -/

/-- The payload of `Lock::setKey`. -/
def setKeyFrame : List UInt8 :=
  [0x00, 0x00, 0x00, 0x00, 0x00, 0x00, 0x00, 0x55, 0xAA, 0x03, 0x55, 0xAA, 0x00, 0x00,
    0x00, 0x01, 0x55, 0xAA, 0x03, 0x00, 0x03, 0x04, 0x00, 0x19, 0x30, 0x00, 0x00, 0x15,
    0x01, 0xAA, 0xAA, 0x00, 0x00, 0x00, 0x00, 0xFF, 0xFF, 0xFF, 0xFF, 0xFF, 0xFF, 0x48,
    0x48, 0x48, 0x48, 0x48, 0x48, 0x48, 0x48, 0xA0]

/-- The payload of `Lock::open`. -/
def openFrame : List UInt8 :=
  [0x00, 0x00, 0x00, 0x00, 0x00, 0x00, 0x00, 0x55, 0xAA, 0x03, 0x55, 0xAA, 0x00, 0x00, 0x00, 0x01,
    0x55, 0xAA, 0x03, 0x00, 0x04, 0x04, 0x00, 0x0F, 0x31, 0x00, 0x00, 0x0B, 0x01, 0xAA, 0xAA, 0x48,
    0x48, 0x48, 0x48, 0x48, 0x48, 0x48, 0x48, 0xFB]

/-- The first payload of `Lock::turnOffAutomaticLatch`. -/
def wakeupFrame : List UInt8 :=
  [0x00, 0x00, 0x00, 0x00, 0x00, 0x00, 0x00, 0x55, 0xAA, 0x03, 0x55, 0xAA, 0x00, 0x00, 0x00, 0x01]

/-- The second payload of `Lock::turnOffAutomaticLatch`. -/
def disableLatchFrame : List UInt8 :=
  [0x55, 0xAA, 0x03, 0x00, 0x23, 0x00, 0x00]

/-- `sizeof(payload)` stored in a `uint8_t` and passed on as `size_t`. -/
def dataLen (payload : List UInt8) : ℕ := (UInt8.ofNat payload.length).toNat

/-- A payload of less than 256 bytes keeps its length in the `uint8_t`. -/
theorem dataLen_eq_length {payload : List UInt8} (h : payload.length < 256) :
    dataLen payload = payload.length := by
  rw [dataLen, UInt8.toNat_ofNat']
  exact Nat.mod_eq_of_lt h

/-! ## Member functions -/

/-- `portTICK_PERIOD_MS` at the configured tick rate of 100 Hz. -/
def portTickPeriodMs : ℕ := 10

/-- The UART configuration `Lock::init` asks for. -/
def lockUartConfig : UartConfig where
  baudRate := 115200
  dataBits := .data8Bits
  parity := .disable
  stopBits := .bits1
  flowCtrl := .disable

/-- `Lock::init`. The buffer sizes are declared `uint8_t` with value 256, and `UART_PIN_NO_CHANGE`
is passed to `uint8_t` parameters. -/
def Lock.init (rxPin txPin : UInt8) : Hw EspErr := do
  -- both sizes wrap around to 0
  let rxBufferSize : UInt8 := UInt8.ofNat 256
  let txBufferSize : UInt8 := UInt8.ofNat 256
  let queueSize : UInt8 := 0
  let uartQueue : QueueHandlePtr := none
  let flagAllocateInterrupt : UInt8 := 0
  if rxPin = 0 ∨ txPin = 0 then
    return espErrInvalidArg
  UartDriver.init uartNum1 lockUartConfig rxPin txPin (UInt8.ofInt uartPinNoChange)
    (UInt8.ofInt uartPinNoChange) rxBufferSize.toNat txBufferSize.toNat queueSize uartQueue
    flagAllocateInterrupt

/-- `Lock::setKey`. -/
def Lock.setKey : Hw EspErr := UartDriver.sendData setKeyFrame (dataLen setKeyFrame)

/-- `Lock::open`. -/
def Lock.open : Hw EspErr := UartDriver.sendData openFrame (dataLen openFrame)

set_option linter.unusedVariables false in
/-- `Lock::turnOffAutomaticLatch`. The status of the first send is overwritten by the second. -/
def Lock.turnOffAutomaticLatch : Hw EspErr := do
  let mut espCheck := espOk
  espCheck ← UartDriver.sendData wakeupFrame (dataLen wakeupFrame)
  vTaskDelay (50 / portTickPeriodMs)
  espCheck ← UartDriver.sendData disableLatchFrame (dataLen disableLatchFrame)
  return espCheck

/-! ## What the functions ask of ESP-IDF -/

section Runs

variable (a : Answers HwRet)

/-- `Lock::init` on usable pins returns what `uart_driver_install` answers. -/
theorem result_lockInit (rxPin txPin : UInt8) :
    (Lock.init rxPin txPin).result a
      = if rxPin = 0 ∨ txPin = 0 then espErrInvalidArg
        else a 2 (.uartDriverInstall espDefaultUartPort 256 0 0 none 0) := by
  simp only [Lock.init, ↓Program.result_ite, Program.result_pure, UartDriver.result_init]
  rfl

/-- `Lock::init` on usable pins makes the three configuration calls of the driver. -/
theorem trace_lockInit (rxPin txPin : UInt8) :
    (Lock.init rxPin txPin).trace a
      = if rxPin = 0 ∨ txPin = 0 then []
        else [⟨.uartParamConfig espDefaultUartPort lockUartConfig, a 0 _⟩,
          ⟨.uartSetPin espDefaultUartPort espDefaultUartTxPin espDefaultUartRxPin
            espDefaultUartCtsPin espDefaultUartRtsPin, a 1 _⟩,
          ⟨.uartDriverInstall espDefaultUartPort 256 0 0 none 0, a 2 _⟩] := by
  simp only [Lock.init, ↓Program.trace_ite, Program.trace_pure, UartDriver.trace_init]
  rfl

/-- `Lock::turnOffAutomaticLatch` returns what its second `sendData` returns. -/
theorem result_turnOffAutomaticLatch :
    Lock.turnOffAutomaticLatch.result a
      = (UartDriver.sendData disableLatchFrame 7).result
          (a.after (((UartDriver.sendData wakeupFrame 16).trace a).length + 1)) := by
  have hwakeup : dataLen wakeupFrame = 16 := dataLen_eq_length (by decide)
  have hdisable : dataLen disableLatchFrame = 7 := dataLen_eq_length (by decide)
  simp only [Lock.turnOffAutomaticLatch, vTaskDelay, Program.result_bind, Program.trace_call,
    List.length_singleton, Answers.after_after, hwakeup, hdisable, Nat.add_comm 1]

/-- `Lock::turnOffAutomaticLatch` sends the wake-up, waits five ticks and sends the command. -/
theorem trace_turnOffAutomaticLatch :
    Lock.turnOffAutomaticLatch.trace a
      = (UartDriver.sendData wakeupFrame 16).trace a ++ ⟨.vTaskDelay 5, ()⟩ ::
        (UartDriver.sendData disableLatchFrame 7).trace
          (a.after (((UartDriver.sendData wakeupFrame 16).trace a).length + 1)) := by
  have hwakeup : dataLen wakeupFrame = 16 := dataLen_eq_length (by decide)
  have hdisable : dataLen disableLatchFrame = 7 := dataLen_eq_length (by decide)
  simp only [Lock.turnOffAutomaticLatch, vTaskDelay, Program.trace_bind, Program.trace_call,
    List.length_singleton, Answers.after_after, hwakeup, hdisable, Nat.add_comm 1,
    List.singleton_append]
  rfl

end Runs

end SmartLock
