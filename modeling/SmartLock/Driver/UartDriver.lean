import SmartLock.Driver.Hardware

/-! # The UART driver component

`UartDriver::init` and `UartDriver::sendData` of `components/uart_driver`, and for each of them what
it returns and which calls it makes under any answers of ESP-IDF.

* **`result_init`, `trace_init`** — the three configuration calls are always made, with the driver's
  own port, pins and buffer sizes, and the last one decides the result.
* **`result_sendData`, `trace_sendData`** — the write is made when the driver reports installed, and
  any count that is not negative is a success. -/

namespace SmartLock

open Effects

/-! ## Defaults of the driver -/

def espDefaultUartTxPin : ℤ := 5
def espDefaultUartRxPin : ℤ := 4
def espDefaultUartCtsPin : ℤ := 10
def espDefaultUartRtsPin : ℤ := 11
def espDefaultUartPort : UartPort := uartNum1

namespace UartDriver

/-! ## `init` -/

set_option linter.unusedVariables false in
/-- `UartDriver::init`. The pins arrive as `uint8_t` and are compared with `UART_PIN_NO_CHANGE` as
`int`. `uart_set_pin` takes the RTS pin before the CTS pin. -/
def init (uartPort : UartPort) (uartConfig : UartConfig) (rxPin txPin ctsPin rtsPin : UInt8)
    (rxBufferSize txBufferSize : ℤ) (queueSize : UInt8) (uartQueue : QueueHandlePtr)
    (flagAllocateInterrupt : UInt8) : Hw EspErr := do
  let mut espCheck := espOk
  espCheck ← uartParamConfig espDefaultUartPort uartConfig
  -- every assignment to `espCheck` drops the status of the call before
  if (ctsPin.toNat : ℤ) = uartPinNoChange ∧ (rtsPin.toNat : ℤ) = uartPinNoChange then
    espCheck ← uartSetPin espDefaultUartPort espDefaultUartTxPin espDefaultUartRxPin
      uartPinNoChange uartPinNoChange
  else
    espCheck ← uartSetPin espDefaultUartPort espDefaultUartTxPin espDefaultUartRxPin
      espDefaultUartCtsPin espDefaultUartRtsPin
  espCheck ← uartDriverInstall espDefaultUartPort 256 0 queueSize.toNat uartQueue
    flagAllocateInterrupt.toNat
  return espCheck

/-- No `uint8_t` equals `UART_PIN_NO_CHANGE` after promotion to `int`. -/
theorem toNat_ne_uartPinNoChange (pin : UInt8) : (pin.toNat : ℤ) ≠ uartPinNoChange := by
  rw [uartPinNoChange]
  omega

section Init

variable (a : Answers HwRet) (uartPort : UartPort) (uartConfig : UartConfig)
  (rxPin txPin ctsPin rtsPin : UInt8) (rxBufferSize txBufferSize : ℤ) (queueSize : UInt8)
  (uartQueue : QueueHandlePtr) (flagAllocateInterrupt : UInt8)

/-- `init` returns what the last of its three calls answers. -/
theorem result_init :
    (init uartPort uartConfig rxPin txPin ctsPin rtsPin rxBufferSize txBufferSize queueSize
        uartQueue flagAllocateInterrupt).result a
      = a 2 (.uartDriverInstall espDefaultUartPort 256 0 queueSize.toNat uartQueue
          flagAllocateInterrupt.toNat) := by
  have hcts := toNat_ne_uartPinNoChange ctsPin
  simp only [init, hcts, false_and, if_false]
  rfl

/-- The three calls of `init`, whatever their answers: the branch that leaves the flow-control pins
alone is unreachable. -/
theorem trace_init :
    (init uartPort uartConfig rxPin txPin ctsPin rtsPin rxBufferSize txBufferSize queueSize
        uartQueue flagAllocateInterrupt).trace a
      = [⟨.uartParamConfig espDefaultUartPort uartConfig, a 0 _⟩,
        ⟨.uartSetPin espDefaultUartPort espDefaultUartTxPin espDefaultUartRxPin
          espDefaultUartCtsPin espDefaultUartRtsPin, a 1 _⟩,
        ⟨.uartDriverInstall espDefaultUartPort 256 0 queueSize.toNat uartQueue
          flagAllocateInterrupt.toNat, a 2 _⟩] := by
  have hcts := toNat_ne_uartPinNoChange ctsPin
  simp only [init, hcts, false_and, if_false]
  rfl

end Init

/-! ## `sendData` -/

/-- `UartDriver::sendData`: `data` is the memory behind the pointer, `length` the number of bytes to
send from it. -/
def sendData (data : List UInt8) (length : ℕ) : Hw EspErr := do
  if (← uartIsDriverInstalled espDefaultUartPort) = false then
    return espFail
  let uartWriteBytes ← uartWriteBytes espDefaultUartPort data length
  -- a count below `length` is not an error here
  if uartWriteBytes.val < 0 then
    return espFail
  return espOk

section SendData

variable (a : Answers HwRet) (data : List UInt8) (length : ℕ)

/-- `sendData` succeeds when the driver is installed and the write returns no error code. -/
theorem result_sendData :
    (sendData data length).result a
      = if a 0 (.uartIsDriverInstalled espDefaultUartPort) = true ∧
            0 ≤ (a 1 (.uartWriteBytes espDefaultUartPort data length)).val
        then espOk else espFail := by
  simp only [sendData, uartIsDriverInstalled, uartWriteBytes, Program.result_bind,
    Program.result_call, ↓Program.result_ite, Program.result_pure, Program.trace_call,
    List.length_singleton, Answers.after_apply, Nat.zero_add]
  -- the three ways out of the function: not installed, an error code, a count
  by_cases hinst : a 0 (.uartIsDriverInstalled espDefaultUartPort) = true
  · by_cases hwrite : (a 1 (.uartWriteBytes espDefaultUartPort data length)).val < 0
    · rw [if_neg (by simp [hinst]), if_pos hwrite, if_neg (by omega)]
    · rw [if_neg (by simp [hinst]), if_neg hwrite, if_pos ⟨hinst, Int.not_lt.mp hwrite⟩]
  · rw [if_pos (by simpa using hinst), if_neg (fun h => hinst h.1)]

/-- `sendData` asks whether the driver is installed and, if so, writes once. -/
theorem trace_sendData :
    (sendData data length).trace a
      = ⟨.uartIsDriverInstalled espDefaultUartPort, a 0 _⟩ ::
        if a 0 (.uartIsDriverInstalled espDefaultUartPort) = true
        then [⟨.uartWriteBytes espDefaultUartPort data length, a 1 _⟩] else [] := by
  simp only [sendData, uartIsDriverInstalled, uartWriteBytes, Program.trace_bind,
    Program.result_call, ↓Program.trace_ite, Program.trace_pure, Program.trace_call,
    List.length_singleton, Answers.after_apply, Nat.zero_add, List.singleton_append, ite_self,
    List.append_nil]
  by_cases hinst : a 0 (.uartIsDriverInstalled espDefaultUartPort) = true
  · rw [if_neg (by simp [hinst]), if_pos hinst]
  · rw [if_pos (by simpa using hinst), if_neg hinst]

/-- `sendData` makes two calls, or one when the driver is not installed. -/
theorem length_trace_sendData :
    ((sendData data length).trace a).length
      = if a 0 (.uartIsDriverInstalled espDefaultUartPort) = true then 2 else 1 := by
  rw [trace_sendData, List.length_cons]
  split <;> rfl

end SendData

end UartDriver

end SmartLock
