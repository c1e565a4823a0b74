import Mathlib.Data.Int.Notation
import SmartLock.Effects.Program

/-! # The ESP-IDF calls under the lock

The operations the two drivers and the Zigbee start-up ask of ESP-IDF, with their answers. None of
these functions is part of the repository, so their answers come from a `Board`: any error code, any
answer about the driver, any number of written bytes from negative up to the requested length.

* **`HwOp` / `HwRet`** — the calls with their arguments, and what each of them returns.
* **`Board`** — a behaviour of the hardware during one entry into the firmware.
* **`HwEvent.accepted`, `transmitted`** — the bytes the UART takes in one call and in a trace. -/

namespace SmartLock

open Effects

/-! ## Types and constants of ESP-IDF -/

/-- `esp_err_t`, a C `int`. -/
abbrev EspErr := ℤ

def espOk : EspErr := 0
def espFail : EspErr := -1
def espErrInvalidArg : EspErr := 0x102

/-- `uart_port_t`: the number of the UART. -/
abbrev UartPort := ℕ

def uartNum1 : UartPort := 1

/-- `UART_PIN_NO_CHANGE`: leave the pin as it is. -/
def uartPinNoChange : ℤ := -1

inductive UartWordLength
  | data5Bits | data6Bits | data7Bits | data8Bits
  deriving DecidableEq, Repr

inductive UartParity
  | disable | even | odd
  deriving DecidableEq, Repr

inductive UartStopBits
  | bits1 | bits1Point5 | bits2
  deriving DecidableEq, Repr

inductive UartHwFlowCtrl
  | disable | rts | cts | ctsRts
  deriving DecidableEq, Repr

/-- `uart_config_t`, the fields the firmware sets. -/
structure UartConfig where
  baudRate : ℤ
  dataBits : UartWordLength
  parity : UartParity
  stopBits : UartStopBits
  flowCtrl : UartHwFlowCtrl
  deriving DecidableEq, Repr

/-- `QueueHandle_t *`: the address of a queue handle, `none` for `NULL`. -/
abbrev QueueHandlePtr := Option ℕ

inductive EspZbRadioMode
  | native | uartRcp | spiRcp
  deriving DecidableEq, Repr

inductive EspZbHostConnectionMode
  | none | cliUart | rcpUart
  deriving DecidableEq, Repr

/-- `esp_zb_platform_config_t`, the fields the firmware sets. -/
structure EspZbPlatformConfig where
  radioMode : EspZbRadioMode
  hostConnectionMode : EspZbHostConnectionMode
  deriving DecidableEq, Repr

/-! ## Calls, answers, events -/

/-- The ESP-IDF calls of the firmware, with their arguments under the names of ESP-IDF. -/
inductive HwOp
  | uartParamConfig (uartNum : UartPort) (uartConfig : UartConfig)
  | uartSetPin (uartNum : UartPort) (txIoNum rxIoNum rtsIoNum ctsIoNum : ℤ)
  | uartDriverInstall (uartNum : UartPort) (rxBufferSize txBufferSize queueSize : ℤ)
      (uartQueue : QueueHandlePtr) (intrAllocFlags : ℤ)
  | uartIsDriverInstalled (uartNum : UartPort)
  | uartWriteBytes (uartNum : UartPort) (src : List UInt8) (size : ℕ)
  | vTaskDelay (ticks : ℕ)
  | nvsFlashInit
  | espZbPlatformConfig (config : EspZbPlatformConfig)
  deriving DecidableEq, Repr

/-- What `uart_write_bytes` returns for `size` bytes: negative for an error, else the number of
bytes taken, never more than asked. -/
abbrev WriteResult (size : ℕ) := {n : ℤ // n ≤ size}

/-- The answer type of every call. -/
abbrev HwRet : HwOp → Type
  | .uartParamConfig .. => EspErr
  | .uartSetPin .. => EspErr
  | .uartDriverInstall .. => EspErr
  | .uartIsDriverInstalled _ => Bool
  | .uartWriteBytes _ _ size => WriteResult size
  | .vTaskDelay _ => Unit
  | .nvsFlashInit => EspErr
  | .espZbPlatformConfig _ => EspErr

/-- Code that talks to ESP-IDF. -/
abbrev Hw := Program HwRet

/-- A call to ESP-IDF with its answer. -/
abbrev HwEvent := Event HwRet

def uartParamConfig (uartNum : UartPort) (uartConfig : UartConfig) : Hw EspErr :=
  Program.call (HwOp.uartParamConfig uartNum uartConfig)

def uartSetPin (uartNum : UartPort) (txIoNum rxIoNum rtsIoNum ctsIoNum : ℤ) : Hw EspErr :=
  Program.call (HwOp.uartSetPin uartNum txIoNum rxIoNum rtsIoNum ctsIoNum)

def uartDriverInstall (uartNum : UartPort) (rxBufferSize txBufferSize queueSize : ℤ)
    (uartQueue : QueueHandlePtr) (intrAllocFlags : ℤ) : Hw EspErr :=
  Program.call
    (HwOp.uartDriverInstall uartNum rxBufferSize txBufferSize queueSize uartQueue intrAllocFlags)

def uartIsDriverInstalled (uartNum : UartPort) : Hw Bool :=
  Program.call (HwOp.uartIsDriverInstalled uartNum)

def uartWriteBytes (uartNum : UartPort) (src : List UInt8) (size : ℕ) : Hw (WriteResult size) :=
  Program.call (HwOp.uartWriteBytes uartNum src size)

def vTaskDelay (ticks : ℕ) : Hw Unit :=
  Program.call (HwOp.vTaskDelay ticks)

/-! ## Behaviours of the hardware -/

/-- A behaviour of the hardware during one entry into the firmware. The `n`-th call gets the `n`-th
answer of its kind; the firmware decides its calls by the answers before, so this is every
behaviour. The two start-up calls are made at most once. -/
structure Board where
  /-- What `uart_param_config`, `uart_set_pin` and `uart_driver_install` return. -/
  err : ℕ → EspErr
  /-- What `uart_is_driver_installed` returns. -/
  installed : ℕ → Bool
  /-- What `uart_write_bytes` returns for a given size. -/
  written : ℕ → (size : ℕ) → WriteResult size
  nvsFlashInit : EspErr
  espZbPlatformConfig : EspErr

/-- The answers of a board. -/
def Board.answers (b : Board) : Answers HwRet := fun n op =>
  match op with
  | .uartParamConfig .. => b.err n
  | .uartSetPin .. => b.err n
  | .uartDriverInstall .. => b.err n
  | .uartIsDriverInstalled _ => b.installed n
  | .uartWriteBytes _ _ size => b.written n size
  | .vTaskDelay _ => ()
  | .nvsFlashInit => b.nvsFlashInit
  | .espZbPlatformConfig _ => b.espZbPlatformConfig

/-- A board on which everything works: no errors, and every byte is taken. -/
def Board.accepting : Board where
  err _ := espOk
  installed _ := true
  written _ size := ⟨size, Int.le_refl _⟩
  nvsFlashInit := espOk
  espZbPlatformConfig := espOk

/-- The bytes the UART takes in one call. -/
def HwEvent.accepted : HwEvent → List UInt8
  | ⟨.uartWriteBytes _ src size, r⟩ => (src.take size).take r.val.toNat
  | _ => []

/-- The bytes the UART takes during a trace, in order. -/
def transmitted (tr : List HwEvent) : List UInt8 := tr.flatMap HwEvent.accepted

@[simp] theorem transmitted_nil : transmitted [] = [] := rfl

end SmartLock
