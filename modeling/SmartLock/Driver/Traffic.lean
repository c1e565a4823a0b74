import Mathlib.Data.List.TakeDrop
import SmartLock.Driver.Lock

/-! # What goes over the UART

The writes in a trace, by the frame the firmware hands to the UART, and the bytes of it that the
UART takes.

* **`eq_of_writes_sendData`** — a `sendData` writes no frame but its own.
* **`exists_takesWhole_sendData`, `exists_takesSome_sendData`** — the UART takes as much of it as
  it answers, if the driver is installed. -/

namespace SmartLock

open Effects

/-- The firmware hands `frame` to the UART. -/
def HwEvent.Writes (frame : List UInt8) : HwEvent → Prop
  | ⟨.uartWriteBytes _ src _, _⟩ => src = frame
  | _ => False

/-- The firmware hands `frame` to the UART, which takes all of it. -/
def HwEvent.TakesWhole (frame : List UInt8) (e : HwEvent) : Prop :=
  HwEvent.Writes frame e ∧ HwEvent.accepted e = frame

/-- The firmware hands `frame` to the UART, which takes at least one byte of it. -/
def HwEvent.TakesSome (frame : List UInt8) (e : HwEvent) : Prop :=
  HwEvent.Writes frame e ∧ HwEvent.accepted e ≠ []

section Send

variable (a : Answers HwRet) {data frame : List UInt8} {length : ℕ}

/-- A `sendData` writes no frame but its own. -/
theorem eq_of_writes_sendData {e : HwEvent} (he : e ∈ (UartDriver.sendData data length).trace a)
    (hw : HwEvent.Writes frame e) : frame = data := by
  rw [UartDriver.trace_sendData] at he
  rcases List.mem_cons.mp he with rfl | he
  · exact hw.elim
  · split at he
    · obtain rfl := List.mem_singleton.mp he
      exact Eq.symm hw
    · exact absurd he List.not_mem_nil

/-- What the UART takes of the frame of a `sendData`. -/
theorem exists_writes_sendData (data : List UInt8) (length : ℕ) (P : List UInt8 → Prop) :
    (∃ e ∈ (UartDriver.sendData data length).trace a,
        HwEvent.Writes data e ∧ P (HwEvent.accepted e)) ↔
      a 0 (.uartIsDriverInstalled espDefaultUartPort) = true ∧
        P ((data.take length).take
          (a 1 (.uartWriteBytes espDefaultUartPort data length)).val.toNat) := by
  rw [UartDriver.trace_sendData]
  constructor
  · rintro ⟨e, he, hw, hP⟩
    rcases List.mem_cons.mp he with rfl | he
    · exact hw.elim
    · split at he
      · next hinst =>
          obtain rfl := List.mem_singleton.mp he
          exact ⟨hinst, hP⟩
      · exact absurd he List.not_mem_nil
  · rintro ⟨hinst, hP⟩
    rw [if_pos hinst]
    exact ⟨_, List.mem_cons_of_mem _ List.mem_cons_self, rfl, hP⟩

/-- The UART takes all of a frame exactly when it answers the whole length. -/
theorem exists_takesWhole_sendData {data : List UInt8} (hdata : data ≠ []) :
    (∃ e ∈ (UartDriver.sendData data data.length).trace a, HwEvent.TakesWhole data e) ↔
      a 0 (.uartIsDriverInstalled espDefaultUartPort) = true ∧
        (a 1 (.uartWriteBytes espDefaultUartPort data data.length)).val = data.length := by
  refine (exists_writes_sendData a data data.length (· = data)).trans (and_congr_right fun _ => ?_)
  have hle := (a 1 (.uartWriteBytes espDefaultUartPort data data.length)).property
  have hpos := List.length_pos_iff.mpr hdata
  rw [List.take_length, List.take_eq_self_iff data]
  omega

/-- The UART takes something of a frame exactly when it answers a positive count. -/
theorem exists_takesSome_sendData {data : List UInt8} (hdata : data ≠ []) :
    (∃ e ∈ (UartDriver.sendData data data.length).trace a, HwEvent.TakesSome data e) ↔
      a 0 (.uartIsDriverInstalled espDefaultUartPort) = true ∧
        0 < (a 1 (.uartWriteBytes espDefaultUartPort data data.length)).val := by
  refine (exists_writes_sendData a data data.length (· ≠ [])).trans (and_congr_right fun _ => ?_)
  rw [List.take_length, Ne, List.take_eq_nil_iff, or_iff_left hdata]
  omega

end Send

theorem transmitted_append (tr tr' : List HwEvent) :
    transmitted (tr ++ tr') = transmitted tr ++ transmitted tr' := List.flatMap_append

end SmartLock
