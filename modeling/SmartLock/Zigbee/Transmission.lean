import SmartLock.Zigbee.Firmware

/-! # What the lock receives

The writes of a run from power-on, and with them the byte stream on the line to the lock, on any
hardware.

* **`writesOf_firmwareTrace`** — the writes of a whole run: the frames of start-up, and then the
  open frame for each raw command on which the callback's test holds, each if the driver is reported
  to be installed.
* **`transmitted_firmwareTrace_eq`** — the bytes on the line: of each of these frames as many as the
  UART takes.
* **`framesWritten_sublist`** — the frames in their order: the key at most once and first, the latch
  command after the wake-up, and nothing but open frames behind. -/

namespace SmartLock

open Effects

/-! ## Writes -/

/-- The call hands bytes to the UART. -/
def HwEvent.isWrite : HwEvent → Bool
  | ⟨.uartWriteBytes .., _⟩ => true
  | _ => false

/-- The writes of a trace, in order. -/
def writesOf (tr : List HwEvent) : List HwEvent := tr.filter HwEvent.isWrite

/-- The number of calls of a `sendData` that meets the board after `n` calls. -/
def Board.sendCalls (b : Board) (n : ℕ) : ℕ := if b.installed n = true then 2 else 1

/-- The write of a `sendData` that meets the board after `n` calls. -/
def Board.writes (b : Board) (n : ℕ) (data : List UInt8) : List HwEvent :=
  if b.installed n = true then
    [⟨.uartWriteBytes espDefaultUartPort data data.length, b.written (n + 1) data.length⟩]
  else []

/-- The number of calls before start-up sends the wake-up: three to set the UART up, then the
key. -/
def Board.wakeupAt (b : Board) : ℕ := 3 + b.sendCalls 3

/-- The number of calls before start-up disables the latch: the wake-up and a delay later. -/
def Board.latchAt (b : Board) : ℕ := b.wakeupAt + (b.sendCalls b.wakeupAt + 1)

@[simp] theorem writesOf_nil : writesOf [] = [] := rfl

@[simp] theorem writesOf_append (tr tr' : List HwEvent) :
    writesOf (tr ++ tr') = writesOf tr ++ writesOf tr' := List.filter_append ..

/-- A `sendData` writes its payload if the driver is reported to be installed. -/
theorem writesOf_sendData (b : Board) (n : ℕ) (data : List UInt8) :
    writesOf ((UartDriver.sendData data data.length).trace (b.answers.after n))
      = b.writes n data := by
  rw [UartDriver.trace_sendData, Board.writes]
  simp only [Answers.after_apply, Board.answers, Nat.zero_add, Nat.add_comm 1]
  split
  · rfl
  · rfl

/-- The number of calls of a `sendData`. -/
theorem length_trace_sendData_after (b : Board) (n : ℕ) (data : List UInt8) (length : ℕ) :
    ((UartDriver.sendData data length).trace (b.answers.after n)).length = b.sendCalls n := by
  rw [UartDriver.length_trace_sendData, Answers.after_apply, Nat.zero_add]
  rfl

/-- After the key, start-up writes the two frames of the latch. -/
theorem writesOf_initAfterKey (b : Board) (n : ℕ) :
    writesOf (Zigbee.initAfterKey.onHardware.trace (b.answers.after n))
      = b.writes n wakeupFrame ++ b.writes (n + (b.sendCalls n + 1)) disableLatchFrame := by
  have hwakeup := writesOf_sendData b n wakeupFrame
  have hlatch := writesOf_sendData b (n + (b.sendCalls n + 1)) disableLatchFrame
  have hlen := length_trace_sendData_after b n wakeupFrame 16
  have htwo : writesOf (Lock.turnOffAutomaticLatch.trace (b.answers.after n))
      = b.writes n wakeupFrame ++ b.writes (n + (b.sendCalls n + 1)) disableLatchFrame := by
    rw [trace_turnOffAutomaticLatch, writesOf_append, hlen, Answers.after_after,
      Nat.add_comm _ n]
    exact congrArg₂ (· ++ ·) hwakeup hlatch
  rw [Zigbee.initAfterKey, Zb.onHardware, Program.handle_bind, Program.trace_bind,
    Program.trace_handle_perform, writesOf_append, lower, htwo]
  -- the two checked calls write nothing, wherever start-up ends
  refine (congrArg _ ?_).trans (List.append_nil _)
  simp only [Program.handle_bind, Program.handle_call, lower, Program.trace_bind,
    Program.trace_call, ↓Program.handle_ite, ↓Program.trace_ite, Program.handle_pure,
    Program.trace_pure, writesOf_append]
  split
  · rfl
  · split
    · rfl
    · rfl

/-- **Start-up** writes its three frames. -/
theorem writesOf_init (b : Board) :
    writesOf (Zigbee.init.onHardware.trace b.answers)
      = b.writes 3 setKeyFrame
        ++ (b.writes b.wakeupAt wakeupFrame ++ b.writes b.latchAt disableLatchFrame) := by
  have hpins : ¬ (uartRxPin = 0 ∨ uartTxPin = 0) := by decide
  have hkey := writesOf_sendData b 3 setKeyFrame
  have hlen : (Lock.setKey.trace (b.answers.after 3)).length = b.sendCalls 3 :=
    length_trace_sendData_after b 3 setKeyFrame 50
  have hrest := writesOf_initAfterKey b b.wakeupAt
  rw [trace_init_onHardware, trace_lockInit, if_neg hpins, writesOf_append, writesOf_append, hlen]
  -- setting the UART up writes nothing
  exact (List.nil_append _).trans (congrArg₂ (· ++ ·) hkey hrest)

/-- **One entry** writes the open frame, or nothing. -/
theorem writesOf_events (call : ZigbeeCall) (b : Board) :
    writesOf (call.events b) = if call.OpensLock then b.writes 0 openFrame else [] := by
  cases call with
  | actionHandler callbackId message =>
      have hclosed : ¬ (ZigbeeCall.actionHandler callbackId message).OpensLock := id
      rw [events_actionHandler, if_neg hclosed, writesOf_nil]
  | rawCommand buf =>
      rw [events_rawCommand, apply_ite writesOf, writesOf_nil]
      exact if_congr Iff.rfl (writesOf_sendData b 0 openFrame) rfl

/-- **The writes of a run**: those of start-up, and if it completes those of the entries. -/
theorem writesOf_firmwareTrace (b₀ : Board) (steps : List (ZigbeeCall × Board)) :
    writesOf (firmwareTrace b₀ steps)
      = b₀.writes 3 setKeyFrame
        ++ (b₀.writes b₀.wakeupAt wakeupFrame ++ b₀.writes b₀.latchAt disableLatchFrame)
        ++ if b₀.nvsFlashInit = espOk ∧ b₀.espZbPlatformConfig = espOk then
            steps.flatMap fun step =>
              if step.1.OpensLock then step.2.writes 0 openFrame else []
          else [] := by
  rw [firmwareTrace, writesOf_append, writesOf_init]
  refine congrArg _ ?_
  by_cases hok : b₀.nvsFlashInit = espOk ∧ b₀.espZbPlatformConfig = espOk
  · rw [if_pos hok, (result_init_onHardware b₀).mpr hok, writesOf, List.filter_flatMap]
    exact List.flatMap_congr fun step _ => writesOf_events step.1 step.2
  · rw [if_neg hok]
    cases hres : Zigbee.init.onHardware.result b₀.answers with
    | completed => exact absurd ((result_init_onHardware b₀).mp hres) hok
    | aborted => rfl

/-! ## The byte stream -/

/-- The number of bytes that the board takes of `size` bytes sent after `n` calls. -/
def Board.takes (b : Board) (n size : ℕ) : ℕ :=
  if b.installed n = true then (b.written (n + 1) size).val.toNat else 0

/-- Only writes put bytes on the line. -/
theorem transmitted_writesOf (tr : List HwEvent) : transmitted (writesOf tr) = transmitted tr := by
  induction tr with
  | nil => rfl
  | cons e tr ih =>
      rw [transmitted, transmitted] at ih
      rw [writesOf, List.filter_cons, transmitted, transmitted, List.flatMap_cons, ← ih]
      split
      · rfl
      · next hwrite =>
          have hnone : e.accepted = [] := by
            unfold HwEvent.accepted
            split
            · exact absurd rfl hwrite
            · rfl
          rw [hnone]
          rfl

/-- Of a frame the line gets as much as the board takes. -/
theorem transmitted_writes (b : Board) (n : ℕ) (data : List UInt8) :
    transmitted (b.writes n data) = data.take (b.takes n data.length) := by
  rw [Board.writes, Board.takes]
  split
  · rw [transmitted, List.flatMap_singleton, HwEvent.accepted, List.take_length]
  · rfl

/-- **The byte stream of a run on any hardware.** The lock receives a prefix of the key frame, of
the wake-up and of the latch command, and then, if start-up completes, a prefix of one open frame
for every raw command on which the callback's test holds: of each frame the bytes that the UART
takes, and nothing else. -/
theorem transmitted_firmwareTrace_eq (b₀ : Board) (steps : List (ZigbeeCall × Board)) :
    transmitted (firmwareTrace b₀ steps)
      = setKeyFrame.take (b₀.takes 3 50)
        ++ (wakeupFrame.take (b₀.takes b₀.wakeupAt 16)
          ++ disableLatchFrame.take (b₀.takes b₀.latchAt 7))
        ++ if b₀.nvsFlashInit = espOk ∧ b₀.espZbPlatformConfig = espOk then
            steps.flatMap fun step =>
              if step.1.OpensLock then openFrame.take (step.2.takes 0 40) else []
          else [] := by
  have hkey := transmitted_writes b₀ 3 setKeyFrame
  have hwakeup := transmitted_writes b₀ b₀.wakeupAt wakeupFrame
  have hlatch := transmitted_writes b₀ b₀.latchAt disableLatchFrame
  have hentry (step : ZigbeeCall × Board) :
      transmitted (if step.1.OpensLock then step.2.writes 0 openFrame else [])
        = if step.1.OpensLock then openFrame.take (step.2.takes 0 40) else [] := by
    rw [apply_ite transmitted, transmitted_nil]
    exact if_congr Iff.rfl (transmitted_writes step.2 0 openFrame) rfl
  rw [← transmitted_writesOf, writesOf_firmwareTrace, transmitted_append, transmitted_append,
    transmitted_append, hkey, hwakeup, hlatch, apply_ite transmitted, transmitted_nil]
  refine congrArg _ (if_congr Iff.rfl ?_ rfl)
  rw [transmitted, List.flatMap_assoc]
  exact List.flatMap_congr fun step _ => hentry step

/-! ## The order of the frames -/

/-- The frame of a write. -/
def HwEvent.frame : HwEvent → Option (List UInt8)
  | ⟨.uartWriteBytes _ src _, _⟩ => some src
  | _ => none

/-- The frames handed to the UART, in order. -/
def framesWritten (tr : List HwEvent) : List (List UInt8) := tr.filterMap HwEvent.frame

theorem framesWritten_append (tr tr' : List HwEvent) :
    framesWritten (tr ++ tr') = framesWritten tr ++ framesWritten tr' := List.filterMap_append

/-- Only writes hand over frames. -/
theorem framesWritten_writesOf (tr : List HwEvent) :
    framesWritten (writesOf tr) = framesWritten tr := by
  rw [framesWritten, writesOf, List.filterMap_filter]
  refine List.filterMap_congr fun e _ => ?_
  split
  · rfl
  · next hwrite =>
      unfold HwEvent.frame
      split
      · exact absurd rfl hwrite
      · rfl

/-- A `sendData` hands its payload over once at most. -/
theorem framesWritten_writes (b : Board) (n : ℕ) (data : List UInt8) :
    (framesWritten (b.writes n data)).Sublist [data] := by
  rw [Board.writes]
  split
  · exact List.Sublist.refl _
  · exact List.nil_sublist _

/-- The entries hand over one open frame each at most, and only if they open the lock. -/
theorem framesWritten_entries (steps : List (ZigbeeCall × Board)) :
    (framesWritten (steps.flatMap fun step =>
        if step.1.OpensLock then step.2.writes 0 openFrame else [])).Sublist
      (List.replicate (steps.countP fun step => step.1.OpensLock) openFrame) := by
  induction steps with
  | nil => exact List.Sublist.refl _
  | cons step steps ih =>
      rw [List.flatMap_cons, framesWritten_append, List.countP_cons]
      by_cases hopens : step.1.OpensLock
      · simp only [hopens, if_true, decide_true, List.replicate_succ]
        exact (framesWritten_writes step.2 0 openFrame).append ih
      · simpa [hopens, framesWritten] using ih

/-- **The order of the frames.** On any run and any hardware, the frames handed to the UART are, in
this order and each at most once, the key, the wake-up and the latch command, and then at most one
open frame for every raw command on which the callback's test holds. -/
theorem framesWritten_sublist (b₀ : Board) (steps : List (ZigbeeCall × Board)) :
    (framesWritten (firmwareTrace b₀ steps)).Sublist
      ([setKeyFrame, wakeupFrame, disableLatchFrame]
        ++ List.replicate (steps.countP fun step => step.1.OpensLock) openFrame) := by
  have hkey := framesWritten_writes b₀ 3 setKeyFrame
  have hwakeup := framesWritten_writes b₀ b₀.wakeupAt wakeupFrame
  have hlatch := framesWritten_writes b₀ b₀.latchAt disableLatchFrame
  rw [← framesWritten_writesOf, writesOf_firmwareTrace, framesWritten_append,
    framesWritten_append, framesWritten_append]
  refine (hkey.append (hwakeup.append hlatch)).append ?_
  split
  · exact framesWritten_entries steps
  · exact List.nil_sublist _

end SmartLock
