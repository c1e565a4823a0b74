import SmartLock.Driver.Lock

/-! # What `ESP_OK` means

The six functions of the driver stack return one `esp_err_t` for several hardware calls. The
specification of such a status is `DidEverything`: every call the function needs was made, and every
call it made succeeded, a write only when it took all bytes.

* **`reportsExactly_iff`** — for each function and every behaviour of the hardware, the status is
  `ESP_OK` exactly on `DidEverything` if and only if the behaviour is not one of those the function
  masks (`NothingMasked`): a configuration error before a successful installation, a short write, a
  failed first frame before a successful second one.
* **`espOk_of_didEverything`** — the other direction never fails: what was done completely is
  reported as `ESP_OK`. -/

namespace SmartLock

open Effects

/-! ## The specification of a status -/

/-- A hardware call did what it was asked: `ESP_OK`, an installed driver, or all bytes taken. -/
def HwEvent.Succeeded : HwEvent → Prop
  | ⟨.uartParamConfig .., r⟩ => r = espOk
  | ⟨.uartSetPin .., r⟩ => r = espOk
  | ⟨.uartDriverInstall .., r⟩ => r = espOk
  | ⟨.uartIsDriverInstalled _, r⟩ => r = true
  | ⟨.uartWriteBytes _ _ size, r⟩ => r.val = size
  | ⟨.vTaskDelay _, _⟩ => True
  | ⟨.nvsFlashInit, r⟩ => r = espOk
  | ⟨.espZbPlatformConfig _, r⟩ => r = espOk

/-- A hardware call that a function needs: a configuration call of some kind, or the write of a
frame. -/
inductive Need
  | paramConfig
  | setPin
  | driverInstall
  | write (frame : List UInt8) (size : ℕ)

/-- The call that meets a need. -/
def Need.MetBy : Need → HwOp → Prop
  | .paramConfig, .uartParamConfig .. => True
  | .setPin, .uartSetPin .. => True
  | .driverInstall, .uartDriverInstall .. => True
  | .write frame size, .uartWriteBytes _ src n => src = frame ∧ n = size
  | _, _ => False

/-- A call of one of the functions of the driver stack, with its arguments. -/
inductive DriverCall
  | uartInit (uartPort : UartPort) (uartConfig : UartConfig) (rxPin txPin ctsPin rtsPin : UInt8)
      (rxBufferSize txBufferSize : ℤ) (queueSize : UInt8) (uartQueue : QueueHandlePtr)
      (flagAllocateInterrupt : UInt8)
  | uartSendData (data : List UInt8) (length : ℕ)
  | lockInit (rxPin txPin : UInt8)
  | lockSetKey
  | lockOpen
  | lockTurnOffAutomaticLatch

namespace DriverCall

/-- The function called. -/
def program : DriverCall → Hw EspErr
  | .uartInit uartPort uartConfig rxPin txPin ctsPin rtsPin rxBufferSize txBufferSize queueSize
      uartQueue flagAllocateInterrupt =>
      UartDriver.init uartPort uartConfig rxPin txPin ctsPin rtsPin rxBufferSize txBufferSize
        queueSize uartQueue flagAllocateInterrupt
  | .uartSendData data length => UartDriver.sendData data length
  | .lockInit rxPin txPin => Lock.init rxPin txPin
  | .lockSetKey => Lock.setKey
  | .lockOpen => Lock.open
  | .lockTurnOffAutomaticLatch => Lock.turnOffAutomaticLatch

/-- The hardware calls the function needs. -/
def needs : DriverCall → List Need
  | .uartInit .. => [.paramConfig, .setPin, .driverInstall]
  | .uartSendData data length => [.write data length]
  | .lockInit _ _ => [.paramConfig, .setPin, .driverInstall]
  | .lockSetKey => [.write setKeyFrame 50]
  | .lockOpen => [.write openFrame 40]
  | .lockTurnOffAutomaticLatch => [.write wakeupFrame 16, .write disableLatchFrame 7]

end DriverCall

/-- Every needed call occurs in the trace, and every call in the trace succeeded. -/
def DidEverything (needs : List Need) (tr : List HwEvent) : Prop :=
  (∀ need ∈ needs, ∃ e ∈ tr, need.MetBy e.1) ∧ ∀ e ∈ tr, e.Succeeded

/-- The status of `call` on the board `b` is `ESP_OK` exactly when everything was done. -/
def ReportsExactly (call : DriverCall) (b : Board) : Prop :=
  call.program.result b.answers = espOk ↔
    DidEverything call.needs (call.program.trace b.answers)

/-! ## The failures that are masked -/

/-- A write that the board answers at call `n` is not cut short. -/
def Board.NoShortWrite (b : Board) (n size : ℕ) : Prop :=
  0 ≤ (b.written n size).val → (b.written n size).val = size

/-- A successful installation comes after a successful configuration. -/
def Board.NoMaskedConfig (b : Board) : Prop :=
  b.err 2 = espOk → b.err 0 = espOk ∧ b.err 1 = espOk

/-- The behaviours of the hardware on which `call` masks no failure. -/
def DriverCall.NothingMasked (b : Board) : DriverCall → Prop
  | .uartInit .. => b.NoMaskedConfig
  | .uartSendData _ length => b.installed 0 = true → b.NoShortWrite 1 length
  | .lockInit rxPin txPin => rxPin = 0 ∨ txPin = 0 ∨ b.NoMaskedConfig
  | .lockSetKey => b.installed 0 = true → b.NoShortWrite 1 50
  | .lockOpen => b.installed 0 = true → b.NoShortWrite 1 40
  | .lockTurnOffAutomaticLatch =>
      -- the second send starts at call 3 behind a write of the first, else at call 2
      let second := if b.installed 0 then 3 else 2
      b.installed second = true → 0 ≤ (b.written (second + 1) 7).val →
        (b.installed 0 = true ∧ (b.written 1 16).val = 16) ∧ (b.written (second + 1) 7).val = 7

/-! ## Sends -/

section Send

variable (a : Answers HwRet) (data : List UInt8) (length : ℕ)

/-- The board took the whole payload of a `sendData` that starts now. -/
def SentWhole : Prop :=
  a 0 (.uartIsDriverInstalled espDefaultUartPort) = true ∧
    (a 1 (.uartWriteBytes espDefaultUartPort data length)).val = length

/-- `sendData` reports success on every count that is not negative. -/
theorem result_sendData_eq_espOk :
    (UartDriver.sendData data length).result a = espOk ↔
      a 0 (.uartIsDriverInstalled espDefaultUartPort) = true ∧
        0 ≤ (a 1 (.uartWriteBytes espDefaultUartPort data length)).val := by
  rw [UartDriver.result_sendData]
  split
  · next h => exact iff_of_true rfl h
  · next h => exact iff_of_false (by decide) h

/-- All calls of a `sendData` succeed exactly when the whole payload was taken. -/
theorem succeeded_sendData :
    (∀ e ∈ (UartDriver.sendData data length).trace a, HwEvent.Succeeded e) ↔
      SentWhole a data length := by
  rw [UartDriver.trace_sendData, SentWhole]
  by_cases hinst : a 0 (.uartIsDriverInstalled espDefaultUartPort) = true
  · rw [if_pos hinst, List.forall_mem_cons, List.forall_mem_singleton]
    rfl
  · rw [if_neg hinst, List.forall_mem_cons]
    exact iff_of_false (fun h => hinst h.1) (fun h => hinst h.1)

/-- A `sendData` whose payload was taken made the write it needs. -/
theorem write_mem_of_sentWhole (h : SentWhole a data length) :
    ∃ e ∈ (UartDriver.sendData data length).trace a, (Need.write data length).MetBy e.1 := by
  rw [UartDriver.trace_sendData, if_pos h.1]
  exact ⟨_, List.mem_cons_of_mem _ List.mem_cons_self, rfl, rfl⟩

/-- A `sendData` did everything exactly when the whole payload was taken. -/
theorem didEverything_sendData :
    DidEverything [.write data length] ((UartDriver.sendData data length).trace a) ↔
      SentWhole a data length := by
  rw [DidEverything, succeeded_sendData, List.forall_mem_singleton]
  exact and_iff_right_of_imp (write_mem_of_sentWhole a data length)

end Send

/-- The status of a `sendData` is exact unless the write is cut short. -/
theorem sendData_reportsExactly (b : Board) (data : List UInt8) (length : ℕ) :
    ((UartDriver.sendData data length).result b.answers = espOk ↔
        DidEverything [.write data length] ((UartDriver.sendData data length).trace b.answers)) ↔
      (b.installed 0 = true → b.NoShortWrite 1 length) := by
  rw [result_sendData_eq_espOk, didEverything_sendData, SentWhole]
  simp only [Board.answers, Board.NoShortWrite]
  constructor
  · intro h hinst hpos
    exact (h.mp ⟨hinst, hpos⟩).2
  · intro h
    constructor
    · rintro ⟨hinst, hpos⟩
      exact ⟨hinst, h hinst hpos⟩
    · rintro ⟨hinst, hall⟩
      exact ⟨hinst, by omega⟩

/-! ## Configurations -/

/-- The three configuration calls did everything exactly when all of them answered `ESP_OK`. -/
theorem didEverything_config {p c tx rx rts cts rxSize txSize q queue flags} (e₀ e₁ e₂ : EspErr) :
    DidEverything [.paramConfig, .setPin, .driverInstall]
        [⟨.uartParamConfig p c, e₀⟩, ⟨.uartSetPin p tx rx rts cts, e₁⟩,
          ⟨.uartDriverInstall p rxSize txSize q queue flags, e₂⟩] ↔
      e₀ = espOk ∧ e₁ = espOk ∧ e₂ = espOk := by
  simp [DidEverything, Need.MetBy, HwEvent.Succeeded]

/-- A status taken from the last of the three configuration calls is exact unless an error before a
successful installation is masked. -/
theorem config_reportsExactly (b : Board) :
    (b.err 2 = espOk ↔ b.err 0 = espOk ∧ b.err 1 = espOk ∧ b.err 2 = espOk) ↔
      b.NoMaskedConfig := by
  rw [Board.NoMaskedConfig]
  constructor
  · intro h h₂
    exact ⟨(h.mp h₂).1, (h.mp h₂).2.1⟩
  · intro h
    constructor
    · intro h₂
      exact ⟨(h h₂).1, (h h₂).2, h₂⟩
    · rintro ⟨-, -, h₂⟩
      exact h₂

/-! ## Every function of the driver stack -/

/-- `UartDriver::init` reports exactly unless a configuration error is masked. -/
theorem uartInit_reportsExactly (b : Board) (uartPort : UartPort) (uartConfig : UartConfig)
    (rxPin txPin ctsPin rtsPin : UInt8) (rxBufferSize txBufferSize : ℤ) (queueSize : UInt8)
    (uartQueue : QueueHandlePtr) (flagAllocateInterrupt : UInt8) :
    ReportsExactly (.uartInit uartPort uartConfig rxPin txPin ctsPin rtsPin rxBufferSize
        txBufferSize queueSize uartQueue flagAllocateInterrupt) b ↔ b.NoMaskedConfig := by
  simp only [ReportsExactly, DriverCall.program, DriverCall.needs, UartDriver.result_init,
    UartDriver.trace_init, didEverything_config]
  exact config_reportsExactly b

/-- `Lock::init` reports exactly when it rejects a pin, and otherwise as `UartDriver::init` does. -/
theorem lockInit_reportsExactly (b : Board) (rxPin txPin : UInt8) :
    ReportsExactly (.lockInit rxPin txPin) b ↔ rxPin = 0 ∨ txPin = 0 ∨ b.NoMaskedConfig := by
  simp only [ReportsExactly, DriverCall.program, DriverCall.needs, result_lockInit, trace_lockInit,
    ← or_assoc]
  by_cases hpin : rxPin = 0 ∨ txPin = 0
  · rw [if_pos hpin, if_pos hpin]
    have hnothing : ¬ DidEverything [.paramConfig, .setPin, .driverInstall] [] := fun h => by
      obtain ⟨e, he, -⟩ := h.1 .paramConfig List.mem_cons_self
      exact List.not_mem_nil he
    exact iff_of_true (iff_of_false (by decide) hnothing) (Or.inl hpin)
  · rw [if_neg hpin, if_neg hpin, didEverything_config, or_iff_right hpin]
    exact config_reportsExactly b

/-- `Lock::turnOffAutomaticLatch` did everything exactly when both payloads were taken. -/
theorem didEverything_turnOffAutomaticLatch (a : Answers HwRet) :
    DidEverything (DriverCall.needs .lockTurnOffAutomaticLatch)
        (Lock.turnOffAutomaticLatch.trace a) ↔
      SentWhole a wakeupFrame 16 ∧
        SentWhole (a.after (((UartDriver.sendData wakeupFrame 16).trace a).length + 1))
          disableLatchFrame 7 := by
  rw [trace_turnOffAutomaticLatch, DidEverything, List.forall_mem_append, List.forall_mem_cons,
    succeeded_sendData, succeeded_sendData]
  have hdelay : HwEvent.Succeeded ⟨.vTaskDelay 5, ()⟩ := trivial
  rw [and_iff_right hdelay]
  refine and_iff_right_of_imp fun ⟨hfirst, hsecond⟩ => ?_
  rw [DriverCall.needs, List.forall_mem_cons, List.forall_mem_singleton]
  obtain ⟨e, he, hmet⟩ := write_mem_of_sentWhole _ _ _ hfirst
  obtain ⟨e', he', hmet'⟩ := write_mem_of_sentWhole _ _ _ hsecond
  exact ⟨⟨e, List.mem_append_left _ he, hmet⟩,
    ⟨e', List.mem_append_right _ (List.mem_cons_of_mem _ he'), hmet'⟩⟩

/-- `Lock::turnOffAutomaticLatch` reports exactly unless its second send hides a failure. -/
theorem turnOffAutomaticLatch_reportsExactly (b : Board) :
    ReportsExactly .lockTurnOffAutomaticLatch b ↔
      DriverCall.NothingMasked b .lockTurnOffAutomaticLatch := by
  simp only [ReportsExactly, DriverCall.program, didEverything_turnOffAutomaticLatch,
    result_turnOffAutomaticLatch, result_sendData_eq_espOk, UartDriver.length_trace_sendData,
    DriverCall.NothingMasked, SentWhole, Answers.after_apply, Board.answers, Nat.zero_add]
  -- behind a write of the first send the second one starts at call 3, else at call 2
  by_cases hinst : b.installed 0 = true
  · simp only [hinst, if_true, true_and]
    constructor
    · rintro h hsecond hpos
      obtain ⟨hfirst, -, hall⟩ := h.mp ⟨hsecond, hpos⟩
      exact ⟨hfirst, hall⟩
    · intro h
      constructor
      · rintro ⟨hsecond, hpos⟩
        obtain ⟨hfirst, hall⟩ := h hsecond hpos
        exact ⟨hfirst, hsecond, hall⟩
      · rintro ⟨-, hsecond, hall⟩
        exact ⟨hsecond, by omega⟩
  · -- the first send has already failed, so no answer of the second can be right
    simp only [hinst, if_false, false_and, imp_false, iff_false, not_and, Bool.false_eq_true]

/-- **A status is exact exactly where no failure is masked.** For every function of the driver
stack, every argument and every behaviour of the hardware: the function returns `ESP_OK` exactly
when it made every call it needs and all its calls succeeded, if and only if the behaviour is not
one whose failure the function masks. -/
theorem reportsExactly_iff (call : DriverCall) (b : Board) :
    ReportsExactly call b ↔ call.NothingMasked b := by
  cases call with
  | uartInit uartPort uartConfig rxPin txPin ctsPin rtsPin rxBufferSize txBufferSize queueSize
      uartQueue flagAllocateInterrupt =>
      exact uartInit_reportsExactly b uartPort uartConfig rxPin txPin ctsPin rtsPin rxBufferSize
        txBufferSize queueSize uartQueue flagAllocateInterrupt
  | uartSendData data length => exact sendData_reportsExactly b data length
  | lockInit rxPin txPin => exact lockInit_reportsExactly b rxPin txPin
  | lockSetKey => exact sendData_reportsExactly b setKeyFrame 50
  | lockOpen => exact sendData_reportsExactly b openFrame 40
  | lockTurnOffAutomaticLatch => exact turnOffAutomaticLatch_reportsExactly b

/-- A `sendData` whose payload was taken reports success. -/
theorem result_sendData_of_sentWhole (a : Answers HwRet) {data : List UInt8} {length : ℕ}
    (h : SentWhole a data length) : (UartDriver.sendData data length).result a = espOk := by
  obtain ⟨hinst, hall⟩ := h
  exact (result_sendData_eq_espOk a data length).mpr ⟨hinst, by omega⟩

/-- **No false alarm**: a function of the driver stack that did everything returns `ESP_OK`. -/
theorem espOk_of_didEverything (call : DriverCall) (a : Answers HwRet)
    (h : DidEverything call.needs (call.program.trace a)) : call.program.result a = espOk := by
  cases call with
  | uartInit =>
      simp only [DriverCall.program, DriverCall.needs, UartDriver.trace_init, didEverything_config,
        UartDriver.result_init] at h ⊢
      exact h.2.2
  | uartSendData data length =>
      exact result_sendData_of_sentWhole a ((didEverything_sendData a data length).mp h)
  | lockInit rxPin txPin =>
      simp only [DriverCall.program, DriverCall.needs, trace_lockInit, result_lockInit] at h ⊢
      by_cases hpin : rxPin = 0 ∨ txPin = 0
      · rw [if_pos hpin] at h
        obtain ⟨e, he, -⟩ := h.1 .paramConfig List.mem_cons_self
        exact absurd he List.not_mem_nil
      · rw [if_neg hpin, didEverything_config] at h
        rw [if_neg hpin]
        exact h.2.2
  | lockSetKey => exact result_sendData_of_sentWhole a ((didEverything_sendData a _ _).mp h)
  | lockOpen => exact result_sendData_of_sentWhole a ((didEverything_sendData a _ _).mp h)
  | lockTurnOffAutomaticLatch =>
      rw [DriverCall.program, result_turnOffAutomaticLatch]
      exact result_sendData_of_sentWhole _ ((didEverything_turnOffAutomaticLatch a).mp h).2

/-- On an accepting board the two frames of the latch are reported as sent. -/
theorem espOk_of_didEverything_latch :
    DriverCall.lockTurnOffAutomaticLatch.program.result Board.accepting.answers = espOk :=
  espOk_of_didEverything .lockTurnOffAutomaticLatch Board.accepting.answers
    ((didEverything_turnOffAutomaticLatch _).mpr ⟨⟨rfl, rfl⟩, rfl, rfl⟩)

/-- The board takes 39 of the 40 bytes of the open frame. -/
def Board.shortWrite : Board :=
  { Board.accepting with written := fun _ size => ⟨min 39 size, Int.min_le_right _ _⟩ }

/-- `Lock::open` returns `ESP_OK` although the last byte of its frame was not taken. -/
theorem lockOpen_shortWrite : ¬ ReportsExactly .lockOpen Board.shortWrite := by
  intro h
  have hok : DriverCall.lockOpen.program.result Board.shortWrite.answers = espOk := rfl
  obtain ⟨-, hall⟩ := h.mp hok
  have hwrite := hall
    ⟨.uartWriteBytes espDefaultUartPort openFrame 40, Board.shortWrite.written 1 40⟩
    (List.mem_cons_of_mem _ List.mem_cons_self)
  have hshort : ¬ min (39 : ℤ) 40 = 40 := by decide
  exact hshort hwrite

end SmartLock
