import SmartLock.Effects.Precedence
import SmartLock.Zigbee.Firmware

/-! # The key before the opening

The lock is to see its key before any part of an open frame. The key is sent by `Zigbee::init` and
by the On/Off path, which is dead; the raw command path sends the open frame alone, and no status of
`Lock::setKey` is kept.

* **`exists_takesWhole_init`** — start-up delivers the key exactly when the driver is installed at
  its second lock call and the UART takes all 50 bytes.
* **`keyBeforeOpen_iff`** — over all runs from power-on: the order is kept exactly when start-up
  aborts, start-up delivers the key, or no open frame is touched at all. -/

namespace SmartLock

open Effects

/-! ## The property -/

/-- Over the run from power-on, no byte of an open frame is taken before a whole key frame. -/
def KeyBeforeOpen (b₀ : Board) (steps : List (ZigbeeCall × Board)) : Prop :=
  Precedes (HwEvent.TakesWhole setKeyFrame) (HwEvent.TakesSome openFrame) (firmwareTrace b₀ steps)

/-- The board takes the key that start-up sends: `Lock::init` has made three calls before. -/
def Board.TakesKey (b : Board) : Prop := b.installed 3 = true ∧ (b.written 4 50).val = 50

/-- The board takes a byte of an open frame sent first thing. -/
def Board.TakesOpen (b : Board) : Prop := b.installed 0 = true ∧ 0 < (b.written 1 40).val

/-! ## Start-up -/

/-- After the key, start-up neither sends it again nor opens the lock. -/
theorem frame_not_mem_initAfterKey {frame : List UInt8}
    (hframe : frame = setKeyFrame ∨ frame = openFrame) :
    ∀ op, Zigbee.initAfterKey.MayCall op → frame ∉ op.frames := by
  have hlatch : frame ∉ ZigbeeOp.frames .lockTurnOffAutomaticLatch := by
    rcases hframe with rfl | rfl
    · decide
    · decide
  intro op hop
  rcases mayCall_initAfterKey hop with rfl | rfl | ⟨config, rfl⟩
  · exact hlatch
  · exact List.not_mem_nil
  · exact List.not_mem_nil

/-- Of the key frame and the open frame, start-up writes the first only, and only to send the
key. -/
theorem mem_setKey_of_writes_init (a : Answers HwRet) {frame : List UInt8}
    (hframe : frame = setKeyFrame ∨ frame = openFrame) {e : HwEvent}
    (he : e ∈ Zigbee.init.onHardware.trace a) (hw : HwEvent.Writes frame e) :
    e ∈ Lock.setKey.trace (a.after 3) := by
  rw [trace_init_onHardware, List.mem_append, List.mem_append] at he
  rcases he with he | he | he
  · have hmem := mem_frames_of_writes a (.lockInit uartRxPin uartTxPin) he hw
    exact absurd hmem List.not_mem_nil
  · exact he
  · exact absurd hw (not_writes_onHardware _ _ (frame_not_mem_initAfterKey hframe) e he)

/-- **Start-up delivers the key** exactly when the driver is installed by then and the UART takes
all 50 bytes. -/
theorem exists_takesWhole_init (b : Board) :
    (∃ e ∈ Zigbee.init.onHardware.trace b.answers, HwEvent.TakesWhole setKeyFrame e) ↔
      b.TakesKey := by
  have hsend := exists_takesWhole_sendData (b.answers.after 3) (by decide : setKeyFrame ≠ [])
  constructor
  · rintro ⟨e, he, htakes⟩
    have hkey := mem_setKey_of_writes_init _ (Or.inl rfl) he htakes.1
    exact hsend.mp ⟨e, hkey, htakes⟩
  · intro htakes
    obtain ⟨e, he, hwhole⟩ := hsend.mpr htakes
    refine ⟨e, ?_, hwhole⟩
    rw [trace_init_onHardware]
    exact List.mem_append_right _ (List.mem_append_left _ he)

/-- Start-up does not touch an open frame. -/
theorem not_takesSome_init (a : Answers HwRet) :
    ∀ e ∈ Zigbee.init.onHardware.trace a, ¬ HwEvent.TakesSome openFrame e := by
  intro e he htouched
  have hkey := mem_setKey_of_writes_init _ (Or.inr rfl) he htouched.1
  have hsame : openFrame = setKeyFrame := eq_of_writes_sendData _ hkey htouched.1
  exact absurd hsame (by decide)

/-! ## Entries -/

/-- An entry touches an open frame exactly when it opens the lock and the board takes a byte. -/
theorem exists_takesSome_events (call : ZigbeeCall) (b : Board) :
    (∃ e ∈ call.events b, HwEvent.TakesSome openFrame e) ↔ call.OpensLock ∧ b.TakesOpen := by
  have hsend := exists_takesSome_sendData b.answers (by decide : openFrame ≠ [])
  cases call with
  | actionHandler callbackId message =>
      rw [events_actionHandler]
      exact iff_of_false (by simp) (fun h => h.1)
  | rawCommand buf =>
      rw [events_rawCommand]
      by_cases hlooks : buf.LooksLikeUnlockDoor
      · rw [if_pos hlooks]
        exact hsend.trans (and_iff_right hlooks).symm
      · rw [if_neg hlooks]
        exact iff_of_false (by simp) (fun h => hlooks h.1)

/-- No entry sends the key. -/
theorem not_takesWhole_events (call : ZigbeeCall) (b : Board) :
    ∀ e ∈ call.events b, ¬ HwEvent.TakesWhole setKeyFrame e := by
  intro e he htakes
  cases call with
  | actionHandler callbackId message =>
      rw [events_actionHandler] at he
      exact absurd he List.not_mem_nil
  | rawCommand buf =>
      rw [events_rawCommand] at he
      split at he
      · have hsame : setKeyFrame = openFrame := eq_of_writes_sendData _ he htakes.1
        exact absurd hsame (by decide)
      · exact absurd he List.not_mem_nil

/-- Over a sequence of entries, the order holds exactly when no entry touches an open frame. -/
theorem precedes_entries_iff (steps : List (ZigbeeCall × Board)) :
    Precedes (HwEvent.TakesWhole setKeyFrame) (HwEvent.TakesSome openFrame)
        (steps.flatMap fun step => step.1.events step.2) ↔
      ∀ step ∈ steps, step.1.OpensLock → ¬ step.2.TakesOpen := by
  have hkeyless : ∀ e ∈ steps.flatMap fun step => step.1.events step.2,
      ¬ HwEvent.TakesWhole setKeyFrame e := by
    intro e he
    obtain ⟨step, -, he⟩ := List.mem_flatMap.mp he
    exact not_takesWhole_events step.1 step.2 e he
  rw [precedes_iff_of_forall_not hkeyless]
  constructor
  · intro h step hstep hopens htakes
    obtain ⟨e, he, htouched⟩ := (exists_takesSome_events step.1 step.2).mpr ⟨hopens, htakes⟩
    exact h e (List.mem_flatMap.mpr ⟨step, hstep, he⟩) htouched
  · intro h e he htouched
    obtain ⟨step, hstep, he⟩ := List.mem_flatMap.mp he
    obtain ⟨hopens, htakes⟩ := (exists_takesSome_events step.1 step.2).mp ⟨e, he, htouched⟩
    exact h step hstep hopens htakes

/-! ## Whole runs -/

/-- **When the key comes first.** For every run from power-on and every behaviour of the hardware:
exactly when start-up aborts, or start-up delivers the key, or no raw command on which the
callback's test holds meets a board that takes a byte of the open frame. -/
theorem keyBeforeOpen_iff (b₀ : Board) (steps : List (ZigbeeCall × Board)) :
    KeyBeforeOpen b₀ steps ↔
      b₀.nvsFlashInit ≠ espOk ∨ b₀.espZbPlatformConfig ≠ espOk ∨ b₀.TakesKey ∨
        ∀ step ∈ steps, step.1.OpensLock → ¬ step.2.TakesOpen := by
  -- start-up touches no open frame, so what is left is the key of start-up or the entries alone
  have hquiet := precedes_of_forall_not (P := HwEvent.TakesWhole setKeyFrame)
    (not_takesSome_init b₀.answers)
  rw [KeyBeforeOpen, firmwareTrace, precedes_append, and_iff_right hquiet, exists_takesWhole_init]
  by_cases hok : b₀.nvsFlashInit = espOk ∧ b₀.espZbPlatformConfig = espOk
  · obtain ⟨hnvs, hplatform⟩ := hok
    rw [(result_init_onHardware b₀).mpr ⟨hnvs, hplatform⟩, precedes_entries_iff]
    simp only [hnvs, hplatform, ne_eq, not_true_eq_false, false_or]
  · have haborted : Zigbee.init.onHardware.result b₀.answers = .aborted := by
      cases hres : Zigbee.init.onHardware.result b₀.answers with
      | completed => exact absurd ((result_init_onHardware b₀).mp hres) hok
      | aborted => rfl
    rw [haborted]
    refine iff_of_true (Or.inr precedes_nil) ?_
    rcases not_and_or.mp hok with hnvs | hplatform
    · exact Or.inl hnvs
    · exact Or.inr (Or.inl hplatform)

/-- A board that loses every byte of the key but is fine otherwise. -/
def Board.losesKey : Board :=
  { Board.accepting with
    written := fun n size =>
      if n = 4 then ⟨0, Int.natCast_nonneg size⟩ else Board.accepting.written n size }

/-- After a lost key, a Read Attributes Response opens the lock all the same, under both rules for
the tail. -/
theorem open_without_key :
    ¬ KeyBeforeOpen Board.losesKey
        [(.rawCommand (.ofHdr 1 [] readAttributesResponseHdr (.replicate _ 0)),
          Board.accepting)] ∧
      ¬ KeyBeforeOpen Board.losesKey
        [(.rawCommand (.ofHdr zbBufAllocAlign [] readAttributesResponseHdr (.replicate _ 0)),
          Board.accepting)] := by
  have hlost (buf : ZbBuf) (hlooks : buf.LooksLikeUnlockDoor) :
      ¬ KeyBeforeOpen Board.losesKey [(.rawCommand buf, Board.accepting)] := by
    intro h
    rw [KeyBeforeOpen, firmwareTrace, precedes_append, exists_takesWhole_init,
      (result_init_onHardware Board.losesKey).mpr ⟨rfl, rfl⟩] at h
    rcases h.2 with hkey | hentries
    · have hnone : ¬ (Board.losesKey.written 4 50).val = 50 := by decide
      exact hnone hkey.2
    · have hquiet := (precedes_entries_iff _).mp hentries _ List.mem_cons_self
      have htakes : Board.accepting.TakesOpen := ⟨rfl, by decide⟩
      exact hquiet hlooks htakes
  refine ⟨hlost _ ?_, hlost _ ?_⟩
  · exact (looksLikeUnlockDoor_lastBytes _ _ _).mpr ⟨rfl, rfl⟩
  · exact (looksLikeUnlockDoor_words _ _ _).mpr ⟨rfl, by decide⟩

end SmartLock
