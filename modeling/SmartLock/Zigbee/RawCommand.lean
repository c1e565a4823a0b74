import SmartLock.Zigbee.Handlers

/-! # Which commands open the lock

The raw command callback is meant to open the lock on the Door Lock command Unlock Door. It decides
by the cluster id of one overlay and the command id of another, and the first of these is not where
the cluster id of the header lies.

* **`openCount_callback`** — the callback opens the lock once on a buffer on which its test holds,
  and never on another.
* **`looksLikeUnlockDoor_lastBytes`, `looksLikeUnlockDoor_words`** — the test in terms of the header
  in the tail, under the two rules for the tail.
* **`opensExactlyOnUnlockDoor_iff`** — on which headers the callback meets its purpose, under
  each. -/

namespace SmartLock

open Effects Layout

/-! ## The callback on any buffer -/

/-- How often a program calls `Lock.open()`. -/
def openCount {α : Type} (a : Answers ZigbeeRet) (p : Zb α) : ℕ := (p.calls a).count .lockOpen

/-- The number of openings on a buffer. -/
theorem openCount_callback (a : Answers ZigbeeRet) (buf : ZbBuf) :
    openCount a (Zigbee.espZbZclRawCommandCallback buf)
      = if buf.LooksLikeUnlockDoor then 1 else 0 := by
  rw [openCount, calls_espZbZclRawCommandCallback]
  split
  · rfl
  · rfl

/-- The header of the Door Lock command Unlock Door: sent to the server, neither a profile-wide
command nor a manufacturer's own. -/
def ParsedHdr.IsUnlockDoor (h : ParsedHdr) : Prop :=
  h.clusterId = 0x0101 ∧ h.cmdId = 0x01 ∧ h.cmdDirection = 0 ∧ h.isCommonCommand = 0 ∧
    h.isManufSpecific = 0

instance (h : ParsedHdr) : Decidable h.IsUnlockDoor := inferInstanceAs (Decidable (_ ∧ _))

/-- On the buffer `buf`, which holds the header `h`, whatever the lock answers, the callback opens
the lock once if `h` is an Unlock Door command and never otherwise. -/
def OpensExactlyOnUnlockDoor (buf : ZbBuf) (h : ParsedHdr) : Prop :=
  ∀ a : Answers ZigbeeRet,
    (h.IsUnlockDoor → openCount a (Zigbee.espZbZclRawCommandCallback buf) = 1) ∧
    (¬ h.IsUnlockDoor → openCount a (Zigbee.espZbZclRawCommandCallback buf) = 0)

/-- The callback meets its purpose exactly where its test tells the Unlock Door commands. -/
theorem opensExactlyOnUnlockDoor_iff_test (buf : ZbBuf) (h : ParsedHdr) :
    OpensExactlyOnUnlockDoor buf h ↔ (buf.LooksLikeUnlockDoor ↔ h.IsUnlockDoor) := by
  simp only [OpensExactlyOnUnlockDoor, openCount_callback]
  by_cases hlooks : buf.LooksLikeUnlockDoor
  · by_cases hunlock : h.IsUnlockDoor
    · simp [hlooks, hunlock]
    · simp [hlooks, hunlock]
  · by_cases hunlock : h.IsUnlockDoor
    · simp [hlooks, hunlock]
    · simp [hlooks, hunlock]

/-! ## The test on a header -/

section Test

variable (pre : List UInt8) (h : ParsedHdr)

/-- Under any alignment, the command id is that of the header. -/
theorem asParsedHdr_cmdId_ofHdr {align : ℕ}
    (pad : Vector UInt8 (alignUp parsedHdr.sizeOf align - parsedHdr.sizeOf)) (halign : 0 < align) :
    (ZbBuf.ofHdr align pre h pad halign).asParsedHdr .cmdId = [1] ↔ h.cmdId = 1 := by
  rw [ZbBuf.asParsedHdr_ofHdr, show h.bytes .cmdId = [h.cmdId] from rfl, List.cons.injEq,
    and_iff_left rfl]

/-- If tails are the last bytes, the callback tests the command id and the direction. -/
theorem looksLikeUnlockDoor_lastBytes
    (pad : Vector UInt8 (alignUp parsedHdr.sizeOf 1 - parsedHdr.sizeOf)) :
    (ZbBuf.ofHdr 1 pre h pad).LooksLikeUnlockDoor ↔ h.cmdId = 1 ∧ h.cmdDirection = 1 := by
  rw [ZbBuf.looksLikeUnlockDoor_iff, ZbBuf.asAttrAddrInfo_clusterId_lastBytes,
    asParsedHdr_cmdId_ofHdr]
  simp only [List.cons.injEq, and_true]
  -- the command id is already the low byte of the cluster id
  exact and_iff_left_of_imp And.left

/-- If tails take whole words, the callback tests the command id and the high byte of the profile
id. -/
theorem looksLikeUnlockDoor_words
    (pad : Vector UInt8 (alignUp parsedHdr.sizeOf zbBufAllocAlign - parsedHdr.sizeOf)) :
    (ZbBuf.ofHdr zbBufAllocAlign pre h pad).LooksLikeUnlockDoor ↔
      h.cmdId = 1 ∧ h.profileId.toNat / 256 = 1 := by
  have hlt := h.profileId.toNat_lt
  have hhigh : UInt8.ofNat (h.profileId.toNat / 256) = 1 ↔ h.profileId.toNat / 256 = 1 := by
    rw [← UInt8.toNat_inj, UInt8.toNat_ofNat']
    change h.profileId.toNat / 256 % 256 = 1 ↔ _
    rw [Nat.mod_eq_of_lt (by omega)]
  rw [ZbBuf.looksLikeUnlockDoor_iff, ZbBuf.asAttrAddrInfo_clusterId_words,
    asParsedHdr_cmdId_ofHdr]
  simp only [List.cons.injEq, and_true, hhigh]
  -- the command id is already the high byte of the cluster id
  constructor
  · rintro ⟨⟨hprofile, -⟩, hcmd⟩
    exact ⟨hcmd, hprofile⟩
  · rintro ⟨hcmd, hprofile⟩
    exact ⟨⟨hprofile, hcmd⟩, hcmd⟩

end Test

/-! ## Purpose -/

/-- **When the callback does what it is for.**

If tails are the last bytes of the buffer: exactly on the headers that are not an Unlock Door
command and do not have command id 1 and direction 1. It misses every Unlock Door command.

If tails take whole words: exactly on the Unlock Door commands of a profile `0x01xx`, and on the
headers that are not an Unlock Door command and do not have command id 1 and such a profile. -/
theorem opensExactlyOnUnlockDoor_iff (pre : List UInt8) (h : ParsedHdr) :
    (∀ pad, OpensExactlyOnUnlockDoor (.ofHdr 1 pre h pad) h ↔
      ¬ h.IsUnlockDoor ∧ ¬ (h.cmdId = 1 ∧ h.cmdDirection = 1)) ∧
    (∀ pad, OpensExactlyOnUnlockDoor (.ofHdr zbBufAllocAlign pre h pad) h ↔
      (h.IsUnlockDoor → h.profileId.toNat / 256 = 1) ∧
        (¬ h.IsUnlockDoor → ¬ (h.cmdId = 1 ∧ h.profileId.toNat / 256 = 1))) := by
  refine ⟨fun pad => ?_, fun pad => ?_⟩
  · rw [opensExactlyOnUnlockDoor_iff_test, looksLikeUnlockDoor_lastBytes]
    -- an Unlock Door command goes to the server, so it never has the direction the test asks for
    have hserver : h.IsUnlockDoor → ¬ h.cmdDirection = 1 := by
      rintro ⟨-, -, hdirection, -, -⟩
      rw [hdirection]
      decide
    by_cases hunlock : h.IsUnlockDoor
    · simp [hunlock, hserver hunlock]
    · simp [hunlock]
  · rw [opensExactlyOnUnlockDoor_iff_test, looksLikeUnlockDoor_words]
    by_cases hunlock : h.IsUnlockDoor
    · simp [hunlock, hunlock.2.1]
    · simp [hunlock]

/-- A Read Attributes Response of the On/Off cluster, sent by the device `0x1234` to the lock's
endpoint. -/
def readAttributesResponseHdr : ParsedHdr where
  addrData :=
    { source := { addrType := 0, u := #v[0x34, 0x12, 0, 0, 0, 0, 0, 0] }
      dstAddr := 0x0001
      srcEndpoint := 1
      dstEndpoint := 1
      fc := 0x40 }
  rssi := -40
  clusterId := 0x0006
  profileId := 0x0104
  cmdId := 0x01
  cmdDirection := 1
  seqNumber := 7
  isCommonCommand := 1
  disableDefaultResponse := 1
  isManufSpecific := 0
  manufSpecific := 0xFFFF

/-- The lock opens on it, under both rules. -/
theorem readAttributesResponse_opens :
    ¬ OpensExactlyOnUnlockDoor (.ofHdr 1 [] readAttributesResponseHdr (.replicate _ 0))
        readAttributesResponseHdr ∧
      ¬ OpensExactlyOnUnlockDoor
        (.ofHdr zbBufAllocAlign [] readAttributesResponseHdr (.replicate _ 0))
        readAttributesResponseHdr := by
  have hother : ¬ readAttributesResponseHdr.IsUnlockDoor := by decide
  constructor
  · rw [opensExactlyOnUnlockDoor_iff_test, looksLikeUnlockDoor_lastBytes]
    exact fun htest => hother (htest.mp ⟨rfl, rfl⟩)
  · rw [opensExactlyOnUnlockDoor_iff_test, looksLikeUnlockDoor_words]
    exact fun htest => hother (htest.mp ⟨rfl, by decide⟩)

end SmartLock
