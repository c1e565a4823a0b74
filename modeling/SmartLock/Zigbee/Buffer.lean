import SmartLock.Layout.CStruct

/-! # ZBOSS buffers and the structures laid over their tail

The stack hands a received command over in a buffer. `zb_buf_get_tail(buf, n)` points at a place
with `n` bytes behind it, the *tail*, which hold a `zb_zcl_parsed_hdr_t`, and the code casts that
pointer to whichever structure it likes. The function is part of the closed library, so where it
points is left open: `ZbBuf.getTail` is any place that has the bytes asked for behind it. Two rules
are looked at by name: under `tailStart 1` the tail is the last `n` bytes of the buffer, and under
`tailStart zbBufAllocAlign` their number is rounded up to whole words first, which is how the
headers of the library describe it.

* **`parsedHdr`, `attrAddrInfo`** — the two declarations: the first packed (27 bytes), the second
  with natural alignment and one padding byte (14 bytes).
* **`ParsedHdr.image`, `ParsedHdr.ofBytes`** — the bytes of a header, and the header of some bytes.
* **`ZbBuf`** — a buffer with its tails, and what the two casts read from it.
* **`parsedHdr_round_trip`** — headers are the same thing as strings of 27 bytes, and the cast to
  `zb_zcl_parsed_hdr_t` reads the header of the tail, wherever the tail is.
* **`ZbBuf.ofHdr`** — the buffer that holds a header in its tail, under the rule of an alignment.
* **`asAttrAddrInfo_ofHdr_clusterId`** — the overlay: `cluster_id` of a `zb_zcl_attr_addr_info_t` is
  not the cluster id of the header, but the two bytes that the alignment puts there. -/

namespace SmartLock

open Layout

/-! ## Declarations -/

/-- The fields of `zb_zcl_addr_t`. -/
inductive ZclAddrField
  | addrType | u
  deriving DecidableEq

/-- `zb_zcl_addr_t`: packed; `u` is a union of a `zb_uint16_t`, a `zb_uint32_t` and a
`zb_ieee_addr_t`. -/
def zclAddr : Struct ZclAddrField where
  packed := true
  fields := [⟨.addrType, 1, 1, by decide⟩, ⟨.u, max 2 (max 4 8), 4, by decide⟩]

/-- The fields of `zb_zcl_parsed_hdr_t.addr_data.common_data`. -/
inductive CommonDataField
  | source | dstAddr | srcEndpoint | dstEndpoint | fc
  deriving DecidableEq

/-- `zb_zcl_parsed_hdr_t.addr_data.common_data`: packed. -/
def commonData : Struct CommonDataField where
  packed := true
  fields := [⟨.source, zclAddr.sizeOf, zclAddr.align, zclAddr.align_pos⟩,
    ⟨.dstAddr, 2, 2, by decide⟩, ⟨.srcEndpoint, 1, 1, by decide⟩,
    ⟨.dstEndpoint, 1, 1, by decide⟩, ⟨.fc, 1, 1, by decide⟩]

/-- The fields of `zb_zcl_parsed_hdr_t`. -/
inductive ParsedHdrField
  | addrData | rssi | clusterId | profileId | cmdId | cmdDirection | seqNumber | isCommonCommand
  | disableDefaultResponse | isManufSpecific | manufSpecific
  deriving DecidableEq

/-- `zb_zcl_parsed_hdr_t`: packed; `addr_data` is a union of `common_data` and of an eight-byte
`intrp_data`. -/
def parsedHdr : Struct ParsedHdrField where
  packed := true
  fields := [⟨.addrData, max commonData.sizeOf 8, commonData.align, commonData.align_pos⟩,
    ⟨.rssi, 1, 1, by decide⟩, ⟨.clusterId, 2, 2, by decide⟩, ⟨.profileId, 2, 2, by decide⟩,
    ⟨.cmdId, 1, 1, by decide⟩, ⟨.cmdDirection, 1, 1, by decide⟩, ⟨.seqNumber, 1, 1, by decide⟩,
    ⟨.isCommonCommand, 1, 1, by decide⟩, ⟨.disableDefaultResponse, 1, 1, by decide⟩,
    ⟨.isManufSpecific, 1, 1, by decide⟩, ⟨.manufSpecific, 2, 2, by decide⟩]

/-- The fields of `zb_zcl_attr_addr_info_t`. -/
inductive AttrAddrInfoField
  | srcEp | dstEp | dstShortAddr | profileId | clusterId | clusterRole | attrId | manufCode
  deriving DecidableEq

/-- `zb_zcl_attr_addr_info_t`: not packed. -/
def attrAddrInfo : Struct AttrAddrInfoField where
  packed := false
  fields := [⟨.srcEp, 1, 1, by decide⟩, ⟨.dstEp, 1, 1, by decide⟩,
    ⟨.dstShortAddr, 2, 2, by decide⟩, ⟨.profileId, 2, 2, by decide⟩,
    ⟨.clusterId, 2, 2, by decide⟩, ⟨.clusterRole, 1, 1, by decide⟩, ⟨.attrId, 2, 2, by decide⟩,
    ⟨.manufCode, 2, 2, by decide⟩]

/-! ## Header values -/

/-- A `zb_zcl_addr_t`; `u` holds the eight bytes of the union. -/
@[ext] structure ZclAddr where
  addrType : UInt8
  u : Vector UInt8 8

/-- A `common_data`. -/
@[ext] structure CommonData where
  source : ZclAddr
  dstAddr : UInt16
  srcEndpoint : UInt8
  dstEndpoint : UInt8
  fc : UInt8

/-- A `zb_zcl_parsed_hdr_t`; the `common_data` member covers all bytes of the `addr_data` union. -/
@[ext] structure ParsedHdr where
  addrData : CommonData
  rssi : Int8
  clusterId : UInt16
  profileId : UInt16
  cmdId : UInt8
  cmdDirection : UInt8
  seqNumber : UInt8
  isCommonCommand : UInt8
  disableDefaultResponse : UInt8
  isManufSpecific : UInt8
  manufSpecific : UInt16

/-- The bytes of a `zb_uint16_t`. -/
def uint16Bytes (n : UInt16) : List UInt8 := toLittleEndian 2 n.toNat

/-- The bytes of every field of a `zb_zcl_addr_t`. -/
def ZclAddr.bytes (addr : ZclAddr) : ZclAddrField → List UInt8
  | .addrType => [addr.addrType]
  | .u => addr.u.toList

/-- The bytes of every field of a `common_data`. -/
def CommonData.bytes (data : CommonData) : CommonDataField → List UInt8
  | .source => zclAddr.image 0 data.source.bytes
  | .dstAddr => uint16Bytes data.dstAddr
  | .srcEndpoint => [data.srcEndpoint]
  | .dstEndpoint => [data.dstEndpoint]
  | .fc => [data.fc]

/-- The bytes of every field of a `zb_zcl_parsed_hdr_t`. -/
def ParsedHdr.bytes (h : ParsedHdr) : ParsedHdrField → List UInt8
  | .addrData => commonData.image 0 h.addrData.bytes
  | .rssi => [h.rssi.toUInt8]
  | .clusterId => uint16Bytes h.clusterId
  | .profileId => uint16Bytes h.profileId
  | .cmdId => [h.cmdId]
  | .cmdDirection => [h.cmdDirection]
  | .seqNumber => [h.seqNumber]
  | .isCommonCommand => [h.isCommonCommand]
  | .disableDefaultResponse => [h.disableDefaultResponse]
  | .isManufSpecific => [h.isManufSpecific]
  | .manufSpecific => uint16Bytes h.manufSpecific

/-- The byte image of a header. No byte of it is padding. -/
def ParsedHdr.image (h : ParsedHdr) : List UInt8 := parsedHdr.image 0 h.bytes

/-- The bytes of an address have the declared sizes. -/
theorem ZclAddr.length_bytes (addr : ZclAddr) :
    ∀ f ∈ zclAddr.fields, (addr.bytes f.name).length = f.size := by
  simp [zclAddr, ZclAddr.bytes]

/-- The bytes of the common data have the declared sizes. -/
theorem CommonData.length_bytes (data : CommonData) :
    ∀ f ∈ commonData.fields, (data.bytes f.name).length = f.size := by
  have hsource : (zclAddr.image 0 data.source.bytes).length = zclAddr.sizeOf :=
    Struct.length_image data.source.length_bytes
  simp [commonData, CommonData.bytes, uint16Bytes, hsource]

/-- The bytes of a header have the declared sizes. -/
theorem ParsedHdr.length_bytes (h : ParsedHdr) :
    ∀ f ∈ parsedHdr.fields, (h.bytes f.name).length = f.size := by
  have haddr : (commonData.image 0 h.addrData.bytes).length = max commonData.sizeOf 8 :=
    Struct.length_image h.addrData.length_bytes
  simp [parsedHdr, ParsedHdr.bytes, uint16Bytes, haddr]

/-- **A header takes the 27 bytes of its declaration.** -/
theorem ParsedHdr.length_image (h : ParsedHdr) : h.image.length = parsedHdr.sizeOf :=
  Struct.length_image h.length_bytes

example : parsedHdr.sizeOf = 27 ∧ attrAddrInfo.sizeOf = 14 := by decide

/-! ## Every tail is a header -/

/-- Two bytes are the bytes of their value. -/
theorem uint16Bytes_ofNat (b₀ b₁ : UInt8) :
    uint16Bytes (UInt16.ofNat (littleEndian [b₀, b₁])) = [b₀, b₁] := by
  have hlt : littleEndian [b₀, b₁] < UInt16.size := by
    have hbytes := littleEndian_lt [b₀, b₁]
    simpa using hbytes
  rw [uint16Bytes, UInt16.toNat_ofNat_of_lt' hlt]
  exact toLittleEndian_littleEndian [b₀, b₁]

/-- The bytes of a header in order: every structure in it is packed, so its fields follow each other
without a gap. -/
theorem ParsedHdr.image_eq (h : ParsedHdr) :
    h.image
      = h.addrData.source.addrType :: h.addrData.source.u.toList ++ uint16Bytes h.addrData.dstAddr
        ++ [h.addrData.srcEndpoint, h.addrData.dstEndpoint, h.addrData.fc, h.rssi.toUInt8]
        ++ uint16Bytes h.clusterId ++ uint16Bytes h.profileId
        ++ [h.cmdId, h.cmdDirection, h.seqNumber, h.isCommonCommand, h.disableDefaultResponse,
          h.isManufSpecific]
        ++ uint16Bytes h.manufSpecific := by
  simp [ParsedHdr.image, ParsedHdr.bytes, CommonData.bytes, ZclAddr.bytes, parsedHdr, commonData,
    zclAddr, Struct.image, Struct.imageFrom, Struct.alignIn, Struct.sizeOf, Struct.endFrom,
    Struct.align, alignUp]

/-- Any 27 bytes are the image of a header. -/
theorem ParsedHdr.exists_image_eq {l : List UInt8} (hlen : l.length = parsedHdr.sizeOf) :
    ∃ h : ParsedHdr, h.image = l := by
  match l, hlen with
  | [b₀, b₁, b₂, b₃, b₄, b₅, b₆, b₇, b₈, b₉, b₁₀, b₁₁, b₁₂, b₁₃, b₁₄, b₁₅, b₁₆, b₁₇, b₁₈, b₁₉, b₂₀,
      b₂₁, b₂₂, b₂₃, b₂₄, b₂₅, b₂₆], _ =>
      let h : ParsedHdr :=
        { addrData :=
            { source := { addrType := b₀, u := #v[b₁, b₂, b₃, b₄, b₅, b₆, b₇, b₈] }
              dstAddr := UInt16.ofNat (littleEndian [b₉, b₁₀])
              srcEndpoint := b₁₁
              dstEndpoint := b₁₂
              fc := b₁₃ }
          rssi := b₁₄.toInt8
          clusterId := UInt16.ofNat (littleEndian [b₁₅, b₁₆])
          profileId := UInt16.ofNat (littleEndian [b₁₇, b₁₈])
          cmdId := b₁₉
          cmdDirection := b₂₀
          seqNumber := b₂₁
          isCommonCommand := b₂₂
          disableDefaultResponse := b₂₃
          isManufSpecific := b₂₄
          manufSpecific := UInt16.ofNat (littleEndian [b₂₅, b₂₆]) }
      refine ⟨h, ?_⟩
      rw [ParsedHdr.image_eq]
      simp [h, uint16Bytes_ofNat]

/-! ## Headers of bytes -/

/-- The value of a `zb_uint8_t`. -/
def uint8OfBytes (l : List UInt8) : UInt8 := l.headD 0

/-- The value of a `zb_uint16_t`. -/
def uint16OfBytes (l : List UInt8) : UInt16 := UInt16.ofNat (littleEndian l)

/-- The value of a `zb_zcl_addr_t`. -/
def ZclAddr.ofBytes (l : List UInt8) : ZclAddr where
  addrType := uint8OfBytes (zclAddr.load l .addrType)
  u := Vector.ofFn fun i => (zclAddr.load l .u).getD i 0

/-- The value of a `common_data`. -/
def CommonData.ofBytes (l : List UInt8) : CommonData where
  source := .ofBytes (commonData.load l .source)
  dstAddr := uint16OfBytes (commonData.load l .dstAddr)
  srcEndpoint := uint8OfBytes (commonData.load l .srcEndpoint)
  dstEndpoint := uint8OfBytes (commonData.load l .dstEndpoint)
  fc := uint8OfBytes (commonData.load l .fc)

/-- The value of a `zb_zcl_parsed_hdr_t`. -/
def ParsedHdr.ofBytes (l : List UInt8) : ParsedHdr where
  addrData := .ofBytes (parsedHdr.load l .addrData)
  rssi := (uint8OfBytes (parsedHdr.load l .rssi)).toInt8
  clusterId := uint16OfBytes (parsedHdr.load l .clusterId)
  profileId := uint16OfBytes (parsedHdr.load l .profileId)
  cmdId := uint8OfBytes (parsedHdr.load l .cmdId)
  cmdDirection := uint8OfBytes (parsedHdr.load l .cmdDirection)
  seqNumber := uint8OfBytes (parsedHdr.load l .seqNumber)
  isCommonCommand := uint8OfBytes (parsedHdr.load l .isCommonCommand)
  disableDefaultResponse := uint8OfBytes (parsedHdr.load l .disableDefaultResponse)
  isManufSpecific := uint8OfBytes (parsedHdr.load l .isManufSpecific)
  manufSpecific := uint16OfBytes (parsedHdr.load l .manufSpecific)

@[simp] theorem uint8OfBytes_singleton (b : UInt8) : uint8OfBytes [b] = b := rfl

@[simp] theorem uint16OfBytes_uint16Bytes (n : UInt16) : uint16OfBytes (uint16Bytes n) = n := by
  rw [uint16OfBytes, uint16Bytes, littleEndian_toLittleEndian n.toNat_lt]
  exact UInt16.ofNat_toNat

/-- An address is read back from its image. -/
@[simp] theorem ZclAddr.ofBytes_image (addr : ZclAddr) :
    ofBytes (zclAddr.image 0 addr.bytes) = addr := by
  have hload (k : ZclAddrField) : zclAddr.load (zclAddr.image 0 addr.bytes) k = addr.bytes k :=
    Struct.load_image addr.length_bytes (by decide) (by cases k <;> decide)
  refine ZclAddr.ext ?_ (Vector.ext fun i hi => ?_)
  · rw [ofBytes, hload, bytes, uint8OfBytes_singleton]
  · simp [ofBytes, hload, bytes]

/-- The common data are read back from their image. -/
@[simp] theorem CommonData.ofBytes_image (data : CommonData) :
    ofBytes (commonData.image 0 data.bytes) = data := by
  have hload (k : CommonDataField) :
      commonData.load (commonData.image 0 data.bytes) k = data.bytes k :=
    Struct.load_image data.length_bytes (by decide) (by cases k <;> decide)
  simp only [ofBytes, hload, bytes, ZclAddr.ofBytes_image, uint8OfBytes_singleton,
    uint16OfBytes_uint16Bytes]

/-- Every field of a header is read back from its image. -/
theorem ParsedHdr.load_image (h : ParsedHdr) (k : ParsedHdrField) :
    parsedHdr.load h.image k = h.bytes k :=
  Struct.load_image h.length_bytes (by decide) (by cases k <;> decide)

/-- A header is read back from its image. -/
theorem ParsedHdr.ofBytes_image (h : ParsedHdr) : ofBytes h.image = h := by
  simp only [ofBytes, load_image, bytes, CommonData.ofBytes_image, uint8OfBytes_singleton,
    uint16OfBytes_uint16Bytes, Int8.toInt8_toUInt8]

/-- Any 27 bytes are written back from the header read from them. -/
theorem ParsedHdr.image_ofBytes {l : List UInt8} (hlen : l.length = parsedHdr.sizeOf) :
    (ofBytes l).image = l := by
  obtain ⟨h, rfl⟩ := exists_image_eq hlen
  rw [ofBytes_image]

/-! ## Buffers -/

/-- A buffer as the code sees it. -/
structure ZbBuf where
  bytes : List UInt8
  /-- The place where `zb_buf_get_tail(buf, size)` points. -/
  getTail : ℕ → ℕ
  /-- The bytes of each of the two structures lie behind that place. -/
  tail_fits : ∀ size ∈ [parsedHdr.sizeOf, attrAddrInfo.sizeOf], getTail size + size ≤ bytes.length

namespace ZbBuf

/-- The bytes behind `zb_buf_get_tail(buf, size)`. -/
def tail (buf : ZbBuf) (size : ℕ) : List UInt8 := readAt buf.bytes (buf.getTail size) size

/-- `((zb_zcl_parsed_hdr_t *)zb_buf_get_tail(buf, sizeof(zb_zcl_parsed_hdr_t)))->k`, as bytes. -/
def asParsedHdr (buf : ZbBuf) (k : ParsedHdrField) : List UInt8 :=
  parsedHdr.load (buf.tail parsedHdr.sizeOf) k

/-- `((zb_zcl_attr_addr_info_t *)zb_buf_get_tail(buf, sizeof(zb_zcl_attr_addr_info_t)))->k`, as
bytes. -/
def asAttrAddrInfo (buf : ZbBuf) (k : AttrAddrInfoField) : List UInt8 :=
  attrAddrInfo.load (buf.tail attrAddrInfo.sizeOf) k

/-- A tail has the bytes asked for. -/
theorem length_tail (buf : ZbBuf) {size : ℕ}
    (hsize : size ∈ [parsedHdr.sizeOf, attrAddrInfo.sizeOf]) : (buf.tail size).length = size :=
  length_readAt (buf.tail_fits size hsize)

end ZbBuf

/-- **Round trip.** A header is read back from its 27 bytes, any 27 bytes are written back from the
header read from them, and through `zb_zcl_parsed_hdr_t` the code sees the fields of the header of
the tail, wherever `zb_buf_get_tail` puts it. -/
theorem parsedHdr_round_trip :
    (∀ h : ParsedHdr, ParsedHdr.ofBytes h.image = h) ∧
      (∀ l : Vector UInt8 parsedHdr.sizeOf, (ParsedHdr.ofBytes l.toList).image = l.toList) ∧
      ∀ (buf : ZbBuf) (k : ParsedHdrField),
        buf.asParsedHdr k = (ParsedHdr.ofBytes (buf.tail parsedHdr.sizeOf)).bytes k := by
  refine ⟨ParsedHdr.ofBytes_image, fun l => ParsedHdr.image_ofBytes l.length_toList, ?_⟩
  intro buf k
  have himage := ParsedHdr.image_ofBytes (buf.length_tail List.mem_cons_self)
  rw [← ParsedHdr.load_image, himage]
  rfl

/-! ## A header in the tail -/

/-- The start of the tail of `size` bytes in a buffer of `length` bytes, if tails are the last bytes
of the buffer and take a multiple of `align` bytes. -/
def tailStart (align length size : ℕ) : ℕ := length - alignUp size align

/-- `ZB_BUF_ALLOC_ALIGN`, the alignment of tails. -/
def zbBufAllocAlign : ℕ := 4

namespace ZbBuf

/-- The buffer that holds the header `h` in its tail, behind the bytes `pre`, when tails are aligned
to `align` bytes; `pad` stands behind the header. -/
def ofHdr (align : ℕ) (pre : List UInt8) (h : ParsedHdr)
    (pad : Vector UInt8 (alignUp parsedHdr.sizeOf align - parsedHdr.sizeOf))
    (halign : 0 < align := by decide) : ZbBuf where
  bytes := pre ++ (h.image ++ pad.toList)
  getTail := tailStart align (pre ++ (h.image ++ pad.toList)).length
  tail_fits := by
    have hle := le_alignUp parsedHdr.sizeOf halign
    have hsmall : attrAddrInfo.sizeOf ≤ parsedHdr.sizeOf := by decide
    have hmono := alignUp_le_alignUp hsmall align
    have hle' := le_alignUp attrAddrInfo.sizeOf halign
    intro size hsize
    simp only [List.mem_cons, List.not_mem_nil, or_false] at hsize
    rw [tailStart, List.length_append, List.length_append, h.length_image, Vector.length_toList]
    rcases hsize with rfl | rfl
    · omega
    · omega

section OfHdr

variable {align : ℕ} (pre : List UInt8) (h : ParsedHdr)
  (pad : Vector UInt8 (alignUp parsedHdr.sizeOf align - parsedHdr.sizeOf)) (halign : 0 < align)

/-- The tail of a structure starts where the tail of the header does, or later. -/
theorem getTail_ofHdr {size : ℕ} (hsize : size ≤ parsedHdr.sizeOf) :
    (ofHdr align pre h pad halign).getTail size
      = pre.length + (alignUp parsedHdr.sizeOf align - alignUp size align) := by
  have hle := le_alignUp parsedHdr.sizeOf halign
  have hmono := alignUp_le_alignUp hsize align
  have hlen := h.length_image
  change tailStart align (pre ++ (h.image ++ pad.toList)).length size = _
  rw [tailStart, List.length_append, List.length_append, Vector.length_toList, hlen]
  omega

/-- The tail of 27 bytes is the header. -/
theorem tail_ofHdr : (ofHdr align pre h pad halign).tail parsedHdr.sizeOf = h.image := by
  have hhead : readAt (h.image ++ pad.toList) 0 h.image.length = h.image := by
    rw [readAt_append_left _ _ _ _ (Nat.zero_add _).le, readAt_length]
  rw [h.length_image] at hhead
  rw [tail, getTail_ofHdr pre h pad halign le_rfl, Nat.sub_self, Nat.add_zero]
  change readAt (pre ++ (h.image ++ pad.toList)) pre.length parsedHdr.sizeOf = h.image
  rw [readAt_append_right _ _ _ _ le_rfl, Nat.sub_self, hhead]

/-- **Every field of the header is read back** through `zb_zcl_parsed_hdr_t`. -/
theorem asParsedHdr_ofHdr (k : ParsedHdrField) :
    (ofHdr align pre h pad halign).asParsedHdr k = h.bytes k := by
  rw [asParsedHdr, tail_ofHdr]
  exact h.load_image k

/-- **The overlay.** The cluster id seen through `zb_zcl_attr_addr_info_t` consists of the two bytes
of the header that lie behind the difference of the two tails and the offset 6. -/
theorem asAttrAddrInfo_ofHdr_clusterId :
    (ofHdr align pre h pad halign).asAttrAddrInfo .clusterId
      = readAt (h.image ++ pad.toList)
          (alignUp parsedHdr.sizeOf align - alignUp attrAddrInfo.sizeOf align + 6) 2 := by
  have hfield : attrAddrInfo.offsetOf .clusterId + attrAddrInfo.sizeOfField .clusterId
      ≤ attrAddrInfo.sizeOf := by decide
  rw [asAttrAddrInfo, Struct.load, tail, readAt_readAt _ hfield,
    getTail_ofHdr pre h pad halign (by decide), Nat.add_assoc]
  change readAt (pre ++ (h.image ++ pad.toList)) (pre.length + _) 2 = _
  rw [readAt_append_right _ _ _ _ (Nat.le_add_right _ _), Nat.add_sub_cancel_left]
  rfl

end OfHdr

/-- If tails are the last bytes, the cluster id is made of the command id and the direction. -/
theorem asAttrAddrInfo_clusterId_lastBytes (pre : List UInt8) (h : ParsedHdr)
    (pad : Vector UInt8 (alignUp parsedHdr.sizeOf 1 - parsedHdr.sizeOf)) :
    (ofHdr 1 pre h pad).asAttrAddrInfo .clusterId = [h.cmdId, h.cmdDirection] := by
  have hcmd : readAt h.image 19 1 = h.bytes .cmdId := h.load_image .cmdId
  have hdirection : readAt h.image 20 1 = h.bytes .cmdDirection := h.load_image .cmdDirection
  have hlen : h.image.length = 27 := h.length_image
  rw [asAttrAddrInfo_ofHdr_clusterId, readAt_append_left _ _ _ _ (by rw [hlen]; decide)]
  exact (readAt_add h.image 19 1 1).trans (congrArg₂ (· ++ ·) hcmd hdirection)

/-- If tails take whole words, it is made of the high byte of the profile id and the command id. -/
theorem asAttrAddrInfo_clusterId_words (pre : List UInt8) (h : ParsedHdr)
    (pad : Vector UInt8 (alignUp parsedHdr.sizeOf zbBufAllocAlign - parsedHdr.sizeOf)) :
    (ofHdr zbBufAllocAlign pre h pad).asAttrAddrInfo .clusterId
      = [UInt8.ofNat (h.profileId.toNat / 256), h.cmdId] := by
  have hprofile : readAt h.image 17 2 = h.bytes .profileId := h.load_image .profileId
  have hhigh : readAt h.image 18 1 = readAt (h.bytes .profileId) 1 1 := by
    rw [← hprofile]
    exact (readAt_readAt h.image (by decide : 1 + 1 ≤ 2)).symm
  have hcmd : readAt h.image 19 1 = h.bytes .cmdId := h.load_image .cmdId
  have hlen : h.image.length = 27 := h.length_image
  rw [asAttrAddrInfo_ofHdr_clusterId, readAt_append_left _ _ _ _ (by rw [hlen]; decide)]
  exact (readAt_add h.image 18 1 1).trans (congrArg₂ (· ++ ·) hhigh hcmd)

end ZbBuf

end SmartLock
