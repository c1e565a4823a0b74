import SmartLock.Driver.Lock
import SmartLock.Zigbee.Buffer

/-! # The Zigbee component

The functions of `components/zigbee` that the stack or `app_main` enters: `Zigbee::init`,
`Zigbee::action_handler` with its `attribute_handler`, and the raw command callback. They are
programs over the members of `Lock` and the two start-up calls (`ZigbeeOp`); `lower` runs each of
these on ESP-IDF. Log texts and the `printf` dump of the first data byte are left out.

* **`actionHandler_eq`** — the action handler returns `ESP_OK` and does nothing, whatever arrives:
  its only branch with an effect asks the data type to be 0 and 0x10 at once.
* **`calls_espZbZclRawCommandCallback`** — the raw command callback opens the lock if its own test
  holds, `ZbBuf.LooksLikeUnlockDoor`: the cluster id of one overlay of the tail and the command id
  of another are those of Unlock Door. -/

namespace SmartLock

open Effects Layout

/-! ## Operations -/

/-- What the Zigbee component asks of the lock and of ESP-IDF. -/
inductive ZigbeeOp
  | lockInit (rxPin txPin : UInt8)
  | lockSetKey
  | lockOpen
  | lockTurnOffAutomaticLatch
  | nvsFlashInit
  | espZbPlatformConfig (config : EspZbPlatformConfig)
  deriving DecidableEq, Repr

/-- Every operation returns an `esp_err_t`. -/
abbrev ZigbeeRet : ZigbeeOp → Type := fun _ => EspErr

/-- Code of the Zigbee component. -/
abbrev Zb := Program ZigbeeRet

/-- An operation on ESP-IDF. -/
def lower : (op : ZigbeeOp) → Hw EspErr
  | .lockInit rxPin txPin => Lock.init rxPin txPin
  | .lockSetKey => Lock.setKey
  | .lockOpen => Lock.open
  | .lockTurnOffAutomaticLatch => Lock.turnOffAutomaticLatch
  | .nvsFlashInit => Program.call HwOp.nvsFlashInit
  | .espZbPlatformConfig config => Program.call (HwOp.espZbPlatformConfig config)

/-! ## Messages -/

/-- `esp_zb_device_cb_common_info_t`. -/
structure DeviceCbCommonInfo where
  status : UInt32
  dstEndpoint : UInt8
  cluster : UInt16

/-- `esp_zb_zcl_attribute_data_t`; `value` is the memory behind the pointer. -/
structure ZclAttributeData where
  type : UInt32
  size : UInt16
  value : List UInt8

/-- `esp_zb_zcl_attribute_t`. -/
structure ZclAttribute where
  id : UInt16
  data : ZclAttributeData

/-- `esp_zb_zcl_set_attr_value_message_t`; `attr` is its `attribute`. -/
structure SetAttrValueMessage where
  info : DeviceCbCommonInfo
  attr : ZclAttribute

/-- `HA_ESP_LOCK_ENDPOINT`. -/
def haEspLockEndpoint : UInt8 := 1

/-- `ESP_ZB_ZCL_CLUSTER_ID_ON_OFF`. -/
def clusterIdOnOff : UInt16 := 0x0006

/-- `ESP_ZB_ZCL_ATTR_ON_OFF_ON_OFF_ID`. -/
def attrOnOffOnOffId : UInt16 := 0x0000

/-- `ESP_ZB_ZCL_ATTR_TYPE_BOOL`. -/
def attrTypeBool : UInt32 := 0x10

/-- `ESP_ZB_CORE_SET_ATTR_VALUE_CB_ID`. -/
def coreSetAttrValueCbId : UInt32 := 0x0000

/-- `ESP_ZB_ZCL_CLUSTER_ID_DOOR_LOCK`. -/
def clusterIdDoorLock : ℕ := 0x0101

/-- `ESP_ZB_ZCL_CMD_DOOR_LOCK_UNLOCK_DOOR`. -/
def cmdDoorLockUnlockDoor : ℕ := 0x01

/-! ## Functions -/

/-- `UART_RX_PIN` and `UART_TX_PIN`. -/
def uartRxPin : UInt8 := 4
def uartTxPin : UInt8 := 5

/-- How `Zigbee::init` ends: `ESP_ERROR_CHECK` stops the firmware on any status but `ESP_OK`. -/
inductive Startup
  | completed
  | aborted
  deriving DecidableEq, Repr

namespace Zigbee

/-- `Zigbee::attribute_handler`. The data type is compared with an attribute id and with a type. -/
def attributeHandler (message : SetAttrValueMessage) : Zb EspErr := do
  if message.info.dstEndpoint = haEspLockEndpoint ∧ message.info.cluster = clusterIdOnOff ∧
      message.attr.id = attrOnOffOnOffId then
    -- the first comparison is with the attribute id, not with a type
    if message.attr.data.type = attrOnOffOnOffId.toUInt32 ∧
        message.attr.data.type = attrTypeBool then
      Program.perform .lockSetKey
      Program.perform .lockOpen
  else if message.info.dstEndpoint = haEspLockEndpoint ∧ message.info.cluster = 0x0000 ∧
      message.attr.id = 0x0005 then
    -- the branch for the model identifier is empty in the source
    pure ()
  return espOk

/-- `Zigbee::action_handler`. -/
def actionHandler (callbackId : UInt32) (message : SetAttrValueMessage) : Zb EspErr := do
  let mut errorStatus := espOk
  -- every other callback id is only logged
  if callbackId = coreSetAttrValueCbId then
    errorStatus ← attributeHandler message
  return errorStatus

set_option linter.unusedVariables false in
/-- `Zigbee::sendData`: its body is commented out. -/
def sendData (lockState : UInt8) : Zb Unit := return ()

/-- `Zigbee::esp_zb_zcl_raw_command_callback`: `cluster_id` is read through one structure over the
tail of the buffer and `cmd_id` through the other. -/
def espZbZclRawCommandCallback (buf : ZbBuf) : Zb Bool := do
  if littleEndian (buf.asAttrAddrInfo .clusterId) = clusterIdDoorLock ∧
      littleEndian (buf.asParsedHdr .cmdId) = cmdDoorLockUnlockDoor then
    Program.perform .lockOpen
  sendData 0
  return false

/-- `Zigbee::init`. The status of the three lock calls is dropped. -/
def init : Zb Startup := do
  let zigbeeConfig : EspZbPlatformConfig :=
    { radioMode := .native, hostConnectionMode := .none }
  Program.perform (.lockInit uartRxPin uartTxPin)
  Program.perform .lockSetKey
  Program.perform .lockTurnOffAutomaticLatch
  -- `ESP_ERROR_CHECK` of both calls
  if (← Program.call ZigbeeOp.nvsFlashInit) ≠ espOk then
    return .aborted
  if (← Program.call (ZigbeeOp.espZbPlatformConfig zigbeeConfig)) ≠ espOk then
    return .aborted
  return .completed

end Zigbee

/-! ## What the functions do -/

/-- **The action handler does nothing**, on any callback id and any message. -/
theorem actionHandler_eq (callbackId : UInt32) (message : SetAttrValueMessage) :
    Zigbee.actionHandler callbackId message = pure espOk := by
  -- no data type is both 0 and 0x10, so the branch that moves the lock is dead
  have hdead (type : UInt32) : ¬ (type = attrOnOffOnOffId.toUInt32 ∧ type = attrTypeBool) := by
    rintro ⟨hid, htype⟩
    rw [hid] at htype
    exact absurd htype (by decide)
  simp only [Zigbee.actionHandler, Zigbee.attributeHandler, hdead, if_false, ite_self, pure_bind]

/-- The test of the raw command callback: `cluster_id` seen through `zb_zcl_attr_addr_info_t` is
that of the Door Lock cluster, and `cmd_id` seen through `zb_zcl_parsed_hdr_t` is Unlock Door. -/
def ZbBuf.LooksLikeUnlockDoor (buf : ZbBuf) : Prop :=
  littleEndian (buf.asAttrAddrInfo .clusterId) = clusterIdDoorLock ∧
    littleEndian (buf.asParsedHdr .cmdId) = cmdDoorLockUnlockDoor

instance (buf : ZbBuf) : Decidable buf.LooksLikeUnlockDoor := inferInstanceAs (Decidable (_ ∧ _))

/-- The test is on three bytes of the buffer. -/
theorem ZbBuf.looksLikeUnlockDoor_iff (buf : ZbBuf) :
    buf.LooksLikeUnlockDoor ↔
      buf.asAttrAddrInfo .clusterId = [1, 1] ∧ buf.asParsedHdr .cmdId = [1] := by
  have hinfo : (buf.tail attrAddrInfo.sizeOf).length = attrAddrInfo.sizeOf :=
    buf.length_tail (by simp)
  have hhdr : (buf.tail parsedHdr.sizeOf).length = parsedHdr.sizeOf := buf.length_tail (by simp)
  have hcluster : (buf.asAttrAddrInfo .clusterId).length = [(1 : UInt8), 1].length :=
    length_readAt (by rw [hinfo]; decide)
  have hcmd : (buf.asParsedHdr .cmdId).length = [(1 : UInt8)].length :=
    length_readAt (by rw [hhdr]; decide)
  exact and_congr (littleEndian_inj hcluster) (littleEndian_inj hcmd)

/-- What the raw command callback comes to: its `sendData` does nothing. -/
theorem espZbZclRawCommandCallback_eq (buf : ZbBuf) :
    Zigbee.espZbZclRawCommandCallback buf
      = if buf.LooksLikeUnlockDoor then (do Program.perform .lockOpen; return false)
        else return false := by
  by_cases hlooks : buf.LooksLikeUnlockDoor
  · exact (if_pos hlooks).trans (if_pos hlooks).symm
  · exact (if_neg hlooks).trans (if_neg hlooks).symm

/-- **The raw command callback** opens the lock once if its test holds, and does nothing
otherwise. -/
theorem calls_espZbZclRawCommandCallback (a : Answers ZigbeeRet) (buf : ZbBuf) :
    (Zigbee.espZbZclRawCommandCallback buf).calls a
      = if buf.LooksLikeUnlockDoor then [.lockOpen] else [] := by
  rw [espZbZclRawCommandCallback_eq, Program.calls]
  split
  · rfl
  · rfl

end SmartLock
