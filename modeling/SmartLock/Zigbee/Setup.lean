import SmartLock.Zigbee.Handlers

/-! # Setting up the Zigbee stack

`Zigbee::rtosTask`, the task that builds the data model of the device out of the lists of the stack,
registers it together with the two handlers, starts the stack and enters its main loop. Pointers to
lists are numbers, and a pointer to a variable is the bytes of that variable: how many of them the
stack reads is its own affair.

* **`SetupOp`, `SetupRet`** — the calls of the stack that the task makes, with their answers.
* **`Zigbee.rtosTask`** — the task, in the three sections of the source, up to the main loop
  (`TaskOutcome`). -/

namespace SmartLock

open Effects

/-! ## Types of the stack -/

/-- A pointer to one of the lists of the stack. -/
abbrev ListPtr := ℕ

/-- The clusters of the device, and with them the functions that the stack has for each of them. -/
inductive ZclCluster
  | basic | identify | groups | scenes | onOff | doorLock
  deriving DecidableEq, Repr

/-- `esp_zb_zcl_cluster_id_t`. -/
def ZclCluster.id : ZclCluster → UInt16
  | .basic => 0x0000
  | .identify => 0x0003
  | .groups => 0x0004
  | .scenes => 0x0005
  | .onOff => 0x0006
  | .doorLock => 0x0101

/-- `esp_zb_cfg_t` of an end device; `esp_zb_role` and the fields of `zed_cfg`. -/
structure EspZbCfg where
  espZbRole : ℕ
  installCodePolicy : Bool
  edTimeout : UInt8
  keepAlive : UInt32
  deriving DecidableEq, Repr

/-- `esp_zb_endpoint_config_t`; `app_device_version` has four bits. -/
structure EspZbEndpointConfig where
  endpoint : UInt8
  appProfileId : UInt16
  appDeviceId : UInt16
  appDeviceVersion : Fin 16
  deriving DecidableEq, Repr

/-- `esp_zb_scenes_cluster_cfg_t`. -/
structure ScenesClusterCfg where
  scenesCount : UInt8
  currentScene : UInt8
  currentGroup : UInt16
  sceneValid : Bool
  nameSupport : UInt8
  deriving DecidableEq, Repr

/-- `esp_zb_door_lock_cluster_cfg_t`. -/
structure DoorLockClusterCfg where
  lockState : UInt8
  lockType : UInt8
  actuatorEnabled : Bool
  deriving DecidableEq, Repr

/-- What the functions that create a cluster with its mandatory attributes are given; `none` stands
for `NULL`. -/
inductive ClusterCfg
  | scenes (sceneCfg : Option ScenesClusterCfg)
  | onOff (onOff : Bool)
  | doorLock (lockCfg : DoorLockClusterCfg)
  deriving DecidableEq, Repr

/-- The functions registered as callbacks. -/
inductive Handler
  | espZbZclRawCommandCallback
  | actionHandler
  deriving DecidableEq, Repr

/-! ## Calls -/

/-- The calls of the task. The functions that differ in the cluster only are one operation each. -/
inductive SetupOp
  | espZbInit (nwkCfg : EspZbCfg)
  | espZbSetPrimaryNetworkChannelSet (channelMask : UInt32)
  | espZbZclAttrListCreate (clusterId : UInt16)
  | clusterCreate (cfg : ClusterCfg)
  | clusterAddAttr (cluster : ZclCluster) (attrList : ListPtr) (attrId : UInt16)
      (value : List UInt8)
  | espZbClusterUpdateAttr (attrList : ListPtr) (attrId : UInt16) (value : List UInt8)
  | espZbZclClusterListCreate
  | clusterListAddCluster (cluster : ZclCluster) (clusterList attrList : ListPtr)
      (roleMask : UInt8)
  | espZbEpListCreate
  | espZbEpListAddEp (epList clusterList : ListPtr) (endpointConfig : EspZbEndpointConfig)
  | espZbDeviceRegister (epList : ListPtr)
  | espZbRawCommandHandlerRegister (cb : Handler)
  | espZbCoreActionHandlerRegister (cb : Handler)
  | espZbStart (autostart : Bool)
  | espZbMainLoopIteration
  deriving DecidableEq, Repr

/-- The answer type of every call. -/
abbrev SetupRet : SetupOp → Type
  | .espZbInit _ => Unit
  | .espZbSetPrimaryNetworkChannelSet _ => EspErr
  | .espZbZclAttrListCreate _ => ListPtr
  | .clusterCreate _ => ListPtr
  | .clusterAddAttr .. => EspErr
  | .espZbClusterUpdateAttr .. => EspErr
  | .espZbZclClusterListCreate => ListPtr
  | .clusterListAddCluster .. => EspErr
  | .espZbEpListCreate => ListPtr
  | .espZbEpListAddEp .. => EspErr
  | .espZbDeviceRegister _ => EspErr
  | .espZbRawCommandHandlerRegister _ => Unit
  | .espZbCoreActionHandlerRegister _ => Unit
  | .espZbStart _ => EspErr
  | .espZbMainLoopIteration => Unit

/-- Code that sets the stack up. -/
abbrev Setup := Program SetupRet

/-- A call of the task with its answer. -/
abbrev SetupEvent := Event SetupRet

def espZbZclAttrListCreate (clusterId : UInt16) : Setup ListPtr :=
  Program.call (SetupOp.espZbZclAttrListCreate clusterId)

def espZbScenesClusterCreate (sceneCfg : Option ScenesClusterCfg) : Setup ListPtr :=
  Program.call (SetupOp.clusterCreate (.scenes sceneCfg))

def espZbOnOffClusterCreate (onOff : Bool) : Setup ListPtr :=
  Program.call (SetupOp.clusterCreate (.onOff onOff))

def espZbDoorLockClusterCreate (lockCfg : DoorLockClusterCfg) : Setup ListPtr :=
  Program.call (SetupOp.clusterCreate (.doorLock lockCfg))

def espZbZclClusterListCreate : Setup ListPtr :=
  Program.call SetupOp.espZbZclClusterListCreate

def espZbEpListCreate : Setup ListPtr :=
  Program.call SetupOp.espZbEpListCreate

-- the task drops the status of the following calls

def espZbBasicClusterAddAttr (attrList : ListPtr) (attrId : UInt16) (value : List UInt8) :
    Setup Unit := Program.perform (.clusterAddAttr .basic attrList attrId value)

def espZbIdentifyClusterAddAttr (attrList : ListPtr) (attrId : UInt16) (value : List UInt8) :
    Setup Unit := Program.perform (.clusterAddAttr .identify attrList attrId value)

def espZbGroupsClusterAddAttr (attrList : ListPtr) (attrId : UInt16) (value : List UInt8) :
    Setup Unit := Program.perform (.clusterAddAttr .groups attrList attrId value)

def espZbDoorLockClusterAddAttr (attrList : ListPtr) (attrId : UInt16) (value : List UInt8) :
    Setup Unit := Program.perform (.clusterAddAttr .doorLock attrList attrId value)

def espZbClusterListAddBasicCluster (clusterList attrList : ListPtr) (roleMask : UInt8) :
    Setup Unit := Program.perform (.clusterListAddCluster .basic clusterList attrList roleMask)

def espZbClusterListAddIdentifyCluster (clusterList attrList : ListPtr) (roleMask : UInt8) :
    Setup Unit := Program.perform (.clusterListAddCluster .identify clusterList attrList roleMask)

def espZbClusterListAddGroupsCluster (clusterList attrList : ListPtr) (roleMask : UInt8) :
    Setup Unit := Program.perform (.clusterListAddCluster .groups clusterList attrList roleMask)

def espZbClusterListAddScenesCluster (clusterList attrList : ListPtr) (roleMask : UInt8) :
    Setup Unit := Program.perform (.clusterListAddCluster .scenes clusterList attrList roleMask)

def espZbClusterListAddOnOffCluster (clusterList attrList : ListPtr) (roleMask : UInt8) :
    Setup Unit := Program.perform (.clusterListAddCluster .onOff clusterList attrList roleMask)

/-! ## Constants -/

/-- `ESP_ZB_ZED_CONFIG()`: an end device without install codes, with an ageing timeout of 64 minutes
and a keep-alive of three seconds. -/
def espZbZedConfig : EspZbCfg where
  espZbRole := 2
  installCodePolicy := false
  edTimeout := 6
  keepAlive := 3000

/-- `ESP_ZB_PRIMARY_CHANNEL_MASK`: the channels 11 to 26. -/
def espZbPrimaryChannelMask : UInt32 := 0x07FFF800

/-- `ESP_ZB_ZCL_CLUSTER_SERVER_ROLE`. -/
def clusterServerRole : UInt8 := 1

/-- The attribute ids of the task. -/
def attrBasicZclVersionId : UInt16 := 0x0000
def attrBasicManufacturerNameId : UInt16 := 0x0004
def attrBasicModelIdentifierId : UInt16 := 0x0005
def attrBasicPowerSourceId : UInt16 := 0x0007
def attrIdentifyIdentifyTimeId : UInt16 := 0x0000
def attrGroupsNameSupportId : UInt16 := 0x0000
def attrScenesNameSupportId : UInt16 := 0x0004
def attrDoorLockLockStateId : UInt16 := 0x0000
def attrDoorLockLockTypeId : UInt16 := 0x0001
def attrDoorLockOpenPeriodId : UInt16 := 0x0006

/-! ## The task -/

/-- How far the task gets: `ESP_ERROR_CHECK` of the start stops the firmware on any status but
`ESP_OK`, and `esp_zb_main_loop_iteration` does not return once it is entered. -/
inductive TaskOutcome
  | inMainLoop
  | aborted
  deriving DecidableEq, Repr

namespace Zigbee

/-- The variables of the task that its calls point at. -/
def modelid : List UInt8 :=
  9 :: ['D', 'O', 'O', 'R', '_', 'L', 'O', 'C', 'K'].map Char.toUInt8
def manufname : List UInt8 := 6 :: ['P', 'I', 'E', 'R', 'R', 'E'].map Char.toUInt8
def testAttr : List UInt8 := [0]
def testAttr2 : List UInt8 := [4]

/-- The endpoint of the lock. The task leaves `app_device_version` uninitialized. -/
def endPoint (appDeviceVersion : Fin 16) : EspZbEndpointConfig where
  endpoint := haEspLockEndpoint
  appProfileId := 0x0104
  appDeviceId := 0x0005
  appDeviceVersion := appDeviceVersion

/-- The configuration of the door lock cluster. -/
def doorLockClusterConfig : DoorLockClusterCfg where
  lockState := 0x05
  lockType := 0x01
  actuatorEnabled := true

/-- The section on the Basic and On/Off clusters; it leaves the cluster list. -/
def basicAndOnOffClusterConfiguration : Setup ListPtr := do
  let espZbBasicCluster ← espZbZclAttrListCreate ZclCluster.basic.id
  espZbBasicClusterAddAttr espZbBasicCluster attrBasicZclVersionId testAttr
  espZbBasicClusterAddAttr espZbBasicCluster attrBasicPowerSourceId testAttr2
  Program.perform (.espZbClusterUpdateAttr espZbBasicCluster attrBasicZclVersionId testAttr2)
  espZbBasicClusterAddAttr espZbBasicCluster attrBasicModelIdentifierId modelid
  espZbBasicClusterAddAttr espZbBasicCluster attrBasicManufacturerNameId manufname
  let espZbIdentifyCluster ← espZbZclAttrListCreate ZclCluster.identify.id
  espZbIdentifyClusterAddAttr espZbIdentifyCluster attrIdentifyIdentifyTimeId testAttr
  let espZbGroupsCluster ← espZbZclAttrListCreate ZclCluster.groups.id
  espZbGroupsClusterAddAttr espZbGroupsCluster attrGroupsNameSupportId testAttr
  let espZbScenesCluster ← espZbScenesClusterCreate none
  Program.perform (.espZbClusterUpdateAttr espZbScenesCluster attrScenesNameSupportId testAttr)
  let espZbOnOffCluster ← espZbOnOffClusterCreate false
  let espZbClusterList ← espZbZclClusterListCreate
  espZbClusterListAddBasicCluster espZbClusterList espZbBasicCluster clusterServerRole
  espZbClusterListAddIdentifyCluster espZbClusterList espZbIdentifyCluster clusterServerRole
  espZbClusterListAddGroupsCluster espZbClusterList espZbGroupsCluster clusterServerRole
  espZbClusterListAddScenesCluster espZbClusterList espZbScenesCluster clusterServerRole
  espZbClusterListAddOnOffCluster espZbClusterList espZbOnOffCluster clusterServerRole
  return espZbClusterList

/-- The section on the Door Lock cluster. -/
def lockClusterConfiguration (espZbClusterList : ListPtr) : Setup Unit := do
  let doorClusterAttributes ← espZbZclAttrListCreate ZclCluster.doorLock.id
  espZbDoorLockClusterAddAttr doorClusterAttributes attrDoorLockLockStateId testAttr2
  espZbDoorLockClusterAddAttr doorClusterAttributes attrDoorLockLockTypeId testAttr2
  espZbDoorLockClusterAddAttr doorClusterAttributes attrDoorLockOpenPeriodId testAttr2
  -- the attributes are created anew, and this cluster is added as an On/Off cluster
  let doorLockCluster ← espZbDoorLockClusterCreate doorLockClusterConfig
  espZbClusterListAddOnOffCluster espZbClusterList doorLockCluster clusterServerRole

/-- The section on the endpoint, the device and the callbacks. -/
def callbackFunctionRegistration (appDeviceVersion : Fin 16) (espZbClusterList : ListPtr) :
    Setup Unit := do
  let espZbEpList ← espZbEpListCreate
  Program.perform (.espZbEpListAddEp espZbEpList espZbClusterList (endPoint appDeviceVersion))
  Program.perform (.espZbDeviceRegister espZbEpList)
  Program.perform (.espZbRawCommandHandlerRegister .espZbZclRawCommandCallback)
  Program.perform (.espZbCoreActionHandlerRegister .actionHandler)

/-- `Zigbee::rtosTask`. -/
def rtosTask (appDeviceVersion : Fin 16) : Setup TaskOutcome := do
  Program.perform (.espZbInit espZbZedConfig)
  Program.perform (.espZbSetPrimaryNetworkChannelSet espZbPrimaryChannelMask)
  let espZbClusterList ← basicAndOnOffClusterConfiguration
  lockClusterConfiguration espZbClusterList
  callbackFunctionRegistration appDeviceVersion espZbClusterList
  -- `ESP_ERROR_CHECK`
  if (← Program.call (SetupOp.espZbStart false)) ≠ espOk then
    return .aborted
  Program.perform .espZbMainLoopIteration
  return .inMainLoop

end Zigbee

end SmartLock
