import SmartLock.Effects.Program
import SmartLock.Effects.Precedence
import SmartLock.Effects.Transition
import SmartLock.Effects.Contract
import SmartLock.Effects.Dependence
import SmartLock.Layout.CStruct
import SmartLock.Driver.Hardware
import SmartLock.Driver.UartDriver
import SmartLock.Driver.Lock
import SmartLock.Driver.Traffic
import SmartLock.Driver.Status
import SmartLock.Driver.Configuration
import SmartLock.Zigbee.Buffer
import SmartLock.Zigbee.Handlers
import SmartLock.Zigbee.RawCommand
import SmartLock.Zigbee.Firmware
import SmartLock.Zigbee.OnOffWrites
import SmartLock.Zigbee.KeyBeforeOpen
import SmartLock.Zigbee.Transmission
import SmartLock.Zigbee.LineDiscipline
import SmartLock.Zigbee.Unchecked
import SmartLock.Zigbee.Setup
import SmartLock.Zigbee.DataModel
import SmartLock.Zigbee.Registration
import SmartLock.Commissioning.SignalHandler
import SmartLock.Commissioning.LogLevels
import SmartLock.Commissioning.Progress
import SmartLock.Commissioning.Phases
import SmartLock.Commissioning.History
import SmartLock.Device.Code
import SmartLock.Device.Run
