import SmartLock.Zigbee.Firmware

/-! # On/Off writes

A write of the On/Off attribute on the lock's endpoint is meant to send the key and then the open
frame, once, whatever the value written.

* **`uartStream_eq_nil`** — what the action handler puts on the line: nothing, for any messages.
* **`carriesOutRequests_iff`** — so it carries out a sequence of messages exactly when no request is
  among them. -/

namespace SmartLock

open Effects

/-- A call of the action handler. -/
structure ActionCall where
  callbackId : UInt32
  message : SetAttrValueMessage

namespace ActionCall

/-- The call is a write of the On/Off attribute on the lock's endpoint, with a boolean value. -/
def IsOnOffRequest (call : ActionCall) : Prop :=
  call.callbackId = coreSetAttrValueCbId ∧
    call.message.info.dstEndpoint = haEspLockEndpoint ∧
    call.message.info.cluster = clusterIdOnOff ∧
    call.message.attr.id = attrOnOffOnOffId ∧
    call.message.attr.data.type = attrTypeBool

instance (call : ActionCall) : Decidable call.IsOnOffRequest :=
  inferInstanceAs (Decidable (_ ∧ _))

/-- The bytes the call is meant to put on the line. -/
def exchange (call : ActionCall) : List UInt8 :=
  if call.IsOnOffRequest then setKeyFrame ++ openFrame else []

/-- The hardware events of the call. -/
def events (call : ActionCall) (b : Board) : List HwEvent :=
  (ZigbeeCall.actionHandler call.callbackId call.message).events b

end ActionCall

/-- The bytes the UART takes over a sequence of calls, each on its own board. -/
def uartStream (steps : List (ActionCall × Board)) : List UInt8 :=
  transmitted (steps.flatMap fun step => step.1.events step.2)

/-- Every request of the sequence becomes one exchange, in order, and nothing else is sent. -/
def CarriesOutRequests (steps : List (ActionCall × Board)) : Prop :=
  uartStream steps = steps.flatMap fun step => step.1.exchange

/-- **Nothing is ever sent**, on any boards. -/
theorem uartStream_eq_nil (steps : List (ActionCall × Board)) : uartStream steps = [] := by
  rw [uartStream]
  have hquiet : (steps.flatMap fun step => step.1.events step.2) = [] := by
    rw [List.flatMap_eq_nil_iff]
    intro step _
    exact events_actionHandler step.1.callbackId step.1.message step.2
  rw [hquiet, transmitted_nil]

/-- A request has a frame to send. -/
theorem ActionCall.exchange_eq_nil (call : ActionCall) :
    call.exchange = [] ↔ ¬ call.IsOnOffRequest := by
  rw [ActionCall.exchange]
  by_cases hrequest : call.IsOnOffRequest
  · rw [if_pos hrequest]
    exact iff_of_false (by decide) (fun h => h hrequest)
  · rw [if_neg hrequest]
    exact iff_of_true rfl hrequest

/-- **When the requests are carried out.** For every sequence of calls, on any boards: exactly when
no call is a request. -/
theorem carriesOutRequests_iff (steps : List (ActionCall × Board)) :
    CarriesOutRequests steps ↔ ∀ step ∈ steps, ¬ step.1.IsOnOffRequest := by
  rw [CarriesOutRequests, uartStream_eq_nil, eq_comm, List.flatMap_eq_nil_iff]
  constructor
  · intro h step hstep
    exact step.1.exchange_eq_nil.mp (h step hstep)
  · intro h step hstep
    exact step.1.exchange_eq_nil.mpr (h step hstep)

/-- An On/Off write of the value `true` to the lock. -/
def onOffWrite : ActionCall where
  callbackId := coreSetAttrValueCbId
  message :=
    { info := { status := 0, dstEndpoint := 1, cluster := 0x0006 }
      attr := { id := 0x0000, data := { type := 0x10, size := 1, value := [1] } } }

/-- The write is lost although the UART would accept every byte. -/
theorem onOffWrite_lost : ¬ CarriesOutRequests [(onOffWrite, Board.accepting)] := by
  intro h
  rw [CarriesOutRequests, uartStream_eq_nil] at h
  exact absurd h (by decide)

end SmartLock
