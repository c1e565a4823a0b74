import Mathlib.Logic.Function.Basic
import SmartLock.Effects.Contract
import SmartLock.Zigbee.Setup

/-! # What the set-up asks of the stack

The calls of the set-up as requests. The stack is a closed library: what it stores, and which
requests it refuses, is not modelled. What is kept is the record of what was asked for, which the
calls and the pointers handed out determine: the lists by the call that created them, the requests
made on them, and what they were to become part of.

* **`SetupRecord`, `SetupRecord.next`** — the record, and what a call adds to it.
* **`SetupRecord.allows`, `setupContract`** — the rules of the interface, which its headers state or
  its functions are named after; of the stack it is asked only that a list it creates is new.
* **`countingAnswers`, `countingAnswers_granted`** — a stack that hands out new lists to every
  program. -/

namespace SmartLock

open Effects

/-! ## Requests -/

/-- How an attribute list was created. -/
inductive AttrListCreation
  /-- Empty, for the cluster. -/
  | empty (clusterId : UInt16)
  /-- With the mandatory attributes of a cluster. -/
  | mandatory (cfg : ClusterCfg)
  deriving DecidableEq, Repr

/-- The cluster of a configuration. -/
def ClusterCfg.cluster : ClusterCfg → ZclCluster
  | .scenes _ => .scenes
  | .onOff _ => .onOff
  | .doorLock _ => .doorLock

/-- The mandatory attributes, one for each field of the configuration, in its order. -/
def ClusterCfg.attrIds : ClusterCfg → List UInt16
  | .scenes _ => [0x0000, 0x0001, 0x0002, 0x0003, 0x0004]
  | .onOff _ => [0x0000]
  | .doorLock _ => [0x0000, 0x0001, 0x0002]

namespace AttrListCreation

/-- The cluster id of a list. -/
def clusterId : AttrListCreation → UInt16
  | empty clusterId => clusterId
  | mandatory cfg => cfg.cluster.id

/-- The attributes that a list has from the start. -/
def attrIds : AttrListCreation → List UInt16
  | empty _ => []
  | mandatory cfg => cfg.attrIds

end AttrListCreation

/-- A request on an attribute list. An attribute is added by the function of a cluster. -/
inductive AttrRequest
  | add (cluster : ZclCluster) (attrId : UInt16) (value : List UInt8)
  | update (attrId : UInt16) (value : List UInt8)
  deriving DecidableEq, Repr

/-- The attribute that a request adds. -/
def AttrRequest.addedId : AttrRequest → Option UInt16
  | .add _ attrId _ => some attrId
  | .update _ _ => none

/-- An attribute list as it was asked for: its creation, and the requests on it in order. -/
structure AttrListRequest where
  creation : AttrListCreation
  requests : List AttrRequest
  deriving DecidableEq, Repr

namespace AttrListRequest

/-- A list that has just been created. -/
def created (creation : AttrListCreation) : AttrListRequest where
  creation := creation
  requests := []

/-- The list with one more request. -/
def push (l : AttrListRequest) (request : AttrRequest) : AttrListRequest :=
  { l with requests := l.requests ++ [request] }

/-- The list was asked to have the attribute. -/
def Has (l : AttrListRequest) (attrId : UInt16) : Prop :=
  attrId ∈ l.creation.attrIds ++ l.requests.filterMap AttrRequest.addedId

instance (l : AttrListRequest) (attrId : UInt16) : Decidable (l.Has attrId) :=
  inferInstanceAs (Decidable (_ ∈ _))

end AttrListRequest

/-- A cluster asked for in a cluster list: the function that adds it, its role and its attribute
list. -/
structure ClusterRequest (α : Type) where
  cluster : ZclCluster
  roleMask : UInt8
  attrList : α
  deriving DecidableEq, Repr

/-- A list as it was asked for. Lists refer to each other by pointers. -/
inductive ListRequest
  | attrs (l : AttrListRequest)
  | clusters (l : List (ClusterRequest ListPtr))
  | endpoints (l : List (EspZbEndpointConfig × ListPtr))

namespace ListRequest

def asAttrs : ListRequest → Option AttrListRequest
  | attrs l => some l
  | _ => none

def asClusters : ListRequest → Option (List (ClusterRequest ListPtr))
  | clusters l => some l
  | _ => none

def asEndpoints : ListRequest → Option (List (EspZbEndpointConfig × ListPtr))
  | endpoints l => some l
  | _ => none

end ListRequest

/-- The device that a registration asks for, without pointers. -/
abbrev DeviceRequest := List (EspZbEndpointConfig × List (ClusterRequest (Option AttrListRequest)))

/-! ## The record -/

/-- What was asked of the stack during the set-up. -/
structure SetupRecord where
  initialized : Bool
  /-- `esp_zb_start` has returned `ESP_OK`. -/
  started : Bool
  /-- The lists behind the pointers handed out. -/
  lists : ListPtr → Option ListRequest
  /-- The lists that were to become part of another one. -/
  used : List ListPtr
  /-- The device that the last registration asked for. -/
  requested : Option DeviceRequest
  /-- A registration has returned `ESP_OK`. -/
  accepted : Bool
  /-- The callbacks registered. -/
  handlers : List Handler

namespace SetupRecord

/-- Nothing has been asked for. -/
def off : SetupRecord where
  initialized := false
  started := false
  lists _ := none
  used := []
  requested := none
  accepted := false
  handlers := []

/-- The record with a list behind a pointer. -/
def put (s : SetupRecord) (p : ListPtr) (l : ListRequest) : SetupRecord :=
  { s with lists := Function.update s.lists p (some l) }

/-- The record with a list that is to become part of another one. -/
def use (s : SetupRecord) (p : ListPtr) : SetupRecord := { s with used := p :: s.used }

/-- The lists of every kind. -/
def attrsAt (s : SetupRecord) (p : ListPtr) : Option AttrListRequest :=
  (s.lists p).bind ListRequest.asAttrs

def clustersAt (s : SetupRecord) (p : ListPtr) : Option (List (ClusterRequest ListPtr)) :=
  (s.lists p).bind ListRequest.asClusters

def endpointsAt (s : SetupRecord) (p : ListPtr) : Option (List (EspZbEndpointConfig × ListPtr)) :=
  (s.lists p).bind ListRequest.asEndpoints

/-- The pointer is new: it is not `NULL`, and no list is behind it. -/
def Fresh (s : SetupRecord) (p : ListPtr) : Prop := p ≠ 0 ∧ s.lists p = none

section Put

variable (s : SetupRecord) (p q : ListPtr) (l l' : ListRequest)

@[simp] theorem put_used : (s.put p l).used = s.used := rfl

theorem lists_put : (s.put p l).lists q = if q = p then some l else s.lists q :=
  Function.update_apply s.lists p (some l) q

@[simp] theorem put_put_self : (s.put p l).put p l' = s.put p l' := by
  simp [put]

@[simp] theorem attrsAt_put :
    (s.put p l).attrsAt q = if q = p then l.asAttrs else s.attrsAt q := by
  rw [attrsAt, lists_put, apply_ite (Option.bind · ListRequest.asAttrs)]
  rfl

@[simp] theorem clustersAt_put :
    (s.put p l).clustersAt q = if q = p then l.asClusters else s.clustersAt q := by
  rw [clustersAt, lists_put, apply_ite (Option.bind · ListRequest.asClusters)]
  rfl

@[simp] theorem endpointsAt_put :
    (s.put p l).endpointsAt q = if q = p then l.asEndpoints else s.endpointsAt q := by
  rw [endpointsAt, lists_put, apply_ite (Option.bind · ListRequest.asEndpoints)]
  rfl

/-- What is new beside one more list is new, and not that list. -/
@[simp] theorem fresh_put : (s.put p l).Fresh q ↔ p ≠ q ∧ s.Fresh q := by
  rw [Fresh, Fresh, lists_put]
  by_cases hq : q = p
  · simp [hq]
  · simp [hq, Ne.symm hq]

@[simp] theorem clustersAt_use : (s.use p).clustersAt q = s.clustersAt q := rfl

theorem attrsAt_put_self (l : AttrListRequest) : (s.put p (.attrs l)).attrsAt p = some l := by
  simp [ListRequest.asAttrs]

theorem clustersAt_put_self (entries : List (ClusterRequest ListPtr)) :
    (s.put p (.clusters entries)).clustersAt p = some entries := by
  simp [ListRequest.asClusters]

theorem endpointsAt_put_self (endpoints : List (EspZbEndpointConfig × ListPtr)) :
    (s.put p (.endpoints endpoints)).endpointsAt p = some endpoints := by
  simp [ListRequest.asEndpoints]

end Put

/-- The clusters of a list, with the attribute lists in place of the pointers. -/
def resolveClusters (s : SetupRecord) (l : List (ClusterRequest ListPtr)) :
    List (ClusterRequest (Option AttrListRequest)) :=
  l.map fun entry =>
    { cluster := entry.cluster, roleMask := entry.roleMask, attrList := s.attrsAt entry.attrList }

/-- The device behind an endpoint list. -/
def resolve (s : SetupRecord) (epList : ListPtr) : Option DeviceRequest :=
  (s.endpointsAt epList).map fun l =>
    l.map fun ep => (ep.1, s.resolveClusters ((s.clustersAt ep.2).getD []))

/-- The record with one more request on an attribute list. -/
def request (s : SetupRecord) (p : ListPtr) (request : AttrRequest) : SetupRecord :=
  (s.attrsAt p).elim s fun l => s.put p (.attrs (l.push request))

/-- What a call adds to the record. Of the statuses it keeps those of the registration and of the
start; a request stays in the record whether the stack accepts it or not. -/
def next (s : SetupRecord) : SetupEvent → SetupRecord
  | ⟨.espZbInit _, _⟩ => { s with initialized := true }
  | ⟨.espZbZclAttrListCreate clusterId, p⟩ => s.put p (.attrs (.created (.empty clusterId)))
  | ⟨.clusterCreate cfg, p⟩ => s.put p (.attrs (.created (.mandatory cfg)))
  | ⟨.clusterAddAttr cluster p attrId value, _⟩ => s.request p (.add cluster attrId value)
  | ⟨.espZbClusterUpdateAttr p attrId value, _⟩ => s.request p (.update attrId value)
  | ⟨.espZbZclClusterListCreate, p⟩ => s.put p (.clusters [])
  | ⟨.clusterListAddCluster cluster clusterList attrList roleMask, _⟩ =>
      (s.clustersAt clusterList).elim s fun l =>
        (s.use attrList).put clusterList (.clusters (l ++
          [{ cluster := cluster, roleMask := roleMask, attrList := attrList }]))
  | ⟨.espZbEpListCreate, p⟩ => s.put p (.endpoints [])
  | ⟨.espZbEpListAddEp epList clusterList cfg, _⟩ =>
      (s.endpointsAt epList).elim s fun l =>
        (s.use clusterList).put epList (.endpoints (l ++ [(cfg, clusterList)]))
  | ⟨.espZbDeviceRegister epList, r⟩ =>
      { s with requested := s.resolve epList, accepted := r = espOk || s.accepted }
  | ⟨.espZbRawCommandHandlerRegister cb, _⟩ => { s with handlers := s.handlers ++ [cb] }
  | ⟨.espZbCoreActionHandlerRegister cb, _⟩ => { s with handlers := s.handlers ++ [cb] }
  | ⟨.espZbStart _, r⟩ => { s with started := r = espOk }
  | ⟨.espZbSetPrimaryNetworkChannelSet _, _⟩ => s
  | ⟨.espZbMainLoopIteration, _⟩ => s

/-! ## The rules -/

/-- What the rules of the interface allow.

The headers say: lists are created before they are used, and no list is used twice; an attribute
that is updated exists; the channels are set between initialization and start, in their range; the
main loop is entered after both. The functions are for: initializing and starting the stack once;
adding an attribute to a list of their cluster, and once; adding to a cluster list an attribute list
of their cluster, and one for each role; adding an endpoint once. -/
def allows (s : SetupRecord) : SetupOp → Bool
  | .espZbInit _ => !s.initialized
  | .espZbSetPrimaryNetworkChannelSet mask =>
      s.initialized ∧ s.started = false ∧ 0x00000800 ≤ mask ∧ mask ≤ 0x07FFF800
  | .clusterAddAttr cluster p attrId _ =>
      (s.attrsAt p).any fun l => l.creation.clusterId = cluster.id ∧ ¬ l.Has attrId
  | .espZbClusterUpdateAttr p attrId _ => (s.attrsAt p).any fun l => l.Has attrId
  | .clusterListAddCluster cluster clusterList attrList roleMask =>
      attrList ∉ s.used ∧
        ((s.attrsAt attrList).any fun l => l.creation.clusterId = cluster.id) ∧
        ((s.clustersAt clusterList).any fun l =>
          ∀ entry ∈ l, ¬ (entry.cluster = cluster ∧ entry.roleMask = roleMask))
  | .espZbEpListAddEp epList clusterList cfg =>
      clusterList ∉ s.used ∧ (s.clustersAt clusterList).isSome ∧
        ((s.endpointsAt epList).any fun l => ∀ ep ∈ l, ep.1.endpoint ≠ cfg.endpoint)
  | .espZbDeviceRegister epList => (s.endpointsAt epList).isSome
  | .espZbStart _ => s.initialized ∧ s.started = false
  | .espZbMainLoopIteration => s.initialized ∧ s.started
  | .espZbZclAttrListCreate _ => true
  | .clusterCreate _ => true
  | .espZbZclClusterListCreate => true
  | .espZbEpListCreate => true
  | .espZbRawCommandHandlerRegister _ => true
  | .espZbCoreActionHandlerRegister _ => true

/-- What is asked of the stack: a list that it creates is new. -/
def Grants (s : SetupRecord) : SetupEvent → Prop
  | ⟨.espZbZclAttrListCreate _, p⟩ => s.Fresh p
  | ⟨.clusterCreate _, p⟩ => s.Fresh p
  | ⟨.espZbZclClusterListCreate, p⟩ => s.Fresh p
  | ⟨.espZbEpListCreate, p⟩ => s.Fresh p
  | _ => True

end SetupRecord

/-- The contract between the task and the stack. -/
def setupContract : Contract SetupRet SetupRecord where
  may s op := s.allows op
  grants := SetupRecord.Grants
  next := SetupRecord.next

instance (s : SetupRecord) : DecidablePred (setupContract.may s) := fun op =>
  inferInstanceAs (Decidable (s.allows op = true))

/-! ## A stack that counts its lists -/

/-- A stack which puts the list it creates in the `n`-th call behind the pointer `n + 1`. It refuses
to add the list behind the pointer 26, which the task creates for the Door Lock cluster, as an
On/Off cluster, and accepts everything else. -/
def countingAnswers : Answers SetupRet := fun n op =>
  match op with
  | .espZbInit _ => ()
  | .espZbSetPrimaryNetworkChannelSet _ => espOk
  | .espZbZclAttrListCreate _ => n + 1
  | .clusterCreate _ => n + 1
  | .clusterAddAttr .. => espOk
  | .espZbClusterUpdateAttr .. => espOk
  | .espZbZclClusterListCreate => n + 1
  | .clusterListAddCluster cluster _ attrList _ =>
      if cluster = .onOff ∧ attrList = 26 then espErrInvalidArg else espOk
  | .espZbEpListCreate => n + 1
  | .espZbEpListAddEp .. => espOk
  | .espZbDeviceRegister _ => espOk
  | .espZbRawCommandHandlerRegister _ => ()
  | .espZbCoreActionHandlerRegister _ => ()
  | .espZbStart _ => espOk
  | .espZbMainLoopIteration => ()

namespace SetupRecord

/-- No list lies behind a pointer above `n`. -/
def Below (s : SetupRecord) (n : ℕ) : Prop := ∀ p, n < p → s.lists p = none

variable {s : SetupRecord} {n : ℕ} {p : ListPtr}

theorem Below.mono {m : ℕ} (hs : s.Below n) (h : n ≤ m) : s.Below m :=
  fun p hp => hs p (lt_of_le_of_lt h hp)

/-- A pointer with a list behind it is not above. -/
theorem Below.le_of_lists (hs : s.Below n) (hp : s.lists p ≠ none) : p ≤ n := by
  by_contra hlt
  exact hp (hs p (Nat.lt_of_not_le hlt))

theorem Below.put (hs : s.Below n) (hp : p ≤ n) (l : ListRequest) : (s.put p l).Below n := by
  intro q hq
  rw [lists_put, if_neg (Nat.ne_of_gt (lt_of_le_of_lt hp hq)), hs q hq]

/-- Changing a list that exists puts nothing above. -/
theorem Below.elim {β : Type} {f : ListRequest → Option β} {g : β → SetupRecord}
    (hs : s.Below n) (hg : ∀ b, p ≤ n → (g b).Below n) :
    (((s.lists p).bind f).elim s g).Below n := by
  cases hb : (s.lists p).bind f with
  | none => exact hs
  | some b =>
      refine hg b (hs.le_of_lists ?_)
      intro hnone
      rw [hnone] at hb
      cases hb

/-- **One call** of a stack that counts its lists hands out a new pointer or none, and puts at most
one list above, right behind the others. -/
theorem Below.grants_next (hs : s.Below n) (op : SetupOp) :
    s.Grants ⟨op, countingAnswers n op⟩ ∧ (s.next ⟨op, countingAnswers n op⟩).Below (n + 1) := by
  have hs' := hs.mono (Nat.le_succ n)
  have hfresh : s.Fresh (n + 1) := ⟨Nat.succ_ne_zero n, hs _ (Nat.lt_succ_self n)⟩
  cases op with
  | espZbZclAttrListCreate clusterId => exact ⟨hfresh, hs'.put le_rfl _⟩
  | clusterCreate cfg => exact ⟨hfresh, hs'.put le_rfl _⟩
  | espZbZclClusterListCreate => exact ⟨hfresh, hs'.put le_rfl _⟩
  | espZbEpListCreate => exact ⟨hfresh, hs'.put le_rfl _⟩
  | clusterAddAttr cluster attrList attrId value =>
      exact ⟨trivial, hs'.elim fun l hp => hs'.put hp _⟩
  | espZbClusterUpdateAttr attrList attrId value =>
      exact ⟨trivial, hs'.elim fun l hp => hs'.put hp _⟩
  | clusterListAddCluster cluster clusterList attrList roleMask =>
      exact ⟨trivial, hs'.elim fun l hp => hs'.put hp _⟩
  | espZbEpListAddEp epList clusterList cfg =>
      exact ⟨trivial, hs'.elim fun l hp => hs'.put hp _⟩
  | espZbInit nwkCfg => exact ⟨trivial, hs'⟩
  | espZbSetPrimaryNetworkChannelSet channelMask => exact ⟨trivial, hs'⟩
  | espZbDeviceRegister epList => exact ⟨trivial, hs'⟩
  | espZbRawCommandHandlerRegister cb => exact ⟨trivial, hs'⟩
  | espZbCoreActionHandlerRegister cb => exact ⟨trivial, hs'⟩
  | espZbStart autostart => exact ⟨trivial, hs'⟩
  | espZbMainLoopIteration => exact ⟨trivial, hs'⟩

end SetupRecord

/-- **The counting stack hands out new lists** to every program. -/
theorem countingAnswers_granted {α : Type} (p : Setup α) {s : SetupRecord} {n : ℕ}
    (hs : s.Below n) : setupContract.Granted s (p.trace (countingAnswers.after n)) :=
  Contract.granted_trace (I := fun n s => s.Below n) (fun _ _ op hs => hs.grants_next op) p hs

end SmartLock
