import Mathlib.Logic.Function.Basic
import Ztcpp.Platform

/-!
# Dispatch of event messages

An event message points to its payloads, which stay in libzt's memory; the
details object of a callback keeps the pointer.  `none` is the null pointer.
Only the payload of an address event is touched during dispatch.
-/

namespace Ztcpp

open Octets

/-- `zts_event_msg_t`. -/
structure EventMessage where
  eventCode : Int16
  node : Option ℕ
  network : Option ℕ
  netif : Option ℕ
  route : Option ℕ
  peer : Option ℕ
  addr : Option ℕ

/-- `zts_addr_info_t`. -/
structure AddrInfo where
  netId : UInt64
  addr : SockaddrStorage

abbrev AddrMemory := ℕ → AddrInfo

/-- The classes `AddressDetails`, ..., `RouteDetails`. -/
inductive DetailClass where
  | address
  | network
  | networkInterface
  | networkStack
  | node
  | peer
  | route
  deriving DecidableEq

inductive Callback where
  /-- `onAddressEvent`, ..., `onRouteEvent`, with the value of the event code
  and the pointer in the details object, null when the details are null. -/
  | onEvent (class' : DetailClass) (eventCode : ℤ) (details : Option ℕ)
  | onUnknownEvent (eventCode : Int16)

def handleEvent (class' : DetailClass) (aRawEventCode : Int16) (aTZDataStruct : Option ℕ) :
    Callback :=
  match aTZDataStruct with
  | some detailClass => .onEvent class' aRawEventCode.toInt (some detailClass)
  | none => .onEvent class' aRawEventCode.toInt none

theorem handleEvent_eq (class' : DetailClass) (raw : Int16) (p : Option ℕ) :
    handleEvent class' raw p = .onEvent class' raw.toInt p := by
  cases p <;> rfl

/-- `data->addr->addr.ss_family = family`; `none` when `data->addr` is null. -/
def setAddrFamily (memory : AddrMemory) (addr : Option ℕ) (family : UInt8) : Option AddrMemory :=
  addr.map fun p ↦ Function.update memory p
    { memory p with addr := (memory p).addr.write offsetFamily (Image.byte family) }

variable [Platform]

/-- The `switch` of `IntermediateEventHandler`: the callback made and the
payloads afterwards; `none` when a null pointer is dereferenced. -/
def dispatch (memory : AddrMemory) (data : EventMessage) : Option (Callback × AddrMemory) :=
  match ZtsEventCode.all.find? fun code ↦ ztsEvent code = data.eventCode.toInt with
  | some .nodeUp | some .nodeOnline | some .nodeOffline | some .nodeDown =>
      some (handleEvent .node data.eventCode data.node, memory)
  | some .networkNotFound | some .networkClientTooOld | some .networkReqConfig
  | some .networkOk | some .networkAccessDenied | some .networkReadyIp4
  | some .networkReadyIp6 | some .networkReadyIp4Ip6 | some .networkDown
  | some .networkUpdate =>
      some (handleEvent .network data.eventCode data.network, memory)
  | some .stackUp | some .stackDown =>
      some (handleEvent .networkStack data.eventCode data.netif, memory)
  | some .netifUp | some .netifDown | some .netifRemoved | some .netifLinkUp
  | some .netifLinkDown =>
      some (handleEvent .networkInterface data.eventCode data.netif, memory)
  | some .peerDirect | some .peerRelay | some .peerUnreachable | some .peerPathDiscovered
  | some .peerPathDead =>
      some (handleEvent .peer data.eventCode data.peer, memory)
  | some .routeAdded | some .routeRemoved =>
      some (handleEvent .route data.eventCode data.route, memory)
  | some .addrAddedIp4 | some .addrRemovedIp4 => do
      -- ZT does not fill in the family
      let memory ← setAddrFamily memory data.addr ztsAfInet
      return (handleEvent .address data.eventCode data.addr, memory)
  | some .addrAddedIp6 | some .addrRemovedIp6 => do
      let memory ← setAddrFamily memory data.addr ztsAfInet6
      return (handleEvent .address data.eventCode data.addr, memory)
  | none => some (.onUnknownEvent data.eventCode, memory)

end Ztcpp
