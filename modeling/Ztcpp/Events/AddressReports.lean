import Ztcpp.Events.Delivery

/-!
# What address events report

The dispatcher writes the family into the payload before the handler sees it,
and the getters of `AddressDetails` read the payload through the decoder of
socket addresses.
-/

namespace Ztcpp

open Octets

/-- `DataToAddressDetails`; `none` when its assertion fails. -/
def dataToAddressDetails (addrs : AddrMemory) (aData : Option ℕ) : Option AddrInfo :=
  aData.map addrs

/-- `AddressDetails::getNetworkID`, for a details object that holds `data`. -/
def AddressDetails.getNetworkID (addrs : AddrMemory) (data : Option ℕ) : Option UInt64 :=
  (dataToAddressDetails addrs data).map AddrInfo.netId

/-- `AddressDetails::getIpAddress`. -/
def AddressDetails.getIpAddress [Platform] (stack : IpAddress) (addrs : AddrMemory)
    (data : Option ℕ) : Option IpAddress :=
  (dataToAddressDetails addrs data).map fun info ↦ (toIpAddressAndPort stack info.addr).1

def AddrInfo.withFamily (info : AddrInfo) (family : UInt8) : AddrInfo :=
  { info with addr := info.addr.write offsetFamily (Image.byte family) }

section

variable {info : AddrInfo} {b : UInt8}

@[simp] theorem AddrInfo.withFamily_netId : (info.withFamily b).netId = info.netId := rfl

@[simp] theorem AddrInfo.withFamily_family : (info.withFamily b).addr.family = b := by
  rw [SockaddrStorage.family, AddrInfo.withFamily, Image.read_write]
  rfl

@[simp] theorem AddrInfo.withFamily_sinAddr :
    (info.withFamily b).addr.sinAddr = info.addr.sinAddr := by
  apply Image.read_write_of_disjoint
  decide

@[simp] theorem AddrInfo.withFamily_sin6Addr :
    (info.withFamily b).addr.sin6Addr = info.addr.sin6Addr := by
  apply Image.read_write_of_disjoint
  decide

theorem AddrInfo.withFamily_withFamily (c : UInt8) :
    (info.withFamily b).withFamily c = info.withFamily c := by
  simp only [AddrInfo.withFamily, Image.write_write]

theorem AddrInfo.withFamily_apply_of_ne {i : Fin sizeofSockaddrStorage} (h : i.1 ≠ offsetFamily) :
    (info.withFamily b).addr i = info.addr i :=
  Image.write_byte_of_ne _ _ h

theorem setAddrFamily_some {addrs : AddrMemory} (p : ℕ) :
    setAddrFamily addrs (some p) b = some (Function.update addrs p ((addrs p).withFamily b)) :=
  rfl

/-- Writing the family again changes nothing. -/
theorem setAddrFamily_setAddrFamily {addrs addrs' : AddrMemory} {addr : Option ℕ}
    (h : setAddrFamily addrs addr b = some addrs') : setAddrFamily addrs' addr b = some addrs' := by
  cases addr with
  | none => cases h
  | some p =>
      rw [setAddrFamily_some] at h
      cases h
      rw [setAddrFamily_some, Function.update_self, AddrInfo.withFamily_withFamily,
        Function.update_idem]

end

/-- What the getters return while `addrs'` is in memory, for a payload that
libzt delivered in `addrs`. -/
structure ReportsAddress [Platform] (addrs addrs' : AddrMemory) (p : ℕ) (family : AddressFamily) :
    Prop where
  networkID : AddressDetails.getNetworkID addrs' (some p) = some (addrs p).netId
  ipAddress : ∀ stack, ∃ a, AddressDetails.getIpAddress stack addrs' (some p) = some a ∧
    a.isValid ∧ a.getAddressFamily = family ∧ a.octets = (addrs p).addr.octets family

/-- Nothing but the family byte of the payload at `p` may differ. -/
structure SameButFamily (memory memory' : EventMemory) (p : ℕ) : Prop where
  messages : memory'.messages = memory.messages
  others : memory'.others = memory.others
  addrs : ∀ q ≠ p, memory'.addrs q = memory.addrs q
  netId : (memory'.addrs p).netId = (memory.addrs p).netId
  bytes : ∀ i : Fin sizeofSockaddrStorage, i.1 ≠ offsetFamily →
    (memory'.addrs p).addr i = (memory.addrs p).addr i

theorem sameButFamily_update (memory : EventMemory) (p : ℕ) (b : UInt8) :
    SameButFamily memory { memory with
      addrs := Function.update memory.addrs p ((memory.addrs p).withFamily b) } p where
  messages := rfl
  others := rfl
  addrs := fun q hq ↦ Function.update_of_ne hq _ _
  netId := by simp
  bytes := by
    intro i hi
    simp only [Function.update_self]
    exact AddrInfo.withFamily_apply_of_ne hi

section

variable [Platform] {H : Type} {code : ZtsEventCode} {family : AddressFamily} {b : UInt8}

theorem toIpAddressAndPort_withFamily (stack : IpAddress) (info : AddrInfo)
    (hb : family.code = some b) :
    (toIpAddressAndPort stack (info.withFamily b).addr).1.isValid ∧
      (toIpAddressAndPort stack (info.withFamily b).addr).1.getAddressFamily = family ∧
      (toIpAddressAndPort stack (info.withFamily b).addr).1.octets = info.addr.octets family := by
  cases family with
  | ipv4 =>
      cases hb
      rw [toIpAddressAndPort_ipv4 stack AddrInfo.withFamily_family]
      simp [SockaddrStorage.octets]
  | ipv6 =>
      cases hb
      rw [toIpAddressAndPort_ipv6 stack AddrInfo.withFamily_family]
      simp [SockaddrStorage.octets]
  | unnamed raw hraw => cases hb

theorem reportsAddress_update (addrs : AddrMemory) (p : ℕ) (hb : family.code = some b) :
    ReportsAddress addrs (Function.update addrs p ((addrs p).withFamily b)) p family := by
  constructor
  · simp [AddressDetails.getNetworkID, dataToAddressDetails]
  · intro stack
    refine ⟨(toIpAddressAndPort stack ((addrs p).withFamily b).addr).1, ?_,
      toIpAddressAndPort_withFamily stack (addrs p) hb⟩
    simp [AddressDetails.getIpAddress, dataToAddressDetails]

/-- Events that are not address events leave the payloads alone. -/
theorem exists_dispatch_of_not_address {addrs : AddrMemory} {data : EventMessage}
    (h : ∀ code, code.category = .address → ztsEvent code ≠ data.eventCode.toInt) :
    ∃ callback, dispatch addrs data = some (callback, addrs) := by
  by_cases hcode : ∃ code, ztsEvent code = data.eventCode.toInt
  · obtain ⟨code, hcode⟩ := hcode
    have hfamily : code.addressFamily? = none := by
      by_contra hsome
      obtain ⟨family, hfamily⟩ := Option.ne_none_iff_exists'.mp hsome
      exact h code (ZtsEventCode.category_eq_address_iff.mpr ⟨family, hfamily⟩) hcode
    exact ⟨_, dispatch_of_other hcode hfamily⟩
  · exact ⟨_, dispatch_of_unknown fun code hc ↦ hcode ⟨code, hc⟩⟩

/-- Delivering an address event, and delivering it again. -/
theorem address_events_report (eventHandler : H) (memory : EventMemory) (m : ℕ) :
    (∀ code family p, ztsEvent code = (memory.messages m).eventCode.toInt →
      code.addressFamily? = some family → (memory.messages m).addr = some p →
      ∃ callback memory', callback =
          .onEvent .address (memory.messages m).eventCode.toInt (some p) ∧
        intermediateEventHandler (some eventHandler) memory (some m) =
          some ([(eventHandler, callback)], memory') ∧
        ReportsAddress memory.addrs memory'.addrs p family ∧ SameButFamily memory memory' p ∧
        intermediateEventHandler (some eventHandler) memory' (some m) =
          some ([(eventHandler, callback)], memory')) ∧
    ((∀ code, code.category = .address → ztsEvent code ≠ (memory.messages m).eventCode.toInt) →
      ∃ callbacks, intermediateEventHandler (some eventHandler) memory (some m) =
        some (callbacks, memory)) := by
  constructor
  · intro code family p hcode hfamily hp
    obtain ⟨b, hb⟩ := ZtsEventCode.exists_code hfamily
    have hset : setAddrFamily memory.addrs (some p) b = _ := setAddrFamily_some p
    refine ⟨_, { memory with
      addrs := Function.update memory.addrs p ((memory.addrs p).withFamily b) }, rfl, ?_,
      reportsAddress_update memory.addrs p hb, sameButFamily_update memory p b, ?_⟩
    · rw [intermediateEventHandler_eq, dispatch_of_address hcode hfamily hb, hp, hset]
      rfl
    · rw [intermediateEventHandler_eq, dispatch_of_address hcode hfamily hb, hp,
        setAddrFamily_setAddrFamily hset]
      rfl
  · intro hother
    obtain ⟨callback, hdispatch⟩ := @exists_dispatch_of_not_address _ memory.addrs _ hother
    refine ⟨[(eventHandler, callback)], ?_⟩
    rw [intermediateEventHandler_eq, hdispatch]
    rfl

end

theorem address_events_report_added_ipv4 :
    ∃ callback memory', callback = .onEvent .address 260 (some 7) ∧
      intermediateEventHandler (some ()) (.holding (addedIPv4Message (some 7))) (some 0) =
        some ([((), callback)], memory') ∧
      ReportsAddress (EventMemory.holding (addedIPv4Message (some 7))).addrs memory'.addrs 7 .ipv4 ∧
      SameButFamily (.holding (addedIPv4Message (some 7))) memory' 7 ∧
      intermediateEventHandler (some ()) memory' (some 0) = some ([((), callback)], memory') :=
  (address_events_report () (.holding (addedIPv4Message (some 7))) 0).1 .addrAddedIp4 .ipv4 7
    rfl rfl rfl

end Ztcpp
