import Mathlib.Data.List.Nodup
import Ztcpp.Events.HandlerLifetime
import Ztcpp.SockaddrUtil

/-!
# Delivery of event messages

One call of `IntermediateEventHandler` from its start to its return, with the
memory that the message and its payloads occupy, and the getters through which
a handler reads an address event.
-/

namespace Ztcpp

open Octets

/-- The enumerators of `EventCode`, each at the class whose callback takes it. -/
inductive EventCode : DetailClass → Type where
  | addressAddedIPv4 : EventCode .address
  | addressRemovedIPv4 : EventCode .address
  | addressAddedIPv6 : EventCode .address
  | addressRemovedIPv6 : EventCode .address
  | networkNotFound : EventCode .network
  | networkClientTooOld : EventCode .network
  | networkRequestingConfiguration : EventCode .network
  | networkOK : EventCode .network
  | networkAccessDenied : EventCode .network
  | networkReadyIPv4 : EventCode .network
  | networkReadyIPv6 : EventCode .network
  | networkReadyIPv4IPv6 : EventCode .network
  | networkDown : EventCode .network
  | networkUpdate : EventCode .network
  | networkInterfaceUp : EventCode .networkInterface
  | networkInterfaceDown : EventCode .networkInterface
  | networkInterfaceRemoved : EventCode .networkInterface
  | networkInterfaceLinkUp : EventCode .networkInterface
  | networkInterfaceLinkDown : EventCode .networkInterface
  | networkStackUp : EventCode .networkStack
  | networkStackDown : EventCode .networkStack
  | nodeUp : EventCode .node
  | nodeOnline : EventCode .node
  | nodeOffline : EventCode .node
  | nodeDown : EventCode .node
  | nodeIdentityCollision : EventCode .node
  | nodeUnrecoverableError : EventCode .node
  | nodeNormalTermination : EventCode .node
  | peerDirect : EventCode .peer
  | peerRelay : EventCode .peer
  | peerUnreachable : EventCode .peer
  | peerPathDiscovered : EventCode .peer
  | peerPathDead : EventCode .peer
  | routeAdded : EventCode .route
  | routeRemoved : EventCode .route

def EventCode.value {class' : DetailClass} : EventCode class' → ℤ
  | .addressAddedIPv4 => 260 | .addressRemovedIPv4 => 261
  | .addressAddedIPv6 => 262 | .addressRemovedIPv6 => 263
  | .networkNotFound => 210 | .networkClientTooOld => 211
  | .networkRequestingConfiguration => 212 | .networkOK => 213 | .networkAccessDenied => 214
  | .networkReadyIPv4 => 215 | .networkReadyIPv6 => 216 | .networkReadyIPv4IPv6 => 217
  | .networkDown => 218 | .networkUpdate => 219
  | .networkInterfaceUp => 230 | .networkInterfaceDown => 231 | .networkInterfaceRemoved => 232
  | .networkInterfaceLinkUp => 233 | .networkInterfaceLinkDown => 234
  | .networkStackUp => 220 | .networkStackDown => 221
  | .nodeUp => 200 | .nodeOnline => 201 | .nodeOffline => 202 | .nodeDown => 203
  | .nodeIdentityCollision => 204 | .nodeUnrecoverableError => 205 | .nodeNormalTermination => 206
  | .peerDirect => 240 | .peerRelay => 241 | .peerUnreachable => 242
  | .peerPathDiscovered => 243 | .peerPathDead => 244
  | .routeAdded => 250 | .routeRemoved => 251

namespace ZtsEventCode

/-- The enumerator that `EventDescription` describes by the name of a code. -/
def enumerator : ZtsEventCode → Σ class', EventCode class'
  | .nodeUp => ⟨_, .nodeUp⟩
  | .nodeOnline => ⟨_, .nodeOnline⟩
  | .nodeOffline => ⟨_, .nodeOffline⟩
  | .nodeDown => ⟨_, .nodeDown⟩
  | .networkNotFound => ⟨_, .networkNotFound⟩
  | .networkClientTooOld => ⟨_, .networkClientTooOld⟩
  | .networkReqConfig => ⟨_, .networkRequestingConfiguration⟩
  | .networkOk => ⟨_, .networkOK⟩
  | .networkAccessDenied => ⟨_, .networkAccessDenied⟩
  | .networkReadyIp4 => ⟨_, .networkReadyIPv4⟩
  | .networkReadyIp6 => ⟨_, .networkReadyIPv6⟩
  | .networkReadyIp4Ip6 => ⟨_, .networkReadyIPv4IPv6⟩
  | .networkDown => ⟨_, .networkDown⟩
  | .networkUpdate => ⟨_, .networkUpdate⟩
  | .stackUp => ⟨_, .networkStackUp⟩
  | .stackDown => ⟨_, .networkStackDown⟩
  | .netifUp => ⟨_, .networkInterfaceUp⟩
  | .netifDown => ⟨_, .networkInterfaceDown⟩
  | .netifRemoved => ⟨_, .networkInterfaceRemoved⟩
  | .netifLinkUp => ⟨_, .networkInterfaceLinkUp⟩
  | .netifLinkDown => ⟨_, .networkInterfaceLinkDown⟩
  | .peerDirect => ⟨_, .peerDirect⟩
  | .peerRelay => ⟨_, .peerRelay⟩
  | .peerUnreachable => ⟨_, .peerUnreachable⟩
  | .peerPathDiscovered => ⟨_, .peerPathDiscovered⟩
  | .peerPathDead => ⟨_, .peerPathDead⟩
  | .routeAdded => ⟨_, .routeAdded⟩
  | .routeRemoved => ⟨_, .routeRemoved⟩
  | .addrAddedIp4 => ⟨_, .addressAddedIPv4⟩
  | .addrRemovedIp4 => ⟨_, .addressRemovedIPv4⟩
  | .addrAddedIp6 => ⟨_, .addressAddedIPv6⟩
  | .addrRemovedIp6 => ⟨_, .addressRemovedIPv6⟩

def category (code : ZtsEventCode) : DetailClass := code.enumerator.1

/-- The address family that the code of an address event names. -/
def addressFamily? : ZtsEventCode → Option AddressFamily
  | .addrAddedIp4 | .addrRemovedIp4 => some .ipv4
  | .addrAddedIp6 | .addrRemovedIp6 => some .ipv6
  | _ => none

theorem category_eq_address_iff {code : ZtsEventCode} :
    code.category = .address ↔ ∃ family, code.addressFamily? = some family := by
  cases code <;> simp [category, enumerator, addressFamily?]

theorem mem_all (code : ZtsEventCode) : code ∈ all := by
  cases code <;> decide

end ZtsEventCode

/-- The payload pointer of a category; the stack and the interfaces share one. -/
def EventMessage.payload (data : EventMessage) : DetailClass → Option ℕ
  | .address => data.addr
  | .network => data.network
  | .networkInterface | .networkStack => data.netif
  | .node => data.node
  | .peer => data.peer
  | .route => data.route

/-- libzt's memory during a delivery. -/
structure EventMemory where
  messages : ℕ → EventMessage
  addrs : AddrMemory
  /-- The payloads of the other categories, as bytes. -/
  others : ℕ → List UInt8

section

variable [Platform] {H : Type}

/-- `detail::IntermediateEventHandler`: the callbacks it makes and the memory
afterwards; `none` when a null pointer is dereferenced. -/
def intermediateEventHandler (g_eventHandler : Option H) (memory : EventMemory)
    (aEventMessage : Option ℕ) : Option (List (H × Callback) × EventMemory) :=
  match aEventMessage with
  | none => some ([], memory)
  | some data =>
      match g_eventHandler with
      | none => some ([], memory)
      | some eventHandler => do
          let (callback, addrs) ← dispatch memory.addrs (memory.messages data)
          return ([(eventHandler, callback)], { memory with addrs })

/-! ## What `dispatch` does -/

variable {code : ZtsEventCode} {data : EventMessage} {addrs : AddrMemory}

theorem ztsEvent_injective : Function.Injective ztsEvent := by
  intro a b h
  exact List.inj_on_of_nodup_map Platform.ztsEvent_nodup a.mem_all b.mem_all h

theorem find_ztsEvent {n : ℤ} (h : ztsEvent code = n) :
    (ZtsEventCode.all.find? fun c ↦ ztsEvent c = n) = some code := by
  cases hfind : ZtsEventCode.all.find? fun c ↦ ztsEvent c = n with
  | none => exact absurd (List.find?_eq_none.mp hfind code code.mem_all) (by simp [h])
  | some c =>
      have hc : ztsEvent c = n := by simpa using List.find?_some hfind
      rw [ztsEvent_injective (hc.trans h.symm)]

theorem dispatch_of_other (h : ztsEvent code = data.eventCode.toInt)
    (hother : code.addressFamily? = none) :
    dispatch addrs data =
      some (.onEvent code.category data.eventCode.toInt (data.payload code.category), addrs) := by
  unfold dispatch
  rw [find_ztsEvent h]
  simp only [handleEvent_eq]
  cases code <;> first | rfl | cases hother

theorem ZtsEventCode.exists_code {family : AddressFamily}
    (hfamily : code.addressFamily? = some family) : ∃ b, family.code = some b := by
  cases code with
  | addrAddedIp4 | addrRemovedIp4 | addrAddedIp6 | addrRemovedIp6 =>
      cases hfamily
      exact ⟨_, rfl⟩
  | _ => cases hfamily

theorem dispatch_of_address {family : AddressFamily} {b : UInt8}
    (h : ztsEvent code = data.eventCode.toInt) (hfamily : code.addressFamily? = some family)
    (hb : family.code = some b) :
    dispatch addrs data = (setAddrFamily addrs data.addr b).map
      fun addrs' ↦ (.onEvent .address data.eventCode.toInt data.addr, addrs') := by
  unfold dispatch
  rw [find_ztsEvent h]
  simp only [handleEvent_eq]
  cases code with
  | addrAddedIp4 | addrRemovedIp4 | addrAddedIp6 | addrRemovedIp6 =>
      cases hfamily
      cases hb
      cases data.addr <;> rfl
  | _ => cases hfamily

theorem dispatch_of_unknown (h : ∀ code, ztsEvent code ≠ data.eventCode.toInt) :
    dispatch addrs data = some (.onUnknownEvent data.eventCode, addrs) := by
  have hfind : (ZtsEventCode.all.find? fun c ↦ ztsEvent c = data.eventCode.toInt) = none := by
    rw [List.find?_eq_none]
    intro c _
    simp [h c]
  unfold dispatch
  rw [hfind]

theorem intermediateEventHandler_eq {eventHandler : H} {memory : EventMemory} {m : ℕ} :
    intermediateEventHandler (some eventHandler) memory (some m) =
      (dispatch memory.addrs (memory.messages m)).map
        fun r ↦ ([(eventHandler, r.1)], { memory with addrs := r.2 }) := by
  cases hdispatch : dispatch memory.addrs (memory.messages m) <;>
    simp [intermediateEventHandler, hdispatch]

/-! ## Exact dispatch -/

/-- The callback that a message is to cause. -/
structure Describes (data : EventMessage) (callback : Callback) : Prop where
  listed : ∀ code, ztsEvent code = data.eventCode.toInt →
    callback = .onEvent code.category data.eventCode.toInt (data.payload code.category) ∧
      ∃ aEventCode : EventCode code.category, aEventCode.value = data.eventCode.toInt
  unlisted : (∀ code, ztsEvent code ≠ data.eventCode.toInt) →
    callback = .onUnknownEvent data.eventCode

/-- No null pointer is dereferenced, and the callbacks made are those to make. -/
def DeliveredExactly (g_eventHandler : Option H) (memory : EventMemory)
    (aEventMessage : Option ℕ) : Prop :=
  ∃ callbacks memory',
    intermediateEventHandler g_eventHandler memory aEventMessage = some (callbacks, memory') ∧
    (aEventMessage = none ∨ g_eventHandler = none → callbacks = []) ∧
    ∀ m eventHandler, aEventMessage = some m → g_eventHandler = some eventHandler →
      ∃ callback, callbacks = [(eventHandler, callback)] ∧ Describes (memory.messages m) callback

/-- The message of an address event with a null `addr`. -/
def EventMessage.LacksAddr (data : EventMessage) : Prop :=
  data.addr = none ∧ ∃ code, code.category = .address ∧ ztsEvent code = data.eventCode.toInt

theorem dispatch_of_lacksAddr (h : data.LacksAddr) : dispatch addrs data = none := by
  obtain ⟨haddr, code, hcategory, hcode⟩ := h
  obtain ⟨family, hfamily⟩ := ZtsEventCode.category_eq_address_iff.mp hcategory
  obtain ⟨b, hb⟩ := ZtsEventCode.exists_code hfamily
  rw [dispatch_of_address hcode hfamily hb, haddr]
  rfl

theorem describes_of_code {details : Option ℕ} (hnumbers : ztsEvent code = code.enumerator.2.value)
    (h : ztsEvent code = data.eventCode.toInt) (hdetails : details = data.payload code.category) :
    Describes data (.onEvent code.category data.eventCode.toInt details) := by
  refine ⟨?_, fun hunknown ↦ absurd h (hunknown code)⟩
  intro code' h'
  obtain rfl := ztsEvent_injective (h'.trans h.symm)
  exact ⟨by rw [hdetails], code'.enumerator.2, hnumbers.symm.trans h'⟩

theorem exists_dispatch (hnumbers : ∀ code, ztsEvent code = code.enumerator.2.value)
    (h : ¬ data.LacksAddr) :
    ∃ callback addrs', dispatch addrs data = some (callback, addrs') ∧ Describes data callback := by
  by_cases hcode : ∃ code, ztsEvent code = data.eventCode.toInt
  · obtain ⟨code, hcode⟩ := hcode
    cases hfamily : code.addressFamily? with
    | none =>
        exact ⟨_, _, dispatch_of_other hcode hfamily, describes_of_code (hnumbers code) hcode rfl⟩
    | some family =>
        obtain ⟨b, hb⟩ := ZtsEventCode.exists_code hfamily
        have hcategory : code.category = .address :=
          ZtsEventCode.category_eq_address_iff.mpr ⟨family, hfamily⟩
        cases haddr : data.addr with
        | none => exact absurd ⟨haddr, code, hcategory, hcode⟩ h
        | some p =>
            have hdescribes := describes_of_code (hnumbers code) hcode rfl
            rw [hcategory] at hdescribes
            obtain ⟨addrs', haddrs⟩ : ∃ addrs', setAddrFamily addrs data.addr b = some addrs' :=
              ⟨_, by rw [haddr]; rfl⟩
            refine ⟨_, addrs', ?_, hdescribes⟩
            rw [dispatch_of_address hcode hfamily hb, haddrs]
            rfl
  · have hunknown : ∀ code, ztsEvent code ≠ data.eventCode.toInt :=
      fun code hc ↦ hcode ⟨code, hc⟩
    refine ⟨_, _, dispatch_of_unknown hunknown, ?_, fun _ ↦ rfl⟩
    intro code hc
    exact absurd hc (hunknown code)

theorem describes_of_dispatch (hnumbers : ∀ code, ztsEvent code = code.enumerator.2.value)
    {callback : Callback} {addrs' : AddrMemory}
    (h : dispatch addrs data = some (callback, addrs')) : Describes data callback := by
  have hlacks : ¬ data.LacksAddr := by
    intro hlacks
    rw [dispatch_of_lacksAddr hlacks] at h
    cases h
  obtain ⟨callback', addrs'', hdispatch, hdescribes⟩ := @exists_dispatch _ _ addrs hnumbers hlacks
  rw [hdispatch] at h
  cases h
  exact hdescribes

/-- In every interleaving of threads, the callback that begins is the one for
the message. -/
theorem EventHandling.callback_describes {T : Type} [DecidableEq T] {s s' : State T H} {t : T}
    {p : H} (hnumbers : ∀ code, ztsEvent code = code.enumerator.2.value)
    (hstep : (system T H).Step s (t, .other (.beginCallback p)) s') :
    ∃ data callback, (s.threads t).frame = .eventDispatch data (some p) ∧
      (s'.threads t).callbacks = ⟨p, callback⟩ :: (s.threads t).callbacks ∧
      Describes data callback := by
  obtain ⟨next, hlocal, hthreads, -⟩ := hstep
  rw [hthreads, Function.update_self]
  generalize s.threads t = th at hlocal
  cases hlocal with
  | beginCallback cs data _ memory memory' callback hdispatch =>
      exact ⟨data, callback, rfl, rfl, describes_of_dispatch hnumbers hdispatch⟩

theorem not_deliveredExactly {eventHandler : H} {memory : EventMemory} {m : ℕ}
    (h : (memory.messages m).LacksAddr) :
    ¬ DeliveredExactly (some eventHandler) memory (some m) := by
  rintro ⟨callbacks, memory', hcall, -⟩
  rw [intermediateEventHandler_eq, dispatch_of_lacksAddr h] at hcall
  cases hcall

/-- Dispatch is exact but for address events without a payload, whose null
pointer is written through before `HandleEvent` looks at it. -/
theorem delivered_exactly_iff (hnumbers : ∀ code, ztsEvent code = code.enumerator.2.value)
    (g_eventHandler : Option H) (memory : EventMemory) (aEventMessage : Option ℕ) :
    DeliveredExactly g_eventHandler memory aEventMessage ↔
      ¬ (g_eventHandler ≠ none ∧ ∃ m, aEventMessage = some m ∧ (memory.messages m).LacksAddr) := by
  constructor
  · rintro h ⟨hhandler, m, rfl, hlacks⟩
    obtain ⟨eventHandler, rfl⟩ := Option.ne_none_iff_exists'.mp hhandler
    exact not_deliveredExactly hlacks h
  · intro h
    cases aEventMessage with
    | none => exact ⟨[], memory, rfl, fun _ ↦ rfl, fun m _ hm ↦ absurd hm nofun⟩
    | some m =>
        cases g_eventHandler with
        | none => exact ⟨[], memory, rfl, fun _ ↦ rfl, fun _ _ _ hg ↦ absurd hg nofun⟩
        | some eventHandler =>
            have hlacks : ¬ (memory.messages m).LacksAddr :=
              fun hlacks ↦ h ⟨nofun, m, rfl, hlacks⟩
            obtain ⟨callback, addrs, hdispatch, hdescribes⟩ :=
              @exists_dispatch _ _ memory.addrs hnumbers hlacks
            refine ⟨[(eventHandler, callback)], { memory with addrs }, ?_, ?_, ?_⟩
            · rw [intermediateEventHandler_eq, hdispatch]
              rfl
            · rintro (hm | hg)
              · cases hm
              · cases hg
            · intro m' eventHandler' hm hg
              cases hm
              cases hg
              exact ⟨callback, rfl, hdescribes⟩

end

def nodeUpMessage : EventMessage := ⟨200, some 1, none, none, none, none, none⟩

def addedIPv4Message (addr : Option ℕ) : EventMessage := ⟨260, none, none, none, none, none, addr⟩

/-- Memory with one message in it, and zeros. -/
def EventMemory.holding (data : EventMessage) : EventMemory :=
  ⟨fun _ ↦ data, fun _ ↦ ⟨0, Image.zeros _⟩, fun _ ↦ []⟩

theorem delivered_exactly_node_up :
    DeliveredExactly (some ()) (.holding nodeUpMessage) (some 0) := by
  refine (delivered_exactly_iff ?_ _ _ _).mpr ?_
  · intro code
    cases code <;> rfl
  · rintro ⟨-, m, -, -, code, hcategory, hcode⟩
    obtain rfl : code = .nodeUp := ztsEvent_injective hcode
    cases hcategory

/-- `ZTS_EVENT_ADDR_ADDED_IP4` without an address. -/
theorem added_ipv4_without_addr :
    ¬ DeliveredExactly (some ()) (.holding (addedIPv4Message none)) (some 0) :=
  not_deliveredExactly ⟨rfl, .addrAddedIp4, rfl, rfl⟩

end Ztcpp
