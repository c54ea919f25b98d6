import Ztcpp.Library.Parties
import Ztcpp.Socket.Calls
import Ztcpp.Socket.Datagrams
import Ztcpp.Socket.Endpoints

/-!
# Programs that exchange datagrams

Any number of programs, each with its own Sockets and its own libzt, share the
packets that were sent so far.  The network may lose a packet, deliver it late,
in another order or more than once; what it does not do is make one up.  In
every interleaving, what `receive` and `receiveFrom` report was given to a
successful `send` or `sendTo` before, with the endpoint of the Socket that sent
it.
-/

namespace Ztcpp

open Octets Interaction LabelledSystem

structure Packet where
  /-- The socket address that the sending descriptor was bound to. -/
  source : Option SockaddrStorage
  destination : Option SockaddrStorage
  payload : List UInt8

/-- libzt on one host: the socket addresses of each descriptor, and the kind
that it was created with. -/
structure HostStore where
  endpoints : EndpointStore
  kinds : ℤ → ℤ

def HostStore.empty : HostStore := ⟨fun _ ↦ none, fun _ ↦ 0⟩

def IpAddress.Specified (a : IpAddress) : Prop := ∃ b ∈ a.octets, b ≠ 0

section

variable [Platform]

def SockaddrStorage.Specified (s : SockaddrStorage) : Prop :=
  ∃ family : AddressFamily, family.code = some s.family ∧ ∃ b ∈ s.octets family, b ≠ 0

def SockaddrStorage.portNumber (s : SockaddrStorage) : UInt16 :=
  UInt16.ofNat (load .bigEndian s.port)

/-- `zts_accept` gives out descriptors only for listeners, which are streams. -/
def hostStore : Service Libzt HostStore where
  Admits s c r :=
    endpointStore.Admits s.endpoints c r ∧
      match c, r with
      | .ztsAccept fd, (r : Status) => 0 ≤ r.res → 0 ≤ fd ∧ s.kinds fd ≠ ztsSockDgram
      | _, _ => True
  next s c r :=
    ⟨endpointStore.next s.endpoints c r,
      match c, r with
      | .ztsSocket _ type _, (r : Status) => Function.update s.kinds r.res type
      | .ztsAccept _, (r : Status) => Function.update s.kinds r.res ztsSockStream
      | _, _ => s.kinds⟩

/-- The packet that a successful call on a datagram descriptor sends. -/
def HostStore.sent? (s : HostStore) : (c : Call) → c.Reply → Option Packet
  | .ztsSend fd buf len _, (r : Status) =>
      if s.kinds fd = ztsSockDgram ∧ 0 ≤ r.res then
        some ⟨s.endpoints.stored fd .bound, s.endpoints.stored fd .connected, buf.take len.toNat⟩
      else none
  | .ztsBsdSendto fd buf len _ addr _, (r : Status) =>
      if s.kinds fd = ztsSockDgram ∧ 0 ≤ r.res then
        some ⟨s.endpoints.stored fd .bound, some addr, buf.take len.toNat⟩
      else none
  | _, _ => none

/-- The sender that libzt reports for a packet.  A Socket bound to the port 0
gets a port from libzt, and the unspecified address stands for any address of
the host. -/
def Names (source : Option SockaddrStorage) (sender : SockaddrStorage) : Prop :=
  ∀ s, source = some s → s.portNumber ≠ 0 →
    sender.family = s.family ∧ sender.port = s.port ∧ (s.Specified → SameEndpoint s sender)

/-- libzt hands the packet over on `fd` as the datagram `d`. -/
structure HostStore.Hands (s : HostStore) (fd : ℤ) (packet : Packet) (d : Datagram) : Prop where
  payload : d.payload = packet.payload
  sender : Names packet.source d.sender
  destination : ∀ target own, packet.destination = some target →
    s.endpoints.stored fd .bound = some own → own.portNumber ≠ 0 → target.port = own.port

/-- A datagram is sent whole or not at all, and is shorter than `2 ^ 16`. -/
def SendsWhole (s : HostStore) (fd : ℤ) (len : UInt64) (r : Status) : Prop :=
  0 ≤ r.res → 0 ≤ fd ∧ (s.kinds fd = ztsSockDgram → r.res = len.toNat ∧ len.toNat < 2 ^ 16)

/-- libzt on one host, with the packets sent so far by any host. -/
def mail : Service Libzt (HostStore × List Packet) where
  Admits s c r :=
    hostStore.Admits s.1 c r ∧
      match c, r with
      | .ztsSend fd _ len _, (r : Status) => SendsWhole s.1 fd len r
      | .ztsBsdSendto fd _ len _ _ _, (r : Status) => SendsWhole s.1 fd len r
      | .ztsRecv fd buf len _, (r : BufferReply) =>
          0 ≤ r.res → 0 ≤ fd ∧ (s.1.kinds fd = ztsSockDgram → ∃ packet ∈ s.2, ∃ d,
            s.1.Hands fd packet d ∧ HandsOver d buf len r.toStatus r.buf)
      | .ztsBsdRecvfrom fd buf len _ _ _, (r : BufferAddressReply) =>
          0 ≤ r.res → 0 ≤ fd ∧ (s.1.kinds fd = ztsSockDgram → ∃ packet ∈ s.2, ∃ d,
            s.1.Hands fd packet d ∧ HandsOver d buf len r.toStatus r.buf ∧ r.addr = d.sender)
      | _, _ => True
  next s c r := (hostStore.next s.1 c r, s.2 ++ (s.1.sent? c r).toList)

/-- A step of one program and its libzt, with the packets that all share. -/
def host : LabelledSystem (Session HostStore × List Packet) Step where
  Step s l t :=
    (sessions mail).Step ⟨s.1.world, s.1.libzt, s.2⟩ l ⟨t.1.world, t.1.libzt, t.2⟩

/-- The programs `P` on their hosts, and the packets sent so far. -/
abbrev Network (P : Type) := (P → Session HostStore) × List Packet

def network (P : Type) [DecidableEq P] : LabelledSystem (Network P) (P × Step) := sharing P host

def Network.start (P : Type) : Network P := (fun _ ↦ ⟨.start, .empty⟩, [])

theorem hostStore_refines : hostStore.Refines endpointStore HostStore.endpoints :=
  ⟨fun _ _ _ h ↦ h.1, fun _ _ _ _ ↦ rfl⟩

theorem mail_refines : mail.Refines hostStore Prod.fst :=
  ⟨fun _ _ _ h ↦ h.1, fun _ _ _ _ ↦ rfl⟩

theorem host_step {s t : Session HostStore × List Packet} {l : Step} (h : host.Step s l t) :
    (sessions hostStore).Step s.1 l t.1 := by
  obtain ⟨⟨world, libzt⟩, hstep, rfl, rfl⟩ :=
    sessions_simulates mail_refines _ ⟨s.1.world, s.1.libzt⟩ _ _ ⟨rfl, rfl⟩ h
  exact hstep

theorem Network.reaches {P : Type} [DecidableEq P] {ls : List (P × Step)} {s : Network P}
    (h : (network P).Run (.start P) ls s) (p : P) :
    Reaches hostStore .empty (labelsOf p ls) (s.1 p) :=
  LabelledSystem.Run.party id (fun _ _ _ hl ↦ host_step hl) h p

/-! ## The kind of a descriptor -/

/-- libzt has every open datagram Socket as one. -/
def KindsAgree (heap : ℕ → Set Impl) (kinds : ℤ → ℤ) : Prop :=
  ∀ a, ∀ impl ∈ heap a, impl.isOpen → impl.socketType = .datagram →
    kinds impl.socketID = ztsSockDgram

theorem KindsAgree.update {heap : ℕ → Set Impl} {kinds : ℤ → ℤ} {a : ℕ} {x : Impl} {kind : ℤ}
    (h : KindsAgree heap kinds)
    (hnew : 0 ≤ x.socketID → ∀ b, ∀ y ∈ heap b, y.isOpen → y.socketID ≠ x.socketID)
    (hx : x.isOpen → x.socketType = .datagram → kind = ztsSockDgram) :
    KindsAgree (Function.update heap a {x}) (Function.update kinds x.socketID kind) := by
  intro b y hy hopen htype
  rcases mem_update_heap.mp hy with ⟨-, rfl⟩ | ⟨-, hold⟩
  · rw [Function.update_self]
    exact hx hopen htype
  · have hne : y.socketID ≠ x.socketID := by
      intro heq
      have hnonneg : 0 ≤ x.socketID := heq ▸ Impl.isOpen_iff.mp hopen
      exact hnew hnonneg b y hold hopen heq
    rw [Function.update_of_ne hne]
    exact h b y hold hopen htype

theorem hostStore_kinds_of_uses {s : HostStore} {c : Call} {r : c.Reply} {fd : ℤ}
    (h : c.descriptorUse = .uses fd) : (hostStore.next s c r).kinds = s.kinds := by
  cases c with
  | ztsSocket | ztsAccept => cases h
  | _ => rfl

theorem KindsAgree.step {heap heap' : ℕ → Set Impl} {s : HostStore} {es : List ZtsEvent}
    (h : KindsAgree heap s.kinds) (hlive : ∀ a, ∀ y ∈ heap a, y.isOpen →
      s.endpoints y.socketID ≠ none)
    (heffect : World.HeapEffect heap es heap') (hadmits : hostStore.AdmitsAll s es) :
    KindsAgree heap' (hostStore.after s es).kinds := by
  have hfresh : ∀ {res : ℤ}, (0 ≤ res → s.endpoints res = none) → 0 ≤ res →
      ∀ b, ∀ y ∈ heap b, y.isOpen → y.socketID ≠ res := by
    rintro res hnone hres b y hy hopen rfl
    exact hlive b y hy hopen (hnone hres)
  -- the open objects left after a release were there before
  have hsub : ∀ {heap'' : ℕ → Set Impl}, (∀ b y, y ∈ heap'' b → y.isOpen → y ∈ heap b) →
      KindsAgree heap'' s.kinds :=
    fun hsub b y hy hopen htype ↦ h b y (hsub b y hy hopen) hopen htype
  cases heffect with
  | same => exact h
  | used a x hx e he =>
      rw [Service.after_cons, Service.after_nil, hostStore_kinds_of_uses he]
      exact h
  | constructed a ha =>
      refine hsub fun b y hy hopen ↦ ?_
      rcases mem_update_heap.mp hy with ⟨-, rfl⟩ | ⟨-, hold⟩
      · exact absurd hopen Impl.fresh_not_isOpen
      · exact hold
  | initialized a x hx d t hv reply =>
      refine h.update (x := ⟨d, t, reply.res⟩) (hfresh hadmits.1.1) fun _ htype ↦ ?_
      obtain rfl : t = .datagram := htype
      rfl
  | refused a x hx reply herror =>
      have hres := Impl.acceptError_neg herror
      intro b y hy hopen htype
      have hne : y.socketID ≠ reply.res := by
        have hnonneg := Impl.isOpen_iff.mp hopen
        omega
      refine (Function.update_of_ne hne _ _).trans ?_
      exact h b y hy hopen htype
  | accepted a x hx reply b hb =>
      refine h.update (x := { x with socketID := reply.res }) (hfresh hadmits.1.1)
        fun hopen htype ↦ ?_
      obtain ⟨hfd, hkind⟩ := hadmits.1.2 (Impl.isOpen_iff.mp hopen)
      exact absurd (h a x hx (Impl.isOpen_iff.mpr hfd) htype) hkind
  | closed a x hx hopen reply =>
      refine hsub fun b y hy hyopen ↦ ?_
      rcases mem_update_heap.mp hy with ⟨-, rfl⟩ | ⟨-, hold⟩
      · exact absurd (Impl.isOpen_iff.mp hyopen) (not_le.mpr Platform.ztsErrSocket_neg)
      · exact hold
  | deleted a x hx hopen => exact hsub fun b y hy _ ↦ (Ownership.mem_update_empty.mp hy).2
  | deletedOpen a x hx hopen reply =>
      exact hsub fun b y hy _ ↦ (Ownership.mem_update_empty.mp hy).2

theorem Reaches.kindsAgree {steps : List Step} {t : Session HostStore}
    (h : Reaches hostStore .empty steps t) : KindsAgree t.world.heap t.libzt.kinds := by
  refine LabelledSystem.Run.invariant (fun _ s ↦ KindsAgree s.world.heap s.libzt.kinds) h ?_ ?_
  · rintro a impl ⟨p, hp⟩
    simp at hp
  · intro steps s l u hreach hs hl
    have hreach' : Reaches hostStore .empty steps s := hreach
    have hopened := (hreach'.refines hostStore_refines).refines endpointStore_refines
    have heffect := hreach'.owned.heapEffect (sessions_effect hl)
    rw [hl.2.2]
    refine hs.step ?_ heffect hl.2.1
    rintro a y ⟨p, hp⟩ hopen
    exact hopened.live hp hopen

/-! ## What a program sends and receives -/

/-- The operation offers `payload` for the endpoint `target`, on the Socket at
`p` whose endpoints are `ends`. -/
inductive Op.Offers (ends : Endpoints) (p : ℕ) :
    Op → List UInt8 → Option (IpAddress × UInt16) → Prop where
  | send (data : Option (List UInt8)) (size : UInt64) :
      Offers ends p (.call p (.send data size)) ((data.getD []).take size.toNat) (ends .connected)
  | sendTo (stack : Stack) (data : Option (List UInt8)) (size : UInt64) (a : IpAddress)
      (port : UInt16) :
      Offers ends p (.call p (.sendTo stack data size a port)) ((data.getD []).take size.toNat)
        (some (a, port))

/-- The packet carries the endpoints that the program knows. -/
structure Packet.Carries (packet : Packet) (ends : Endpoints)
    (target : Option (IpAddress × UInt16)) : Prop where
  source : ∀ a port, ends .bound = some (a, port) →
    ∃ addr, packet.source = some addr ∧ Encodes addr a port
  destination : ∀ a port, target = some (a, port) →
    ∃ addr, packet.destination = some addr ∧ Encodes addr a port

theorem Represents.stored {stored : Endpoint → Option SockaddrStorage} {ends : Endpoints}
    (h : Represents stored ends) {e : Endpoint} {a : IpAddress} {port : UInt16}
    (he : ends e = some (a, port)) : ∃ addr, stored e = some addr ∧ Encodes addr a port := by
  obtain ⟨addr, hstored, hencodes, -⟩ := h e a port he
  exact ⟨addr, hstored, hencodes⟩

theorem hasError_sentResult_of_whole {function callee : String} {reply : Status}
    {size : UInt64} (hres : reply.res = size.toNat) (hsize : size.toNat < 2 ^ 16) :
    (sentResult function callee reply size).hasError = false := by
  have hcast : castSsize size = size.toNat := by
    rw [castSsize_eq_iff]
    rcases Platform.ssizeBits_eq with hbits | hbits
    · rw [hbits]
      omega
    · rw [hbits]
      omega
  unfold sentResult
  rw [if_pos (hres.trans hcast.symm)]
  rfl

variable {steps : List Step} {s t : Session HostStore × List Packet} {l : Step} {packet : Packet}
  {p : ℕ} {x : Object}

theorem HostStore.sent?_eq_some {store : HostStore} {e : ZtsEvent} {packet : Packet}
    (h : store.sent? e.call e.reply = some packet) :
    0 ≤ e.res ∧ ∃ fd, e.call.descriptorUse = .uses fd ∧ store.kinds fd = ztsSockDgram ∧
      packet.source = store.endpoints.stored fd .bound := by
  obtain ⟨c, r⟩ := e
  cases c with
  | ztsSend fd buf len flags =>
      obtain ⟨⟨hkind, hres⟩, heq⟩ := Option.ite_none_right_eq_some.mp h
      cases heq
      exact ⟨hres, fd, rfl, hkind, rfl⟩
  | ztsBsdSendto fd buf len flags addr addrlen =>
      obtain ⟨⟨hkind, hres⟩, heq⟩ := Option.ite_none_right_eq_some.mp h
      cases heq
      exact ⟨hres, fd, rfl, hkind, rfl⟩
  | _ => cases h

/-- A new packet of a step is the one that the only call of the step sent. -/
theorem host_sent (hl : host.Step s l t) (hnew : packet ∉ s.2) (hpacket : packet ∈ t.2) :
    ∃ p m x e, l.op = .call p m ∧ s.1.world.object? p = some x ∧ m.call? x.impl = some e.call ∧
      l.events = [e] ∧ s.1.libzt.sent? e.call e.reply = some packet := by
  have hmail : t.2 = (mail.after (s.1.libzt, s.2) l.events).2 := congrArg Prod.snd hl.2.2
  rw [hmail] at hpacket
  cases hes : l.events with
  | nil =>
      rw [hes] at hpacket
      exact absurd hpacket hnew
  | cons e rest =>
      have he : e ∈ l.events := hes ▸ List.mem_cons_self
      obtain ⟨hone, hcase⟩ := World.exec_call hl.1 he
      rw [hone] at hpacket
      have hsent : s.1.libzt.sent? e.call e.reply = some packet := by
        rcases List.mem_append.mp hpacket with hold | hsent
        · exact absurd hold hnew
        · exact Option.mem_toList.mp hsent
      rcases hcase with ⟨p, m, x, hop, hx, hcall⟩ | ⟨fd, hother⟩
      · exact ⟨p, m, x, e, hop, hx, hcall, hes ▸ hone, hsent⟩
      · obtain ⟨-, fd', huse, -⟩ := HostStore.sent?_eq_some hsent
        rcases hother with hother | hother
        · rw [hother] at huse
          cases huse
        · rw [hother] at huse
          cases huse

/-- A packet that appears in a step was offered by a call that succeeded. -/
theorem host_offers (hreach : Reaches hostStore .empty steps s.1) (hl : host.Step s l t)
    (hnew : packet ∉ s.2) (hpacket : packet ∈ t.2) :
    ∃ p target, l.op.Offers (endpointsOf steps p) p packet.payload target ∧
      l.outcome.hasError = false ∧ packet.Carries (endpointsOf steps p) target := by
  have hagree := (hreach.refines hostStore_refines).endpointsAgree
  obtain ⟨p, m, x, e, hop, hx, hcall, hevents, hsent⟩ := host_sent hl hnew hpacket
  obtain ⟨hexec, hadmits, -⟩ := hl
  rw [hop] at hexec ⊢
  obtain ⟨impl, hm, -⟩ := World.runs_call_of_object hx hexec
  rw [hevents] at hadmits hm
  obtain ⟨-, hwhole⟩ := hadmits.1
  obtain ⟨c, reply⟩ := e
  cases m with
  | send data size =>
      obtain rfl := Option.some.inj hcall
      obtain ⟨⟨hkind, hres⟩, hpacket'⟩ := Option.ite_none_right_eq_some.mp hsent
      obtain rfl := Option.some.inj hpacket'
      obtain ⟨hfd, hcount⟩ := hwhole hres
      obtain ⟨hcount, hsize⟩ := hcount hkind
      obtain ⟨r, hrun, hout⟩ := Method.runs_returning.mp hm
      obtain ⟨-, ⟨-, hnone, -⟩ | ⟨-, reply', heq, rfl⟩⟩ := Impl.runs_send hrun
      · cases hnone
      · cases heq
        have hrep := hagree p x hx (Impl.isOpen_iff.mpr hfd)
        refine ⟨p, _, .send data size, ?_, fun a port ↦ hrep.stored, fun a port ↦ hrep.stored⟩
        rw [hout, Outcome.hasError_eq rfl]
        exact hasError_sentResult_of_whole hcount hsize
  | sendTo stack data size a port =>
      obtain ⟨addr, haddr, rfl⟩ := Option.map_eq_some_iff.mp hcall
      obtain ⟨⟨hkind, hres⟩, hpacket'⟩ := Option.ite_none_right_eq_some.mp hsent
      obtain rfl := Option.some.inj hpacket'
      obtain ⟨hfd, hcount⟩ := hwhole hres
      obtain ⟨hcount, hsize⟩ := hcount hkind
      obtain ⟨r, hrun, hout⟩ := Method.runs_returning.mp hm
      obtain ⟨-, ⟨-, hnone, -⟩ | ⟨-, addr', reply', -, heq, rfl⟩⟩ := Impl.runs_sendTo hrun
      · cases hnone
      · cases heq
        have hrep := hagree p x hx (Impl.isOpen_iff.mpr hfd)
        refine ⟨p, _, .sendTo stack data size a port, ?_, fun a port ↦ hrep.stored, ?_⟩
        · rw [hout, Outcome.hasError_eq rfl]
          exact hasError_sentResult_of_whole hcount hsize
        · rintro b n ⟨⟩
          exact ⟨addr, rfl, (encodes_of_toSockaddr haddr).2⟩
  | bind | connect =>
      obtain ⟨addr, -, rfl⟩ := Option.map_eq_some_iff.mp hcall
      cases hsent
  | isOpen => cases hcall
  | _ =>
      obtain rfl := Option.some.inj hcall
      cases hsent

/-- What a receiving call makes of a datagram that libzt handed over. -/
theorem delivers_of_reply {d : Datagram} {reply : Status} {size : UInt64} (buf : List UInt8)
    {written : List UInt8} {function callee : String} (hpos : 0 < size.toNat)
    (hsize : l.op.bufferSize = size.toNat) (hres : 0 ≤ reply.res)
    (hrefused : l.Refused ↔ reply.res < 0)
    (hout : l.outcome.received? = some (receivedResult function callee reply, some written))
    (hover : HandsOver d buf size reply written)
    (hsender : ∀ p stack buffer size a q r, l.op = .call p (.receiveFrom stack buffer size a q) →
      l.outcome = .receivedFrom r →
        (r.senderAddress, r.senderPort) = toIpAddressAndPort stack.ipAddress d.sender) :
    (d.payload = [] → l.outcome.hasError) ∧
      (d.payload ≠ [] → ¬ l.outcome.hasError ∧ l.Delivers d) := by
  have hreceives : Ztcpp.Receives l [d] [] :=
    receives_of_reply buf hpos hsize hrefused hout (if_pos hres).symm
      fun _ ↦ ⟨d, [], rfl, hover, hsender⟩
  have hnot : ¬ l.Refused := fun h ↦ absurd (hrefused.mp h) (not_lt.mpr hres)
  obtain ⟨d', hd, hdelivers⟩ := hreceives.handed hnot
  obtain ⟨rfl, -⟩ := List.cons.inj hd
  exact hdelivers

/-- The call took one of the packets, and delivers it unless it is empty. -/
def Step.Picks (l : Step) (s : Session HostStore × List Packet) (fd : ℤ) : Prop :=
  0 ≤ fd ∧ ¬ l.Refused ∧ ∃ packet ∈ s.2, ∃ d, s.1.libzt.Hands fd packet d ∧
    (d.payload = [] → l.outcome.hasError) ∧
    (d.payload ≠ [] → ¬ l.outcome.hasError ∧ l.Delivers d)

theorem host_receive {buffer : List UInt8} {size : UInt64} (hpos : 0 < size.toNat)
    (hop : l.op = .call p (.receive (some buffer) size)) (hx : s.1.world.object? p = some x)
    (hkind : 0 ≤ x.impl.socketID → s.1.libzt.kinds x.impl.socketID = ztsSockDgram)
    (hl : host.Step s l t) : l.Refused ∧ l.outcome.hasError ∨ l.Picks s x.impl.socketID := by
  obtain ⟨hexec, hadmits, -⟩ := hl
  rw [hop] at hexec
  obtain ⟨impl, hm, -⟩ := World.runs_call_of_object hx hexec
  obtain ⟨r, hrun, hout⟩ := Method.runs_returning.mp hm
  obtain ⟨rfl, ⟨hbad, -⟩ | ⟨-, reply, hevents, rfl⟩⟩ := Impl.runs_receive hrun
  · exact absurd hbad (by rintro (hnone | rfl) <;> simp_all)
  rw [hevents] at hadmits
  have hrefused : l.Refused ↔ reply.res < 0 := by
    rw [Step.Refused, hevents]
    simp [ZtsEvent.res, Call.status]
  by_cases hres : 0 ≤ reply.res
  · obtain ⟨hfd, hpackets⟩ := hadmits.1.2 hres
    obtain ⟨packet, hpacket, d, hhands, hover⟩ := hpackets (hkind hfd)
    have hnot : ¬ l.Refused := fun h ↦ absurd (hrefused.mp h) (not_lt.mpr hres)
    refine .inr ⟨hfd, hnot, packet, hpacket, d, hhands, ?_⟩
    apply delivers_of_reply buffer hpos (by rw [hop]; rfl) hres hrefused (by rw [hout]; rfl) hover
    intro p' stack' buffer' size' a q r' hop'
    rw [hop] at hop'
    cases hop'
  · refine .inl ⟨hrefused.mpr (not_le.mp hres), ?_⟩
    rw [hout, Outcome.hasError_eq rfl]
    exact hasError_receivedResult_of_neg (not_le.mp hres)

/-- The answer of libzt to `receiveFrom`, and the packet it comes from. -/
theorem host_receiveFrom_reply {stack : Stack} {buffer : List UInt8} {size : UInt64} {a : IpAddress}
    {q : UInt16} (hpos : 0 < size.toNat)
    (hop : l.op = .call p (.receiveFrom stack (some buffer) size a q))
    (hx : s.1.world.object? p = some x)
    (hkind : 0 ≤ x.impl.socketID → s.1.libzt.kinds x.impl.socketID = ztsSockDgram)
    (hl : host.Step s l t) :
    ∃ reply : BufferAddressReply, (l.Refused ↔ reply.res < 0) ∧
      l.outcome = .receivedFrom ⟨⟨receivedResult "receiveFrom" "zts_recvfrom" reply.toStatus,
        some reply.buf⟩, (toIpAddressAndPort stack.ipAddress reply.addr).1,
          (toIpAddressAndPort stack.ipAddress reply.addr).2⟩ ∧
      (0 ≤ reply.res → 0 ≤ x.impl.socketID ∧ ∃ packet ∈ s.2, ∃ d,
        s.1.libzt.Hands x.impl.socketID packet d ∧
          HandsOver d buffer size reply.toStatus reply.buf ∧ reply.addr = d.sender) := by
  obtain ⟨hexec, hadmits, -⟩ := hl
  rw [hop] at hexec
  obtain ⟨impl, hm, -⟩ := World.runs_call_of_object hx hexec
  obtain ⟨r, hrun, hout⟩ := Method.runs_returning.mp hm
  obtain ⟨rfl, ⟨hbad, -⟩ | ⟨-, reply, hevents, rfl⟩⟩ := Impl.runs_receiveFrom hrun
  · exact absurd hbad (by rintro (hnone | rfl) <;> simp_all)
  rw [hevents] at hadmits
  refine ⟨reply, ?_, hout, fun hres ↦ ?_⟩
  · rw [Step.Refused, hevents]
    simp [ZtsEvent.res, Call.status]
  · obtain ⟨hfd, hpackets⟩ := hadmits.1.2 hres
    exact ⟨hfd, hpackets (hkind hfd)⟩

theorem host_receiveFrom {stack : Stack} {buffer : List UInt8} {size : UInt64} {a : IpAddress}
    {q : UInt16} (hpos : 0 < size.toNat)
    (hop : l.op = .call p (.receiveFrom stack (some buffer) size a q))
    (hx : s.1.world.object? p = some x)
    (hkind : 0 ≤ x.impl.socketID → s.1.libzt.kinds x.impl.socketID = ztsSockDgram)
    (hl : host.Step s l t) : l.Refused ∧ l.outcome.hasError ∨ l.Picks s x.impl.socketID := by
  obtain ⟨reply, hrefused, hout, hpackets⟩ := host_receiveFrom_reply hpos hop hx hkind hl
  by_cases hres : 0 ≤ reply.res
  · obtain ⟨hfd, packet, hpacket, d, hhands, hover, hsender⟩ := hpackets hres
    have hnot : ¬ l.Refused := fun h ↦ absurd (hrefused.mp h) (not_lt.mpr hres)
    refine .inr ⟨hfd, hnot, packet, hpacket, d, hhands, ?_⟩
    apply delivers_of_reply buffer hpos (by rw [hop]; rfl) hres hrefused (by rw [hout]; rfl) hover
    intro p' stack' buffer' size' a q r' hop' hr'
    rw [hop] at hop'
    rw [hout] at hr'
    cases hop'
    cases hr'
    rw [← hsender]
  · refine .inl ⟨hrefused.mpr (not_le.mp hres), ?_⟩
    rw [hout, Outcome.hasError_eq rfl]
    exact hasError_receivedResult_of_neg (not_le.mp hres)

theorem kind_of_datagram (hreach : Reaches hostStore .empty steps s.1)
    (hx : s.1.world.object? p = some x) (htype : x.impl.socketType = .datagram)
    (hfd : 0 ≤ x.impl.socketID) : s.1.libzt.kinds x.impl.socketID = ztsSockDgram :=
  hreach.kindsAgree x.address x.impl ⟨p, hx⟩ (Impl.isOpen_iff.mpr hfd) htype

/-- A receiving call is refused, or it takes a packet. -/
theorem host_receives (hreach : Reaches hostStore .empty steps s.1) (hop : l.op.Receives p)
    (hx : s.1.world.object? p = some x) (htype : x.impl.socketType = .datagram)
    (hl : host.Step s l t) : l.Refused ∧ l.outcome.hasError ∨ l.Picks s x.impl.socketID := by
  have hkind := kind_of_datagram hreach hx htype
  generalize hcall : l.op = op at hop
  cases hop with
  | receive buffer size hsize hpos => exact host_receive hpos hcall hx hkind hl
  | receiveFrom stack buffer size a q hsize hpos => exact host_receiveFrom hpos hcall hx hkind hl

/-! ## Where a packet comes from -/

theorem Encodes.portNumber {addr : SockaddrStorage} {a : IpAddress} {port : UInt16}
    (h : Encodes addr a port) : addr.portNumber = port := by
  rw [SockaddrStorage.portNumber, h.port, load_bigEndian_port]

theorem Encodes.specified {addr : SockaddrStorage} {a : IpAddress} {port : UInt16}
    (h : Encodes addr a port) (ha : a.Specified) : addr.Specified := by
  obtain ⟨b, hb, hne⟩ := ha
  rw [← h.octets] at hb
  exact ⟨a.getAddressFamily, h.family, b, hb, hne⟩

/-- What `receiveFrom` says about a sender that was bound to this endpoint. -/
structure Impl.ReceivedFrom.Reports (r : Impl.ReceivedFrom) (a : IpAddress) (port : UInt16) :
    Prop where
  isValid : r.senderAddress.isValid
  family : r.senderAddress.getAddressFamily = a.getAddressFamily
  port : r.senderPort = port
  octets : a.Specified → r.senderAddress.octets = a.octets

theorem toIpAddressAndPort_of_family {stack a : IpAddress} {s : SockaddrStorage}
    (h : a.getAddressFamily.code = some s.family) :
    (toIpAddressAndPort stack s).1.isValid ∧
      (toIpAddressAndPort stack s).1.getAddressFamily = a.getAddressFamily ∧
      (toIpAddressAndPort stack s).2 = s.portNumber := by
  cases hf : a.getAddressFamily with
  | ipv4 =>
      rw [hf, AddressFamily.code, Option.some.injEq] at h
      rw [toIpAddressAndPort_ipv4 stack h.symm]
      exact ⟨rfl, rfl, rfl⟩
  | ipv6 =>
      rw [hf, AddressFamily.code, Option.some.injEq] at h
      rw [toIpAddressAndPort_ipv6 stack h.symm]
      exact ⟨rfl, rfl, rfl⟩
  | unnamed raw hraw => simp [hf, AddressFamily.code] at h

theorem Names.reports {source : Option SockaddrStorage} {addr sender : SockaddrStorage}
    {stack a : IpAddress} {port : UInt16} {r : Impl.ReceivedFrom} (h : Names source sender)
    (hsource : source = some addr) (hencodes : Encodes addr a port) (hport : port ≠ 0)
    (hr : (r.senderAddress, r.senderPort) = toIpAddressAndPort stack sender) :
    r.Reports a port := by
  rw [← hencodes.portNumber] at hport
  obtain ⟨hfamily, hportBytes, hsame⟩ := h addr hsource hport
  have hcode : a.getAddressFamily.code = some sender.family := by
    rw [hfamily]
    exact hencodes.family
  obtain ⟨hvalid, hdecoded, hnumber⟩ := @toIpAddressAndPort_of_family _ stack _ _ hcode
  rw [← hr] at hvalid hdecoded hnumber
  refine ⟨hvalid, hdecoded, ?_, fun ha ↦ ?_⟩
  · refine hnumber.trans ?_
    rw [SockaddrStorage.portNumber, hportBytes]
    exact hencodes.portNumber
  · have hsender := (hsame (hencodes.specified ha)).encodes hencodes
    have hoctets := (@toIpAddressAndPort_of_encodes _ stack _ _ _ hsender).2.2.1
    rwa [← hr] at hoctets

/-- A packet that libzt hands over was meant for the port of the receiving Socket. -/
theorem HostStore.Hands.port_eq {d : Datagram} {ends : Endpoints}
    {target : Option (IpAddress × UInt16)} {a b : IpAddress} {port own : UInt16}
    (hhands : s.1.libzt.Hands x.impl.socketID packet d) (hcarries : packet.Carries ends target)
    (hreach : Reaches hostStore .empty steps s.1) (hx : s.1.world.object? p = some x)
    (hfd : 0 ≤ x.impl.socketID) (htarget : target = some (a, port))
    (hbound : endpointsOf steps p .bound = some (b, own)) (hown : own ≠ 0) : port = own := by
  obtain ⟨addr, hdest, hencodes⟩ := hcarries.destination a port htarget
  have hagree := (hreach.refines hostStore_refines).endpointsAgree
  have hrep := hagree p x hx (Impl.isOpen_iff.mpr hfd)
  obtain ⟨ownAddr, hstored, hown'⟩ := hrep.stored hbound
  have hportBytes := hhands.destination addr ownAddr hdest hstored (hown'.portNumber ▸ hown)
  rw [← hencodes.portNumber, ← hown'.portNumber, SockaddrStorage.portNumber, hportBytes]
  rfl

theorem op_of_receivedFrom {w w' : World} {op : Op} {es : List ZtsEvent} {r : Impl.ReceivedFrom}
    (hop : op.Receives p) (h : (w.exec op).Runs es (.receivedFrom r, w')) :
    ∃ stack buffer size a q, op = .call p (.receiveFrom stack buffer size a q) := by
  cases hop with
  | receive buffer size hsize hpos =>
      obtain ⟨x, impl, -, hm, -⟩ := World.runs_call h
      obtain ⟨r', -, hout⟩ := Method.runs_returning.mp hm
      cases hout
  | receiveFrom stack buffer size a q hsize hpos => exact ⟨_, _, _, _, _, rfl⟩

/-- The call returns these bytes, cut to the buffer. -/
def Step.Returns (l : Step) (payload : List UInt8) : Prop :=
  ∃ (count : UInt64) (buffer : List UInt8),
    l.outcome.received? = some (.ok count, some buffer) ∧
      count.toNat = min payload.length l.op.bufferSize ∧
      buffer.take count.toNat = payload.take l.op.bufferSize

variable {P : Type} [DecidableEq P] {ls : List (P × Step)} {u v : Network P} {q : P}

/-- Every packet in the network was sent by a step of the run. -/
theorem Network.exists_sender (h : (network P).Run (.start P) ls u) (hpacket : packet ∈ u.2) :
    ∃ before sender k after, ∃ w : Network P, ∃ w' p target,
      ls = before ++ (sender, k) :: after ∧ host.Step (w.1 sender, w.2) k w' ∧
      k.op.Offers (endpointsOf (labelsOf sender before) p) p packet.payload target ∧
      k.outcome.hasError = false ∧
      packet.Carries (endpointsOf (labelsOf sender before) p) target := by
  have hnone : packet ∉ (Network.start P).2 := List.not_mem_nil
  obtain ⟨w, ⟨sender, k⟩, w', htakes, hstep, hnew, hold⟩ :=
    h.exists_change (P := fun w ↦ packet ∈ w.2) hnone hpacket
  obtain ⟨before, after, -, rfl, hbefore, -, -⟩ := htakes
  obtain ⟨next, hk, -⟩ := hstep
  obtain ⟨p, target, hoffers, hok, hcarries⟩ :=
    host_offers (Network.reaches hbefore sender) hk hnew hold
  exact ⟨before, sender, k, after, w, _, p, target, rfl, hk, hoffers, hok, hcarries⟩

/-- In every interleaving of any number of programs: what a datagram Socket
receives was offered to a `send` or `sendTo` that succeeded before.  The bytes
are the ones offered, cut to the buffer; the reported sender is the endpoint
that the sending Socket was bound to; and the packet was meant for the port
that the receiving Socket is bound to. -/
theorem datagram_genuine (h : (network P).Run (.start P) ls u) {l : Step}
    (hl : (network P).Step u (q, l) v) (hx : (u.1 q).world.object? p = some x)
    (htype : x.impl.socketType = .datagram) (hop : l.op.Receives p)
    (hok : l.outcome.hasError = false) :
    ∃ before sender k after p' payload target, ls = before ++ (sender, k) :: after ∧
      k.op.Offers (endpointsOf (labelsOf sender before) p') p' payload target ∧
      k.outcome.hasError = false ∧ l.Returns payload ∧
      (∀ a port, endpointsOf (labelsOf sender before) p' .bound = some (a, port) → port ≠ 0 →
        ∀ r, l.outcome = .receivedFrom r → r.Reports a port) ∧
      (∀ a port b own, target = some (a, port) →
        endpointsOf (labelsOf q ls) p .bound = some (b, own) → own ≠ 0 → port = own) := by
  obtain ⟨next, hstep, -⟩ := hl
  have hreach := Network.reaches h q
  rcases host_receives hreach hop hx htype hstep with ⟨-, herror⟩ | hpicks
  · rw [hok] at herror
    cases herror
  obtain ⟨hfd, -, packet, hpacket, d, hhands, hempty, hfull⟩ := hpicks
  have hne : d.payload ≠ [] := by
    intro hnil
    rw [hok] at hempty
    cases hempty hnil
  obtain ⟨-, hreturns, hsender⟩ := hfull hne
  obtain ⟨before, sender, k, after, -, -, p', target, rfl, -, hoffers, hsent, hcarries⟩ :=
    Network.exists_sender h hpacket
  refine ⟨before, sender, k, after, p', packet.payload, target, rfl, hoffers, hsent, ?_, ?_, ?_⟩
  · rw [← hhands.payload]
    exact hreturns
  · intro a port hbound hport r hr
    obtain ⟨addr, hsource, hencodes⟩ := hcarries.source a port hbound
    have hexec := hstep.1
    rw [hr] at hexec
    obtain ⟨stack, buffer, size, a', q', hcall⟩ := op_of_receivedFrom hop hexec
    exact hhands.sender.reports hsource hencodes hport (hsender _ _ _ _ _ _ _ hcall hr)
  · intro a port b own htarget hbound hown
    exact hhands.port_eq hcarries hreach hx hfd htarget hbound hown

/-! ## Empty datagrams -/

/-- The buffers of the sending calls have the size that is passed with them. -/
def Op.BuffersSized : Op → Prop
  | .call _ (.send data size) | .call _ (.sendTo _ data size _ _) =>
      ∀ bytes, data = some bytes → bytes.length = size.toNat
  | _ => True

omit [Platform] in
theorem take_ne_nil {data : Option (List UInt8)} {size : UInt64}
    (hgood : ¬ (data = none ∨ size = 0))
    (hsized : ∀ bytes, data = some bytes → bytes.length = size.toNat) :
    (data.getD []).take size.toNat ≠ [] := by
  obtain ⟨bytes, rfl⟩ : ∃ bytes, data = some bytes :=
    Option.ne_none_iff_exists'.mp fun hnone ↦ hgood (.inl hnone)
  have hlength := hsized bytes rfl
  have hpos : size.toNat ≠ 0 := by
    intro hzero
    exact hgood (.inr (UInt64.toNat_inj.mp hzero))
  rw [Option.getD_some, List.take_of_length_le hlength.le]
  rintro rfl
  exact hpos hlength.symm

/-- Whoever sends with `send` or `sendTo` cannot send an empty datagram. -/
theorem offers_ne_nil {w w' : World} {op : Op} {es : List ZtsEvent} {o : Outcome} {ends : Endpoints}
    {payload : List UInt8} {target : Option (IpAddress × UInt16)}
    (h : (w.exec op).Runs es (o, w')) (hoffers : op.Offers ends p payload target)
    (hok : o.hasError = false) (hsized : op.BuffersSized) : payload ≠ [] := by
  cases hoffers with
  | send data size =>
      obtain ⟨x, impl, -, hm, -⟩ := World.runs_call h
      obtain ⟨r, hrun, rfl⟩ := Method.runs_returning.mp hm
      obtain ⟨-, ⟨-, -, hcode⟩ | ⟨hgood, -⟩⟩ := Impl.runs_send hrun
      · rw [Outcome.hasError, Outcome.errorCode?, hcode] at hok
        cases hok
      · exact take_ne_nil hgood hsized
  | sendTo stack data size a port =>
      obtain ⟨x, impl, -, hm, -⟩ := World.runs_call h
      obtain ⟨r, hrun, rfl⟩ := Method.runs_returning.mp hm
      refine take_ne_nil (fun hbad ↦ ?_) hsized
      obtain ⟨report, hret⟩ := @Impl.sendTo_of_empty _ x.impl stack _ _ a port hbad
      rw [hret] at hrun
      obtain ⟨-, ⟨⟩⟩ := hrun
      cases hok

theorem Network.payload_ne_nil (h : (network P).Run (.start P) ls u)
    (hsized : ∀ k ∈ ls, k.2.op.BuffersSized) {packet : Packet} (hpacket : packet ∈ u.2) :
    packet.payload ≠ [] := by
  obtain ⟨before, sender, k, after, w, w', p', target, rfl, hk, hoffers, hsent, -⟩ :=
    Network.exists_sender h hpacket
  have hmem : (sender, k) ∈ before ++ (sender, k) :: after := by simp
  exact offers_ne_nil hk.1 hoffers hsent (hsized _ hmem)

/-- Between programs that all send through this library no datagram is empty,
so that a datagram Socket fails to receive only when libzt refuses the call. -/
theorem datagram_errors_refused (h : (network P).Run (.start P) ls u)
    (hsized : ∀ k ∈ ls, k.2.op.BuffersSized) {l : Step} (hl : (network P).Step u (q, l) v)
    (hx : (u.1 q).world.object? p = some x) (htype : x.impl.socketType = .datagram)
    (hop : l.op.Receives p) :
    (∀ packet ∈ u.2, packet.payload ≠ []) ∧ (l.outcome.hasError = true ↔ l.Refused) := by
  refine ⟨fun packet hpacket ↦ Network.payload_ne_nil h hsized hpacket, ?_⟩
  obtain ⟨next, hstep, -⟩ := hl
  rcases host_receives (Network.reaches h q) hop hx htype hstep with ⟨hrefused, herror⟩ | hpicks
  · exact iff_of_true herror hrefused
  obtain ⟨-, hnot, packet, hpacket, d, hhands, -, hfull⟩ := hpicks
  have hne : d.payload ≠ [] := by
    rw [hhands.payload]
    exact Network.payload_ne_nil h hsized hpacket
  exact iff_of_false (hfull hne).1 hnot

theorem network_step_of_follow (q : P) (op : Op) (answer : (c : Call) → c.Reply)
    {es : List ZtsEvent} {o : Outcome} {w' : World}
    (h : ((u.1 q).world.exec op).follow answer = some (es, o, w'))
    (hs : mail.AdmitsAll ((u.1 q).libzt, u.2) es) :
    (network P).Step u (q, ⟨op, es, o⟩)
      (Function.update u.1 q ⟨w', (mail.after ((u.1 q).libzt, u.2) es).1⟩,
        (mail.after ((u.1 q).libzt, u.2) es).2) :=
  ⟨_, ⟨Prog.runs_of_follow h, hs, rfl⟩, rfl⟩

end

/-- An address of the overlay network. -/
def overlay (n : UInt8) : IpAddress :=
  .ipv4FromBinaryRepresentationInNetworkOrder ⟨Image.zeros 16, .ipv4, false⟩ [10, 0, 0, n].get

def blank : Stack := ⟨Image.zeros _, overlay 0⟩

def overlaySockaddr (n : UInt8) (port : UInt16) : SockaddrStorage :=
  (toSockaddr blank.sockaddr (overlay n) port).getD (Image.zeros _)

/-- libzt's answer to `zts_bsd_recvfrom` for two bytes from `10.0.0.1:90`. -/
def answerTwo : (c : Call) → c.Reply
  | .ztsBsdRecvfrom .. =>
      (⟨⟨2, 0⟩, [7, 8, 0, 0], overlaySockaddr 1 90⟩ : BufferAddressReply)
  | c => Call.answer 2 c

/-- `false`, bound to `10.0.0.1:90`, sends two bytes to `true`, bound to
`10.0.0.2:80`. -/
theorem exists_exchange : ∃ (ls : List (Bool × Step)) (u v : Network Bool) (l : Step) (x : Object),
    (network Bool).Run (.start Bool) ls u ∧ (network Bool).Step u (true, l) v ∧
      (u.1 true).world.object? 0 = some x ∧ x.impl.socketType = .datagram ∧ l.op.Receives 0 ∧
      l.outcome.hasError = false ∧ ∀ k ∈ ls, k.2.op.BuffersSized := by
  have h₀ : (network Bool).Run (.start Bool) [] (.start Bool) := .nil
  have h₁ := h₀.snoc (network_step_of_follow true (.construct 0) (Call.answer 0) rfl trivial)
  have h₂ := h₁.snoc (network_step_of_follow true
    (.call 0 (.init .internetProtocolIPv4 .datagram)) (Call.answer 3) rfl
    ⟨⟨⟨fun _ ↦ rfl, trivial⟩, trivial⟩, trivial⟩)
  have h₃ := h₂.snoc (network_step_of_follow true (.call 0 (.bind blank (overlay 2) 80))
    (Call.answer 0) rfl ⟨⟨⟨trivial, trivial⟩, trivial⟩, trivial⟩)
  have h₄ := h₃.snoc (network_step_of_follow false (.construct 0) (Call.answer 0) rfl trivial)
  have h₅ := h₄.snoc (network_step_of_follow false
    (.call 0 (.init .internetProtocolIPv4 .datagram)) (Call.answer 3) rfl
    ⟨⟨⟨fun _ ↦ rfl, trivial⟩, trivial⟩, trivial⟩)
  have h₆ := h₅.snoc (network_step_of_follow false (.call 0 (.bind blank (overlay 1) 90))
    (Call.answer 0) rfl ⟨⟨⟨trivial, trivial⟩, trivial⟩, trivial⟩)
  have h₇ := h₆.snoc (network_step_of_follow false
    (.call 0 (.sendTo blank (some [7, 8]) 2 (overlay 2) 80)) (Call.answer 2) rfl
    ⟨⟨⟨trivial, trivial⟩, fun _ ↦ ⟨by decide, fun _ ↦ ⟨rfl, by decide⟩⟩⟩, trivial⟩)
  refine ⟨_, _, _, _, _, h₇, network_step_of_follow true
    (.call 0 (.receiveFrom blank (some [0, 0, 0, 0]) 4 (overlay 0) 0)) answerTwo rfl
    ⟨⟨⟨trivial, trivial⟩, fun _ ↦ ⟨by decide, fun _ ↦ ⟨_, List.mem_cons_self,
      ⟨[7, 8], overlaySockaddr 1 90⟩, ⟨rfl, ?_, ?_⟩, ⟨rfl, rfl⟩, rfl⟩⟩⟩, trivial⟩,
    rfl, rfl, .receiveFrom _ _ _ _ _ rfl (by decide), rfl, by simp [Op.BuffersSized]⟩
  · rintro addr ⟨⟩ -
    exact ⟨rfl, rfl, fun _ ↦ ⟨rfl, rfl, fun _ ↦ rfl, fun _ ↦ rfl⟩⟩
  · rintro target own ⟨⟩ ⟨⟩ -
    rfl

theorem datagram_genuine_overlay :
    ∃ (ls : List (Bool × Step)) (u v : Network Bool) (l : Step),
      (network Bool).Run (.start Bool) ls u ∧ (network Bool).Step u (true, l) v ∧
      ∃ before sender k after p' payload target, ls = before ++ (sender, k) :: after ∧
        k.op.Offers (endpointsOf (labelsOf sender before) p') p' payload target ∧
        k.outcome.hasError = false ∧ l.Returns payload ∧
        (∀ a port, endpointsOf (labelsOf sender before) p' .bound = some (a, port) → port ≠ 0 →
          ∀ r, l.outcome = .receivedFrom r → r.Reports a port) ∧
        (∀ a port b own, target = some (a, port) →
          endpointsOf (labelsOf true ls) 0 .bound = some (b, own) → own ≠ 0 → port = own) := by
  obtain ⟨ls, u, v, l, x, h, hl, hx, htype, hop, hok, -⟩ := exists_exchange
  exact ⟨ls, u, v, l, h, hl, datagram_genuine h hl hx htype hop hok⟩

theorem datagram_errors_refused_overlay :
    ∃ (u v : Network Bool) (l : Step), (network Bool).Step u (true, l) v ∧ l.op.Receives 0 ∧
      (∀ packet ∈ u.2, packet.payload ≠ []) ∧ (l.outcome.hasError = true ↔ l.Refused) := by
  obtain ⟨ls, u, v, l, x, h, hl, hx, htype, hop, -, hsized⟩ := exists_exchange
  exact ⟨u, v, l, hl, hop, datagram_errors_refused h hsized hl hx htype hop⟩

end Ztcpp
