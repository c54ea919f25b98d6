import Ztcpp.Socket.Impl

/-!
# The methods of a Socket as one type

A `Method` is a call of one public method with its arguments; `Socket`
forwards each of them to its `Impl`.  `Method.Effect` says once what any such
call can do to the fields and to libzt, so that an invariant does not look at
the methods one by one.
-/

namespace Ztcpp

open Octets Interaction

inductive Method where
  | init (aSocketDomain : SocketDomain) (aSocketType : SocketType)
  | bind (stack : Stack) (aLocalIpAddress : IpAddress) (aLocalPortInHostOrder : UInt16)
  | connect (stack : Stack) (aRemoteIpAddress : IpAddress) (aRemotePortInHostOrder : UInt16)
  | listen (aMaxQueueSize : UInt64)
  | send (aData : Option (List UInt8)) (aDataByteSize : UInt64)
  | sendTo (stack : Stack) (aData : Option (List UInt8)) (aDataByteSize : UInt64)
      (aRemoteIpAddress : IpAddress) (aRemotePortInHostOrder : UInt16)
  | receive (aDestinationBuffer : Option (List UInt8)) (aDestinationBufferByteSize : UInt64)
  | receiveFrom (stack : Stack) (aDestinationBuffer : Option (List UInt8))
      (aDestinationBufferByteSize : UInt64) (aSenderAddress : IpAddress) (aSenderPort : UInt16)
  | isOpen
  | close
  | pollEvents (aInterestedIn : BitVec 32) (aMaxTimeToWait : Int64)
  | getLocalIpAddress (stack : Stack)
  | getLocalPort (stack : Stack)
  | getRemoteIpAddress (stack : Stack)
  | getRemotePort (stack : Stack)

def Method.endpoint? : Method → Option (IpAddress × UInt16)
  | .bind _ a port | .connect _ a port | .sendTo _ _ _ a port => some (a, port)
  | _ => none

inductive Outcome where
  | done
  | flag (b : Bool)
  | empty (r : EmptyResult)
  | count (r : Result UInt64)
  | received (r : Impl.Received)
  | receivedFrom (r : Impl.ReceivedFrom)
  | events (r : Result (BitVec 32))
  | address (r : Result IpAddress)
  | port (r : Result UInt16)

namespace Outcome

def errorCode? : Outcome → Option ErrorCode
  | .done | .flag _ => none
  | .empty r => r.errorCode?
  | .count r => r.errorCode?
  | .received r => r.result.errorCode?
  | .receivedFrom r => r.result.errorCode?
  | .events r => r.errorCode?
  | .address r => r.errorCode?
  | .port r => r.errorCode?

def hasError (o : Outcome) : Bool := o.errorCode?.isSome

theorem hasError_eq {α : Type} {r : Result α} {o : Outcome}
    (h : o.errorCode? = r.errorCode?) : o.hasError = r.hasError := by
  unfold hasError
  rw [h]
  cases r with
  | ok a => rfl
  | error report => rfl

end Outcome

namespace Method

variable [Platform]

/-- A method that may write the fields, with its result as an `Outcome`. -/
def returning {α : Type} (f : α → Outcome) (p : Prog Libzt (α × Impl)) :
    Prog Libzt (Outcome × Impl) :=
  Prod.map f id <$> p

def reading {α : Type} (self : Impl) (f : α → Outcome) (p : Prog Libzt α) :
    Prog Libzt (Outcome × Impl) :=
  (fun r ↦ (f r, self)) <$> p

def exec (self : Impl) : Method → Prog Libzt (Outcome × Impl)
  | .init d t => returning .empty (self.init d t)
  | .bind stack a p => returning .empty (self.bind stack a p)
  | .connect stack a p => returning .empty (self.connect stack a p)
  | .listen n => returning .empty (self.listen n)
  | .send data size => returning .count (self.send data size)
  | .sendTo stack data size a p => returning .count (self.sendTo stack data size a p)
  | .receive buffer size => returning .received (self.receive buffer size)
  | .receiveFrom stack buffer size a p =>
      returning .receivedFrom (self.receiveFrom stack buffer size a p)
  | .isOpen => reading self .flag (.ret self.isOpen)
  | .close => returning .empty self.close
  | .pollEvents events time => reading self .events (self.pollEvents events time)
  | .getLocalIpAddress stack => reading self .address (self.getLocalIpAddress stack)
  | .getLocalPort stack => reading self .port (self.getLocalPort stack)
  | .getRemoteIpAddress stack => reading self .address (self.getRemoteIpAddress stack)
  | .getRemotePort stack => reading self .port (self.getRemotePort stack)

omit [Platform] in
theorem runs_returning {α : Type} {f : α → Outcome} {p : Prog Libzt (α × Impl)}
    {es : List ZtsEvent} {o : Outcome} {self' : Impl} :
    (returning f p).Runs es (o, self') ↔ ∃ r, p.Runs es (r, self') ∧ o = f r := by
  rw [returning, Prog.runs_map]
  constructor
  · rintro ⟨⟨r, self''⟩, hrun, ⟨⟩⟩
    exact ⟨r, hrun, rfl⟩
  · rintro ⟨r, hrun, rfl⟩
    exact ⟨(r, self'), hrun, rfl⟩

omit [Platform] in
theorem runs_reading {α : Type} {self self' : Impl} {f : α → Outcome} {p : Prog Libzt α}
    {es : List ZtsEvent} {o : Outcome} :
    (reading self f p).Runs es (o, self') ↔ self' = self ∧ ∃ r, p.Runs es r ∧ o = f r := by
  rw [reading, Prog.runs_map]
  constructor
  · rintro ⟨r, hrun, ⟨⟩⟩
    exact ⟨rfl, r, hrun, rfl⟩
  · rintro ⟨rfl, r, hrun, rfl⟩
    exact ⟨r, hrun, rfl⟩

def ValidInit (d : SocketDomain) (t : SocketType) : Prop :=
  (d = .internetProtocolIPv4 ∨ d = .internetProtocolIPv6) ∧
    (t = .stream ∨ t = .datagram ∨ t = .raw)

instance (d : SocketDomain) (t : SocketType) : Decidable (ValidInit d t) :=
  inferInstanceAs (Decidable (_ ∧ _))

/-- The three ways in which a method call can go: `init` asks for a new
descriptor, `close` gives up an open one, and every other call leaves the
fields as they are and makes at most one call on the descriptor held. -/
inductive Effect (self : Impl) : Method → List ZtsEvent → Impl → Prop where
  | opens (d : SocketDomain) (t : SocketType) (reply : Status) (h : ValidInit d t) :
      Effect self (.init d t)
        [⟨.ztsSocket (Impl.getZTAddressFamily ⟨d, t, self.socketID⟩)
          (Impl.getZTSocketType ⟨d, t, self.socketID⟩)
          (Impl.getZTProtocolFamily ⟨d, t, self.socketID⟩), reply⟩] ⟨d, t, reply.res⟩
  | closes (reply : Status) (h : self.isOpen) :
      Effect self .close [⟨.ztsClose self.socketID, reply⟩] { self with socketID := ztsErrSocket }
  | uses (m : Method) (e : ZtsEvent) (h : e.call.descriptorUse = .uses self.socketID) :
      Effect self m [e] self
  | quiet (m : Method) : Effect self m [] self

end Method

namespace Impl

variable [Platform] {self self' : Impl} {es : List ZtsEvent}

theorem runs_encodeSockaddr {α : Type} {stack : Stack} {a : IpAddress} {p : UInt16}
    {f : SockaddrStorage → Prog Libzt α} {b : α} :
    (encodeSockaddr stack a p >>= f).Runs es b ↔
      ∃ s, toSockaddr stack.sockaddr a p = some s ∧ (f s).Runs es b := by
  unfold encodeSockaddr
  cases toSockaddr stack.sockaddr a p <;> simp

theorem runs_init {d : SocketDomain} {t : SocketType} {r : EmptyResult}
    (h : (self.init d t).Runs es (r, self')) :
    (¬ Method.ValidInit d t ∧ es = [] ∧ self' = self ∧ r.errorCode? = some .argumentError) ∨
      (Method.ValidInit d t ∧ ∃ reply : Status,
        es = [⟨.ztsSocket (getZTAddressFamily ⟨d, t, self.socketID⟩)
          (getZTSocketType ⟨d, t, self.socketID⟩)
          (getZTProtocolFamily ⟨d, t, self.socketID⟩), reply⟩] ∧
        self' = ⟨d, t, reply.res⟩ ∧ r = initResult reply) := by
  unfold init at h
  split_ifs at h with hd ht
  · obtain ⟨rfl, ⟨⟩⟩ := h
    exact .inl ⟨fun hv ↦ by simp_all [Method.ValidInit], rfl, rfl, rfl⟩
  · obtain ⟨rfl, ⟨⟩⟩ := h
    exact .inl ⟨fun hv ↦ by simp_all [Method.ValidInit], rfl, rfl, rfl⟩
  · obtain ⟨reply, _, rfl, rfl, ⟨⟩⟩ := h
    refine .inr ⟨⟨?_, ?_⟩, reply, rfl, rfl, rfl⟩
    · tauto
    · tauto

/-- The addresses that the guards of `bind`, `connect` and `sendTo` let pass. -/
def Accepts (self : Impl) (a : IpAddress) : Prop :=
  a.isValid ∧ a.getAddressFamily = self.getAddressFamily

theorem runs_bind {stack : Stack} {a : IpAddress} {p : UInt16} {r : EmptyResult}
    (h : (self.bind stack a p).Runs es (r, self')) :
    self' = self ∧
      ((¬ self.Accepts a ∧ es = [] ∧ r.errorCode? = some .argumentError) ∨
        (self.Accepts a ∧ ∃ (s : SockaddrStorage) (reply : Status),
          toSockaddr stack.sockaddr a p = some s ∧
          es = [⟨.ztsBsdBind self.socketID s sizeofSockaddrStorage, reply⟩] ∧
          r = statusResult "bind" "zts_bind" reply ())) := by
  unfold bind at h
  split_ifs at h with hv hf
  · obtain ⟨rfl, ⟨⟩⟩ := h
    exact ⟨rfl, .inl ⟨fun ha ↦ hf ha.2, rfl, rfl⟩⟩
  · obtain ⟨s, hs, reply, _, rfl, rfl, ⟨⟩⟩ := runs_encodeSockaddr.mp h
    exact ⟨rfl, .inr ⟨⟨hv, not_not.mp hf⟩, s, reply, hs, rfl, rfl⟩⟩
  · obtain ⟨rfl, ⟨⟩⟩ := h
    exact ⟨rfl, .inl ⟨fun ha ↦ hv ha.1, rfl, rfl⟩⟩

theorem runs_connect {stack : Stack} {a : IpAddress} {p : UInt16} {r : EmptyResult}
    (h : (self.connect stack a p).Runs es (r, self')) :
    self' = self ∧
      (((p = 0 ∨ ¬ self.Accepts a) ∧ es = [] ∧ r.errorCode? = some .argumentError) ∨
        (p ≠ 0 ∧ self.Accepts a ∧ ∃ (s : SockaddrStorage) (reply : Status),
          toSockaddr stack.sockaddr a p = some s ∧
          es = [⟨.ztsBsdConnect self.socketID s sizeofSockaddrStorage, reply⟩] ∧
          r = statusResult "connect" "zts_connect" reply ())) := by
  unfold connect at h
  split_ifs at h with hp hv hf
  · obtain ⟨rfl, ⟨⟩⟩ := h
    exact ⟨rfl, .inl ⟨.inl hp, rfl, rfl⟩⟩
  · obtain ⟨rfl, ⟨⟩⟩ := h
    exact ⟨rfl, .inl ⟨.inr fun ha ↦ hf ha.2, rfl, rfl⟩⟩
  · obtain ⟨s, hs, reply, _, rfl, rfl, ⟨⟩⟩ := runs_encodeSockaddr.mp h
    exact ⟨rfl, .inr ⟨hp, ⟨hv, not_not.mp hf⟩, s, reply, hs, rfl, rfl⟩⟩
  · obtain ⟨rfl, ⟨⟩⟩ := h
    exact ⟨rfl, .inl ⟨.inr fun ha ↦ hv ha.1, rfl, rfl⟩⟩

theorem runs_listen {n : UInt64} {r : EmptyResult} (h : (self.listen n).Runs es (r, self')) :
    self' = self ∧ ∃ reply : Status,
      es = [⟨.ztsBsdListen self.socketID ((n.toNat : ℤ).bmod (2 ^ 32)), reply⟩] ∧
      r = statusResult "listen" "zts_connect" reply () := by
  obtain ⟨reply, _, rfl, rfl, ⟨⟩⟩ := h
  exact ⟨rfl, reply, rfl, rfl⟩

theorem runs_send {data : Option (List UInt8)} {size : UInt64} {r : Result UInt64}
    (h : (self.send data size).Runs es (r, self')) :
    self' = self ∧
      (((data = none ∨ size = 0) ∧ es = [] ∧ r.errorCode? = some .argumentError) ∨
        (¬ (data = none ∨ size = 0) ∧ ∃ reply : Status,
          es = [⟨.ztsSend self.socketID (data.getD []) size 0, reply⟩] ∧
          r = sentResult "send" "zts_send" reply size)) := by
  unfold send at h
  split_ifs at h with hd
  · obtain ⟨rfl, ⟨⟩⟩ := h
    exact ⟨rfl, .inl ⟨hd, rfl, rfl⟩⟩
  · obtain ⟨reply, _, rfl, rfl, ⟨⟩⟩ := h
    exact ⟨rfl, .inr ⟨hd, reply, rfl, rfl⟩⟩

theorem runs_sendTo {stack : Stack} {data : Option (List UInt8)} {size : UInt64}
    {a : IpAddress} {p : UInt16} {r : Result UInt64}
    (h : (self.sendTo stack data size a p).Runs es (r, self')) :
    self' = self ∧
      (((data = none ∨ size = 0 ∨ ¬ self.Accepts a) ∧ es = [] ∧
          r.errorCode? = some .argumentError) ∨
        (self.Accepts a ∧ ∃ (s : SockaddrStorage) (reply : Status),
          toSockaddr stack.sockaddr a p = some s ∧
          es = [⟨.ztsBsdSendto self.socketID (data.getD []) size 0 s sizeofSockaddrStorage,
            reply⟩] ∧
          r = sentResult "sendTo" "zts_sendto" reply size)) := by
  unfold sendTo at h
  split_ifs at h with hd hv hf
  · obtain ⟨rfl, ⟨⟩⟩ := h
    exact ⟨rfl, .inl ⟨hd.imp_right .inl, rfl, rfl⟩⟩
  · obtain ⟨rfl, ⟨⟩⟩ := h
    exact ⟨rfl, .inl ⟨.inr (.inr fun ha ↦ hf ha.2), rfl, rfl⟩⟩
  · obtain ⟨s, hs, reply, _, rfl, rfl, ⟨⟩⟩ := runs_encodeSockaddr.mp h
    exact ⟨rfl, .inr ⟨⟨hv, not_not.mp hf⟩, s, reply, hs, rfl, rfl⟩⟩
  · obtain ⟨rfl, ⟨⟩⟩ := h
    exact ⟨rfl, .inl ⟨.inr (.inr fun ha ↦ hv ha.1), rfl, rfl⟩⟩

theorem runs_receive {buffer : Option (List UInt8)} {size : UInt64} {r : Received}
    (h : (self.receive buffer size).Runs es (r, self')) :
    self' = self ∧
      (((buffer = none ∨ size = 0) ∧ es = [] ∧ r.result.errorCode? = some .argumentError) ∨
        (¬ (buffer = none ∨ size = 0) ∧ ∃ reply : BufferReply,
          es = [⟨.ztsRecv self.socketID (buffer.getD []) size 0, reply⟩] ∧
          r = ⟨receivedResult "receive" "zts_recvfrom" reply.toStatus, some reply.buf⟩)) := by
  unfold receive at h
  split_ifs at h with hb
  · obtain ⟨rfl, ⟨⟩⟩ := h
    exact ⟨rfl, .inl ⟨hb, rfl, rfl⟩⟩
  · obtain ⟨reply, _, rfl, rfl, ⟨⟩⟩ := h
    exact ⟨rfl, .inr ⟨hb, reply, rfl, rfl⟩⟩

theorem runs_receiveFrom {stack : Stack} {buffer : Option (List UInt8)} {size : UInt64}
    {a : IpAddress} {p : UInt16} {r : ReceivedFrom}
    (h : (self.receiveFrom stack buffer size a p).Runs es (r, self')) :
    self' = self ∧
      (((buffer = none ∨ size = 0) ∧ es = [] ∧ r.result.errorCode? = some .argumentError ∧
          r.senderAddress = a ∧ r.senderPort = p) ∨
        (¬ (buffer = none ∨ size = 0) ∧ ∃ reply : BufferAddressReply,
          es = [⟨.ztsBsdRecvfrom self.socketID (buffer.getD []) size 0 stack.sockaddr
            sizeofSockaddrStorage, reply⟩] ∧
          r = ⟨⟨receivedResult "receiveFrom" "zts_recvfrom" reply.toStatus, some reply.buf⟩,
            (toIpAddressAndPort stack.ipAddress reply.addr).1,
            (toIpAddressAndPort stack.ipAddress reply.addr).2⟩)) := by
  unfold receiveFrom at h
  split_ifs at h with hb
  · obtain ⟨rfl, ⟨⟩⟩ := h
    exact ⟨rfl, .inl ⟨hb, rfl, rfl, rfl, rfl⟩⟩
  · obtain ⟨reply, _, rfl, rfl, ⟨⟩⟩ := h
    exact ⟨rfl, .inr ⟨hb, reply, rfl, rfl⟩⟩

theorem runs_close {r : EmptyResult} (h : self.close.Runs es (r, self')) :
    (¬ self.isOpen ∧ es = [] ∧ self' = self ∧ r = emptyResultOK) ∨
      (self.isOpen ∧ ∃ reply : Status, es = [⟨.ztsClose self.socketID, reply⟩] ∧
        self' = { self with socketID := ztsErrSocket } ∧ r = closeResult reply) := by
  unfold close at h
  split_ifs at h with ho
  · obtain ⟨reply, _, rfl, rfl, ⟨⟩⟩ := h
    exact .inr ⟨ho, reply, rfl, rfl, rfl⟩
  · obtain ⟨rfl, ⟨⟩⟩ := h
    exact .inl ⟨ho, rfl, rfl, rfl⟩

theorem runs_pollEvents {events : BitVec 32} {time : Int64} {r : Result (BitVec 32)}
    (h : (self.pollEvents events time).Runs es r) :
    (events = 0 ∧ es = [] ∧ r.errorCode? = some .argumentError) ∨
      (events ≠ 0 ∧ ∃ reply : PollReply,
        es = [⟨.ztsBsdPoll self.socketID (requestedEvents events) 1
          (time.toInt.bmod (2 ^ 32)), reply⟩] ∧
        r = pollResult reply) := by
  unfold pollEvents at h
  split_ifs at h with he
  · obtain ⟨rfl, rfl⟩ := h
    exact .inl ⟨he, rfl, rfl⟩
  · obtain ⟨reply, _, rfl, rfl, rfl⟩ := h
    exact .inr ⟨he, reply, rfl, rfl⟩

theorem runs_getEndpoint {α : Type} {function callee : String} {stack : Stack}
    {ask : ℤ → SockaddrStorage → Prog Libzt AddressReply} {part : IpAddress × UInt16 → α}
    {r : Result α} (h : (self.getEndpoint function callee stack ask part).Runs es r) :
    ∃ reply : AddressReply, (ask self.socketID stack.sockaddr).Runs es reply ∧
      r = statusResult function callee reply.toStatus
        (part (toIpAddressAndPort stack.ipAddress reply.addr)) := by
  obtain ⟨reply, front, back, rfl, hask, rfl, rfl⟩ := Prog.runs_bind.mp h
  exact ⟨reply, by rwa [List.append_nil], rfl⟩

omit [Platform] in
theorem runs_getsockname {fd : ℤ} {addr : SockaddrStorage} {reply : AddressReply}
    (h : (ztsBsdGetsockname fd addr).Runs es reply) :
    es = [⟨.ztsBsdGetsockname fd addr sizeofSockaddrStorage, reply⟩] := by
  obtain ⟨_, _, rfl, rfl, rfl⟩ := h
  rfl

omit [Platform] in
theorem runs_getpeername {fd : ℤ} {addr : SockaddrStorage} {reply : AddressReply}
    (h : (ztsBsdGetpeername fd addr).Runs es reply) :
    es = [⟨.ztsBsdGetpeername fd addr sizeofSockaddrStorage, reply⟩] := by
  obtain ⟨_, _, rfl, rfl, rfl⟩ := h
  rfl

theorem fresh_not_isOpen : ¬ fresh.isOpen := by
  rw [isOpen_iff]
  exact not_le.mpr Platform.ztsErrSocket_neg

theorem destroy_of_not_isOpen (h : ¬ self.isOpen) : self.destroy = .ret () := by
  unfold destroy close
  rw [if_neg h]
  rfl

theorem runs_destroy (h : self.destroy.Runs es ()) :
    (¬ self.isOpen ∧ es = []) ∨
      (self.isOpen ∧ ∃ reply : Status, es = [⟨.ztsClose self.socketID, reply⟩]) := by
  obtain ⟨⟨r, self'⟩, front, back, rfl, hclose, rfl, -⟩ := Prog.runs_bind.mp h
  rw [List.append_nil]
  rcases runs_close hclose with ⟨ho, rfl, -, -⟩ | ⟨ho, reply, rfl, -, -⟩
  · exact .inl ⟨ho, rfl⟩
  · exact .inr ⟨ho, reply, rfl⟩

/-- What `accept` makes of the reply: an error, or a copy of the listener with
the new descriptor. -/
def acceptResult (self : Impl) (reply : Status) : Result Impl :=
  match acceptError reply with
  | some report => .error report
  | none => .ok { self with socketID := reply.res }

/-- The `Impl` that `accept` constructs first is never open, so that deleting
it makes no call. -/
theorem accept_eq : self.accept = .call (.ztsAccept self.socketID) fun reply : Status ↦
    .ret (self.acceptResult reply, self) := by
  have hdestroy := destroy_of_not_isOpen fresh_not_isOpen
  unfold accept acceptResult
  simp only [callLibzt, Prog.perform_eq, Prog.call_bind, Prog.ret_bind, Prog.pure_eq, hdestroy]
  congr 1
  funext reply
  cases acceptError reply with
  | some report => rfl
  | none => rfl

theorem runs_accept {r : Result Impl} (h : self.accept.Runs es (r, self')) :
    self' = self ∧ ∃ reply : Status, es = [⟨.ztsAccept self.socketID, reply⟩] ∧
      ((∃ report, acceptError reply = some report ∧ r = .error report) ∨
        (acceptError reply = none ∧ r = .ok { self with socketID := reply.res })) := by
  rw [accept_eq] at h
  obtain ⟨reply, _, rfl, rfl, ⟨⟩⟩ := h
  refine ⟨rfl, reply, rfl, ?_⟩
  unfold acceptResult
  cases acceptError reply with
  | some report => exact .inl ⟨report, rfl, rfl⟩
  | none => exact .inr ⟨rfl, rfl⟩

theorem acceptError_neg {reply : Status} (h : (acceptError reply).isSome) : reply.res < 0 := by
  unfold acceptError at h
  split_ifs at h with h₁ h₂ h₃
  · rw [h₁]
    exact Platform.ztsErrSocket_neg
  · rw [h₂]
    exact Platform.ztsErrService_neg
  · rw [h₃]
    exact Platform.ztsErrArg_neg
  · exact absurd h (by simp)

end Impl

namespace Method

variable [Platform]

theorem exec_effect {self self' : Impl} {m : Method} {es : List ZtsEvent} {o : Outcome}
    (h : (exec self m).Runs es (o, self')) : Effect self m es self' := by
  cases m with
  | init d t =>
      obtain ⟨r, hrun, -⟩ := runs_returning.mp h
      rcases Impl.runs_init hrun with ⟨-, rfl, rfl, -⟩ | ⟨hv, reply, rfl, rfl, -⟩
      · exact .quiet _
      · exact .opens d t reply hv
  | bind stack a p =>
      obtain ⟨r, hrun, -⟩ := runs_returning.mp h
      obtain ⟨rfl, ⟨-, rfl, -⟩ | ⟨-, s, reply, -, rfl, -⟩⟩ := Impl.runs_bind hrun
      · exact .quiet _
      · exact .uses _ _ rfl
  | connect stack a p =>
      obtain ⟨r, hrun, -⟩ := runs_returning.mp h
      obtain ⟨rfl, ⟨-, rfl, -⟩ | ⟨-, -, s, reply, -, rfl, -⟩⟩ := Impl.runs_connect hrun
      · exact .quiet _
      · exact .uses _ _ rfl
  | listen n =>
      obtain ⟨r, hrun, -⟩ := runs_returning.mp h
      obtain ⟨rfl, reply, rfl, -⟩ := Impl.runs_listen hrun
      exact .uses _ _ rfl
  | send data size =>
      obtain ⟨r, hrun, -⟩ := runs_returning.mp h
      obtain ⟨rfl, ⟨-, rfl, -⟩ | ⟨-, reply, rfl, -⟩⟩ := Impl.runs_send hrun
      · exact .quiet _
      · exact .uses _ _ rfl
  | sendTo stack data size a p =>
      obtain ⟨r, hrun, -⟩ := runs_returning.mp h
      obtain ⟨rfl, ⟨-, rfl, -⟩ | ⟨-, s, reply, -, rfl, -⟩⟩ := Impl.runs_sendTo hrun
      · exact .quiet _
      · exact .uses _ _ rfl
  | receive buffer size =>
      obtain ⟨r, hrun, -⟩ := runs_returning.mp h
      obtain ⟨rfl, ⟨-, rfl, -⟩ | ⟨-, reply, rfl, -⟩⟩ := Impl.runs_receive hrun
      · exact .quiet _
      · exact .uses _ _ rfl
  | receiveFrom stack buffer size a p =>
      obtain ⟨r, hrun, -⟩ := runs_returning.mp h
      obtain ⟨rfl, ⟨-, rfl, -⟩ | ⟨-, reply, rfl, -⟩⟩ := Impl.runs_receiveFrom hrun
      · exact .quiet _
      · exact .uses _ _ rfl
  | isOpen =>
      obtain ⟨rfl, ⟨⟩⟩ := h
      exact .quiet _
  | close =>
      obtain ⟨r, hrun, -⟩ := runs_returning.mp h
      rcases Impl.runs_close hrun with ⟨-, rfl, rfl, -⟩ | ⟨ho, reply, rfl, rfl, -⟩
      · exact .quiet _
      · exact .closes reply ho
  | pollEvents events time =>
      obtain ⟨rfl, r, hrun, -⟩ := runs_reading.mp h
      rcases Impl.runs_pollEvents hrun with ⟨-, rfl, -⟩ | ⟨-, reply, rfl, -⟩
      · exact .quiet _
      · exact .uses _ _ rfl
  | getLocalIpAddress stack =>
      obtain ⟨rfl, r, hrun, -⟩ := runs_reading.mp h
      obtain ⟨reply, hask, -⟩ := Impl.runs_getEndpoint hrun
      exact Impl.runs_getsockname hask ▸ .uses _ _ rfl
  | getLocalPort stack =>
      obtain ⟨rfl, r, hrun, -⟩ := runs_reading.mp h
      obtain ⟨reply, hask, -⟩ := Impl.runs_getEndpoint hrun
      exact Impl.runs_getsockname hask ▸ .uses _ _ rfl
  | getRemoteIpAddress stack =>
      obtain ⟨rfl, r, hrun, -⟩ := runs_reading.mp h
      obtain ⟨reply, hask, -⟩ := Impl.runs_getEndpoint hrun
      exact Impl.runs_getpeername hask ▸ .uses _ _ rfl
  | getRemotePort stack =>
      obtain ⟨rfl, r, hrun, -⟩ := runs_reading.mp h
      obtain ⟨reply, hask, -⟩ := Impl.runs_getEndpoint hrun
      exact Impl.runs_getpeername hask ▸ .uses _ _ rfl

end Method

section

variable [Platform]

namespace Impl

variable {self : Impl} {a : IpAddress}

theorem bind_of_not_accepts (stack : Stack) (port : UInt16) (ha : ¬ self.Accepts a) :
    ∃ report : ErrorReport, report.errorCode = .argumentError ∧
      self.bind stack a port = .ret (.error report, self) := by
  unfold bind
  split_ifs with hvalid hfamily
  · exact ⟨_, rfl, rfl⟩
  · exact absurd ⟨hvalid, not_not.mp hfamily⟩ ha
  · exact ⟨_, rfl, rfl⟩

theorem connect_of_not_accepts (stack : Stack) (port : UInt16) (ha : ¬ self.Accepts a) :
    ∃ report : ErrorReport, report.errorCode = .argumentError ∧
      self.connect stack a port = .ret (.error report, self) := by
  unfold connect
  split_ifs with hport hvalid hfamily
  · exact ⟨_, rfl, rfl⟩
  · exact ⟨_, rfl, rfl⟩
  · exact absurd ⟨hvalid, not_not.mp hfamily⟩ ha
  · exact ⟨_, rfl, rfl⟩

theorem sendTo_of_not_accepts (stack : Stack) (data : Option (List UInt8)) (size : UInt64)
    (port : UInt16) (ha : ¬ self.Accepts a) :
    ∃ report : ErrorReport, report.errorCode = .argumentError ∧
      self.sendTo stack data size a port = .ret (.error report, self) := by
  unfold sendTo
  split_ifs with hdata hvalid hfamily
  · exact ⟨_, rfl, rfl⟩
  · exact ⟨_, rfl, rfl⟩
  · exact absurd ⟨hvalid, not_not.mp hfamily⟩ ha
  · exact ⟨_, rfl, rfl⟩

end Impl

theorem Method.exec_of_not_accepts {self : Impl} {m : Method} {a : IpAddress} {port : UInt16}
    (hm : m.endpoint? = some (a, port)) (ha : ¬ self.Accepts a) :
    ∃ o : Outcome, o.errorCode? = some .argumentError ∧ exec self m = .ret (o, self) := by
  cases m with
  | bind stack a port =>
      cases hm
      obtain ⟨report, hcode, hbind⟩ := Impl.bind_of_not_accepts stack port ha
      refine ⟨.empty (.error report), congrArg some hcode, ?_⟩
      rw [exec, hbind]
      rfl
  | connect stack a port =>
      cases hm
      obtain ⟨report, hcode, hconnect⟩ := Impl.connect_of_not_accepts stack port ha
      refine ⟨.empty (.error report), congrArg some hcode, ?_⟩
      rw [exec, hconnect]
      rfl
  | sendTo stack data size a port =>
      cases hm
      obtain ⟨report, hcode, hsendTo⟩ :=
        Impl.sendTo_of_not_accepts stack data size port ha
      refine ⟨.count (.error report), congrArg some hcode, ?_⟩
      rw [exec, hsendTo]
      rfl
  | _ => cases hm

end

end Ztcpp
