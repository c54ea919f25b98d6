import Ztcpp.Socket.Session

/-!
# The call of a method

Whatever its guards say, a method of `Impl` makes at most one call to libzt,
and the arguments of the method and the fields of the `Impl` determine it.
-/

namespace Ztcpp

open Interaction

section

variable [Platform] {self self' : Impl} {m : Method} {es : List ZtsEvent} {o : Outcome}

/-- The call that the method makes when it reaches one. -/
def Method.call? (self : Impl) : Method → Option Call
  | .init d t => some (.ztsSocket (Impl.getZTAddressFamily ⟨d, t, self.socketID⟩)
      (Impl.getZTSocketType ⟨d, t, self.socketID⟩) (Impl.getZTProtocolFamily ⟨d, t, self.socketID⟩))
  | .bind stack a port => (toSockaddr stack.sockaddr a port).map fun addr ↦
      .ztsBsdBind self.socketID addr sizeofSockaddrStorage
  | .connect stack a port => (toSockaddr stack.sockaddr a port).map fun addr ↦
      .ztsBsdConnect self.socketID addr sizeofSockaddrStorage
  | .listen n => some (.ztsBsdListen self.socketID ((n.toNat : ℤ).bmod (2 ^ 32)))
  | .send data size => some (.ztsSend self.socketID (data.getD []) size 0)
  | .sendTo stack data size a port => (toSockaddr stack.sockaddr a port).map fun addr ↦
      .ztsBsdSendto self.socketID (data.getD []) size 0 addr sizeofSockaddrStorage
  | .receive buffer size => some (.ztsRecv self.socketID (buffer.getD []) size 0)
  | .receiveFrom stack buffer size _ _ =>
      some (.ztsBsdRecvfrom self.socketID (buffer.getD []) size 0 stack.sockaddr
        sizeofSockaddrStorage)
  | .isOpen => none
  | .close => some (.ztsClose self.socketID)
  | .pollEvents events time => some (.ztsBsdPoll self.socketID (Impl.requestedEvents events) 1
      (time.toInt.bmod (2 ^ 32)))
  | .getLocalIpAddress stack | .getLocalPort stack =>
      some (.ztsBsdGetsockname self.socketID stack.sockaddr sizeofSockaddrStorage)
  | .getRemoteIpAddress stack | .getRemotePort stack =>
      some (.ztsBsdGetpeername self.socketID stack.sockaddr sizeofSockaddrStorage)

theorem Method.exec_call (h : (exec self m).Runs es (o, self')) :
    es = [] ∨ ∃ (c : Call) (r : c.Reply), m.call? self = some c ∧ es = [⟨c, r⟩] := by
  cases m with
  | init d t =>
      obtain ⟨r, hrun, -⟩ := runs_returning.mp h
      rcases Impl.runs_init hrun with ⟨-, hes, -⟩ | ⟨-, reply, hes, -⟩
      · exact .inl hes
      · exact .inr ⟨_, reply, rfl, hes⟩
  | bind stack a port =>
      obtain ⟨r, hrun, -⟩ := runs_returning.mp h
      obtain ⟨-, ⟨-, hes, -⟩ | ⟨-, addr, reply, haddr, hes, -⟩⟩ := Impl.runs_bind hrun
      · exact .inl hes
      · exact .inr ⟨_, reply, congrArg (Option.map _) haddr, hes⟩
  | connect stack a port =>
      obtain ⟨r, hrun, -⟩ := runs_returning.mp h
      obtain ⟨-, ⟨-, hes, -⟩ | ⟨-, -, addr, reply, haddr, hes, -⟩⟩ := Impl.runs_connect hrun
      · exact .inl hes
      · exact .inr ⟨_, reply, congrArg (Option.map _) haddr, hes⟩
  | listen n =>
      obtain ⟨r, hrun, -⟩ := runs_returning.mp h
      obtain ⟨-, reply, hes, -⟩ := Impl.runs_listen hrun
      exact .inr ⟨_, reply, rfl, hes⟩
  | send data size =>
      obtain ⟨r, hrun, -⟩ := runs_returning.mp h
      obtain ⟨-, ⟨-, hes, -⟩ | ⟨-, reply, hes, -⟩⟩ := Impl.runs_send hrun
      · exact .inl hes
      · exact .inr ⟨_, reply, rfl, hes⟩
  | sendTo stack data size a port =>
      obtain ⟨r, hrun, -⟩ := runs_returning.mp h
      obtain ⟨-, ⟨-, hes, -⟩ | ⟨-, addr, reply, haddr, hes, -⟩⟩ := Impl.runs_sendTo hrun
      · exact .inl hes
      · exact .inr ⟨_, reply, congrArg (Option.map _) haddr, hes⟩
  | receive buffer size =>
      obtain ⟨r, hrun, -⟩ := runs_returning.mp h
      obtain ⟨-, ⟨-, hes, -⟩ | ⟨-, reply, hes, -⟩⟩ := Impl.runs_receive hrun
      · exact .inl hes
      · exact .inr ⟨_, reply, rfl, hes⟩
  | receiveFrom stack buffer size a port =>
      obtain ⟨r, hrun, -⟩ := runs_returning.mp h
      obtain ⟨-, ⟨-, hes, -⟩ | ⟨-, reply, hes, -⟩⟩ := Impl.runs_receiveFrom hrun
      · exact .inl hes
      · exact .inr ⟨_, reply, rfl, hes⟩
  | isOpen => exact .inl h.1
  | close =>
      obtain ⟨r, hrun, -⟩ := runs_returning.mp h
      rcases Impl.runs_close hrun with ⟨-, hes, -⟩ | ⟨-, reply, hes, -⟩
      · exact .inl hes
      · exact .inr ⟨_, reply, rfl, hes⟩
  | pollEvents events time =>
      obtain ⟨-, r, hrun, -⟩ := runs_reading.mp h
      rcases Impl.runs_pollEvents hrun with ⟨-, hes, -⟩ | ⟨-, reply, hes, -⟩
      · exact .inl hes
      · exact .inr ⟨_, reply, rfl, hes⟩
  | getLocalIpAddress stack | getLocalPort stack =>
      obtain ⟨-, r, hrun, -⟩ := runs_reading.mp h
      obtain ⟨reply, hask, -⟩ := Impl.runs_getEndpoint hrun
      exact .inr ⟨_, reply, rfl, Impl.runs_getsockname hask⟩
  | getRemoteIpAddress stack | getRemotePort stack =>
      obtain ⟨-, r, hrun, -⟩ := runs_reading.mp h
      obtain ⟨reply, hask, -⟩ := Impl.runs_getEndpoint hrun
      exact .inr ⟨_, reply, rfl, Impl.runs_getpeername hask⟩

omit [Platform] in
theorem World.Deletes.call {x : Option Object} {e : ZtsEvent} (h : Deletes x es) (he : e ∈ es) :
    es = [e] ∧ ∃ fd, e.call = .ztsClose fd := by
  cases h with
  | none | notOpen => exact absurd he List.not_mem_nil
  | closes object hopen reply =>
      obtain rfl := List.mem_singleton.mp he
      exact ⟨rfl, _, rfl⟩

/-- An operation makes at most one call: that of the method, or one of the
calls that `accept` and the destructor make. -/
theorem World.exec_call {w w' : World} {op : Op} {e : ZtsEvent}
    (h : (w.exec op).Runs es (o, w')) (he : e ∈ es) :
    es = [e] ∧
      ((∃ p m x, op = .call p m ∧ w.object? p = some x ∧ m.call? x.impl = some e.call) ∨
        ∃ fd, e.call = .ztsAccept fd ∨ e.call = .ztsClose fd) := by
  cases op with
  | call p m =>
      obtain ⟨x, impl, hx, hm, -⟩ := runs_call h
      rcases Method.exec_call hm with rfl | ⟨c, r, hc, rfl⟩
      · exact absurd he List.not_mem_nil
      · obtain rfl := List.mem_singleton.mp he
        exact ⟨rfl, .inl ⟨p, m, x, rfl, hx, hc⟩⟩
  | accept p r =>
      obtain ⟨x, -, -, reply, rfl, -⟩ := runs_accept h
      obtain rfl := List.mem_singleton.mp he
      exact ⟨rfl, .inr ⟨_, .inl rfl⟩⟩
  | construct p | moveConstruct p q =>
      cases exec_effect h
      exact absurd he List.not_mem_nil
  | moveAssign p q =>
      cases exec_effect h with
      | assigned _ _ s _ hq hp hdelete =>
          obtain ⟨hes, fd, hfd⟩ := hdelete.call he
          exact ⟨hes, .inr ⟨fd, .inr hfd⟩⟩
  | destroy p =>
      cases exec_effect h with
      | destroyed _ s _ hp hdelete =>
          obtain ⟨hes, fd, hfd⟩ := hdelete.call he
          exact ⟨hes, .inr ⟨fd, .inr hfd⟩⟩

theorem Impl.sendTo_of_empty {self : Impl} {stack : Stack} {data : Option (List UInt8)}
    {size : UInt64} {a : IpAddress} {port : UInt16} (h : data = none ∨ size = 0) :
    ∃ report, self.sendTo stack data size a port = .ret (.error report, self) := by
  unfold sendTo
  rw [if_pos h]
  exact ⟨_, rfl⟩

end

end Ztcpp
