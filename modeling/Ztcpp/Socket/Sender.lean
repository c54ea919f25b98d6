import Ztcpp.Socket.Methods

/-!
# The sender that `receiveFrom` reports

`receiveFrom` decodes its local socket address before it looks at the count.
When libzt left that local alone, the caller is given an address decoded from
whatever the stack held.
-/

namespace Ztcpp

open Octets Interaction

/-- The socket address after `zts_bsd_recvfrom`, which fills it when the count
is not negative and leaves it untouched otherwise. -/
def addrAfter (answer : BufferReply) (filled addr : SockaddrStorage) : SockaddrStorage :=
  if 0 ≤ answer.res then filled else addr

/-- libzt with one answer to `zts_bsd_recvfrom`. -/
def answering (answer : BufferReply) (filled : SockaddrStorage) : Service Libzt Unit where
  Admits _ c r :=
    match c, r with
    | .ztsBsdRecvfrom _ _ _ _ addr _, (r : BufferAddressReply) =>
        r = ⟨answer.toStatus, answer.buf, addrAfter answer filled addr⟩
    | _, _ => True
  next _ _ _ := ()

section

variable [Platform] {self self' : Impl} {stack : Stack} {buffer : Option (List UInt8)}
  {size : UInt64} {a : IpAddress} {p : UInt16} {answer : BufferReply} {filled : SockaddrStorage}
  {es : List ZtsEvent} {r : Impl.ReceivedFrom}

/-- One call of `receiveFrom` against this libzt. -/
def ReceivesFrom (self : Impl) (stack : Stack) (buffer : Option (List UInt8)) (size : UInt64)
    (a : IpAddress) (p : UInt16) (answer : BufferReply) (filled : SockaddrStorage)
    (r : Impl.ReceivedFrom) : Prop :=
  ∃ es self', (self.receiveFrom stack buffer size a p).Runs es (r, self') ∧
    (answering answer filled).AdmitsAll () es

/-- What the two output arguments of a call are to be, whatever they and the
local socket address held before. -/
structure SenderReported (impl : Impl) (buffer : Option (List UInt8)) (size : UInt64)
    (answer : BufferReply) (filled : SockaddrStorage) : Prop where
  failed : ∀ stack a p r, ReceivesFrom impl stack buffer size a p answer filled r →
    r.result.hasError = true → r.senderAddress = a ∧ r.senderPort = p
  succeeded : ∀ stack a p r, ReceivesFrom impl stack buffer size a p answer filled r →
    r.result.hasError = false →
      (r.senderAddress, r.senderPort) = toIpAddressAndPort stack.ipAddress filled
  independent : ∀ stack stack' a p r r', stack.ipAddress = stack'.ipAddress →
    ReceivesFrom impl stack buffer size a p answer filled r →
    ReceivesFrom impl stack' buffer size a p answer filled r' →
      r.senderAddress = r'.senderAddress ∧ r.senderPort = r'.senderPort

theorem receivesFrom_of_bad (hbad : buffer = none ∨ size = 0)
    (h : ReceivesFrom self stack buffer size a p answer filled r) :
    r.result.hasError = true ∧ r.senderAddress = a ∧ r.senderPort = p := by
  obtain ⟨es, self', hrun, -⟩ := h
  obtain ⟨-, ⟨-, -, hcode, ha, hp⟩ | ⟨hgood, -⟩⟩ := Impl.runs_receiveFrom hrun
  · refine ⟨?_, ha, hp⟩
    cases hr : r.result with
    | ok n => rw [hr] at hcode; cases hcode
    | error report => rfl
  · exact absurd hbad hgood

theorem receivesFrom_of_good (hgood : ¬ (buffer = none ∨ size = 0))
    (h : ReceivesFrom self stack buffer size a p answer filled r) :
    r.result = receivedResult "receiveFrom" "zts_recvfrom" answer.toStatus ∧
      (r.senderAddress, r.senderPort) =
        toIpAddressAndPort stack.ipAddress (addrAfter answer filled stack.sockaddr) := by
  obtain ⟨es, self', hrun, hadmits⟩ := h
  obtain ⟨-, ⟨hbad, -⟩ | ⟨-, reply, rfl, rfl⟩⟩ := Impl.runs_receiveFrom hrun
  · exact absurd hbad hgood
  · obtain rfl : reply = _ := hadmits.1
    exact ⟨rfl, rfl⟩

theorem exists_receivesFrom (self : Impl) (stack : Stack) (a : IpAddress) (p : UInt16)
    (answer : BufferReply) (filled : SockaddrStorage) (hgood : ¬ (buffer = none ∨ size = 0)) :
    ∃ r, ReceivesFrom self stack buffer size a p answer filled r := by
  let reply : BufferAddressReply :=
    ⟨answer.toStatus, answer.buf, addrAfter answer filled stack.sockaddr⟩
  have hrun : ∃ r, (self.receiveFrom stack buffer size a p).Runs [⟨.ztsBsdRecvfrom self.socketID
      (buffer.getD []) size 0 stack.sockaddr sizeofSockaddrStorage, reply⟩] (r, self) := by
    unfold Impl.receiveFrom
    rw [if_neg hgood]
    exact ⟨_, reply, [], rfl, rfl, rfl⟩
  obtain ⟨r, hrun⟩ := hrun
  exact ⟨r, _, self, hrun, rfl, trivial⟩

theorem sender_reported_iff :
    SenderReported self buffer size answer filled ↔
      (buffer = none ∨ size = 0) ∨ 0 < answer.res := by
  by_cases hbad : buffer = none ∨ size = 0
  · refine iff_of_true ⟨?_, ?_, ?_⟩ (.inl hbad)
    · intro stack a p r h _
      exact (receivesFrom_of_bad hbad h).2
    · intro stack a p r h herror
      rw [(receivesFrom_of_bad hbad h).1] at herror
      cases herror
    · intro stack stack' a p r r' _ h h'
      obtain ⟨-, ha, hp⟩ := receivesFrom_of_bad hbad h
      obtain ⟨-, ha', hp'⟩ := receivesFrom_of_bad hbad h'
      exact ⟨ha.trans ha'.symm, hp.trans hp'.symm⟩
  rw [or_iff_right hbad]
  constructor
  · intro h
    by_contra hres
    -- the caller's port before the call is one that is not decoded
    let stack : Stack := .filled 0
    let decoded := toIpAddressAndPort stack.ipAddress (addrAfter answer filled stack.sockaddr)
    obtain ⟨r, hr⟩ := exists_receivesFrom self stack stack.ipAddress (decoded.2 + 1) answer
      filled hbad
    obtain ⟨hresult, hsender⟩ := receivesFrom_of_good hbad hr
    have herror : r.result.hasError = true := by
      rw [hresult, receivedResult, if_neg hres]
      rfl
    have hport := (h.failed _ _ _ _ hr herror).2
    have hdecoded : r.senderPort = decoded.2 := congrArg Prod.snd hsender
    rw [hdecoded] at hport
    exact absurd hport (by simp)
  · intro hres
    have hfilled : ∀ addr, addrAfter answer filled addr = filled := fun addr ↦ if_pos hres.le
    refine ⟨?_, ?_, ?_⟩
    · intro stack a p r h herror
      rw [(receivesFrom_of_good hbad h).1, receivedResult, if_pos hres] at herror
      cases herror
    · intro stack a p r h _
      rw [(receivesFrom_of_good hbad h).2, hfilled]
    · intro stack stack' a p r r' hip h h'
      have hsame := (receivesFrom_of_good hbad h).2.trans
        ((congrArg₂ toIpAddressAndPort hip ((hfilled _).trans (hfilled _).symm)).trans
          (receivesFrom_of_good hbad h').2.symm)
      exact Prod.mk.inj hsame

end

/-- An error leaves the caller with an address from uninitialised memory. -/
theorem failed_receive_reports_sender :
    ¬ ∀ (self : Impl) (buffer : Option (List UInt8)) (size : UInt64) (answer : BufferReply)
      (filled : SockaddrStorage), SenderReported self buffer size answer filled := by
  intro h
  let failure : BufferReply := ⟨⟨-1, 0⟩, [0]⟩
  have hreported := h ⟨.internetProtocolIPv4, .datagram, 3⟩ (some [0]) 1 failure (Image.zeros _)
  have hgood : ¬ ((some [0] : Option (List UInt8)) = none ∨ (1 : UInt64) = 0) := by decide
  obtain ⟨r, hr⟩ := exists_receivesFrom ⟨.internetProtocolIPv4, .datagram, 3⟩ (.filled 2)
    (Stack.filled 0).ipAddress 0 failure (Image.zeros _) hgood
  obtain ⟨hresult, hsender⟩ := receivesFrom_of_good hgood hr
  have hport := (hreported.failed _ _ _ _ hr (by rw [hresult]; rfl)).2
  -- the stack holds family code 2 and the port 514
  have hstack : (toIpAddressAndPort (Stack.filled 2).ipAddress (Stack.filled 2).sockaddr).2 = 514 :=
    by decide
  have hdecoded : r.senderPort = 514 := (congrArg Prod.snd hsender).trans hstack
  rw [hdecoded] at hport
  exact absurd hport (by decide)

end Ztcpp
