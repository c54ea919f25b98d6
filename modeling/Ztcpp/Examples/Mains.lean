import Ztcpp.Client

/-!
# The two example programs

The `main` functions of the example server and client, from the point where
their arguments are parsed.  Both wait for what the event thread writes, for as
long as it takes.  What the programs print is left out, but for one output of
the server that reads an array up to a NUL.
-/

namespace Ztcpp.Examples

open Interaction

/-- What the programs read that no call returns: memory that was not written,
and `localNode`, which the event thread writes, at each place where it is read. -/
structure Surroundings where
  /-- What the locals of the calls in the `i`-th turn of a loop hold; turn 10
  stands for the calls outside the loop. -/
  stack : ℕ → ℕ → Stack
  remotePort : ℕ → UInt16
  ip4 : ℕ → IpAddress
  /-- What the two waiting loops see when they look for the `k`-th time. -/
  online : ℕ → Bool
  networksJoinedCount : ℕ → Int32
  /-- For how many looks the waiting loops are followed. -/
  looks : ℕ

def bytesOf (text : String) : List UInt8 := text.toList.map fun c ↦ UInt8.ofNat c.toNat

def readyToReceiveAny : BitVec 32 :=
  PollEventBitmask.readyToReceive ||| PollEventBitmask.readyToReceivePriorityData

/-- `(*pollres & ReadyToReceiveAny) != 0`. -/
def readyToReceive : Outcome → Bool
  | .events (.ok bits) => bits &&& readyToReceiveAny ≠ 0
  | _ => false

/-- The buffer after a call of `receiveFrom` that was passed `recvBuf`. -/
def bufferAfter (recvBuf : List UInt8) : Outcome → List UInt8
  | .receivedFrom r => r.destinationBuffer.getD recvBuf
  | _ => recvBuf

/-- `std::cout << recvBuf`: an array that holds no NUL is read beyond its end,
for which nothing is defined. -/
def printString (recvBuf : List UInt8) : Client Unit :=
  if 0 ∈ recvBuf then pure () else Throwing.crash

section

variable [Platform] (around : Surroundings)

def checkedSocket (p : ℕ) (m : Method) : Client Unit := do
  let res ← Client.socket (.call p m)
  throwOnError res.report?

def checkedService (op : ServiceOp) : Client Unit := do
  let res ← Client.service op
  throwOnError res.report?

/-- The part that the programs share: configure the service, start the node,
wait until it is online, join the network, and wait for that. -/
def bringUp (identityPath : List UInt8) (nwid : UInt64) (ztServicePort : ℤ) : Client Unit := do
  checkedService (.setIdentityFromStorage identityPath)
  checkedService (.allowNetworkCaching true)
  checkedService (.allowPeerCaching true)
  checkedService (.allowIdentityCaching true)
  checkedService (.setPort (UInt16.ofInt ztServicePort))
  Client.setEventHandler (some 0)
  checkedService .start
  Throwing.waitWhile (fun k ↦ !around.online k) around.looks
  checkedService (.join nwid)
  Throwing.waitWhile (fun k ↦ around.networksJoinedCount k ≤ 0) around.looks

/-- The last lines of the `try` block. -/
def shutDown : Client Unit := do
  let _ ← Client.service .stop
  Client.setEventHandler none

/-- The `catch` clauses of the function try block. -/
def catching (body : Client Unit) : Prog Api (Option String) := do
  match ← body.run with
  | .ok () => return none
  | .error what => do
      let _ ← callApi (.service .stop)
      callApi (.setEventHandler none)
      return some what

variable [Inet]

/-! ## The server -/

def serverMessage : List UInt8 := bytesOf "Hello, me!"

/-- The `Result` of `getLocalPort` becomes the port through its conversion to `bool`. -/
def convertedPort (port : Outcome) : UInt16 := if port.hasError then 0 else 1

/-- One turn of the server's loop.  The Socket `socket` is at place 0, `sock2` at place 1. -/
def serverTurn (i : ℕ) (recvBuf : List UInt8) : Client (List UInt8) := do
  let pollres ← Client.socket (.call 0 (.pollEvents readyToReceiveAny 0))
  throwOnError pollres.report?
  if readyToReceive pollres then
    let remoteIp := IpAddress.construct (around.stack i 0).ipAddress
    let res ← Client.socket (.call 0
      (.receiveFrom (around.stack i 1) (some recvBuf) 128 remoteIp (around.remotePort i)))
    throwOnError res.report?
    printString (bufferAfter recvBuf res)
    return bufferAfter recvBuf res
  else
    let port ← Client.socket (.call 0 (.getLocalPort (around.stack i 2)))
    let _ ← Client.socket (.call 1 (.sendTo (around.stack i 3) (some serverMessage)
      (UInt64.ofNat serverMessage.length)
      (.ipv4FromString (around.stack i 4).ipAddress (bytesOf "127.0.0.1")) (convertedPort port)))
    return recvBuf

def serverBody (serverBindPort : ℤ) : Client Unit := do
  let res ← Client.socket (.call 0 (.init .internetProtocolIPv4 .datagram))
  let res2 ← Client.socket (.call 1 (.init .internetProtocolIPv4 .datagram))
  throwOnError res.report?
  throwOnError res2.report?
  checkedSocket 0 (.bind (around.stack 10 0) (around.ip4 0) (UInt16.ofInt serverBindPort))
  checkedSocket 1 (.bind (around.stack 10 1) (around.ip4 1) 0)
  checkedSocket 0 (.getLocalIpAddress (around.stack 10 2))
  checkedSocket 0 (.getLocalPort (around.stack 10 3))
  let _ ← Throwing.iterate (serverTurn around) 10 (List.replicate 128 0)
  checkedSocket 0 .close
  shutDown

def serverMain (identityPath : List UInt8) (nwid : UInt64) (serverBindPort ztServicePort : ℤ) :
    Prog Api (Option String) :=
  catching do
    bringUp around identityPath nwid ztServicePort
    withSocket 0 (withSocket 1 (serverBody around serverBindPort))

/-! ## The client -/

def clientMessage : List UInt8 := bytesOf "Welcome to the machine"

def clientTurn (remoteAddr : IpAddress) (remotePort : ℤ) (i : ℕ) : Unit → Client Unit := fun _ ↦
  checkedSocket 0 (.sendTo (around.stack i 0) (some clientMessage)
    (UInt64.ofNat clientMessage.length) remoteAddr (UInt16.ofInt remotePort))

def clientBody (remoteAddrStr : List UInt8) (remotePort : ℤ) : Client Unit := do
  checkedSocket 0 (.init .internetProtocolIPv4 .datagram)
  checkedSocket 0 (.bind (around.stack 10 0) (.ipv4Unspecified (around.stack 10 1).ipAddress) 0)
  let remoteAddr := IpAddress.ipv4FromStdString (around.stack 10 2).ipAddress remoteAddrStr
  if ¬ remoteAddr.isValid then
    throw "Invalid remote IP"
  let _ ← Throwing.iterate (clientTurn around remoteAddr remotePort) 10 ()
  checkedSocket 0 .close
  shutDown

def clientMain (identityPath : List UInt8) (nwid : UInt64) (remoteAddrStr : List UInt8)
    (remotePort ztServicePort : ℤ) : Prog Api (Option String) :=
  catching do
    bringUp around identityPath nwid ztServicePort
    withSocket 0 (clientBody around remoteAddrStr remotePort)

/-! ## What is left behind -/

variable {D : DatagramCondition} {A : Set ℕ} {s : ProcessState}
  {K : Set ℤ × List ZtsEvent → Prop}

omit [Inet] in
theorem within_throwOnError (report? : Option ErrorReport) :
    (throwOnError report?).run.Within {c : ApiCall | c.Ordinary D A} := by
  cases report? with
  | none => exact Prog.within_ret _
  | some report => exact Prog.within_ret _

omit [Inet] in
theorem within_checkedSocket {p : ℕ} {m : Method} (hp : p ∈ A) (hinit : ∀ d t, m ≠ .init d t)
    (hm : (Op.call p m).SendsOnly D) :
    (checkedSocket p m).run.Within {c : ApiCall | c.Ordinary D A} := by
  apply Throwing.within_bind
  · exact ⟨⟨hp, hinit, hm⟩, fun _ ↦ trivial⟩
  · intro o
    exact within_throwOnError o.report?

omit [Inet] in
theorem within_checkedService {op : ServiceOp} (hop : op ≠ .stop) :
    (checkedService op).run.Within {c : ApiCall | c.Ordinary D A} := by
  apply Throwing.within_bind
  · exact ⟨hop, fun _ ↦ trivial⟩
  · intro r
    exact within_throwOnError r.report?

/-- One of the waiting loops waits for as long as it is followed; no descriptor is open. -/
def Waits (t : Set ℤ × List ZtsEvent) : Prop :=
  ((∀ k < around.looks, around.online k = false) ∨
    ∀ k < around.looks, around.networksJoinedCount k ≤ 0) ∧ t.1 = ∅

omit [Inet] in
theorem ensures_bringUp (identityPath : List UInt8) (nwid : UInt64) (ztServicePort : ℤ)
    (hs : Running D ∅ s) (hwaits : ∀ u, Running D ∅ u → Waits around u.2 → K u.2) :
    (bringUp around identityPath nwid ztServicePort).Ensures K s (fun _ u ↦ Running D ∅ u)
      fun _ u ↦ Running D ∅ u := by
  refine hs.bind (within_checkedService nofun) fun _ u hu ↦ ?_
  refine hu.bind (within_checkedService nofun) fun _ u hu ↦ ?_
  refine hu.bind (within_checkedService nofun) fun _ u hu ↦ ?_
  refine hu.bind (within_checkedService nofun) fun _ u hu ↦ ?_
  refine hu.bind (within_checkedService nofun) fun _ u hu ↦ ?_
  refine hu.bind ⟨trivial, fun _ ↦ trivial⟩ fun _ u hu ↦ ?_
  refine hu.bind (within_checkedService nofun) fun _ u hu ↦ ?_
  apply Throwing.holds_bind.mpr
  apply Throwing.holds_waitWhile
  · intro hoffline
    have hnever : ∀ k < around.looks, around.online k = false := by simpa using hoffline
    exact hwaits u hu ⟨.inl hnever, hu.tidy.no_descriptors⟩
  refine hu.bind (within_checkedService nofun) fun _ v hv ↦ ?_
  apply Throwing.holds_waitWhile
  · intro hapart
    have hnever : ∀ k < around.looks, around.networksJoinedCount k ≤ 0 := by simpa using hapart
    exact hwaits v hv ⟨.inr hnever, hv.tidy.no_descriptors⟩
  exact hv

/-- The last call was the one that stopped the node. -/
def EndsWithStop (log : List ZtsEvent) : Prop :=
  ∃ before reply, log = before ++ [⟨.ztsNodeStop, reply⟩]

omit [Inet] in
theorem ensures_shutDown (hs : Running D A s) {Q : Unit → ProcessState → Prop}
    {E : String → ProcessState → Prop}
    (hQ : ∀ u, Stopped D A u → u.1.world = s.1.world → u.1.eventHandler = none →
      EndsWithStop u.log → Q () u) : shutDown.Ensures K s Q E := by
  apply Throwing.holds_bind.mpr
  apply Throwing.holds_lift.mpr
  refine hs.stop.mono ?_
  rintro r u ⟨hu, hprocess, hlog⟩
  have hworld : u.1.world = s.1.world := congrArg Process.world hprocess
  exact hQ ({ u.1 with eventHandler := none }, u.2) ⟨hu.tidy, hu.stoppedOnce⟩ hworld rfl hlog

omit [Inet] in
/-- How both programs end when nothing was thrown: the Socket at 0 is closed
before the node is stopped. -/
theorem ensures_ending (hs : Running D A s) (h0 : 0 ∈ A) :
    (checkedSocket 0 .close >>= fun _ ↦ shutDown).Ensures K s
      (fun _ u ↦ Stopped D A u ∧ Idle 0 u ∧ u.1.eventHandler = none ∧ EndsWithStop u.log)
      fun _ u ↦ Running D A u := by
  apply Throwing.holds_bind.mpr
  apply Throwing.holds_bind.mpr
  apply Throwing.holds_lift.mpr
  refine (hs.close h0).mono ?_
  rintro o u ⟨hu, hidle⟩
  cases ho : o.report? with
  | some report => exact hu
  | none =>
      have hshut : shutDown.Ensures K u
          (fun _ v ↦ Stopped D A v ∧ Idle 0 v ∧ v.1.eventHandler = none ∧ EndsWithStop v.log)
          fun _ v ↦ Running D A v := by
        apply ensures_shutDown hu
        intro v hv hworld hhandler hlog
        refine ⟨hv, ?_, hhandler, hlog⟩
        unfold Idle
        rw [hworld]
        exact hidle
      exact hshut

omit [Inet] in
theorem ensures_catching {body : Client Unit} {Q : Unit → ProcessState → Prop}
    {R : Option String → ProcessState → Prop}
    (h : body.Ensures K s Q fun _ u ↦ Running D ∅ u) (hreturns : ∀ u, Q () u → R none u)
    (hthrows : ∀ what u, Stopped D ∅ u → u.1.eventHandler = none → EndsWithStop u.log →
      R (some what) u) :
    Api.Ensures (catching body) K s R := by
  apply Throwing.holds_run_bind.mpr
  refine h.mono ?_ ?_
  · intro a u hu
    exact hreturns u hu
  · intro what u hu
    apply Prog.holds_bind.mpr
    refine hu.stop.mono ?_
    rintro r v ⟨hv, -, hlog⟩
    exact hthrows what ({ v.1 with eventHandler := none }, v.2) ⟨hv.tidy, hv.stoppedOnce⟩ rfl hlog

/-- The server's datagrams: its message, all of it, for port 0 or 1 of 127.0.0.1. -/
def ServerSends (buf : List UInt8) (len : UInt64) (addr : SockaddrStorage) : Prop :=
  buf = serverMessage ∧ len = UInt64.ofNat serverMessage.length ∧
    ∃ stack port, (port = 0 ∨ port = 1) ∧
      Encodes addr (.ipv4FromString stack (bytesOf "127.0.0.1")) port

/-- The last call received bytes, and left no NUL in the buffer. -/
def Overreads (t : Set ℤ × List ZtsEvent) : Prop :=
  ∃ before fd buf size flags addr addrlen, ∃ reply : BufferAddressReply,
    t.2 = before ++ [⟨.ztsBsdRecvfrom fd buf size flags addr addrlen, reply⟩] ∧
      0 < reply.res ∧ 0 ∉ reply.buf

omit [Inet] in
theorem ensures_receive {p : ℕ} {stack : Stack} {recvBuf : List UInt8} {a : IpAddress}
    {port : UInt16} (hs : Running D A s) (hp : p ∈ A) :
    (ApiCall.socket (.call p (.receiveFrom stack (some recvBuf) 128 a port))).Ensures K s
      fun res u ↦ Running D A u ∧
        (res.report? = none → 0 ∉ bufferAfter recvBuf res → Overreads u.2) := by
  refine ensures_socket (hs.tidy.allows_call hp) fun es o t hstep ↦ ?_
  refine ⟨⟨hs.tidy.call hp hstep ?_,
    hs.log_append fun e he ↦ World.exec_expected hstep.1 trivial he⟩, fun hok hnul ↦ ?_⟩
  · rintro ⟨q, d, t, x, hop, -⟩
    cases hop
  · obtain ⟨x, impl, -, hm, -⟩ := World.runs_call hstep.1
    obtain ⟨r, hreceive, rfl⟩ := Method.runs_returning.mp hm
    obtain ⟨-, ⟨hbad, -⟩ | ⟨-, reply, rfl, rfl⟩⟩ := Impl.runs_receiveFrom hreceive
    · simp at hbad
    · refine ⟨s.log, _, _, _, _, _, _, reply, rfl, ?_, hnul⟩
      by_contra hres
      rw [receivedResult, if_neg (show ¬ reply.toStatus.res > 0 from hres)] at hok
      cases hok

/-- One turn keeps the process running, unless the buffer is over-read. -/
theorem ensures_serverTurn (i : ℕ) (recvBuf : List UInt8) (hs : Running ServerSends A s)
    (h0 : 0 ∈ A) (h1 : 1 ∈ A) (hover : ∀ u, Running ServerSends A u → Overreads u.2 → K u.2) :
    (serverTurn around i recvBuf).Ensures K s (fun _ u ↦ Running ServerSends A u)
      fun _ u ↦ Running ServerSends A u := by
  refine hs.bind ⟨⟨h0, nofun, trivial⟩, fun _ ↦ trivial⟩ fun pollres u hu ↦ ?_
  refine hu.bind (within_throwOnError _) fun _ u hu ↦ ?_
  split_ifs
  · apply Throwing.holds_bind.mpr
    apply Throwing.holds_lift.mpr
    refine (ensures_receive hu h0).mono ?_
    rintro res v ⟨hv, hbuffer⟩
    apply Throwing.holds_bind.mpr
    cases hres : res.report? with
    | some report => exact hv
    | none =>
        apply Throwing.holds_bind.mpr
        unfold printString
        split_ifs with hnul
        · exact hv
        · exact hover v hv (hbuffer hres hnul)
  · refine hu.bind ⟨⟨h0, nofun, trivial⟩, fun _ ↦ trivial⟩ fun port u hu ↦ ?_
    refine hu.bind ⟨⟨h1, nofun, ?_⟩, fun _ ↦ trivial⟩ fun _ u hu ↦ hu
    intro addr haddr
    refine ⟨rfl, rfl, _, _, ?_, (encodes_of_toSockaddr haddr).2⟩
    unfold convertedPort
    split_ifs
    · exact .inl rfl
    · exact .inr rfl

theorem ensures_serverBody (serverBindPort : ℤ) (hs : Running ServerSends A s) (h0 : 0 ∈ A)
    (h1 : 1 ∈ A) (hidle0 : Idle 0 s) (hidle1 : Idle 1 s)
    (hover : ∀ u, Running ServerSends A u → Overreads u.2 → K u.2) :
    (serverBody around serverBindPort).Ensures K s
      (fun _ u ↦ Stopped ServerSends A u ∧ Idle 0 u ∧ u.1.eventHandler = none ∧
        EndsWithStop u.log)
      fun _ u ↦ Running ServerSends A u := by
  apply Throwing.holds_bind.mpr
  apply Throwing.holds_lift.mpr
  refine (hs.call (m := .init .internetProtocolIPv4 .datagram) h0 hidle0.not_reinitializes
    trivial).mono ?_
  rintro res u ⟨hu, hothers⟩
  have hidle : Idle 1 u := by
    unfold Idle
    rw [hothers 1 (by decide)]
    exact hidle1
  apply Throwing.holds_bind.mpr
  apply Throwing.holds_lift.mpr
  refine (hu.call (m := .init .internetProtocolIPv4 .datagram) h1 hidle.not_reinitializes
    trivial).mono ?_
  rintro res2 v ⟨hv, -⟩
  refine hv.bind (within_throwOnError _) fun _ v hv ↦ ?_
  refine hv.bind (within_throwOnError _) fun _ v hv ↦ ?_
  refine hv.bind (within_checkedSocket h0 nofun trivial) fun _ v hv ↦ ?_
  refine hv.bind (within_checkedSocket h1 nofun trivial) fun _ v hv ↦ ?_
  refine hv.bind (within_checkedSocket h0 nofun trivial) fun _ v hv ↦ ?_
  refine hv.bind (within_checkedSocket h0 nofun trivial) fun _ v hv ↦ ?_
  have hloop : Client.Ensures (Throwing.iterate (serverTurn around) 10 (List.replicate 128 0)) K v
      (fun _ u ↦ Running ServerSends A u) fun _ u ↦ Running ServerSends A u :=
    Throwing.holds_iterate
      (fun i recvBuf u hu ↦ ensures_serverTurn around i recvBuf hu h0 h1 hover) 10 hv
  exact hloop.bind fun _ v hv ↦ ensures_ending hv h0

theorem ensures_serverMain (identityPath : List UInt8) (nwid : UInt64)
    (serverBindPort ztServicePort : ℤ)
    (hwaits : ∀ u, Running ServerSends ∅ u → Waits around u.2 → K u.2)
    (hover : ∀ A u, Running ServerSends A u → Overreads u.2 → K u.2) :
    Api.Ensures (serverMain around identityPath nwid serverBindPort ztServicePort) K .start
      fun what u ↦ Stopped ServerSends ∅ u ∧ u.1.eventHandler = none ∧
        (what ≠ none → EndsWithStop u.log) := by
  refine ensures_catching (D := ServerSends)
    (Q := fun _ u ↦ Stopped ServerSends ∅ u ∧ u.1.eventHandler = none) ?_ ?_ ?_
  · refine Throwing.Holds.bind
      (ensures_bringUp around identityPath nwid ztServicePort .start hwaits) fun _ u hu ↦ ?_
    refine hu.withSocket (Set.notMem_empty 0) (Q := fun _ u ↦
      Stopped ServerSends (insert 0 ∅) u ∧ u.1.eventHandler = none) ?_ ?_
    · rintro a v ⟨hv, hhandler⟩
      refine (hv.destroy (Set.mem_insert 0 ∅)).mono ?_
      rintro o w ⟨hw, hsame, -⟩
      rw [Set.insert_sdiff_self_of_notMem (Set.notMem_empty 0)] at hw
      exact ⟨hw, hsame.trans hhandler⟩
    · rintro u hu hidle0 -
      refine hu.withSocket (by simp) (Q := fun _ u ↦
        Stopped ServerSends (insert 1 (insert 0 ∅)) u ∧ Idle 0 u ∧ u.1.eventHandler = none ∧
          EndsWithStop u.log) ?_ ?_
      · rintro a v ⟨hv, -, hhandler, -⟩
        refine (hv.destroy (Set.mem_insert 1 _)).mono ?_
        rintro o w ⟨hw, hsame, -⟩
        rw [Set.insert_sdiff_self_of_notMem (by simp)] at hw
        exact ⟨hw, hsame.trans hhandler⟩
      · intro v hv hidle1 hothers
        have hidle : Idle 0 v := by
          unfold Idle
          rw [hothers 0 (by decide)]
          exact hidle0
        exact ensures_serverBody around serverBindPort hv (by simp) (by simp) hidle hidle1
          (hover _)
  · rintro u ⟨hu, hhandler⟩
    exact ⟨hu, hhandler, fun h ↦ absurd rfl h⟩
  · intro what u hu hhandler hlog
    exact ⟨hu, hhandler, fun _ ↦ hlog⟩

/-- The client's datagrams: its message, all of it, for the address and port it was given. -/
def ClientSends (remoteAddrStr : List UInt8) (remotePort : ℤ) (buf : List UInt8) (len : UInt64)
    (addr : SockaddrStorage) : Prop :=
  buf = clientMessage ∧ len = UInt64.ofNat clientMessage.length ∧
    ∃ stack, Encodes addr (.ipv4FromStdString stack remoteAddrStr) (UInt16.ofInt remotePort)

theorem ensures_clientBody (remoteAddrStr : List UInt8) (remotePort : ℤ)
    (hs : Running (ClientSends remoteAddrStr remotePort) A s) (h0 : 0 ∈ A) (hidle : Idle 0 s) :
    (clientBody around remoteAddrStr remotePort).Ensures K s
      (fun _ u ↦ Stopped (ClientSends remoteAddrStr remotePort) A u ∧ Idle 0 u ∧
        u.1.eventHandler = none ∧ EndsWithStop u.log)
      fun _ u ↦ Running (ClientSends remoteAddrStr remotePort) A u := by
  apply Throwing.holds_bind.mpr
  apply Throwing.holds_bind.mpr
  apply Throwing.holds_lift.mpr
  refine (hs.call (m := .init .internetProtocolIPv4 .datagram) h0 hidle.not_reinitializes
    trivial).mono ?_
  rintro res u ⟨hu, -⟩
  refine (hu.within (within_throwOnError _)).mono (fun _ v hv ↦ ?_) fun _ _ h ↦ h
  refine hv.bind (within_checkedSocket h0 nofun trivial) fun _ v hv ↦ ?_
  dsimp only
  split_ifs with hvalid
  · have hturn : ∀ i a, (clientTurn around (.ipv4FromStdString (around.stack 10 2).ipAddress
        remoteAddrStr) remotePort i a).run.Within
          {c : ApiCall | c.Ordinary (ClientSends remoteAddrStr remotePort) A} := by
      intro i a
      refine within_checkedSocket h0 (fun _ _ ↦ nofun) fun addr haddr ↦ ?_
      exact ⟨rfl, rfl, _, (encodes_of_toSockaddr haddr).2⟩
    have hloop : Client.Ensures (Throwing.iterate (clientTurn around (.ipv4FromStdString
        (around.stack 10 2).ipAddress remoteAddrStr) remotePort) 10 ()) K v
        (fun _ u ↦ Running (ClientSends remoteAddrStr remotePort) A u)
        fun _ u ↦ Running (ClientSends remoteAddrStr remotePort) A u :=
      Throwing.holds_iterate (fun i _ u hu ↦ hu.within (hturn i ())) 10 hv
    exact hloop.bind fun _ v hv ↦ ensures_ending hv h0
  · exact hv

theorem ensures_clientMain (identityPath : List UInt8) (nwid : UInt64) (remoteAddrStr : List UInt8)
    (remotePort ztServicePort : ℤ)
    (hwaits : ∀ u, Running (ClientSends remoteAddrStr remotePort) ∅ u → Waits around u.2 →
      K u.2) :
    Api.Ensures (clientMain around identityPath nwid remoteAddrStr remotePort ztServicePort) K
      .start fun _ u ↦ Stopped (ClientSends remoteAddrStr remotePort) ∅ u ∧
        u.1.eventHandler = none ∧ EndsWithStop u.log := by
  refine ensures_catching (D := ClientSends remoteAddrStr remotePort)
    (Q := fun _ u ↦ Stopped (ClientSends remoteAddrStr remotePort) ∅ u ∧
      u.1.eventHandler = none ∧ EndsWithStop u.log) ?_ ?_ ?_
  · refine Throwing.Holds.bind
      (ensures_bringUp around identityPath nwid ztServicePort .start hwaits) fun _ u hu ↦ ?_
    refine hu.withSocket (Set.notMem_empty 0) (Q := fun _ u ↦
      Stopped (ClientSends remoteAddrStr remotePort) (insert 0 ∅) u ∧ Idle 0 u ∧
        u.1.eventHandler = none ∧ EndsWithStop u.log) ?_ ?_
    · rintro a v ⟨hv, hidle, hhandler, hlog⟩
      refine (hv.destroy (Set.mem_insert 0 ∅)).mono ?_
      rintro o w ⟨hw, hsame, hquiet⟩
      rw [Set.insert_sdiff_self_of_notMem (Set.notMem_empty 0)] at hw
      rw [← hquiet hidle] at hlog
      exact ⟨hw, hsame.trans hhandler, hlog⟩
    · rintro u hu hidle -
      exact ensures_clientBody around remoteAddrStr remotePort hu (Set.mem_insert 0 ∅) hidle
  · exact fun u hu ↦ hu
  · intro what u hu hhandler hlog
    exact ⟨hu, hhandler, hlog⟩

/-! ## The results -/

/-- Whatever libzt answers and whatever is thrown, the server leaves no Socket,
descriptor or event handler and stops the node once, unless it waits for as long
as it is followed or reads its buffer beyond the end. -/
theorem server_releases (identityPath : List UInt8) (nwid : UInt64)
    (serverBindPort ztServicePort : ℤ) :
    Api.Ensures (serverMain around identityPath nwid serverBindPort ztServicePort)
      (fun t ↦ (Waits around t ∨ Overreads t) ∧ NotStopped t.2) .start
      fun what u ↦ Released u ∧ StoppedOnce u.log ∧ (what ≠ none → EndsWithStop u.log) := by
  refine (ensures_serverMain around identityPath nwid serverBindPort ztServicePort ?_ ?_).mono ?_
  · exact fun u hu hwaits ↦ ⟨.inl hwaits, notStopped_of_expected hu.expected⟩
  · exact fun A u hu hover ↦ ⟨.inr hover, notStopped_of_expected hu.expected⟩
  · rintro what u ⟨hu, hhandler, hlog⟩
    exact ⟨hu.released hhandler, hu.stopped_once, hlog⟩

/-- The client closes its Socket before it stops the node; all that can keep it
from doing so is that the node does not come online or joins no network. -/
theorem client_releases (identityPath : List UInt8) (nwid : UInt64) (remoteAddrStr : List UInt8)
    (remotePort ztServicePort : ℤ) :
    Api.Ensures (clientMain around identityPath nwid remoteAddrStr remotePort ztServicePort)
      (fun t ↦ Waits around t ∧ NotStopped t.2) .start
      fun _ u ↦ Released u ∧ StoppedOnce u.log ∧ EndsWithStop u.log := by
  refine (ensures_clientMain around identityPath nwid remoteAddrStr remotePort ztServicePort
    ?_).mono ?_
  · exact fun u hu hwaits ↦ ⟨hwaits, notStopped_of_expected hu.expected⟩
  · rintro what u ⟨hu, hhandler, hlog⟩
    exact ⟨hu.released hhandler, hu.stopped_once, hlog⟩

/-- The server means to send to the port that it is bound to, but whatever
that port is, its datagrams are addressed to port 0 or 1. -/
theorem server_sends (identityPath : List UInt8) (nwid : UInt64)
    (serverBindPort ztServicePort : ℤ) :
    Api.Ensures (serverMain around identityPath nwid serverBindPort ztServicePort)
      (fun t ↦ SentOnly ServerSends t.2) .start fun _ u ↦ SentOnly ServerSends u.log := by
  refine (ensures_serverMain around identityPath nwid serverBindPort ztServicePort ?_ ?_).mono ?_
  · exact fun u hu _ ↦ sentOnly_of_expected hu.expected
  · exact fun A u hu _ ↦ sentOnly_of_expected hu.expected
  · exact fun what u hu ↦ hu.1.sentOnly

theorem client_sends (identityPath : List UInt8) (nwid : UInt64) (remoteAddrStr : List UInt8)
    (remotePort ztServicePort : ℤ) :
    Api.Ensures (clientMain around identityPath nwid remoteAddrStr remotePort ztServicePort)
      (fun t ↦ SentOnly (ClientSends remoteAddrStr remotePort) t.2) .start
      fun _ u ↦ SentOnly (ClientSends remoteAddrStr remotePort) u.log := by
  refine (ensures_clientMain around identityPath nwid remoteAddrStr remotePort ztServicePort
    ?_).mono ?_
  · exact fun u hu _ ↦ sentOnly_of_expected hu.expected
  · exact fun what u hu ↦ hu.1.sentOnly

end

end Ztcpp.Examples
