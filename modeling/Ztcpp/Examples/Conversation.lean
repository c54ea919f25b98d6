import Ztcpp.Examples.Mains
import Ztcpp.Library.RelyGuarantee
import Ztcpp.Socket.DatagramNetwork

/-!
# The example programs on one network

Any number of hosts run the example server or the example client, each with
arguments of its own.  What one program guarantees of the datagrams that it
sends is what the others rely on when they receive.
-/

namespace Ztcpp.Examples

open Interaction LabelledSystem

structure ServerArgs where
  around : Surroundings
  identityPath : List UInt8
  nwid : UInt64
  serverBindPort : ℤ
  ztServicePort : ℤ

structure ClientArgs where
  around : Surroundings
  identityPath : List UInt8
  nwid : UInt64
  remoteAddrStr : List UInt8
  remotePort : ℤ
  ztServicePort : ℤ

inductive Program where
  | server (args : ServerArgs)
  | client (args : ClientArgs)

def ServerArgs.port (args : ServerArgs) : UInt16 := UInt16.ofInt args.serverBindPort

def ClientArgs.port (args : ClientArgs) : UInt16 := UInt16.ofInt args.remotePort

def Program.main [Platform] [Inet] : Program → Prog Api (Option String)
  | .server args =>
      serverMain args.around args.identityPath args.nwid args.serverBindPort args.ztServicePort
  | .client args => clientMain args.around args.identityPath args.nwid args.remoteAddrStr
      args.remotePort args.ztServicePort

/-- The operations on Sockets among the calls of a program. -/
def socketCall : Event Api → Option (Op × Outcome)
  | ⟨.socket op, o⟩ => some (op, o)
  | _ => none

def shown (l : Step) : Op × Outcome := (l.op, l.outcome)

/-- `steps` are what `main` has done with its Sockets at some point. -/
def Executes (main : Prog Api (Option String)) (steps : List Step) : Prop :=
  main.Shows socketCall (steps.map shown)

/-! ## What the programs rely on and guarantee -/

def nextMap (map : ℕ → Endpoints) (l : Op × Outcome) : ℕ → Endpoints :=
  nextEndpoints map ⟨l.1, [], l.2⟩

theorem foldl_nextMap (steps : List Step) :
    (steps.map shown).foldl nextMap (fun _ ↦ .empty) = endpointsOf steps := by
  rw [List.foldl_map]
  rfl

/-- A `receiveFrom` that succeeded wrote the client's message over the front
of the buffer. -/
def Greets (l : Op × Outcome) : Prop :=
  ∀ p stack buffer size a q r, l.1 = .call p (.receiveFrom stack (some buffer) size a q) →
    l.2 = .receivedFrom r → r.result.hasError = false →
      r.result = .ok 22 ∧ r.destinationBuffer = some (clientMessage ++ buffer.drop 22)

/-- The library answers `bind` with an `EmptyResult`. -/
def BindsAnswered (l : Op × Outcome) : Prop :=
  ∀ p stack a port, l.1 = .call p (.bind stack a port) → ∃ r, l.2 = .empty r

/-- The server's own datagrams go to the ports 0 and 1. -/
def ServerArgs.Apart (args : ServerArgs) : Prop := args.port ≠ 0 ∧ args.port ≠ 1

def Program.Relies : Program → (ℕ → Endpoints) → Op × Outcome → Prop
  | .server args, _, l => BindsAnswered l ∧ (args.Apart → Greets l)
  | .client _, _, _ => True

/-- The server's buffer after it received the client's message. -/
def greetedBuffer : List UInt8 := clientMessage ++ List.replicate 106 0

def ServerArgs.BufferClean (args : ServerArgs) (recvBuf : List UInt8) : Prop :=
  args.Apart → recvBuf = List.replicate 128 0 ∨ recvBuf = greetedBuffer

def ServerArgs.Bound (args : ServerArgs) (map : ℕ → Endpoints) : Prop :=
  ∃ a, map 0 .bound = some (a, args.port)

def ServerArgs.Guarantees (args : ServerArgs) (map : ℕ → Endpoints) : ApiCall → Prop
  | .socket (.call _ (.sendTo _ data size _ port)) =>
      data = some serverMessage ∧ size = 10 ∧ (port = 0 ∨ port = 1)
  | .socket (.call p (.receiveFrom _ buffer size _ _)) =>
      p = 0 ∧ size = 128 ∧ args.Bound map ∧ ∃ recvBuf, buffer = some recvBuf ∧
        args.BufferClean recvBuf
  | .socket (.call _ (.init _ type)) => type = .datagram
  | .socket (.call _ (.send ..)) | .socket (.call _ (.receive ..)) | .socket (.accept ..)
  | .socket (.moveConstruct ..) | .socket (.moveAssign ..) => False
  | _ => True

def ClientArgs.Guarantees (args : ClientArgs) : ApiCall → Prop
  | .socket (.call _ (.sendTo _ data size _ port)) =>
      data = some clientMessage ∧ size = 22 ∧ port = args.port
  | .socket (.call _ (.init _ type)) => type = .datagram
  | .socket (.call _ (.send ..)) | .socket (.call _ (.receive ..))
  | .socket (.call _ (.receiveFrom ..)) | .socket (.accept ..) | .socket (.moveConstruct ..)
  | .socket (.moveAssign ..) => False
  | _ => True

def Program.Guarantees : Program → (ℕ → Endpoints) → ApiCall → Prop
  | .server args, map, c => args.Guarantees map c
  | .client args, _, c => args.Guarantees c

/-! ## The parts that both programs share -/

section

variable {R : (ℕ → Endpoints) → Op × Outcome → Prop} {G : (ℕ → Endpoints) → ApiCall → Prop}
  {map : ℕ → Endpoints}

/-- `p` guarantees `G` while the library answers as `R` says; `Q` holds when
`p` returns, and nothing is said of what it throws. -/
abbrev Keeps {α : Type} (R : (ℕ → Endpoints) → Op × Outcome → Prop)
    (G : (ℕ → Endpoints) → ApiCall → Prop) (p : Client α) (map : ℕ → Endpoints)
    (Q : α → (ℕ → Endpoints) → Prop) : Prop :=
  Throwing.Guarantees (Service.following socketCall R nextMap) G p map Q fun _ _ ↦ True

/-- Calls that `G` does not restrict. -/
structure Permits (G : (ℕ → Endpoints) → ApiCall → Prop) : Prop where
  service : ∀ map op, G map (.service op)
  setEventHandler : ∀ map aHandler, G map (.setEventHandler aHandler)
  construct : ∀ map p, G map (.socket (.construct p))
  destroy : ∀ map p, G map (.socket (.destroy p))

theorem keeps_socket {op : Op} {Q : Outcome → (ℕ → Endpoints) → Prop}
    (hG : G map (.socket op)) (hQ : ∀ o, R map (op, o) → Q o (nextMap map (op, o))) :
    Keeps R G (Client.socket op) map Q :=
  Throwing.guarantees_lift ⟨hG, fun o ho ↦ hQ o (ho _ rfl)⟩

theorem keeps_throwOnError {report? : Option ErrorReport} {Q : Unit → (ℕ → Endpoints) → Prop}
    (hQ : report? = none → Q () map) : Keeps R G (throwOnError report?) map Q := by
  cases report? with
  | none => exact hQ rfl
  | some report => exact trivial

theorem keeps_checkedSocket {p : ℕ} {m : Method} {Q : Unit → (ℕ → Endpoints) → Prop}
    (hG : G map (.socket (.call p m)))
    (hQ : ∀ o, R map (.call p m, o) → o.report? = none → Q () (nextMap map (.call p m, o))) :
    Keeps R G (checkedSocket p m) map Q := by
  refine (keeps_socket (Q := fun o t ↦ o.report? = none → Q () t) hG hQ).bind fun o t ho ↦ ?_
  exact keeps_throwOnError ho

theorem keeps_checkedService {op : ServiceOp} {Q : Unit → (ℕ → Endpoints) → Prop}
    (hG : Permits G) (hQ : Q () map) : Keeps R G (checkedService op) map Q := by
  refine Throwing.Guarantees.bind (Q := fun _ t ↦ Q () t)
    (Throwing.guarantees_lift ⟨hG.service map op, fun r _ ↦ hQ⟩) fun r t ht ↦ ?_
  exact keeps_throwOnError fun _ ↦ ht

theorem keeps_printString {recvBuf : List UInt8} {Q : Unit → (ℕ → Endpoints) → Prop}
    (hQ : Q () map) : Keeps R G (printString recvBuf) map Q := by
  unfold printString
  split_ifs
  · exact hQ
  · exact trivial

theorem keeps_setEventHandler {aHandler : Option ℕ} {Q : Unit → (ℕ → Endpoints) → Prop}
    (hG : Permits G) (hQ : Q () map) : Keeps R G (Client.setEventHandler aHandler) map Q :=
  Throwing.guarantees_lift ⟨hG.setEventHandler map aHandler, fun _ _ ↦ hQ⟩

theorem keeps_bringUp (hG : Permits G) (around : Surroundings) (identityPath : List UInt8)
    (nwid : UInt64) (ztServicePort : ℤ) :
    Keeps R G (bringUp around identityPath nwid ztServicePort) map fun _ _ ↦ True := by
  have hservice : ∀ op t, Keeps R G (checkedService op) t fun _ _ ↦ True :=
    fun _ _ ↦ keeps_checkedService hG trivial
  refine (hservice _ _).bind fun _ t _ ↦ ?_
  refine (hservice _ _).bind fun _ t _ ↦ ?_
  refine (hservice _ _).bind fun _ t _ ↦ ?_
  refine (hservice _ _).bind fun _ t _ ↦ ?_
  refine (hservice _ _).bind fun _ t _ ↦ ?_
  refine (keeps_setEventHandler (Q := fun _ _ ↦ True) hG trivial).bind fun _ t _ ↦ ?_
  refine (hservice _ _).bind fun _ t _ ↦ ?_
  refine Throwing.Guarantees.bind (Throwing.guarantees_waitWhile (Q := fun _ _ ↦ True) trivial)
    fun _ t _ ↦ ?_
  refine (hservice _ _).bind fun _ t _ ↦ ?_
  exact Throwing.guarantees_waitWhile trivial

theorem keeps_shutDown (hG : Permits G) : Keeps R G shutDown map fun _ _ ↦ True := by
  refine Throwing.Guarantees.bind (Q := fun _ _ ↦ True)
    (Throwing.guarantees_lift ⟨hG.service map .stop, fun _ _ ↦ trivial⟩) fun _ t _ ↦ ?_
  exact keeps_setEventHandler hG trivial

theorem keeps_withSocket {α : Type} {p : ℕ} {body : Client α} (hG : Permits G)
    (hbody : ∀ t, Keeps R G body t fun _ _ ↦ True) :
    Keeps R G (withSocket p body) map fun _ _ ↦ True := by
  have hdestroy : ∀ t, Prog.Guarantees (Service.following socketCall R nextMap) G
      (do let _ ← callApi (.socket (.destroy p))) t fun _ _ ↦ True :=
    fun t ↦ ⟨hG.destroy t p, fun _ _ ↦ trivial⟩
  refine (keeps_socket (Q := fun _ _ ↦ True) (hG.construct map p) fun _ _ ↦ trivial).bind
    fun _ t _ ↦ ?_
  exact (hbody t).cleaning (fun _ u _ ↦ hdestroy u) fun _ u _ ↦ hdestroy u

theorem guarantees_catching {body : Client Unit} (hG : Permits G)
    (hbody : Keeps R G body map fun _ _ ↦ True) :
    (catching body).Guarantees (Service.following socketCall R nextMap) G map
      fun _ _ ↦ True := by
  refine hbody.run_bind (fun _ _ _ ↦ trivial) fun what t _ ↦ ?_
  exact ⟨hG.service t .stop, fun _ _ ↦ ⟨hG.setEventHandler _ none, fun _ _ ↦ trivial⟩⟩

end

/-! ## The server -/

theorem nextMap_call_of_ne {map : ℕ → Endpoints} {p q : ℕ} {m : Method} {o : Outcome}
    (h : q ≠ p) : nextMap map (.call p m, o) q = map q := Function.update_of_ne h _ _

theorem nextMap_call_self {map : ℕ → Endpoints} {p : ℕ} {m : Method} {o : Outcome} :
    nextMap map (.call p m, o) p = (map p).afterCall m o := Function.update_self ..

namespace ServerArgs

variable {args : ServerArgs} {map : ℕ → Endpoints}

theorem Bound.next {p : ℕ} {m : Method} {o : Outcome} (h : args.Bound map)
    (hm : p ≠ 0 ∨ ¬ m.SetsEndpoints) : args.Bound (nextMap map (.call p m, o)) := by
  obtain ⟨a, ha⟩ := h
  refine ⟨a, ?_⟩
  by_cases hp : p = 0
  · subst hp
    rw [nextMap_call_self, Endpoints.afterCall_of_not_sets (hm.resolve_left fun h ↦ h rfl)]
    exact ha
  · rw [nextMap_call_of_ne (Ne.symm hp)]
    exact ha

theorem permits : Permits args.Guarantees :=
  ⟨fun _ _ ↦ trivial, fun _ _ ↦ trivial, fun _ _ ↦ trivial, fun _ _ ↦ trivial⟩

theorem drop_clientMessage {recvBuf : List UInt8}
    (h : recvBuf = List.replicate 128 0 ∨ recvBuf = greetedBuffer) :
    clientMessage ++ recvBuf.drop 22 = greetedBuffer := by
  rcases h with rfl | rfl
  · decide
  · decide

/-- A `receiveFrom` that is answered as the server relies on leaves the buffer clean. -/
theorem BufferClean.after {recvBuf : List UInt8} {o : Outcome} {stack : Stack} {a : IpAddress}
    {q : UInt16} (h : args.BufferClean recvBuf)
    (ho : (Program.server args).Relies map
      (.call 0 (.receiveFrom stack (some recvBuf) 128 a q), o)) (hok : o.report? = none) :
    args.BufferClean (bufferAfter recvBuf o) := by
  intro hapart
  cases o with
  | receivedFrom r =>
      have hresult : r.result.hasError = false := by
        cases hr : r.result with
        | ok count => rfl
        | error report => simp [Outcome.report?, Result.report?, hr] at hok
      obtain ⟨-, hbuffer⟩ := ho.2 hapart 0 stack recvBuf 128 a q r rfl rfl hresult
      right
      rw [bufferAfter, hbuffer, Option.getD_some]
      exact drop_clientMessage (h hapart)
  | _ => exact h hapart

variable [Platform] [Inet]

theorem keeps_serverTurn (i : ℕ) {recvBuf : List UInt8} (hbound : args.Bound map)
    (hclean : args.BufferClean recvBuf) :
    Keeps (Program.server args).Relies args.Guarantees (serverTurn args.around i recvBuf) map
      fun recvBuf t ↦ args.Bound t ∧ args.BufferClean recvBuf := by
  refine Throwing.Guarantees.bind (Q := fun _ t ↦ args.Bound t)
    (keeps_socket trivial fun _ _ ↦ hbound.next (.inr id)) fun pollres t ht ↦ ?_
  refine Throwing.Guarantees.bind (Q := fun _ t ↦ args.Bound t)
    (keeps_throwOnError fun _ ↦ ht) fun _ t ht ↦ ?_
  split_ifs
  · refine Throwing.Guarantees.bind (Q := fun o t ↦ args.Bound t ∧
      (o.report? = none → args.BufferClean (bufferAfter recvBuf o)))
      (keeps_socket ⟨rfl, rfl, ht, recvBuf, rfl, hclean⟩ fun o ho ↦
        ⟨ht.next (.inr id), hclean.after ho⟩) fun o t ho ↦ ?_
    refine Throwing.Guarantees.bind
      (Q := fun _ t ↦ args.Bound t ∧ args.BufferClean (bufferAfter recvBuf o))
      (keeps_throwOnError fun hnone ↦ ⟨ho.1, ho.2 hnone⟩) fun _ t ht ↦ ?_
    exact Throwing.Guarantees.bind (keeps_printString ht) fun _ _ h ↦ h
  · refine Throwing.Guarantees.bind (Q := fun _ t ↦ args.Bound t)
      (keeps_socket trivial fun _ _ ↦ ht.next (.inr id)) fun port t ht ↦ ?_
    refine Throwing.Guarantees.bind (Q := fun _ t ↦ args.Bound t)
      (keeps_socket ⟨rfl, rfl, ?_⟩ fun _ _ ↦ ht.next (.inr id)) fun _ t ht ↦ ⟨ht, hclean⟩
    unfold convertedPort
    split_ifs
    · exact .inl rfl
    · exact .inr rfl

theorem keeps_serverBody :
    Keeps (Program.server args).Relies args.Guarantees
      (serverBody args.around args.serverBindPort) map fun _ _ ↦ True := by
  have hinit : ∀ p t, Keeps (Program.server args).Relies args.Guarantees
      (Client.socket (.call p (.init .internetProtocolIPv4 .datagram))) t fun _ _ ↦ True :=
    fun _ _ ↦ keeps_socket rfl fun _ _ ↦ trivial
  have hthrow : ∀ report? t, Keeps (Program.server args).Relies args.Guarantees
      (throwOnError report?) t fun _ _ ↦ True :=
    fun _ _ ↦ keeps_throwOnError fun _ ↦ trivial
  refine (hinit 0 map).bind fun res t _ ↦ ?_
  refine (hinit 1 t).bind fun res2 t _ ↦ ?_
  refine (hthrow _ t).bind fun _ t _ ↦ ?_
  refine (hthrow _ t).bind fun _ t _ ↦ ?_
  refine Throwing.Guarantees.bind (Q := fun _ t ↦ args.Bound t)
    (keeps_checkedSocket trivial fun o ho hok ↦ ?_) fun _ t ht ↦ ?_
  · obtain ⟨r, rfl⟩ := ho.1 _ _ _ _ rfl
    cases r with
    | ok value =>
        refine ⟨args.around.ip4 0, ?_⟩
        rw [nextMap_call_self]
        exact Function.update_self Endpoint.bound (some (args.around.ip4 0, args.port)) (t 0)
    | error report => cases hok
  refine Throwing.Guarantees.bind (Q := fun _ t ↦ args.Bound t)
    (keeps_checkedSocket trivial fun _ _ _ ↦ ht.next (.inl (by decide))) fun _ t ht ↦ ?_
  refine Throwing.Guarantees.bind (Q := fun _ t ↦ args.Bound t)
    (keeps_checkedSocket trivial fun _ _ _ ↦ ht.next (.inr id)) fun _ t ht ↦ ?_
  refine Throwing.Guarantees.bind (Q := fun _ t ↦ args.Bound t)
    (keeps_checkedSocket trivial fun _ _ _ ↦ ht.next (.inr id)) fun _ t ht ↦ ?_
  refine Throwing.Guarantees.bind (Throwing.guarantees_iterate
    (fun i _ _ h ↦ keeps_serverTurn i h.1 h.2) 10 ⟨ht, fun _ ↦ .inl rfl⟩) fun _ t _ ↦ ?_
  refine Throwing.Guarantees.bind (Q := fun _ _ ↦ True)
    (keeps_checkedSocket trivial fun _ _ _ ↦ trivial) fun _ t _ ↦ ?_
  exact keeps_shutDown permits

end ServerArgs

/-! ## The client -/

namespace ClientArgs

variable {args : ClientArgs} {map : ℕ → Endpoints}

theorem permits : Permits fun _ ↦ args.Guarantees :=
  ⟨fun _ _ ↦ trivial, fun _ _ ↦ trivial, fun _ _ ↦ trivial, fun _ _ ↦ trivial⟩

variable [Platform] [Inet]

theorem keeps_clientBody :
    Keeps (Program.client args).Relies (fun _ ↦ args.Guarantees)
      (clientBody args.around args.remoteAddrStr args.remotePort) map fun _ _ ↦ True := by
  have hsocket : ∀ m t, args.Guarantees (.socket (.call 0 m)) →
      Keeps (Program.client args).Relies (fun _ ↦ args.Guarantees) (checkedSocket 0 m) t
        fun _ _ ↦ True :=
    fun _ _ hm ↦ keeps_checkedSocket hm fun _ _ _ ↦ trivial
  refine Throwing.Guarantees.bind (hsocket _ map rfl) fun _ t _ ↦ ?_
  refine Throwing.Guarantees.bind (hsocket _ t trivial) fun _ t _ ↦ ?_
  dsimp only
  split_ifs
  · refine Throwing.Guarantees.bind (Throwing.guarantees_iterate (Q := fun _ _ ↦ True)
      (fun i _ t _ ↦ hsocket (.sendTo ..) t ⟨rfl, rfl, rfl⟩) 10 trivial) fun _ t _ ↦ ?_
    refine Throwing.Guarantees.bind (hsocket _ t trivial) fun _ t _ ↦ ?_
    exact keeps_shutDown permits
  · exact trivial

end ClientArgs

/-- Each program guarantees its part while the others keep to theirs. -/
theorem Program.guarantees [Platform] [Inet] (program : Program) (map : ℕ → Endpoints) :
    program.main.Guarantees (Service.following socketCall program.Relies nextMap)
      program.Guarantees map fun _ _ ↦ True := by
  cases program with
  | server args =>
      refine guarantees_catching ServerArgs.permits ?_
      refine (keeps_bringUp ServerArgs.permits _ _ _ _).bind fun _ t _ ↦ ?_
      refine keeps_withSocket ServerArgs.permits fun t ↦ ?_
      exact keeps_withSocket ServerArgs.permits fun t ↦ ServerArgs.keeps_serverBody
  | client args =>
      refine guarantees_catching ClientArgs.permits ?_
      refine (keeps_bringUp ClientArgs.permits _ _ _ _).bind fun _ t _ ↦ ?_
      exact keeps_withSocket ClientArgs.permits fun t ↦ ClientArgs.keeps_clientBody

/-! ## What the programs send -/

/-- What a program offers is the client's message for the port that the client
was given, or a datagram for port 0 or 1. -/
theorem Program.offers {program : Program} {map : ℕ → Endpoints} {op : Op} {ends : Endpoints}
    {p : ℕ} {payload : List UInt8} {target : Option (IpAddress × UInt16)}
    (h : program.Guarantees map (.socket op)) (hoffers : op.Offers ends p payload target) :
    (∃ args stack a, program = .client args ∧ payload = clientMessage ∧
      target = some (a, args.port) ∧
        op = .call p (.sendTo stack (some clientMessage) 22 a args.port)) ∨
      ∃ a port, target = some (a, port) ∧ (port = 0 ∨ port = 1) := by
  cases hoffers with
  | send data size =>
      cases program with
      | server | client => exact h.elim
  | sendTo stack data size a port =>
      cases program with
      | server args => exact .inr ⟨a, port, rfl, h.2.2⟩
      | client args =>
          obtain ⟨rfl, rfl, rfl⟩ := h
          exact .inl ⟨args, stack, a, rfl, by decide, rfl, rfl⟩

/-- Up to now every program was answered as it relies on. -/
def AllRely {P : Type} [DecidableEq P] (programs : P → Program) (ls : List (P × Step)) : Prop :=
  ∀ q, Relies (programs q).Relies nextMap (fun _ ↦ .empty) ((labelsOf q ls).map shown)

/-! ## Datagram Sockets -/

def OpensDatagrams : Op → Prop
  | .call _ (.init _ type) => type = .datagram
  | .call .. | .construct _ | .destroy _ => True
  | _ => False

theorem Program.opensDatagrams {program : Program} {map : ℕ → Endpoints} {op : Op}
    (h : program.Guarantees map (.socket op)) : OpensDatagrams op := by
  cases program with
  | server args | client args =>
      cases op with
      | call p m => cases m <;> first | exact h | exact trivial
      | construct p | destroy p => exact trivial
      | accept p r | moveConstruct p q | moveAssign p q => exact h

section

variable [Platform]

/-- Every open Socket is a datagram Socket. -/
def DatagramsOnly (w : World) : Prop :=
  ∀ p x, w.object? p = some x → x.impl.isOpen → x.impl.socketType = .datagram

theorem DatagramsOnly.step {w w' : World} {op : Op} {es : List ZtsEvent} {o : Outcome}
    (h : DatagramsOnly w) (hop : OpensDatagrams op) (hexec : (w.exec op).Runs es (o, w')) :
    DatagramsOnly w' := by
  intro q x hx hopen
  cases op with
  | construct p =>
      cases World.exec_effect hexec with
      | constructed _ hfree =>
          by_cases hqp : q = p
          · subst hqp
            rw [World.object?_emplace_self] at hx
            cases hx
            exact absurd hopen Impl.fresh_not_isOpen
          · rw [World.object?_emplace_ne w hqp] at hx
            exact h q x hx hopen
  | call p m =>
      obtain ⟨y, impl, hy, hm, rfl⟩ := World.runs_call hexec
      by_cases hqp : q = p
      · subst hqp
        rw [World.object?_setImpl_self] at hx
        cases hx
        cases Method.exec_effect hm with
        | opens d t reply hv => exact hop
        | closes reply hwas =>
            exact absurd (Impl.isOpen_iff.mp hopen) (not_le.mpr Platform.ztsErrSocket_neg)
        | uses | quiet => exact h q y hy hopen
      · rw [World.object?_setImpl_ne w hqp] at hx
        exact h q x hx hopen
  | destroy p =>
      cases World.exec_effect hexec with
      | destroyed _ y _ hy =>
          by_cases hqp : q = p
          · subst hqp
            simp at hx
          · rw [World.object?_set_ne w hqp] at hx
            exact h q x hx hopen
  | accept | moveConstruct | moveAssign => exact hop.elim

theorem datagramsOnly_of_reaches {σ : Type} {S : Service Libzt σ} {s₀ : σ} {steps : List Step}
    {s : Session σ} (h : Reaches S s₀ steps s) (hops : ∀ l ∈ steps, OpensDatagrams l.op) :
    DatagramsOnly s.world := by
  refine LabelledSystem.Run.invariant
    (fun steps s ↦ (∀ l ∈ steps, OpensDatagrams l.op) → DatagramsOnly s.world) h ?_ ?_ hops
  · intro _ p x hx
    simp at hx
  · intro steps s l t _ ih hl hops
    have hbefore := ih fun k hk ↦ hops k (List.mem_append_left _ hk)
    exact hbefore.step (hops l (by simp)) hl.1

theorem bindsAnswered {s t : Session HostStore × List Packet} {l : Step} (hl : host.Step s l t) :
    BindsAnswered (shown l) := by
  intro p stack a port hop
  have hexec := hl.1
  rw [show l.op = _ from hop] at hexec
  obtain ⟨x, impl, -, hm, -⟩ := World.runs_call hexec
  obtain ⟨r, -, hout⟩ := Method.runs_returning.mp hm
  exact ⟨r, hout⟩

/-! ## The network -/

variable [Inet]

theorem guaranteed {program : Program} {before after : List Step} {k : Step}
    (hexec : Executes program.main (before ++ k :: after))
    (hrely : Relies program.Relies nextMap (fun _ ↦ .empty) (before.map shown)) :
    program.Guarantees (endpointsOf before) (.socket k.op) := by
  have hshows : program.main.Shows socketCall (before.map shown ++ shown k :: after.map shown) := by
    rw [← List.map_cons, ← List.map_append]
    exact hexec
  obtain ⟨⟨c, r⟩, hcall, hc⟩ := (program.guarantees _).of_shows hshows hrely
  rw [foldl_nextMap] at hc
  cases c with
  | socket op =>
      cases hcall
      exact hc
  | service | setEventHandler => cases hcall

variable {P : Type} [DecidableEq P] {programs : P → Program} {ls : List (P × Step)}

/-- A program that was answered as it relies on made each step as it guarantees. -/
theorem AllRely.guaranteed {q : P} {before after : List Step} {k : Step} (h : AllRely programs ls)
    (hexec : Executes (programs q).main (labelsOf q ls))
    (hsplit : labelsOf q ls = before ++ k :: after) :
    (programs q).Guarantees (endpointsOf before) (.socket k.op) := by
  have hrely := h q
  rw [hsplit, List.map_append, relies_append] at hrely
  rw [hsplit] at hexec
  exact Examples.guaranteed hexec hrely.1

theorem AllRely.opensDatagrams {q : P} (h : AllRely programs ls)
    (hexec : Executes (programs q).main (labelsOf q ls)) :
    ∀ k ∈ labelsOf q ls, OpensDatagrams k.op := by
  intro k hk
  obtain ⟨before, after, hsplit⟩ := List.append_of_mem hk
  exact Program.opensDatagrams (h.guaranteed hexec hsplit)

/-- Before this, a client sent its message to the port of the server. -/
def ClientSent (programs : P → Program) (port : UInt16) (ls : List (P × Step)) : Prop :=
  ∃ before c k after client p stack a, ls = before ++ (c, k) :: after ∧
    programs c = .client client ∧ client.port = port ∧
    k.op = .call p (.sendTo stack (some clientMessage) 22 a port) ∧ k.outcome.hasError = false

variable {u : Network P} {q : P} {args : ServerArgs} {l : Step}
  {t : Session HostStore × List Packet}

/-- The open Sockets are datagram Sockets, because the programs open no others. -/
theorem AllRely.kind (h : AllRely programs ls) (hrun : (network P).Run (.start P) ls u)
    (hexec : ∀ q, Executes (programs q).main (labelsOf q ls)) {p : ℕ} {x : Object}
    (hx : (u.1 q).world.object? p = some x) (hfd : 0 ≤ x.impl.socketID) :
    (u.1 q).libzt.kinds x.impl.socketID = ztsSockDgram := by
  have hreach := Network.reaches hrun q
  have honly := datagramsOnly_of_reaches hreach (h.opensDatagrams (hexec q))
  have htype := honly p x hx (Impl.isOpen_iff.mpr hfd)
  exact kind_of_datagram (s := (u.1 q, u.2)) hreach hx htype hfd

/-- Every packet was sent as the program of its sender guarantees. -/
theorem AllRely.exists_sender (h : AllRely programs ls) (hrun : (network P).Run (.start P) ls u)
    (hexec : ∀ q, Executes (programs q).main (labelsOf q ls)) {packet : Packet}
    (hpacket : packet ∈ u.2) :
    ∃ before c k after p target, ls = before ++ (c, k) :: after ∧
      (programs c).Guarantees (endpointsOf (labelsOf c before)) (.socket k.op) ∧
      k.op.Offers (endpointsOf (labelsOf c before) p) p packet.payload target ∧
      k.outcome.hasError = false ∧
      packet.Carries (endpointsOf (labelsOf c before) p) target := by
  obtain ⟨before, c, k, after, -, -, p, target, hls, -, hoffers, hsent, hcarries⟩ :=
    Network.exists_sender hrun hpacket
  have hsplit : labelsOf c ls = labelsOf c before ++ k :: labelsOf c after := by
    rw [hls, labelsOf_append_cons_self]
  have hsender := h.guaranteed (hexec c) hsplit
  exact ⟨before, c, k, after, p, target, hls, hsender, hoffers, hsent, hcarries⟩

/-- What the server receives while the others keep to their guarantees. -/
theorem server_receives (hrun : (network P).Run (.start P) ls u)
    (hexec : ∀ q, Executes (programs q).main (labelsOf q ls)) (hrely : AllRely programs ls)
    (hapart : args.Apart) (hl : host.Step (u.1 q, u.2) l t)
    (hguar : args.Guarantees (endpointsOf (labelsOf q ls)) (.socket l.op))
    {p : ℕ} {stack : Stack} {buffer : List UInt8} {size : UInt64} {a : IpAddress} {n : UInt16}
    {r : Impl.ReceivedFrom} (hop : l.op = .call p (.receiveFrom stack (some buffer) size a n))
    (hr : l.outcome = .receivedFrom r) (hok : r.result.hasError = false) :
    r.result = .ok 22 ∧ r.destinationBuffer = some (clientMessage ++ buffer.drop 22) ∧
      ClientSent programs args.port ls := by
  have hreach := Network.reaches hrun q
  rw [hop] at hguar
  obtain ⟨rfl, rfl, ⟨b, hbound⟩, -⟩ := hguar
  have hexec' := hl.1
  rw [hop] at hexec'
  obtain ⟨x, -, hx, -, -⟩ := World.runs_call hexec'
  obtain ⟨reply, -, hout, hpackets⟩ := host_receiveFrom_reply (by decide) hop hx
    (hrely.kind hrun hexec hx) hl
  obtain rfl : r = _ := Outcome.receivedFrom.inj (hr.symm.trans hout)
  have hres : 0 ≤ reply.res := by
    by_contra hneg
    rw [hasError_receivedResult_of_neg (not_le.mp hneg)] at hok
    cases hok
  obtain ⟨hfd, packet, hpacket, d, hhands, hover, -⟩ := hpackets hres
  obtain ⟨before, c, k, after, p', target, hls, hsender, hoffers, hsent, hcarries⟩ :=
    hrely.exists_sender hrun hexec hpacket
  have hport : ∀ a' port, target = some (a', port) → port = args.port := fun a' port htarget ↦
    hhands.port_eq hcarries hreach hx hfd htarget hbound hapart.1
  rcases Program.offers hsender hoffers with ⟨client, stack', a', hc, hpayload, htarget, hk⟩ |
    ⟨a', port, htarget, hown⟩
  · have hmessage : d.payload = clientMessage := hhands.payload.trans hpayload
    have hcount : reply.res = 22 := by
      rw [hover.res, hmessage]
      decide
    have hbuf : reply.buf = clientMessage ++ buffer.drop 22 := by
      rw [hover.buf, hmessage]
      rfl
    refine ⟨?_, congrArg some hbuf, before, c, k, after, client, p', stack', a', hls, hc,
      hport a' client.port htarget, ?_, hsent⟩
    · unfold receivedResult
      rw [hcount]
      rfl
    · rw [hk, hport a' client.port htarget]
  · obtain rfl := hport a' port htarget
    exact absurd hown (not_or.mpr hapart)

theorem executes_before {ks : List (P × Step)}
    (h : Executes (programs q).main (labelsOf q (ls ++ ks))) :
    Executes (programs q).main (labelsOf q ls) := by
  rw [labelsOf_append, Executes, List.map_append] at h
  exact h.of_append

/-- In every interleaving all programs are answered as they rely on: by
induction on the run, because what a server receives was sent before. -/
theorem allRely (hrun : (network P).Run (.start P) ls u)
    (hexec : ∀ q, Executes (programs q).main (labelsOf q ls)) : AllRely programs ls := by
  refine LabelledSystem.Run.invariant (fun ls _ ↦
    (∀ q, Executes (programs q).main (labelsOf q ls)) → AllRely programs ls) hrun ?_ ?_ hexec
  · exact fun _ q ↦ trivial
  · rintro ls u ⟨q, l⟩ v hrun ih ⟨next, hl, -⟩ hexec
    have hbefore := ih fun q' ↦ executes_before (hexec q')
    intro q'
    by_cases hq : q' = q
    · subst hq
      have hexec' := hexec q'
      rw [labelsOf_snoc_self] at hexec' ⊢
      rw [List.map_append, relies_append]
      refine ⟨hbefore q', ?_, trivial⟩
      have hguar := Examples.guaranteed hexec' (hbefore q')
      cases hprogram : programs q' with
      | client client => trivial
      | server args =>
          rw [hprogram] at hguar
          refine ⟨bindsAnswered hl, fun hapart p stack buffer size a n r hop hr hok ↦ ?_⟩
          obtain ⟨hresult, hbuffer, -⟩ := server_receives hrun (fun q ↦ executes_before (hexec q))
            hbefore hapart hl hguar hop hr hok
          exact ⟨hresult, hbuffer⟩
    · rw [labelsOf_snoc_ne (Ne.symm hq)]
      exact hbefore q'

/-- Whatever is lost, late, doubled or out of order between any number of
example servers and clients: a server that is bound to another port than 0 and
1 receives nothing but the clients' message, whole, from a client that was
given this port, and its buffer holds the message and zeros. -/
theorem server_hears_clients (hrun : (network P).Run (.start P) ls u)
    (hexec : ∀ q, Executes (programs q).main (labelsOf q ls)) (hq : programs q = .server args)
    (hapart : args.Apart) {before after : List (P × Step)} (hls : ls = before ++ (q, l) :: after)
    {p : ℕ} {stack : Stack} {buffer : Option (List UInt8)} {size : UInt64} {a : IpAddress}
    {n : UInt16} {r : Impl.ReceivedFrom} (hop : l.op = .call p (.receiveFrom stack buffer size a n))
    (hr : l.outcome = .receivedFrom r) (hok : r.result.hasError = false) :
    r.result = .ok 22 ∧ r.destinationBuffer = some greetedBuffer ∧
      ClientSent programs args.port before := by
  have hsplit : labelsOf q ls = labelsOf q before ++ l :: labelsOf q after := by
    rw [hls, labelsOf_append_cons_self]
  have hguar := (allRely hrun hexec).guaranteed (hexec q) hsplit
  rw [hq] at hguar
  obtain ⟨recvBuf, rfl, hclean⟩ : ∃ recvBuf, buffer = some recvBuf ∧ args.BufferClean recvBuf := by
    have hguar' := hguar
    rw [hop] at hguar'
    exact hguar'.2.2.2
  rw [hls] at hrun hexec
  obtain ⟨v, hbefore, hlast⟩ := run_append_iff.mp hrun
  obtain ⟨w, ⟨next, hl, -⟩, -⟩ := run_cons_iff.mp hlast
  have hexec' : ∀ q, Executes (programs q).main (labelsOf q before) :=
    fun q ↦ executes_before (hexec q)
  obtain ⟨hresult, hbuffer, hsent⟩ :=
    server_receives hbefore hexec' (allRely hbefore hexec') hapart hl hguar hop hr hok
  refine ⟨hresult, ?_, hsent⟩
  rw [hbuffer, ServerArgs.drop_clientMessage (hclean hapart)]

end

/-! ## A server and a client -/

section

/-- `zts_inet_pton` for one address of the overlay network. -/
local instance overlayInet : Inet :=
  { lwipInet with
    ztsInetPton := fun af src dst ↦
      if af = 2 ∧ src = bytesOf "10.0.0.2" then (1, dst.write 0 [10, 0, 0, 2].get) else (0, dst) }

def overlaySurroundings : Surroundings :=
  ⟨fun _ _ ↦ blank, fun _ ↦ 0, fun _ ↦ overlay 2, fun _ ↦ true, fun _ ↦ 1, 1⟩

def serverAt80 : ServerArgs := ⟨overlaySurroundings, [], 0, 80, 9994⟩

def clientTo80 : ClientArgs := ⟨overlaySurroundings, [], 0, bytesOf "10.0.0.2", 80, 9994⟩

def pair (b : Bool) : Program := if b then .server serverAt80 else .client clientTo80

/-- What libzt answers the server. -/
def answerServer : (c : Call) → c.Reply
  | .ztsBsdGetsockname .. => (⟨⟨0, 0⟩, overlaySockaddr 2 80⟩ : AddressReply)
  | .ztsBsdPoll .. => (⟨⟨1, 0⟩, ztsPollin⟩ : PollReply)
  | .ztsBsdRecvfrom .. =>
      (⟨⟨22, 0⟩, greetedBuffer, overlaySockaddr 1 90⟩ : BufferAddressReply)
  | c => Call.answer 0 c

/-- What the library answers the server. -/
def serverReply : (c : ApiCall) → Api.Reply c
  | .service _ => .ok ()
  | .setEventHandler _ => ()
  | .socket (.construct _) => .done
  | .socket (.call _ (.getLocalIpAddress _)) =>
      .address (.ok (toIpAddressAndPort blank.ipAddress (overlaySockaddr 2 80)).1)
  | .socket (.call _ (.getLocalPort _)) => .port (.ok 80)
  | .socket (.call _ (.pollEvents ..)) => .events (.ok PollEventBitmask.readyToReceive)
  | .socket (.call _ (.receiveFrom ..)) =>
      .receivedFrom ⟨⟨.ok 22, some greetedBuffer⟩,
        (toIpAddressAndPort blank.ipAddress (overlaySockaddr 1 90)).1, 90⟩
  | .socket _ => .empty (.ok ())

def clientReply : (c : ApiCall) → Api.Reply c
  | .service _ => .ok ()
  | .setEventHandler _ => ()
  | .socket (.construct _) => .done
  | .socket (.call _ (.sendTo ..)) => .count (.ok 22)
  | .socket _ => .empty (.ok ())

/-- The server on its host, bound to `10.0.0.2:80`, hears the client. -/
theorem exists_greeting : ∃ (before : List (Bool × Step)) (l : Step) (u : Network Bool)
    (r : Impl.ReceivedFrom), (network Bool).Run (.start Bool) (before ++ [(true, l)]) u ∧
      (∀ q, Executes (pair q).main (labelsOf q (before ++ [(true, l)]))) ∧
      (∃ stack buffer size a n, l.op = .call 0 (.receiveFrom stack buffer size a n)) ∧
      l.outcome = .receivedFrom r ∧ r.result.hasError = false := by
  have h₀ : (network Bool).Run (.start Bool) [] (.start Bool) := .nil
  have h₁ := h₀.snoc (network_step_of_follow true (.construct 0) answerServer rfl trivial)
  have h₂ := h₁.snoc (network_step_of_follow true (.construct 1) answerServer rfl trivial)
  have h₃ := h₂.snoc (network_step_of_follow true
    (.call 0 (.init .internetProtocolIPv4 .datagram)) (Call.answer 3) rfl
    ⟨⟨⟨fun _ ↦ rfl, trivial⟩, trivial⟩, trivial⟩)
  have h₄ := h₃.snoc (network_step_of_follow true
    (.call 1 (.init .internetProtocolIPv4 .datagram)) (Call.answer 4) rfl
    ⟨⟨⟨fun _ ↦ rfl, trivial⟩, trivial⟩, trivial⟩)
  have h₅ := h₄.snoc (network_step_of_follow true (.call 0 (.bind blank (overlay 2) 80))
    answerServer rfl ⟨⟨⟨trivial, trivial⟩, trivial⟩, trivial⟩)
  have h₆ := h₅.snoc (network_step_of_follow true (.call 1 (.bind blank (overlay 2) 0))
    answerServer rfl ⟨⟨⟨trivial, trivial⟩, trivial⟩, trivial⟩)
  have h₇ := h₆.snoc (network_step_of_follow true (.call 0 (.getLocalIpAddress blank))
    answerServer rfl ⟨⟨⟨?address, trivial⟩, trivial⟩, trivial⟩)
  have h₈ := h₇.snoc (network_step_of_follow true (.call 0 (.getLocalPort blank))
    answerServer rfl ⟨⟨⟨?port, trivial⟩, trivial⟩, trivial⟩)
  have h₉ := h₈.snoc (network_step_of_follow true (.call 0 (.pollEvents readyToReceiveAny 0))
    answerServer rfl ⟨⟨⟨trivial, trivial⟩, trivial⟩, trivial⟩)
  have h₁₀ := h₉.snoc (network_step_of_follow false (.construct 0) (Call.answer 0) rfl trivial)
  have h₁₁ := h₁₀.snoc (network_step_of_follow false
    (.call 0 (.init .internetProtocolIPv4 .datagram)) (Call.answer 3) rfl
    ⟨⟨⟨fun _ ↦ rfl, trivial⟩, trivial⟩, trivial⟩)
  have h₁₂ := h₁₁.snoc (network_step_of_follow false
    (.call 0 (.bind blank (.ipv4Unspecified blank.ipAddress) 0))
    (Call.answer 0) rfl ⟨⟨⟨trivial, trivial⟩, trivial⟩, trivial⟩)
  have h₁₃ := h₁₂.snoc (network_step_of_follow false
    (.call 0 (.sendTo blank (some clientMessage) 22
      (.ipv4FromStdString blank.ipAddress (bytesOf "10.0.0.2")) 80)) (Call.answer 22) rfl
    ⟨⟨⟨trivial, trivial⟩, fun _ ↦ ⟨by decide, fun _ ↦ ⟨rfl, by decide⟩⟩⟩, trivial⟩)
  have h₁₄ := h₁₃.snoc (network_step_of_follow true
    (.call 0 (.receiveFrom blank (some (List.replicate 128 0)) 128
      (.construct blank.ipAddress) 0)) answerServer rfl
    ⟨⟨⟨trivial, trivial⟩, fun _ ↦ ⟨by decide, fun _ ↦ ⟨_, List.mem_cons_self,
      ⟨clientMessage, overlaySockaddr 1 90⟩, ⟨rfl, ?sender, ?destination⟩, ⟨rfl, rfl⟩, rfl⟩⟩⟩,
      trivial⟩)
  case address | port =>
    rintro s ⟨⟩ -
    exact ⟨rfl, rfl, rfl, fun _ ↦ rfl, fun _ ↦ rfl⟩
  case sender =>
    rintro addr ⟨⟩ hport
    exact absurd rfl hport
  case destination =>
    rintro target own ⟨⟩ ⟨⟩ -
    rfl
  refine ⟨_, _, _, _, h₁₄, ?_, ⟨_, _, _, _, _, rfl⟩, rfl, rfl⟩
  rintro (_ | _)
  · exact ⟨_, Prog.begins_first clientReply 12 _, rfl⟩
  · exact ⟨_, Prog.begins_first serverReply 18 _, rfl⟩

theorem server_hears_clients_pair : ∃ (before : List (Bool × Step)) (r : Impl.ReceivedFrom),
    r.result = .ok 22 ∧ r.destinationBuffer = some greetedBuffer ∧ ClientSent pair 80 before := by
  obtain ⟨before, l, u, r, hrun, hexec, ⟨stack, buffer, size, a, n, hop⟩, hr, hok⟩ :=
    exists_greeting
  have hapart : serverAt80.Apart := ⟨by decide, by decide⟩
  exact ⟨before, r, server_hears_clients hrun hexec rfl hapart rfl hop hr hok⟩

end

end Ztcpp.Examples
