import Mathlib.Data.List.Forall2
import Ztcpp.Socket.Session
import Ztcpp.Socket.Unreachable

/-!
# Delivery of datagrams

libzt hands over the datagrams of a queue one by one, each cut to the buffer,
and answers how many bytes it wrote.  `receive` and `receiveFrom` take the
answer 0 for an error, so that an empty datagram is consumed and reported as a
failure.
-/

namespace Ztcpp

open Interaction

structure Datagram where
  payload : List UInt8
  sender : SockaddrStorage

/-- The datagram is written to the front of the buffer, cut to its size. -/
structure HandsOver (d : Datagram) (buf : List UInt8) (len : UInt64) (reply : Status)
    (written : List UInt8) : Prop where
  res : reply.res = min d.payload.length len.toNat
  buf : written = d.payload.take len.toNat ++ buf.drop d.payload.length

/-- libzt with a queue of datagrams for each descriptor.  It may also answer a
negative code and hand over nothing. -/
def datagrams : Service Libzt (ℤ → List Datagram) where
  Admits queue c r :=
    match c, r with
    | .ztsRecv fd buf len _, (r : BufferReply) =>
        0 ≤ r.res → ∃ d rest, queue fd = d :: rest ∧ HandsOver d buf len r.toStatus r.buf
    | .ztsBsdRecvfrom fd buf len _ _ _, (r : BufferAddressReply) =>
        0 ≤ r.res → ∃ d rest, queue fd = d :: rest ∧ HandsOver d buf len r.toStatus r.buf ∧
          r.addr = d.sender
    | _, _ => True
  next queue c r :=
    match c, r with
    | .ztsRecv fd _ _ _, (r : BufferReply) =>
        if 0 ≤ r.res then Function.update queue fd (queue fd).tail else queue
    | .ztsBsdRecvfrom fd _ _ _ _ _, (r : BufferAddressReply) =>
        if 0 ≤ r.res then Function.update queue fd (queue fd).tail else queue
    | _, _ => queue

def Op.bufferSize : Op → ℕ
  | .call _ (.receive _ size) | .call _ (.receiveFrom _ _ size _ _) => size.toNat
  | _ => 0

/-- A call of `receive` or `receiveFrom` on the Socket at `p`, with a buffer of
the size given, which is not 0. -/
inductive Op.Receives (p : ℕ) : Op → Prop where
  | receive (buffer : List UInt8) (size : UInt64) (hsize : buffer.length = size.toNat)
      (hpos : 0 < size.toNat) : Receives p (.call p (.receive (some buffer) size))
  | receiveFrom (stack : Stack) (buffer : List UInt8) (size : UInt64)
      (aSenderAddress : IpAddress) (aSenderPort : UInt16) (hsize : buffer.length = size.toNat)
      (hpos : 0 < size.toNat) :
      Receives p (.call p (.receiveFrom stack (some buffer) size aSenderAddress aSenderPort))

def Outcome.received? : Outcome → Option (Result UInt64 × Option (List UInt8))
  | .received r => some (r.result, r.destinationBuffer)
  | .receivedFrom r => some (r.result, r.destinationBuffer)
  | _ => none

section

variable [Platform]

/-- The call succeeded, with the datagram cut to the buffer and, for
`receiveFrom`, its sender. -/
def Step.Delivers (l : Step) (d : Datagram) : Prop :=
  (∃ (count : UInt64) (buffer : List UInt8),
    l.outcome.received? = some (.ok count, some buffer) ∧
      count.toNat = min d.payload.length l.op.bufferSize ∧
      buffer.take count.toNat = d.payload.take l.op.bufferSize) ∧
    ∀ p stack buffer size a q r,
      l.op = .call p (.receiveFrom stack buffer size a q) → l.outcome = .receivedFrom r →
        (r.senderAddress, r.senderPort) = toIpAddressAndPort stack.ipAddress d.sender

def Step.Refused (l : Step) : Prop := ∃ e ∈ l.events, ZtsEvent.res e < 0

omit [Platform] in
theorem HandsOver.take {d : Datagram} {buf written : List UInt8} {len : UInt64} {reply : Status}
    (h : HandsOver d buf len reply written) :
    written.take (min d.payload.length len.toNat) = d.payload.take len.toNat := by
  have hlength : (d.payload.take len.toNat).length = min d.payload.length len.toNat := by
    rw [List.length_take, min_comm]
  rw [h.buf, List.take_append_of_le_length hlength.ge, List.take_of_length_le hlength.le]

theorem HandsOver.receivedResult {d : Datagram} {buf written : List UInt8} {len : UInt64}
    {reply : Status} (h : HandsOver d buf len reply written) (hpos : 0 < len.toNat)
    (function callee : String) :
    (d.payload = [] → (Ztcpp.receivedResult function callee reply).hasError = true) ∧
      (d.payload ≠ [] → ∃ count : UInt64, Ztcpp.receivedResult function callee reply = .ok count ∧
        count.toNat = min d.payload.length len.toNat) := by
  have hres := h.res
  constructor
  · intro hempty
    rw [hempty, List.length_nil, Nat.zero_min] at hres
    unfold Ztcpp.receivedResult
    rw [if_neg (by omega)]
    rfl
  · intro hne
    have hlength : 0 < d.payload.length := List.length_pos_iff.mpr hne
    have hcount : 0 < reply.res := by omega
    refine ⟨_, if_pos hcount, ?_⟩
    have hlt := len.toNat_lt
    rw [UInt64.toNat_ofNat', Nat.mod_eq_of_lt (by omega), hres]
    omega

variable {s t : Session (ℤ → List Datagram)} {l : Step} {p : ℕ} {x : Object} {steps : List Step}

/-- What one receiving call does: it is refused, or it takes the first datagram
of the queue, and succeeds unless that datagram is empty. -/
structure Receives (l : Step) (queue queue' : List Datagram) : Prop where
  refused : l.Refused → l.outcome.hasError ∧ queue' = queue
  handed : ¬ l.Refused → ∃ d, queue = d :: queue' ∧ (d.payload = [] → l.outcome.hasError) ∧
    (d.payload ≠ [] → ¬ l.outcome.hasError ∧ l.Delivers d)

theorem hasError_receivedResult_of_neg {function callee : String} {reply : Status}
    (h : reply.res < 0) : (receivedResult function callee reply).hasError = true := by
  unfold receivedResult
  rw [if_neg (by omega)]
  rfl

omit [Platform] in
theorem Outcome.hasError_of_received? {o : Outcome} {r : Result UInt64}
    {buffer : Option (List UInt8)} (h : o.received? = some (r, buffer)) :
    o.hasError = r.hasError := by
  cases o with
  | received r | receivedFrom r =>
      cases h
      exact hasError_eq rfl
  | _ => cases h

theorem receives_of_reply {queue queue' : List Datagram} {reply : Status} {size : UInt64}
    (buf : List UInt8) {written : List UInt8} {function callee : String} (hpos : 0 < size.toNat)
    (hsize : l.op.bufferSize = size.toNat) (hrefused : l.Refused ↔ reply.res < 0)
    (hout : l.outcome.received? = some (receivedResult function callee reply, some written))
    (hqueue : queue' = if 0 ≤ reply.res then queue.tail else queue)
    (hadmits : 0 ≤ reply.res → ∃ d rest, queue = d :: rest ∧ HandsOver d buf size reply written ∧
      ∀ p stack buffer size a q r, l.op = .call p (.receiveFrom stack buffer size a q) →
        l.outcome = .receivedFrom r →
          (r.senderAddress, r.senderPort) = toIpAddressAndPort stack.ipAddress d.sender) :
    Receives l queue queue' := by
  have hfailed := Outcome.hasError_of_received? hout
  constructor
  · intro h
    have hneg := hrefused.mp h
    refine ⟨hfailed.trans (hasError_receivedResult_of_neg hneg), ?_⟩
    rw [hqueue, if_neg (not_le.mpr hneg)]
  · intro h
    have hnonneg : 0 ≤ reply.res := not_lt.mp fun hneg ↦ h (hrefused.mpr hneg)
    obtain ⟨d, rest, hd, hhands, hsender⟩ := hadmits hnonneg
    obtain ⟨hempty, hfull⟩ := hhands.receivedResult hpos function callee
    refine ⟨d, ?_, fun hnil ↦ hfailed.trans (hempty hnil), fun hne ↦ ?_⟩
    · rw [hqueue, if_pos hnonneg, hd]
      rfl
    · obtain ⟨count, hresult, hcount⟩ := hfull hne
      rw [hresult] at hout hfailed
      refine ⟨by simp [hfailed], ⟨count, written, hout, ?_, ?_⟩, hsender⟩
      · rw [hsize, hcount]
      · rw [hcount, hsize, hhands.take]

theorem receive_step {buffer : List UInt8} {size : UInt64} (hpos : 0 < size.toNat)
    (hop : l.op = .call p (.receive (some buffer) size)) (hx : s.world.object? p = some x)
    (hl : (sessions datagrams).Step s l t) :
    t.world = s.world ∧
      Receives l (s.libzt x.impl.socketID) (t.libzt x.impl.socketID) := by
  obtain ⟨hexec, hadmits, hafter⟩ := hl
  rw [hop] at hexec
  obtain ⟨impl, hm, hworld⟩ := World.runs_call_of_object hx hexec
  obtain ⟨r, hrun, hout⟩ := Method.runs_returning.mp hm
  obtain ⟨rfl, ⟨hbad, -⟩ | ⟨-, reply, hevents, rfl⟩⟩ := Impl.runs_receive hrun
  · exact absurd hbad (by rintro (hnone | rfl) <;> simp_all)
  rw [hevents] at hadmits hafter
  refine ⟨by rw [hworld, World.setImpl_self hx], ?_⟩
  refine receives_of_reply (l := l) buffer hpos (by rw [hop]; rfl) ?_ (by rw [hout]; rfl) ?_ ?_
  · rw [Step.Refused, hevents]
    simp [ZtsEvent.res, Call.status]
  · rw [hafter]
    change (if 0 ≤ reply.res then Function.update s.libzt _ _ else s.libzt) _ = _
    split_ifs
    · rw [Function.update_self]
    · rfl
  · intro hnonneg
    obtain ⟨d, rest, hqueue, hhands⟩ := hadmits.1 hnonneg
    refine ⟨d, rest, hqueue, hhands, ?_⟩
    intro p' stack' buffer' size' a q r' hop'
    rw [hop] at hop'
    cases hop'

theorem receiveFrom_step {stack : Stack} {buffer : List UInt8} {size : UInt64} {a : IpAddress}
    {q : UInt16} (hpos : 0 < size.toNat)
    (hop : l.op = .call p (.receiveFrom stack (some buffer) size a q))
    (hx : s.world.object? p = some x) (hl : (sessions datagrams).Step s l t) :
    t.world = s.world ∧
      Receives l (s.libzt x.impl.socketID) (t.libzt x.impl.socketID) := by
  obtain ⟨hexec, hadmits, hafter⟩ := hl
  rw [hop] at hexec
  obtain ⟨impl, hm, hworld⟩ := World.runs_call_of_object hx hexec
  obtain ⟨r, hrun, hout⟩ := Method.runs_returning.mp hm
  obtain ⟨rfl, ⟨hbad, -⟩ | ⟨-, reply, hevents, rfl⟩⟩ := Impl.runs_receiveFrom hrun
  · exact absurd hbad (by rintro (hnone | rfl) <;> simp_all)
  rw [hevents] at hadmits hafter
  refine ⟨by rw [hworld, World.setImpl_self hx], ?_⟩
  refine receives_of_reply (l := l) buffer hpos (by rw [hop]; rfl) ?_ (by rw [hout]; rfl) ?_ ?_
  · rw [Step.Refused, hevents]
    simp [ZtsEvent.res, Call.status]
  · rw [hafter]
    change (if 0 ≤ reply.res then Function.update s.libzt _ _ else s.libzt) _ = _
    split_ifs
    · rw [Function.update_self]
    · rfl
  · intro hnonneg
    obtain ⟨d, rest, hqueue, hhands, hsender⟩ := hadmits.1 hnonneg
    refine ⟨d, rest, hqueue, hhands, ?_⟩
    intro p' stack' buffer' size' a' q' r' hop' hr'
    rw [hop] at hop'
    rw [hout] at hr'
    cases hop'
    cases hr'
    rw [← hsender]

theorem receives_step (hop : l.op.Receives p) (hx : s.world.object? p = some x)
    (hl : (sessions datagrams).Step s l t) :
    t.world = s.world ∧
      Receives l (s.libzt x.impl.socketID) (t.libzt x.impl.socketID) := by
  generalize hcall : l.op = op at hop
  cases hop with
  | receive buffer size hsize hpos => exact receive_step hpos hcall hx hl
  | receiveFrom stack buffer size a q hsize hpos => exact receiveFrom_step hpos hcall hx hl

/-- Every error is one that libzt reported, and the successful calls return the
datagrams of the list, each exactly once and in order. -/
def DeliversAll (steps : List Step) (handed : List Datagram) : Prop :=
  (∀ l ∈ steps, l.outcome.hasError → l.Refused) ∧
    List.Forall₂ Step.Delivers (steps.filter fun l ↦ !l.outcome.hasError) handed

theorem deliversAll_cons_refused {handed : List Datagram} (herror : l.outcome.hasError)
    (hrefused : l.Refused) : DeliversAll (l :: steps) handed ↔ DeliversAll steps handed := by
  unfold DeliversAll
  rw [List.forall_mem_cons, List.filter_cons_of_neg (by simp [herror])]
  constructor
  · rintro ⟨⟨-, hrest⟩, hall⟩
    exact ⟨hrest, hall⟩
  · rintro ⟨hrest, hall⟩
    exact ⟨⟨fun _ ↦ hrefused, hrest⟩, hall⟩

theorem deliversAll_cons_delivers {handed : List Datagram} {d : Datagram}
    (hok : ¬ l.outcome.hasError) (hdelivers : l.Delivers d) :
    DeliversAll (l :: steps) (d :: handed) ↔ DeliversAll steps handed := by
  unfold DeliversAll
  rw [List.forall_mem_cons, List.filter_cons_of_pos (by simpa using hok), List.forall₂_cons]
  constructor
  · rintro ⟨⟨-, hrest⟩, -, hall⟩
    exact ⟨hrest, hall⟩
  · rintro ⟨hrest, hall⟩
    exact ⟨⟨fun herror ↦ absurd herror hok, hrest⟩, hdelivers, hall⟩

/-- Every datagram that libzt hands over is delivered, in order, if and only if
none of them is empty. -/
theorem datagram_delivery_iff (hx : s.world.object? p = some x)
    (hops : ∀ l ∈ steps, l.op.Receives p) (hrun : (sessions datagrams).Run s steps t) :
    ∃ handed, s.libzt x.impl.socketID = handed ++ t.libzt x.impl.socketID ∧
      (DeliversAll steps handed ↔ ∀ d ∈ handed, d.payload ≠ []) := by
  induction steps generalizing s with
  | nil =>
      obtain rfl := LabelledSystem.run_nil_iff.mp hrun
      exact ⟨[], rfl, by simp [DeliversAll]⟩
  | cons l steps ih =>
      obtain ⟨hop, hops⟩ := List.forall_mem_cons.mp hops
      obtain ⟨u, hl, hrest⟩ := LabelledSystem.run_cons_iff.mp hrun
      obtain ⟨hworld, hreceives⟩ := receives_step hop hx hl
      rw [← hworld] at hx
      obtain ⟨handed, hqueue, hiff⟩ := ih hx hops hrest
      by_cases hrefused : l.Refused
      · obtain ⟨herror, hsame⟩ := hreceives.refused hrefused
        refine ⟨handed, hsame ▸ hqueue, ?_⟩
        rw [deliversAll_cons_refused herror hrefused]
        exact hiff
      · obtain ⟨d, hd, hempty, hfull⟩ := hreceives.handed hrefused
        refine ⟨d :: handed, by rw [hd, hqueue, List.cons_append], ?_⟩
        rw [List.forall_mem_cons]
        by_cases hnil : d.payload = []
        · refine iff_of_false ?_ fun h ↦ h.1 hnil
          rintro ⟨herrors, -⟩
          exact hrefused (herrors l List.mem_cons_self (hempty hnil))
        · obtain ⟨hok, hdelivers⟩ := hfull hnil
          rw [deliversAll_cons_delivers hok hdelivers, hiff]
          exact (and_iff_right hnil).symm

omit [Platform] in
theorem Op.Receives.allows {op : Op} (hop : op.Receives p) (hx : s.world.object? p = some x) :
    s.world.Allows op := by
  have hne : s.world.object? p ≠ none := by
    rw [hx]
    exact Option.some_ne_none x
  cases hop with
  | receive | receiveFrom => exact hne

/-- However libzt chooses among its answers, every sequence of receiving calls
has a run: none of them stops the process. -/
theorem exists_receiving_run {S : Service Libzt (ℤ → List Datagram)} (hS : S.Refines datagrams id)
    (hanswers : ∀ queue c, ∃ r, S.Admits queue c r) (hx : s.world.object? p = some x)
    {ops : List Op} (hops : ∀ op ∈ ops, op.Receives p) :
    ∃ steps t, steps.map Step.op = ops ∧ (sessions S).Run s steps t ∧
      (sessions datagrams).Run s steps t := by
  induction ops generalizing s with
  | nil => exact ⟨[], s, rfl, .nil, .nil⟩
  | cons op ops ih =>
      obtain ⟨hop, hops⟩ := List.forall_mem_cons.mp hops
      obtain ⟨es, ⟨o, w⟩, hexec, hadmits⟩ :=
        (World.neverStops_exec (hop.allows hx)).exists_runs hanswers s.libzt
      let t : Session (ℤ → List Datagram) := ⟨w, S.after s.libzt es⟩
      have hl : (sessions S).Step s ⟨op, es, o⟩ t := ⟨hexec, hadmits, rfl⟩
      have hl' : (sessions datagrams).Step s ⟨op, es, o⟩ t :=
        ⟨hexec, hS.admitsAll hadmits, hS.after hadmits⟩
      obtain ⟨hworld, -⟩ := receives_step hop hx hl'
      have ht : t.world.object? p = some x := by rw [hworld, hx]
      obtain ⟨steps, u, hsteps, hrun, hrun'⟩ := ih ht hops
      exact ⟨⟨op, es, o⟩ :: steps, u, by rw [List.map_cons, hsteps],
        LabelledSystem.run_cons_iff.mpr ⟨t, hl, hrun⟩,
        LabelledSystem.run_cons_iff.mpr ⟨t, hl', hrun'⟩⟩

end

def queued (payload : List UInt8) : ℤ → List Datagram :=
  Function.update (fun _ ↦ []) 3 [⟨payload, Octets.Image.zeros _⟩]

def receiveFour (payload : List UInt8) : Step where
  op := .call 0 (.receive (some [0, 0, 0, 0]) 4)
  events := [⟨.ztsRecv 3 [0, 0, 0, 0] 4 0,
    (⟨⟨payload.length, 0⟩, payload ++ [0, 0, 0, 0].drop payload.length⟩ : BufferReply)⟩]
  outcome := .received ⟨receivedResult "receive" "zts_recvfrom" ⟨payload.length, 0⟩,
    some (payload ++ [0, 0, 0, 0].drop payload.length)⟩

theorem receiveFour_receives (payload : List UInt8) : (receiveFour payload).op.Receives 0 :=
  .receive [0, 0, 0, 0] 4 rfl (by decide)

theorem receiveFour_run {payload : List UInt8} (h : payload.length ≤ 4) :
    ∃ t, (sessions datagrams).Run ⟨.opened .internetProtocolIPv4 .datagram 3, queued payload⟩
      [receiveFour payload] t := by
  have hhands : HandsOver ⟨payload, Octets.Image.zeros _⟩ [0, 0, 0, 0] 4 ⟨payload.length, 0⟩
      (payload ++ [0, 0, 0, 0].drop payload.length) := by
    constructor
    · change (payload.length : ℤ) = _
      rw [min_eq_left (by exact_mod_cast h)]
    · exact congrArg (· ++ _) (List.take_of_length_le h).symm
  have hqueue : queued payload 3 = [⟨payload, Octets.Image.zeros _⟩] := Function.update_self ..
  refine ⟨⟨_, _⟩, LabelledSystem.run_singleton_iff.mpr ⟨⟨_, [], rfl, rfl, rfl⟩, ?_, rfl⟩⟩
  exact ⟨fun _ ↦ ⟨_, [], hqueue, hhands⟩, trivial⟩

theorem datagram_delivery_nonempty :
    ∃ t : Session (ℤ → List Datagram),
      (sessions datagrams).Run ⟨.opened .internetProtocolIPv4 .datagram 3, queued [7, 8]⟩
        [receiveFour [7, 8]] t ∧
      ∃ handed, queued [7, 8] 3 = handed ++ t.libzt 3 ∧
        (DeliversAll [receiveFour [7, 8]] handed ↔ ∀ d ∈ handed, d.payload ≠ []) := by
  have hlength : ([7, 8] : List UInt8).length ≤ 4 := by decide
  obtain ⟨t, hrun⟩ := receiveFour_run hlength
  have hops : ∀ l ∈ [receiveFour [7, 8]], l.op.Receives 0 :=
    List.forall_mem_singleton.mpr (receiveFour_receives [7, 8])
  exact ⟨t, hrun, datagram_delivery_iff (x := ⟨0, ⟨.internetProtocolIPv4, .datagram, 3⟩⟩) rfl
    hops hrun⟩

/-- An empty datagram is taken from the queue, and `receive` fails. -/
theorem empty_datagram_reported_as_error :
    ¬ ∀ (queue : ℤ → List Datagram) (before steps : List Step)
      (s t : Session (ℤ → List Datagram)) (p : ℕ) (x : Object),
      Reaches datagrams queue before s → s.world.object? p = some x → x.impl.isOpen →
      x.impl.socketType = .datagram → (∀ l ∈ steps, l.op.Receives p) →
      (sessions datagrams).Run s steps t →
      ∀ l ∈ steps, l.outcome.hasError → l.Refused := by
  intro h
  obtain ⟨before, hreach⟩ : ∃ steps, Reaches datagrams (queued []) steps
      ⟨.opened .internetProtocolIPv4 .datagram 3, queued []⟩ :=
    opened_reached datagrams (by decide) trivial
  have hlength : ([] : List UInt8).length ≤ 4 := by decide
  obtain ⟨t, hrun⟩ := receiveFour_run hlength
  have hops : ∀ l ∈ [receiveFour []], l.op.Receives 0 :=
    List.forall_mem_singleton.mpr (receiveFour_receives [])
  have hrefused : (receiveFour []).Refused :=
    h (queued []) before _ _ t 0 ⟨0, ⟨.internetProtocolIPv4, .datagram, 3⟩⟩ hreach rfl rfl rfl hops
      hrun _ List.mem_cons_self rfl
  obtain ⟨e, he, hres⟩ := hrefused
  obtain rfl := List.mem_singleton.mp he
  exact absurd hres (by decide)

end Ztcpp
