import Ztcpp.Library.Parties
import Ztcpp.Socket.Calls
import Ztcpp.Socket.Datagrams
import Ztcpp.Socket.Stream

/-!
# Programs that exchange byte streams

Two descriptors, of one program or of two, are the ends of a connection.  Each
direction carries the bytes that the sending libzt accepted and the receiving
one has not handed over yet.  In every interleaving with the steps of all
programs, what was received and what is still on its way make up what was on its
way before and what libzt accepted; and what `send` reported, if and only if
there was no short write.
-/

namespace Ztcpp

open Interaction LabelledSystem

/-- The direction in which the end `side` of a connection sends. -/
structure Flow where
  connection : ℕ
  side : Bool
  deriving DecidableEq

def Flow.back (f : Flow) : Flow := ⟨f.connection, !f.side⟩

@[simp] theorem Flow.back_back (f : Flow) : f.back.back = f := by simp [back]

/-- libzt hands over the first bytes of the queue, or it refuses the call. -/
structure HandsBytes (queue buf : List UInt8) (len : UInt64) (reply : Status)
    (written : List UInt8) : Prop where
  le_len : reply.res ≤ len.toNat
  le_queue : reply.res ≤ queue.length
  written : 0 ≤ reply.res → written = queue.take reply.res.toNat ++ buf.drop reply.res.toNat

/-- What the descriptors of one host are ends of, and the bytes on their way. -/
structure Wire where
  ends : ℤ → Option Flow
  onWay : Flow → List UInt8

namespace Wire

def put (s : Wire) (fd : ℤ) (bytes : List UInt8) : Wire :=
  match s.ends fd with
  | some f => { s with onWay := Function.update s.onWay f (s.onWay f ++ bytes) }
  | none => s

def drop (s : Wire) (fd : ℤ) (n : ℕ) : Wire :=
  match s.ends fd with
  | some f => { s with onWay := Function.update s.onWay f.back ((s.onWay f.back).drop n) }
  | none => s

def hangUp (s : Wire) (fd : ℤ) : Wire := { s with ends := Function.update s.ends fd none }

end Wire

/-- libzt on one host.  `zts_bsd_sendto` ignores the address on a connection. -/
def wire : Service Libzt Wire where
  Admits s c r :=
    match c, r with
    | .ztsSend _ _ len _, (r : Status) => r.res ≤ len.toNat
    | .ztsBsdSendto _ _ len _ _ _, (r : Status) => r.res ≤ len.toNat
    | .ztsRecv fd buf len _, (r : BufferReply) =>
        ∀ f, s.ends fd = some f → HandsBytes (s.onWay f.back) buf len r.toStatus r.buf
    | .ztsBsdRecvfrom fd buf len _ _ _, (r : BufferAddressReply) =>
        ∀ f, s.ends fd = some f → HandsBytes (s.onWay f.back) buf len r.toStatus r.buf
    | _, _ => True
  next s c r :=
    match c, r with
    | .ztsSend fd buf _ _, (r : Status) => s.put fd (buf.take r.res.toNat)
    | .ztsBsdSendto fd buf _ _ _ _, (r : Status) => s.put fd (buf.take r.res.toNat)
    | .ztsRecv fd _ _ _, (r : BufferReply) => s.drop fd r.res.toNat
    | .ztsBsdRecvfrom fd _ _ _ _ _, (r : BufferAddressReply) => s.drop fd r.res.toNat
    | .ztsClose fd, _ => s.hangUp fd
    | _, _ => s

/-! ## The bytes of a call -/

def ZtsEvent.accepted (e : ZtsEvent) : List UInt8 :=
  match e.call with
  | .ztsSend _ buf _ _ | .ztsBsdSendto _ buf _ _ _ _ => buf.take (ZtsEvent.res e).toNat
  | _ => []

def ZtsEvent.handedOver : ZtsEvent → List UInt8
  | ⟨.ztsRecv .., (r : BufferReply)⟩ => r.buf.take r.res.toNat
  | ⟨.ztsBsdRecvfrom .., (r : BufferAddressReply)⟩ => r.buf.take r.res.toNat
  | _ => []

/-- libzt transfers at most the bytes that the call is about. -/
def ZtsEvent.Bounded (e : ZtsEvent) : Prop :=
  match e.call with
  | .ztsSend _ _ len _ | .ztsBsdSendto _ _ len _ _ _ | .ztsRecv _ _ len _
  | .ztsBsdRecvfrom _ _ len _ _ _ => ZtsEvent.res e ≤ len.toNat
  | _ => True

/-- The bytes that the operation asks libzt to send. -/
def Op.outgoing : Op → List UInt8
  | .call _ (.send data size) | .call _ (.sendTo _ data size _ _) =>
      (data.getD []).take size.toNat
  | _ => []

/-- The memory passed to the sending calls has at least the size passed with
it, which is below `2 ^ 31`. -/
def Op.Readable : Op → Prop
  | .call _ (.send data size) | .call _ (.sendTo _ data size _ _) =>
      (∀ bytes, data = some bytes → size.toNat ≤ bytes.length) ∧ size.toNat < 2 ^ 31
  | _ => True

def Outcome.sentCount : Outcome → ℕ
  | .count (.ok size) => size.toNat
  | _ => 0

def Outcome.receivedBytes (o : Outcome) : List UInt8 :=
  match o.received? with
  | some (.ok size, some buffer) => buffer.take size.toNat
  | _ => []

namespace Step

def On (l : Step) (fd : ℤ) : Prop := ∃ e ∈ l.events, e.call.descriptorUse = .uses fd

instance (l : Step) (fd : ℤ) : Decidable (l.On fd) :=
  inferInstanceAs (Decidable (∃ e ∈ l.events, e.call.descriptorUse = .uses fd))

/-- The bytes that a call on `fd` reported as sent. -/
def sentOn (fd : ℤ) (l : Step) : List UInt8 :=
  if l.On fd then l.op.outgoing.take l.outcome.sentCount else []

/-- The bytes that a call on `fd` returned. -/
def receivedOn (fd : ℤ) (l : Step) : List UInt8 :=
  if l.On fd then l.outcome.receivedBytes else []

def acceptedOn (fd : ℤ) (l : Step) : List UInt8 :=
  if l.On fd then l.events.flatMap ZtsEvent.accepted else []

def handedOverOn (fd : ℤ) (l : Step) : List UInt8 :=
  if l.On fd then l.events.flatMap ZtsEvent.handedOver else []

/-- No call of the step closes `fd`. -/
def Keeps (l : Step) (fd : ℤ) : Prop := ∀ e ∈ l.events, e.call ≠ .ztsClose fd

/-- libzt accepted some of the bytes offered on `fd` but not all. -/
def ShortOn (fd : ℤ) (l : Step) : Prop :=
  l.On fd ∧ ∃ e ∈ l.events, 0 < ZtsEvent.res e ∧ ZtsEvent.res e < l.op.outgoing.length

end Step

/-! ## The network -/

section

variable [Platform]

/-- A step of one program and its libzt, with the bytes on their way. -/
def wired : LabelledSystem (Session (ℤ → Option Flow) × (Flow → List UInt8)) Step where
  Step s l t :=
    (sessions wire).Step ⟨s.1.world, ⟨s.1.libzt, s.2⟩⟩ l ⟨t.1.world, ⟨t.1.libzt, t.2⟩⟩

/-- The programs `P`, and the bytes on their way. -/
abbrev StreamNetwork (P : Type) := (P → Session (ℤ → Option Flow)) × (Flow → List UInt8)

def streamNetwork (P : Type) [DecidableEq P] : LabelledSystem (StreamNetwork P) (P × Step) :=
  sharing P wired

/-- `a` and `b`, descriptors with their programs, are the ends of a connection;
`f` is the direction in which `a` sends. -/
structure Joined {P : Type} (s : StreamNetwork P) (a b : P × ℤ) (f : Flow) : Prop where
  sender : ∀ q fd, (s.1 q).libzt fd = some f ↔ (q, fd) = a
  receiver : ∀ q fd, (s.1 q).libzt fd = some f.back ↔ (q, fd) = b

end

namespace Wire

variable {s : Wire} {f : Flow} {fd : ℤ} {own : Prop} [Decidable own]

theorem onWay_put (h : s.ends fd = some f ↔ own) (bytes : List UInt8) :
    (s.put fd bytes).onWay f = s.onWay f ++ if own then bytes else [] := by
  unfold put
  cases hg : s.ends fd with
  | none =>
      have hown : ¬ own := fun hown ↦ by simp [h.mpr hown] at hg
      simp [hown]
  | some g =>
      by_cases hgf : g = f
      · subst hgf
        simp [h.mp hg]
      · have hown : ¬ own := fun hown ↦ hgf (Option.some.inj (hg.symm.trans (h.mpr hown)))
        simp [Function.update_of_ne (Ne.symm hgf), hown]

theorem onWay_drop (h : s.ends fd = some f.back ↔ own) (n : ℕ) :
    (s.drop fd n).onWay f = if own then (s.onWay f).drop n else s.onWay f := by
  unfold drop
  cases hg : s.ends fd with
  | none =>
      have hown : ¬ own := fun hown ↦ by simp [h.mpr hown] at hg
      simp [hown]
  | some g =>
      by_cases hgf : g = f.back
      · subst hgf
        simp [h.mp hg]
      · have hown : ¬ own := fun hown ↦ hgf (Option.some.inj (hg.symm.trans (h.mpr hown)))
        have hne : f ≠ g.back := by
          rintro rfl
          exact hgf (Flow.back_back g).symm
        simp [Function.update_of_ne hne, hown]

/-- What a call hands over and leaves on its way was on its way, or was accepted by it. -/
theorem balance {P : Type} [DecidableEq P] {q : P} {a b : P × ℤ} {e : ZtsEvent}
    (hsend : ∀ fd, s.ends fd = some f ↔ (q, fd) = a)
    (hrecv : ∀ fd, s.ends fd = some f.back ↔ (q, fd) = b)
    (hadmits : wire.Admits s e.call e.reply) {fd : ℤ} (huse : e.call.descriptorUse = .uses fd) :
    (if (q, fd) = b then e.handedOver else []) ++ (wire.next s e.call e.reply).onWay f =
      s.onWay f ++ if (q, fd) = a then e.accepted else [] := by
  obtain ⟨c, r⟩ := e
  have htaken : ∀ {buf : List UInt8} {len : UInt64} {reply : Status} {written : List UInt8},
      (∀ g, s.ends fd = some g → HandsBytes (s.onWay g.back) buf len reply written) →
      (if (q, fd) = b then written.take reply.res.toNat else []) ++
        (s.drop fd reply.res.toNat).onWay f = s.onWay f := by
    intro buf len reply written hhands
    rw [onWay_drop (hrecv fd)]
    split_ifs with hown
    · have hbytes := hhands f.back ((hrecv fd).mpr hown)
      rw [Flow.back_back] at hbytes
      have hwritten : written.take reply.res.toNat = (s.onWay f).take reply.res.toNat := by
        by_cases hres : 0 ≤ reply.res
        · have hle := hbytes.le_queue
          rw [hbytes.written hres, List.take_append_of_le_length (by simp; omega), List.take_take,
            Nat.min_self]
        · have hzero : reply.res.toNat = 0 := by omega
          rw [hzero, List.take_zero, List.take_zero]
      rw [hwritten, List.take_append_drop]
    · rfl
  cases c with
  | ztsSend fd' buf len flags | ztsBsdSendto fd' buf len flags addr addrlen =>
      cases huse
      have hput := onWay_put (hsend fd) (buf.take (r : Status).res.toNat)
      simpa [ZtsEvent.handedOver, ZtsEvent.accepted, ZtsEvent.res, Call.status, wire] using hput
  | ztsRecv fd' buf len flags | ztsBsdRecvfrom fd' buf len flags addr addrlen =>
      cases huse
      simp only [ZtsEvent.accepted, ite_self, List.append_nil]
      exact htaken hadmits
  | ztsBsdBind | ztsBsdConnect | ztsBsdListen | ztsBsdPoll | ztsBsdGetsockname
  | ztsBsdGetpeername => simp [ZtsEvent.handedOver, ZtsEvent.accepted, wire]
  | _ => cases huse

@[simp] theorem ends_put (bytes : List UInt8) : (s.put fd bytes).ends = s.ends := by
  unfold put
  split <;> rfl

@[simp] theorem ends_drop (n : ℕ) : (s.drop fd n).ends = s.ends := by
  unfold drop
  split <;> rfl

theorem onWay_next_of_not_uses {e : ZtsEvent} (h : ∀ fd, e.call.descriptorUse ≠ .uses fd) :
    (wire.next s e.call e.reply).onWay = s.onWay := by
  obtain ⟨c, r⟩ := e
  cases c with
  | ztsSend fd | ztsBsdSendto fd | ztsRecv fd | ztsBsdRecvfrom fd => exact absurd rfl (h fd)
  | _ => rfl

theorem ends_next_of_not_closes {e : ZtsEvent} (h : e.call ≠ .ztsClose fd) :
    (wire.next s e.call e.reply).ends fd = s.ends fd := by
  obtain ⟨c, r⟩ := e
  cases c with
  | ztsClose fd' =>
      have hne : fd ≠ fd' := fun heq ↦ h (heq ▸ rfl)
      exact Function.update_of_ne hne _ _
  | ztsSend | ztsBsdSendto | ztsRecv | ztsBsdRecvfrom => simp [wire]
  | _ => rfl

/-- Calls make no descriptor an end of a connection. -/
theorem ends_of_next {e : ZtsEvent} (h : (wire.next s e.call e.reply).ends fd = some f) :
    s.ends fd = some f := by
  by_cases hclose : e.call = .ztsClose fd
  · obtain ⟨c, r⟩ := e
    cases hclose
    simp [wire, hangUp] at h
  · rwa [ends_next_of_not_closes hclose] at h

end Wire

/-! ## One step -/

section

variable [Platform] {P : Type} [DecidableEq P] {q : P} {a b : P × ℤ} {f : Flow}
  {s t : Session (ℤ → Option Flow) × (Flow → List UInt8)} {l : Step} {fd : ℤ}

theorem wired_events (hl : wired.Step s l t) : l.events = [] ∨ ∃ e, l.events = [e] := by
  cases hes : l.events with
  | nil => exact .inl rfl
  | cons e rest =>
      obtain ⟨hone, -⟩ := World.exec_call hl.1 (hes ▸ List.mem_cons_self)
      exact .inr ⟨e, hes ▸ hone⟩

omit [Platform] in
theorem Step.on_singleton {e : ZtsEvent} (h : l.events = [e]) :
    l.On fd ↔ e.call.descriptorUse = .uses fd := by
  simp [Step.On, h]

theorem wired_balance (hsend : ∀ fd, s.1.libzt fd = some f ↔ (q, fd) = a)
    (hrecv : ∀ fd, s.1.libzt fd = some f.back ↔ (q, fd) = b) (hl : wired.Step s l t) :
    (if q = b.1 then l.handedOverOn b.2 else []) ++ t.2 f =
      s.2 f ++ if q = a.1 then l.acceptedOn a.2 else [] := by
  have hafter := congrArg (fun w ↦ w.onWay f) hl.2.2
  change t.2 f = (wire.after ⟨s.1.libzt, s.2⟩ l.events).onWay f at hafter
  rcases wired_events hl with hnil | ⟨e, hone⟩
  · rw [hnil, Service.after_nil] at hafter
    simp [Step.handedOverOn, Step.acceptedOn, Step.On, hnil, hafter]
  · rw [hone, Service.after_cons, Service.after_nil] at hafter
    have hadmits := hl.2.1
    rw [hone] at hadmits
    unfold Step.handedOverOn Step.acceptedOn
    simp only [Step.on_singleton hone, hone, List.flatMap_singleton]
    rw [hafter]
    by_cases huse : ∃ fd, e.call.descriptorUse = .uses fd
    · obtain ⟨fd, huse⟩ := huse
      have hbalance := Wire.balance hsend hrecv hadmits.1 huse
      have hown : ∀ c : P × ℤ, (q, fd) = c ↔ q = c.1 ∧ e.call.descriptorUse = .uses c.2 := by
        intro c
        rw [huse, Prod.ext_iff, DescriptorUse.uses.injEq]
      simp only [hown, ite_and] at hbalance
      exact hbalance
    · have hnone : ∀ fd, ¬ e.call.descriptorUse = .uses fd := fun fd h ↦ huse ⟨fd, h⟩
      simp only [hnone, if_false, ite_self, List.nil_append, List.append_nil]
      rw [Wire.onWay_next_of_not_uses hnone]

theorem wired_ends (hl : wired.Step s l t) (h : t.1.libzt fd = some f) : s.1.libzt fd = some f := by
  have hafter := congrArg (fun w ↦ w.ends fd) hl.2.2
  change t.1.libzt fd = (wire.after ⟨s.1.libzt, s.2⟩ l.events).ends fd at hafter
  rw [hafter] at h
  rcases wired_events hl with hnil | ⟨e, hone⟩
  · rwa [hnil, Service.after_nil] at h
  · rw [hone, Service.after_cons, Service.after_nil] at h
    exact Wire.ends_of_next h

theorem wired_keeps (hl : wired.Step s l t) (hkeeps : l.Keeps fd) :
    t.1.libzt fd = s.1.libzt fd := by
  have hafter := congrArg (fun w ↦ w.ends fd) hl.2.2
  refine Eq.trans hafter ?_
  change (wire.after ⟨s.1.libzt, s.2⟩ l.events).ends fd = s.1.libzt fd
  rcases wired_events hl with hnil | ⟨e, hone⟩
  · rw [hnil, Service.after_nil]
  · rw [hone, Service.after_cons, Service.after_nil]
    exact Wire.ends_next_of_not_closes (hkeeps e (hone ▸ List.mem_cons_self))

variable {u v : StreamNetwork P} {ls : List (P × Step)}

theorem Joined.step (h : Joined u a b f) (hl : (streamNetwork P).Step u (q, l) v)
    (ha : q = a.1 → l.Keeps a.2) (hb : q = b.1 → l.Keeps b.2) : Joined v a b f := by
  obtain ⟨next, hstep, hnext⟩ := hl
  have hsame : ∀ {g : Flow} {c : P × ℤ}, (∀ r fd, (u.1 r).libzt fd = some g ↔ (r, fd) = c) →
      (q = c.1 → l.Keeps c.2) → ∀ r fd, (v.1 r).libzt fd = some g ↔ (r, fd) = c := by
    intro g c hc hkeeps r fd
    rw [hnext, ← hc r fd]
    by_cases hrq : r = q
    · subst hrq
      rw [Function.update_self]
      constructor
      · exact wired_ends hstep
      · intro hg
        obtain rfl := (hc r fd).mp hg
        exact (wired_keeps hstep (hkeeps rfl)).trans hg
    · rw [Function.update_of_ne hrq]
  exact ⟨hsame h.sender ha, hsame h.receiver hb⟩

/-- Nothing is lost, doubled or reordered between the two libzts. -/
theorem Joined.conserved (h : Joined u a b f) (hrun : (streamNetwork P).Run u ls v)
    (ha : ∀ l ∈ labelsOf a.1 ls, l.Keeps a.2) (hb : ∀ l ∈ labelsOf b.1 ls, l.Keeps b.2) :
    Joined v a b f ∧
      (labelsOf b.1 ls).flatMap (Step.handedOverOn b.2) ++ v.2 f =
        u.2 f ++ (labelsOf a.1 ls).flatMap (Step.acceptedOn a.2) := by
  induction hrun with
  | nil => exact ⟨h, by simp⟩
  | snoc hks hlast ih =>
      rename_i ks w v label
      obtain ⟨q, l⟩ := label
      rw [labelsOf_snoc] at ha hb ⊢
      rw [labelsOf_snoc]
      obtain ⟨hw, hbytes⟩ := ih (fun l hl ↦ ha l (List.mem_append_left _ hl))
        fun l hl ↦ hb l (List.mem_append_left _ hl)
      have hlast_a : q = a.1 → l.Keeps a.2 := by
        intro hq
        exact ha l (List.mem_append_right _ (by simp [hq]))
      have hlast_b : q = b.1 → l.Keeps b.2 := by
        intro hq
        exact hb l (List.mem_append_right _ (by simp [hq]))
      refine ⟨hw.step hlast hlast_a hlast_b, ?_⟩
      obtain ⟨next, hstep, -⟩ := hlast
      have hbalance := wired_balance (hw.sender q) (hw.receiver q) hstep
      have hone : ∀ (g : Step → List UInt8) (c : Prop) [Decidable c],
          (if c then [l] else []).flatMap g = if c then g l else [] := by
        intro g c _
        split_ifs <;> simp
      rw [List.flatMap_append, List.flatMap_append, hone, hone, List.append_assoc, hbalance,
        ← List.append_assoc, hbytes, List.append_assoc]

/-! ## What the methods report -/

variable {self self' : Impl} {m : Method} {es : List ZtsEvent} {o : Outcome}

theorem Method.flatMap_nil (h : (exec self m).Runs es (o, self')) {g : ZtsEvent → List UInt8}
    (hg : ∀ c, m.call? self = some c → ∀ r, g ⟨c, r⟩ = []) : es.flatMap g = [] := by
  rcases Method.exec_call h with rfl | ⟨c, r, hc, rfl⟩
  · rfl
  · rw [List.flatMap_singleton]
    exact hg c hc r

omit [Platform] in
theorem receivedBytes_of_error {r : Result UInt64} {buffer : Option (List UInt8)} {code : ErrorCode}
    (ho : o.received? = some (r, buffer)) (hcode : r.errorCode? = some code) :
    o.receivedBytes = [] := by
  unfold Outcome.receivedBytes
  rw [ho]
  cases r with
  | ok count => cases hcode
  | error report => rfl

theorem receivedBytes_of_reply {function callee : String} {reply : Status} {buf : List UInt8}
    (ho : o.received? = some (receivedResult function callee reply, some buf))
    {size : UInt64} (hres : reply.res ≤ size.toNat) :
    o.receivedBytes = buf.take reply.res.toNat := by
  unfold Outcome.receivedBytes
  rw [ho]
  unfold receivedResult
  split_ifs with hpos
  · have hlt := size.toNat_lt
    have hcount : (UInt64.ofNat reply.res.toNat).toNat = reply.res.toNat := by
      rw [UInt64.toNat_ofNat', Nat.mod_eq_of_lt (by omega)]
    change buf.take (UInt64.ofNat reply.res.toNat).toNat = _
    rw [hcount]
  · have hzero : reply.res.toNat = 0 := by omega
    rw [hzero]
    rfl

theorem Method.receivedBytes_eq (h : (exec self m).Runs es (o, self'))
    (hbounded : ∀ e ∈ es, e.Bounded) :
    o.receivedBytes = es.flatMap ZtsEvent.handedOver := by
  cases m with
  | receive buffer size =>
      obtain ⟨r, hrun, rfl⟩ := runs_returning.mp h
      obtain ⟨-, ⟨-, rfl, hcode⟩ | ⟨-, reply, rfl, rfl⟩⟩ := Impl.runs_receive hrun
      · exact receivedBytes_of_error rfl hcode
      · rw [List.flatMap_singleton]
        exact receivedBytes_of_reply rfl (hbounded _ List.mem_cons_self)
  | receiveFrom stack buffer size a port =>
      obtain ⟨r, hrun, rfl⟩ := runs_returning.mp h
      obtain ⟨-, ⟨-, rfl, hcode, -⟩ | ⟨-, reply, rfl, rfl⟩⟩ := Impl.runs_receiveFrom hrun
      · exact receivedBytes_of_error rfl hcode
      · rw [List.flatMap_singleton]
        exact receivedBytes_of_reply rfl (hbounded _ List.mem_cons_self)
  | bind stack a port | connect stack a port | sendTo stack data size a port =>
      rw [Method.flatMap_nil h]
      · obtain ⟨r, -, rfl⟩ := runs_returning.mp h
        rfl
      · intro c hc r
        obtain ⟨addr, -, rfl⟩ := Option.map_eq_some_iff.mp hc
        rfl
  | init | listen | send | close =>
      rw [Method.flatMap_nil h]
      · obtain ⟨r, -, rfl⟩ := runs_returning.mp h
        rfl
      · rintro c ⟨⟩ r
        rfl
  | isOpen =>
      obtain ⟨rfl, ⟨⟩⟩ := h
      rfl
  | pollEvents | getLocalIpAddress | getLocalPort | getRemoteIpAddress | getRemotePort =>
      rw [Method.flatMap_nil h]
      · obtain ⟨-, r, -, rfl⟩ := runs_reading.mp h
        rfl
      · rintro c ⟨⟩ r
        rfl

/-- `send` reports what libzt accepted, unless that was a part of what was offered. -/
structure SendReport (payload : List UInt8) (count : ℕ) (es : List ZtsEvent) : Prop where
  eq_iff : payload.take count = es.flatMap ZtsEvent.accepted ↔
    ¬ ∃ e ∈ es, 0 < ZtsEvent.res e ∧ ZtsEvent.res e < payload.length
  length_le : (payload.take count).length ≤ (es.flatMap ZtsEvent.accepted).length

omit [Platform] in
theorem SendReport.of_quiet {count : ℕ} (h : es.flatMap ZtsEvent.accepted = []) :
    SendReport [] count es := by
  constructor
  · rw [h, List.take_nil]
    refine iff_of_true rfl ?_
    rintro ⟨e, -, hlow, hhigh⟩
    exact absurd hlow (not_lt.mpr hhigh.le)
  · simp

omit [Platform] in
theorem SendReport.of_no_call (payload : List UInt8) : SendReport payload 0 [] := by
  constructor
  · simp
  · simp

theorem SendReport.of_reply {function callee : String} {e : ZtsEvent} {reply : Status}
    {data : List UInt8} {size : UInt64} (hdata : size.toNat ≤ data.length)
    (hsize : size.toNat < 2 ^ 31) (hpos : size ≠ 0) (hres : reply.res ≤ size.toNat)
    (he : ZtsEvent.res e = reply.res) (haccepted : e.accepted = data.take reply.res.toNat)
    (ho : o = .count (sentResult function callee reply size)) :
    SendReport (data.take size.toNat) o.sentCount [e] := by
  have hlength : (data.take size.toNat).length = size.toNat := by
    rw [List.length_take, Nat.min_eq_left hdata]
  have hprefix : e.accepted = (data.take size.toNat).take reply.res.toNat := by
    rw [haccepted, List.take_take, Nat.min_eq_left (by omega)]
  generalize data.take size.toNat = payload at hlength hprefix ⊢
  have hne : payload ≠ [] := by
    rintro rfl
    exact hpos (UInt64.toNat_inj.mp hlength.symm)
  have hsent : payload.take o.sentCount = if reply.res = payload.length then payload else [] := by
    rw [ho]
    unfold sentResult
    rw [castSsize_of_lt hsize, hlength]
    split_ifs with hall
    · exact List.take_of_length_le hlength.le
    · rfl
  constructor
  · rw [hsent, List.flatMap_singleton, hprefix, all_or_none_eq_take_iff hne (hlength ▸ hres)]
    simp [he]
  · rw [hsent, List.flatMap_singleton, hprefix]
    exact length_all_or_none_le payload _

omit [Platform] in
theorem sentCount_of_error {r : Result UInt64} {code : ErrorCode} (ho : o = .count r)
    (hcode : r.errorCode? = some code) : o.sentCount = 0 := by
  rw [ho]
  cases r with
  | ok size => cases hcode
  | error report => rfl

theorem Method.sendReport {p : ℕ} (h : (exec self m).Runs es (o, self'))
    (hreadable : (Op.call p m).Readable) (hbounded : ∀ e ∈ es, e.Bounded) :
    SendReport (Op.call p m).outgoing o.sentCount es := by
  cases m with
  | send data size =>
      obtain ⟨r, hrun, hout⟩ := runs_returning.mp h
      obtain ⟨-, ⟨-, rfl, hcode⟩ | ⟨hgood, reply, rfl, rfl⟩⟩ := Impl.runs_send hrun
      · rw [sentCount_of_error hout hcode]
        exact .of_no_call _
      · obtain ⟨bytes, rfl⟩ := Option.ne_none_iff_exists'.mp fun hnone ↦ hgood (.inl hnone)
        exact .of_reply (hreadable.1 bytes rfl) hreadable.2 (fun hzero ↦ hgood (.inr hzero))
          (hbounded _ List.mem_cons_self) rfl rfl hout
  | sendTo stack data size a port =>
      obtain ⟨r, hrun, hout⟩ := runs_returning.mp h
      obtain ⟨-, ⟨-, rfl, hcode⟩ | ⟨-, addr, reply, -, rfl, rfl⟩⟩ := Impl.runs_sendTo hrun
      · rw [sentCount_of_error hout hcode]
        exact .of_no_call _
      · have hgood : ¬ (data = none ∨ size = 0) := by
          intro hbad
          obtain ⟨report, hret⟩ := @Impl.sendTo_of_empty _ self stack _ _ a port hbad
          rw [hret] at hrun
          cases hrun.1
        obtain ⟨bytes, rfl⟩ := Option.ne_none_iff_exists'.mp fun hnone ↦ hgood (.inl hnone)
        exact .of_reply (hreadable.1 bytes rfl) hreadable.2 (fun hzero ↦ hgood (.inr hzero))
          (hbounded _ List.mem_cons_self) rfl rfl hout
  | bind stack a port | connect stack a port =>
      refine .of_quiet (Method.flatMap_nil h fun c hc r ↦ ?_)
      obtain ⟨addr, -, rfl⟩ := Option.map_eq_some_iff.mp hc
      rfl
  | isOpen =>
      obtain ⟨rfl, ⟨⟩⟩ := h
      exact .of_quiet rfl
  | _ =>
      refine .of_quiet (Method.flatMap_nil h ?_)
      rintro c ⟨⟩ r
      rfl

theorem wired_method (hl : wired.Step s l t) (hon : l.On fd) :
    ∃ p m x impl, l.op = .call p m ∧ (Method.exec x m).Runs l.events (l.outcome, impl) := by
  obtain ⟨e, he, huse⟩ := hon
  obtain ⟨-, ⟨p, m, x, hop, hx, -⟩ | ⟨fd', hcall | hcall⟩⟩ := World.exec_call hl.1 he
  · have hexec := hl.1
    rw [hop] at hexec
    obtain ⟨impl, hm, -⟩ := World.runs_call_of_object hx hexec
    exact ⟨p, m, x.impl, impl, hop, hm⟩
  · rw [hcall] at huse
    cases huse
  · rw [hcall] at huse
    cases huse

/-- On an end of a connection libzt transfers what the call is about. -/
theorem wired_bounded (hl : wired.Step s l t) (hf : s.1.libzt fd = some f) (hon : l.On fd) :
    ∀ e ∈ l.events, e.Bounded := by
  have hadmits := hl.2.1
  rcases wired_events hl with hnil | ⟨e, hone⟩
  · rw [hnil]
    exact nofun
  · rw [Step.on_singleton hone] at hon
    rw [hone] at hadmits ⊢
    refine List.forall_mem_singleton.mpr ?_
    obtain ⟨c, r⟩ := e
    cases c with
    | ztsRecv fd' buf len flags | ztsBsdRecvfrom fd' buf len flags addr addrlen =>
        cases hon
        exact (hadmits.1 f hf).le_len
    | ztsSend | ztsBsdSendto => exact hadmits.1
    | _ => trivial

theorem wired_received (hl : wired.Step s l t) (hf : s.1.libzt fd = some f) :
    l.receivedOn fd = l.handedOverOn fd := by
  unfold Step.receivedOn Step.handedOverOn
  split_ifs with hon
  · obtain ⟨p, m, x, impl, -, hm⟩ := wired_method hl hon
    exact Method.receivedBytes_eq hm (wired_bounded hl hf hon)
  · rfl

theorem wired_sent (hl : wired.Step s l t) (hf : s.1.libzt fd = some f)
    (hreadable : l.op.Readable) :
    (l.sentOn fd = l.acceptedOn fd ↔ ¬ l.ShortOn fd) ∧
      (l.sentOn fd).length ≤ (l.acceptedOn fd).length := by
  unfold Step.sentOn Step.acceptedOn Step.ShortOn
  by_cases hon : l.On fd
  · obtain ⟨p, m, x, impl, hop, hm⟩ := wired_method hl hon
    rw [hop] at hreadable ⊢
    have hreport := Method.sendReport hm hreadable (wired_bounded hl hf hon)
    rw [if_pos hon, if_pos hon, and_iff_right hon]
    exact ⟨hreport.eq_iff, hreport.length_le⟩
  · simp [hon]

/-- Each step of the run starts in a state in which the ends are still joined. -/
theorem Joined.step_of_mem (h : Joined u a b f) (hrun : (streamNetwork P).Run u ls v)
    (ha : ∀ l ∈ labelsOf a.1 ls, l.Keeps a.2) (hb : ∀ l ∈ labelsOf b.1 ls, l.Keeps b.2)
    (hl : l ∈ labelsOf q ls) :
    ∃ (w : StreamNetwork P) (t : Session (ℤ → Option Flow) × (Flow → List UInt8)),
      Joined w a b f ∧ wired.Step (w.1 q, w.2) l t := by
  induction hrun with
  | nil => exact absurd hl List.not_mem_nil
  | snoc hks hlast ih =>
      rename_i ks w v label
      obtain ⟨r, k⟩ := label
      rw [labelsOf_snoc] at ha hb hl
      have ha' : ∀ l ∈ labelsOf a.1 ks, l.Keeps a.2 := fun l hl ↦ ha l (List.mem_append_left _ hl)
      have hb' : ∀ l ∈ labelsOf b.1 ks, l.Keeps b.2 := fun l hl ↦ hb l (List.mem_append_left _ hl)
      rcases List.mem_append.mp hl with hold | hnew
      · exact ih ha' hb' hold
      · split_ifs at hnew with hrq
        · obtain rfl := List.mem_singleton.mp hnew
          obtain ⟨next, hstep, -⟩ := hlast
          subst hrq
          exact ⟨w, _, (h.conserved hks ha' hb').1, hstep⟩
        · exact absurd hnew List.not_mem_nil

/-- In every interleaving, as long as neither end is closed: the bytes received
and those on their way are the ones that were on their way and those that
libzt accepted, in order.  With sizes below `2 ^ 31` they are the ones that the
sending calls reported if and only if no call was a short write. -/
theorem stream_network_accounting (h : Joined u a b f) (hrun : (streamNetwork P).Run u ls v)
    (ha : ∀ l ∈ labelsOf a.1 ls, l.Keeps a.2) (hb : ∀ l ∈ labelsOf b.1 ls, l.Keeps b.2) :
    (labelsOf b.1 ls).flatMap (Step.receivedOn b.2) ++ v.2 f =
        u.2 f ++ (labelsOf a.1 ls).flatMap (Step.acceptedOn a.2) ∧
      ((∀ l ∈ labelsOf a.1 ls, l.op.Readable) →
        ((labelsOf b.1 ls).flatMap (Step.receivedOn b.2) ++ v.2 f =
            u.2 f ++ (labelsOf a.1 ls).flatMap (Step.sentOn a.2) ↔
          ∀ l ∈ labelsOf a.1 ls, ¬ l.ShortOn a.2)) := by
  have hreceived : (labelsOf b.1 ls).flatMap (Step.receivedOn b.2) =
      (labelsOf b.1 ls).flatMap (Step.handedOverOn b.2) := by
    apply List.flatMap_congr
    intro l hl
    obtain ⟨w, t, hw, hstep⟩ := h.step_of_mem hrun ha hb hl
    exact wired_received hstep ((hw.receiver b.1 b.2).mpr rfl)
  obtain ⟨-, hbytes⟩ := h.conserved hrun ha hb
  rw [hreceived, hbytes]
  refine ⟨rfl, fun hreadable ↦ ?_⟩
  have hsent : ∀ l ∈ labelsOf a.1 ls, (l.sentOn a.2 = l.acceptedOn a.2 ↔ ¬ l.ShortOn a.2) ∧
      (l.sentOn a.2).length ≤ (l.acceptedOn a.2).length := by
    intro l hl
    obtain ⟨w, t, hw, hstep⟩ := h.step_of_mem hrun ha hb hl
    exact wired_sent hstep ((hw.sender a.1 a.2).mpr rfl) (hreadable l hl)
  rw [List.append_cancel_left_eq, eq_comm, flatMap_eq_flatMap_iff fun l hl ↦ (hsent l hl).2]
  exact forall₂_congr fun l hl ↦ (hsent l hl).1

theorem stream_step_of_follow (u : StreamNetwork P) (q : P) (op : Op)
    (answer : (c : Call) → c.Reply) {es : List ZtsEvent} {o : Outcome} {w : World}
    (h : ((u.1 q).world.exec op).follow answer = some (es, o, w))
    (hs : wire.AdmitsAll ⟨(u.1 q).libzt, u.2⟩ es) :
    (streamNetwork P).Step u (q, ⟨op, es, o⟩)
      (Function.update u.1 q ⟨w, (wire.after ⟨(u.1 q).libzt, u.2⟩ es).ends⟩,
        (wire.after ⟨(u.1 q).libzt, u.2⟩ es).onWay) :=
  ⟨_, ⟨Prog.runs_of_follow h, hs, rfl⟩, rfl⟩

end

def joinedAtThree : StreamNetwork Bool :=
  (fun q ↦ ⟨.opened .internetProtocolIPv4 .stream 3,
    fun fd ↦ if fd = 3 then some ⟨0, !q⟩ else none⟩, fun _ ↦ [])

theorem joinedAtThree_joined : Joined joinedAtThree (true, 3) (false, 3) ⟨0, false⟩ := by
  constructor
  · intro q fd
    simp [joinedAtThree, and_comm]
  · intro q fd
    simp [joinedAtThree, Flow.back, and_comm]

/-- A `zts_recv` that finds three bytes and has room for two. -/
def receiveTwo : Step where
  op := .call 0 (.receive (some [0, 0]) 2)
  events := [⟨.ztsRecv 3 [0, 0] 2 0, (⟨⟨2, 0⟩, [1, 2]⟩ : BufferReply)⟩]
  outcome := .received ⟨receivedResult "receive" "zts_recvfrom" ⟨2, 0⟩, some [1, 2]⟩

def answerFirstTwo : (c : Call) → c.Reply
  | .ztsRecv .. => (⟨⟨2, 0⟩, [1, 2]⟩ : BufferReply)
  | c => Call.answer 2 c

theorem receiveTwo_run : ∃ v : StreamNetwork Bool, v.2 ⟨0, false⟩ = [3] ∧
    (streamNetwork Bool).Run joinedAtThree [(true, sendThree 3), (false, receiveTwo)] v := by
  have hbytes : HandsBytes [1, 2, 3] [0, 0] 2 ⟨2, 0⟩ [1, 2] := by
    constructor
    · decide
    · decide
    · exact fun _ ↦ rfl
  have hsend : (streamNetwork Bool).Step joinedAtThree (true, sendThree 3) _ :=
    stream_step_of_follow joinedAtThree true (.call 0 (.send (some [1, 2, 3]) 3)) (Call.answer 3)
      rfl ⟨(by decide : (3 : ℤ) ≤ (3 : UInt64).toNat), trivial⟩
  have hrun := (LabelledSystem.Run.nil.snoc hsend).snoc (stream_step_of_follow _ false
    (.call 0 (.receive (some [0, 0]) 2)) answerFirstTwo rfl
    ⟨fun g hg ↦ by cases hg; exact hbytes, trivial⟩)
  exact ⟨_, rfl, hrun⟩

theorem stream_network_accounting_three :
    ∃ v : StreamNetwork Bool, v.2 ⟨0, false⟩ = [3] ∧
      [receiveTwo].flatMap (Step.receivedOn 3) ++ v.2 ⟨0, false⟩ =
        [] ++ [sendThree 3].flatMap (Step.sentOn 3) := by
  obtain ⟨v, hv, hrun⟩ := receiveTwo_run
  refine ⟨v, hv, ((stream_network_accounting joinedAtThree_joined hrun ?_ ?_).2 ?_).mpr ?_⟩
  · simp [labelsOf, Step.Keeps, sendThree]
  · simp [labelsOf, Step.Keeps, receiveTwo]
  · simp [labelsOf, Op.Readable, sendThree]
  · simp [labelsOf, Step.ShortOn, sendThree, Op.outgoing, ZtsEvent.res, Call.status]

end Ztcpp
