import Ztcpp.Library.Lockstep
import Ztcpp.Socket.Session

/-!
# Closed and fresh Sockets

Two Sockets with the same address family and the same `_socketID` cannot be
told apart by any sequence of operations.  `close` resets the `_socketID` of an
open Socket but not its domain, so a closed IPv6 Socket differs from a fresh
one, whose family is read as IPv4.
-/

namespace Ztcpp

open Interaction

/-- The two objects agree on all that a method reads before it is written. -/
structure Impl.SameView (x y : Impl) : Prop where
  family : x.getAddressFamily = y.getAddressFamily
  socketID : x.socketID = y.socketID

def SameResult {α : Type} (a b : α × Impl) : Prop := a.1 = b.1 ∧ a.2.SameView b.2

theorem Impl.SameView.refl (x : Impl) : x.SameView x := ⟨rfl, rfl⟩

theorem Impl.SameView.symm {x y : Impl} (h : x.SameView y) : y.SameView x :=
  ⟨h.family.symm, h.socketID.symm⟩

theorem lockstep_returning {α : Type} {f : α → Outcome} {p q : Prog Libzt (α × Impl)}
    (h : Lockstep SameResult p q) :
    Lockstep SameResult (Method.returning f p) (Method.returning f q) := by
  refine h.bind ?_
  intro a b hab
  exact .ret ⟨congrArg f hab.1, hab.2⟩

theorem lockstep_reading {α : Type} {x y : Impl} {f : α → Outcome} {p q : Prog Libzt α}
    (hxy : x.SameView y) (h : p = q) :
    Lockstep SameResult (Method.reading x f p) (Method.reading y f q) := by
  rw [h]
  refine (Lockstep.refl (R := Eq) (fun _ ↦ rfl) q).bind ?_
  rintro a _ rfl
  exact .ret ⟨rfl, hxy⟩

section

variable [Platform]

namespace Impl

variable {x y : Impl}

theorem SameView.init (h : x.SameView y) (d : SocketDomain) (t : SocketType) :
    Lockstep SameResult (x.init d t) (y.init d t) := by
  unfold Impl.init
  refine .ite (fun _ ↦ .ret ⟨rfl, h⟩) fun _ ↦ ?_
  refine .ite (fun _ ↦ .ret ⟨rfl, h⟩) fun _ ↦ ?_
  exact .call _ fun reply ↦ .ret ⟨rfl, rfl, rfl⟩

theorem SameView.bind (h : x.SameView y) (stack : Stack) (a : IpAddress) (p : UInt16) :
    Lockstep SameResult (x.bind stack a p) (y.bind stack a p) := by
  unfold Impl.bind
  rw [h.family, h.socketID]
  refine .ite (fun _ ↦ .ret ⟨rfl, h⟩) fun _ ↦ ?_
  refine .ite (fun _ ↦ .ret ⟨rfl, h⟩) fun _ ↦ ?_
  refine (Lockstep.refl (R := Eq) (fun _ ↦ rfl) _).bind ?_
  rintro s _ rfl
  exact .call _ fun reply ↦ .ret ⟨rfl, h⟩

theorem SameView.connect (h : x.SameView y) (stack : Stack) (a : IpAddress) (p : UInt16) :
    Lockstep SameResult (x.connect stack a p) (y.connect stack a p) := by
  unfold Impl.connect
  rw [h.family, h.socketID]
  refine .ite (fun _ ↦ .ret ⟨rfl, h⟩) fun _ ↦ ?_
  refine .ite (fun _ ↦ .ret ⟨rfl, h⟩) fun _ ↦ ?_
  refine .ite (fun _ ↦ .ret ⟨rfl, h⟩) fun _ ↦ ?_
  refine (Lockstep.refl (R := Eq) (fun _ ↦ rfl) _).bind ?_
  rintro s _ rfl
  exact .call _ fun reply ↦ .ret ⟨rfl, h⟩

theorem SameView.listen (h : x.SameView y) (n : UInt64) :
    Lockstep SameResult (x.listen n) (y.listen n) := by
  unfold Impl.listen
  rw [h.socketID]
  exact .call _ fun reply ↦ .ret ⟨rfl, h⟩

theorem SameView.send (h : x.SameView y) (data : Option (List UInt8)) (size : UInt64) :
    Lockstep SameResult (x.send data size) (y.send data size) := by
  unfold Impl.send
  rw [h.socketID]
  refine .ite (fun _ ↦ .ret ⟨rfl, h⟩) fun _ ↦ ?_
  exact .call _ fun reply ↦ .ret ⟨rfl, h⟩

theorem SameView.sendTo (h : x.SameView y) (stack : Stack) (data : Option (List UInt8))
    (size : UInt64) (a : IpAddress) (p : UInt16) :
    Lockstep SameResult (x.sendTo stack data size a p) (y.sendTo stack data size a p) := by
  unfold Impl.sendTo
  rw [h.family, h.socketID]
  refine .ite (fun _ ↦ .ret ⟨rfl, h⟩) fun _ ↦ ?_
  refine .ite (fun _ ↦ .ret ⟨rfl, h⟩) fun _ ↦ ?_
  refine .ite (fun _ ↦ .ret ⟨rfl, h⟩) fun _ ↦ ?_
  refine (Lockstep.refl (R := Eq) (fun _ ↦ rfl) _).bind ?_
  rintro s _ rfl
  exact .call _ fun reply ↦ .ret ⟨rfl, h⟩

theorem SameView.receive (h : x.SameView y) (buffer : Option (List UInt8)) (size : UInt64) :
    Lockstep SameResult (x.receive buffer size) (y.receive buffer size) := by
  unfold Impl.receive
  rw [h.socketID]
  refine .ite (fun _ ↦ .ret ⟨rfl, h⟩) fun _ ↦ ?_
  exact .call _ fun reply ↦ .ret ⟨rfl, h⟩

theorem SameView.receiveFrom (h : x.SameView y) (stack : Stack)
    (buffer : Option (List UInt8)) (size : UInt64) (a : IpAddress) (p : UInt16) :
    Lockstep SameResult (x.receiveFrom stack buffer size a p)
      (y.receiveFrom stack buffer size a p) := by
  unfold Impl.receiveFrom
  rw [h.socketID]
  refine .ite (fun _ ↦ .ret ⟨rfl, h⟩) fun _ ↦ ?_
  exact .call _ fun reply ↦ .ret ⟨rfl, h⟩

theorem SameView.close (h : x.SameView y) : Lockstep SameResult x.close y.close := by
  unfold Impl.close Impl.isOpen
  rw [h.socketID]
  refine .ite (fun _ ↦ ?_) fun _ ↦ .ret ⟨rfl, h⟩
  exact .call _ fun reply ↦ .ret ⟨rfl, h.family, rfl⟩

theorem SameView.destroy (h : x.SameView y) : Lockstep Eq x.destroy y.destroy :=
  h.close.bind fun _ _ _ ↦ .ret rfl

theorem SameView.pollEvents (h : x.SameView y) (events : BitVec 32) (time : Int64) :
    x.pollEvents events time = y.pollEvents events time := by
  unfold Impl.pollEvents
  rw [h.socketID]

theorem SameView.getEndpoint {α : Type} (h : x.SameView y) (function callee : String)
    (stack : Stack) (ask : ℤ → SockaddrStorage → Prog Libzt AddressReply)
    (part : IpAddress × UInt16 → α) :
    x.getEndpoint function callee stack ask part =
      y.getEndpoint function callee stack ask part := by
  unfold Impl.getEndpoint
  rw [h.socketID]

def SameAccepted (a b : Result Impl × Impl) : Prop :=
  ((∃ report, a.1 = .error report ∧ b.1 = .error report) ∨
    ∃ x y : Impl, a.1 = .ok x ∧ b.1 = .ok y ∧ x.SameView y) ∧ a.2.SameView b.2

theorem SameView.accept (h : x.SameView y) : Lockstep SameAccepted x.accept y.accept := by
  rw [accept_eq, accept_eq, h.socketID]
  refine .call _ fun reply ↦ .ret ?_
  unfold acceptResult
  cases acceptError reply with
  | some report => exact ⟨.inl ⟨report, rfl, rfl⟩, h⟩
  | none => exact ⟨.inr ⟨_, _, rfl, rfl, h.family, rfl⟩, h⟩

end Impl

theorem Method.exec_lockstep {x y : Impl} (h : x.SameView y) (m : Method) :
    Lockstep SameResult (m.exec x) (m.exec y) := by
  cases m with
  | init d t => exact lockstep_returning (h.init d t)
  | bind stack a p => exact lockstep_returning (h.bind stack a p)
  | connect stack a p => exact lockstep_returning (h.connect stack a p)
  | listen n => exact lockstep_returning (h.listen n)
  | send data size => exact lockstep_returning (h.send data size)
  | sendTo stack data size a p => exact lockstep_returning (h.sendTo stack data size a p)
  | receive buffer size => exact lockstep_returning (h.receive buffer size)
  | receiveFrom stack buffer size a p =>
      exact lockstep_returning (h.receiveFrom stack buffer size a p)
  | isOpen =>
      have hopen : x.isOpen = y.isOpen := by rw [Impl.isOpen, Impl.isOpen, h.socketID]
      exact lockstep_reading h (congrArg Prog.ret hopen)
  | close => exact lockstep_returning h.close
  | pollEvents events time => exact lockstep_reading h (h.pollEvents events time)
  | getLocalIpAddress stack | getLocalPort stack | getRemoteIpAddress stack
  | getRemotePort stack => exact lockstep_reading h (h.getEndpoint _ _ stack _ _)

end

/-! ## Worlds with the same view -/

/-- Two places that hold the same, up to the view of the object owned. -/
inductive SamePlace : Option Socket → Option Socket → Prop where
  | free : SamePlace none none
  | null : SamePlace (some ⟨none⟩) (some ⟨none⟩)
  | owner (a : ℕ) {x y : Impl} (h : x.SameView y) :
      SamePlace (some ⟨some ⟨a, x⟩⟩) (some ⟨some ⟨a, y⟩⟩)

/-- Two objects at one address with the same view. -/
inductive SameObject : Option Object → Option Object → Prop where
  | none : SameObject none none
  | some (a : ℕ) {x y : Impl} (h : x.SameView y) : SameObject (some ⟨a, x⟩) (some ⟨a, y⟩)

theorem SamePlace.isSome_eq {s s' : Option Socket} (h : SamePlace s s') :
    s.isSome = s'.isSome := by
  cases h <;> rfl

theorem SamePlace.refl (s : Option Socket) : SamePlace s s := by
  rcases s with _ | ⟨_ | ⟨a, x⟩⟩
  · exact .free
  · exact .null
  · exact .owner a (.refl x)

theorem SamePlace.symm {s s' : Option Socket} (h : SamePlace s s') : SamePlace s' s := by
  cases h with
  | free => exact .free
  | null => exact .null
  | owner a h => exact .owner a h.symm

namespace World

structure SameView (w v : World) : Prop where
  sockets : ∀ p, SamePlace (w.sockets p) (v.sockets p)
  allocated : w.allocated = v.allocated

def SameOutcome (a b : Outcome × World) : Prop := a.1 = b.1 ∧ a.2.SameView b.2

variable {w v : World}

theorem SameView.symm (h : w.SameView v) : v.SameView w :=
  ⟨fun p ↦ (h.sockets p).symm, h.allocated.symm⟩

theorem SameView.set (h : w.SameView v) (p : ℕ) {s s' : Option Socket} (hs : SamePlace s s') :
    (w.set p s).SameView (v.set p s') := by
  refine ⟨fun q ↦ ?_, h.allocated⟩
  by_cases hq : q = p
  · subst hq
    rw [set_sockets_self, set_sockets_self]
    exact hs
  · rw [set_sockets_ne w hq, set_sockets_ne v hq]
    exact h.sockets q

theorem SameView.emplace (h : w.SameView v) (p : ℕ) {x y : Impl} (hxy : x.SameView y) :
    (w.emplace p x).SameView (v.emplace p y) := by
  have hset := h.set p (.owner w.allocated hxy)
  refine ⟨fun q ↦ ?_, congrArg (· + 1) h.allocated⟩
  have hq := hset.sockets q
  unfold World.set at hq
  unfold World.emplace
  rwa [← h.allocated]

theorem SameView.object? (h : w.SameView v) (p : ℕ) :
    SameObject (w.object? p) (v.object? p) := by
  have hp := h.sockets p
  unfold World.object?
  generalize w.sockets p = s at hp
  generalize v.sockets p = s' at hp
  cases hp with
  | free => exact .none
  | null => exact .none
  | owner a hxy => exact .some a hxy

theorem SameView.object?_cases (h : w.SameView v) (p : ℕ) :
    (w.object? p = none ∧ v.object? p = none) ∨
      ∃ a x y, w.object? p = some ⟨a, x⟩ ∧ v.object? p = some ⟨a, y⟩ ∧ x.SameView y := by
  have hp := h.object? p
  generalize w.object? p = o at hp
  generalize v.object? p = o' at hp
  cases hp with
  | none => exact .inl ⟨rfl, rfl⟩
  | some a hxy => exact .inr ⟨a, _, _, rfl, rfl, hxy⟩

theorem SameView.sockets_cases (h : w.SameView v) (p : ℕ) :
    (w.sockets p = none ∧ v.sockets p = none) ∨
      ∃ s s', w.sockets p = some s ∧ v.sockets p = some s' ∧ SamePlace (some s) (some s') ∧
        SameObject s.impl s'.impl := by
  have hp := h.sockets p
  generalize w.sockets p = s at hp
  generalize v.sockets p = s' at hp
  cases hp with
  | free => exact .inl ⟨rfl, rfl⟩
  | null => exact .inr ⟨_, _, rfl, rfl, .null, .none⟩
  | owner a hxy => exact .inr ⟨_, _, rfl, rfl, .owner a hxy, .some a hxy⟩

variable [Platform]

theorem delete_lockstep {o o' : Option Object} (h : SameObject o o') :
    Lockstep Eq (delete o) (delete o') := by
  cases h with
  | none => exact .ret rfl
  | some a hxy => exact hxy.destroy

theorem SameView.exec (h : w.SameView v) (op : Op) :
    Lockstep SameOutcome (w.exec op) (v.exec op) := by
  cases op with
  | construct p =>
      simp only [World.exec, (h.sockets p).isSome_eq]
      exact .ite (fun _ ↦ .crash) fun _ ↦ .ret ⟨rfl, h.emplace p (.refl Impl.fresh)⟩
  | call p m =>
      rcases h.object?_cases p with ⟨hw, hv⟩ | ⟨a, x, y, hw, hv, hxy⟩
      · simp only [World.exec, hw, hv]
        exact .crash
      · simp only [World.exec, hw, hv]
        refine (Method.exec_lockstep hxy m).bind ?_
        rintro ⟨o, x'⟩ ⟨_, y'⟩ ⟨rfl, hxy'⟩
        exact .ret ⟨rfl, h.set p (.owner a hxy')⟩
  | accept p r =>
      rcases h.object?_cases p with ⟨hw, hv⟩ | ⟨a, x, y, hw, hv, hxy⟩
      · simp only [World.exec, hw, hv]
        exact .crash
      · simp only [World.exec, hw, hv, (h.sockets r).isSome_eq]
        refine .ite (fun _ ↦ .crash) fun _ ↦ ?_
        refine hxy.accept.bind ?_
        rintro ⟨result, x'⟩ ⟨result', y'⟩ ⟨hresult, hxy'⟩
        have hset := h.set p (.owner a hxy')
        rcases hresult with ⟨report, rfl, rfl⟩ | ⟨b, b', rfl, rfl, hb⟩
        · exact .ret ⟨rfl, hset⟩
        · exact .ret ⟨rfl, hset.emplace r hb⟩
  | moveConstruct p q =>
      rcases h.sockets_cases q with ⟨hw, hv⟩ | ⟨s, s', hw, hv, hs, -⟩
      · simp only [World.exec, hw, hv]
        exact .crash
      · simp only [World.exec, hw, hv, (h.sockets p).isSome_eq]
        exact .ite (fun _ ↦ .crash) fun _ ↦ .ret ⟨rfl, (h.set q .null).set p hs⟩
  | moveAssign p q =>
      rcases h.sockets_cases q with ⟨hw, hv⟩ | ⟨s, s', hw, hv, hs, -⟩
      · simp only [World.exec, hw, hv]
        exact .crash
      · have hnone : (w.sockets p).isNone = (v.sockets p).isNone := by
          rw [← Option.not_isSome, ← Option.not_isSome, (h.sockets p).isSome_eq]
        simp only [World.exec, hw, hv, hnone]
        refine .ite (fun _ ↦ .crash) fun _ ↦ ?_
        refine (delete_lockstep ((h.set q .null).object? p)).bind ?_
        intro _ _ _
        exact .ret ⟨rfl, (h.set q .null).set p hs⟩
  | destroy p =>
      rcases h.sockets_cases p with ⟨hw, hv⟩ | ⟨s, s', hw, hv, -, ho⟩
      · simp only [World.exec, hw, hv]
        exact .crash
      · simp only [World.exec, hw, hv]
        refine (delete_lockstep ho).bind ?_
        intro _ _ _
        exact .ret ⟨rfl, h.set p .free⟩

end World

/-! ## Observations -/

/-- What a program sees of an operation: its calls to libzt with the replies,
an answer of `isOpen`, and success or the code of the error. -/
def Step.observed (l : Step) : Op × List ZtsEvent × Option Bool × Option ErrorCode :=
  (l.op, l.events, (match l.outcome with | .flag b => some b | _ => none), l.outcome.errorCode?)

section

variable [Platform]

/-- From `w` on, some run shows these observations. -/
def World.Shows (w : World)
    (observed : List (Op × List ZtsEvent × Option Bool × Option ErrorCode)) : Prop :=
  ∃ steps t, (sessions (Service.arbitrary Libzt)).Run ⟨w, ()⟩ steps t ∧
    steps.map Step.observed = observed

/-- No sequence of operations tells the two worlds apart, whatever libzt
replies. -/
def ObservedEqual (w v : World) : Prop := ∀ observed, w.Shows observed ↔ v.Shows observed

theorem World.SameView.shows {w v : World} (h : w.SameView v)
    {observed : List (Op × List ZtsEvent × Option Bool × Option ErrorCode)}
    (hw : w.Shows observed) : v.Shows observed := by
  obtain ⟨steps, t, hrun, hobserved⟩ := hw
  have hsimulates : (sessions (Service.arbitrary Libzt)).Simulates
      (sessions (Service.arbitrary Libzt)) id fun s t ↦ s.world.SameView t.world := by
    intro s u l s' hsu hl
    obtain ⟨⟨o, w'⟩, hruns, ho, hw'⟩ := (hsu.exec l.op).runs hl.1
    cases ho
    exact ⟨⟨w', ()⟩, ⟨hruns, Service.arbitrary_admitsAll _ _, rfl⟩, hw'⟩
  obtain ⟨t', hrun', -⟩ := hsimulates.run (t := ⟨v, ()⟩) h hrun
  rw [List.map_id] at hrun'
  exact ⟨steps, t', hrun', hobserved⟩

theorem World.SameView.observedEqual {w v : World} (h : w.SameView v) : ObservedEqual w v :=
  fun _ ↦ ⟨h.shows, h.symm.shows⟩

section

variable {w w' : World} {p : ℕ} {object : Object} {m : Method} {es : List ZtsEvent} {o : Outcome}
  {impl : Impl}

theorem shows_singleton {op : Op} {seen : Option Bool × Option ErrorCode}
    (h : w.Shows [(op, es, seen)]) : ∃ o w', (w.exec op).Runs es (o, w') := by
  obtain ⟨steps, t, hrun, hobserved⟩ := h
  obtain ⟨l, rfl, hl⟩ := List.map_eq_singleton_iff.mp hobserved
  cases hl
  obtain ⟨hexec, -⟩ := LabelledSystem.run_singleton_iff.mp hrun
  exact ⟨l.outcome, t.world, hexec⟩

theorem shows_call (hp : w.object? p = some object)
    (h : (m.exec object.impl).Runs es (o, impl)) :
    w.Shows [Step.observed ⟨.call p m, es, o⟩] := by
  have hexec : (w.exec (.call p m)).Runs es (o, w.setImpl p object impl) := by
    simp only [World.exec, hp]
    exact Prog.runs_bind.mpr ⟨_, es, [], (List.append_nil es).symm, h, rfl, rfl⟩
  have hstep : (sessions (Service.arbitrary Libzt)).Step ⟨w, ()⟩ ⟨.call p m, es, o⟩
      ⟨w.setImpl p object impl, ()⟩ := ⟨hexec, Service.arbitrary_admitsAll _ _, rfl⟩
  exact ⟨_, _, LabelledSystem.run_singleton_iff.mpr hstep, rfl⟩

theorem ObservedEqual.socketID {x y : Object} {v : World} (h : ObservedEqual w v)
    (hw : w.object? p = some x) (hv : v.object? p = some y) :
    x.impl.socketID = y.impl.socketID := by
  have hlisten : (Method.exec x.impl (.listen 0)).Runs [_] _ := ⟨⟨0, 0⟩, [], rfl, rfl, rfl⟩
  obtain ⟨o, v', hexec⟩ := shows_singleton ((h _).mp (shows_call hw hlisten))
  obtain ⟨impl, hm, -⟩ := World.runs_call_of_object hv hexec
  obtain ⟨r, hrun, -⟩ := Method.runs_returning.mp hm
  obtain ⟨-, reply, hevents, -⟩ := Impl.runs_listen hrun
  have huse := congrArg (List.map fun e : ZtsEvent ↦ e.call.descriptorUse) hevents
  simpa [Call.descriptorUse] using huse

def someIPv4Address : IpAddress := ⟨Octets.Image.zeros 16, .ipv4, true⟩

theorem ObservedEqual.family_ipv4 {x y : Object} {v : World} (h : ObservedEqual w v)
    (hw : w.object? p = some x) (hv : v.object? p = some y)
    (hy : y.impl.getAddressFamily = .ipv4) : x.impl.getAddressFamily = .ipv4 := by
  by_contra hx
  let stack : Stack := ⟨Octets.Image.zeros 28, someIPv4Address⟩
  have hrefused : ¬ x.impl.Accepts someIPv4Address := fun ha ↦ hx ha.2.symm
  have haccepted : y.impl.Accepts someIPv4Address := ⟨rfl, hy.symm⟩
  obtain ⟨o, -, hbind⟩ :=
    Method.exec_of_not_accepts (m := .bind stack someIPv4Address 0) rfl hrefused
  have hruns : (Method.exec x.impl (.bind stack someIPv4Address 0)).Runs [] (o, x.impl) := by
    rw [hbind]
    exact ⟨rfl, rfl⟩
  obtain ⟨o', v', hexec⟩ := shows_singleton ((h _).mp (shows_call hw hruns))
  obtain ⟨impl, hm, -⟩ := World.runs_call_of_object hv hexec
  obtain ⟨r, hrun, -⟩ := Method.runs_returning.mp hm
  obtain ⟨-, ⟨hrejected, -⟩ | ⟨-, s, reply, -, hevents, -⟩⟩ := Impl.runs_bind hrun
  · exact hrejected haccepted
  · cases hevents

omit [Platform] in
theorem Impl.getAddressFamily_of_ne (h : impl.socketDomain ≠ .internetProtocolIPv6) :
    impl.getAddressFamily = .ipv4 := by
  unfold getAddressFamily
  split
  · rfl
  · next hdomain => exact absurd hdomain h
  · rfl

/-- After `close` a Socket is like a fresh one if and only if its domain was not
IPv6 and either it was open or its `_socketID` already was the initial value. -/
theorem closed_like_fresh_iff (hp : w.object? p = some object)
    (h : (w.exec (.call p .close)).Runs es (o, w')) :
    ObservedEqual w' (w.setImpl p object Impl.fresh) ↔
      object.impl.socketDomain ≠ .internetProtocolIPv6 ∧
        (object.impl.isOpen ∨ object.impl.socketID = ztsErrSocket) := by
  obtain ⟨closed, hm, rfl⟩ := World.runs_call_of_object hp h
  obtain ⟨r, hrun, -⟩ := Method.runs_returning.mp hm
  have hclosed : closed.socketDomain = object.impl.socketDomain ∧
      (closed.socketID = ztsErrSocket ↔
        object.impl.isOpen ∨ object.impl.socketID = ztsErrSocket) := by
    rcases Impl.runs_close hrun with ⟨hopen, -, rfl, -⟩ | ⟨hopen, reply, -, rfl, -⟩
    · exact ⟨rfl, by simp [hopen]⟩
    · exact ⟨rfl, by simp [hopen]⟩
  have hobject : ∀ x, (w.setImpl p object x).object? p = some ⟨object.address, x⟩ := by
    intro x
    simp [World.setImpl]
  constructor
  · intro hequal
    refine ⟨?_, ?_⟩
    · intro hdomain
      have hfamily := hequal.family_ipv4 (hobject closed) (hobject Impl.fresh) rfl
      simp [Impl.getAddressFamily, hclosed.1, hdomain] at hfamily
    · exact hclosed.2.mp (hequal.socketID (hobject closed) (hobject Impl.fresh))
  · rintro ⟨hdomain, hid⟩
    have hview : closed.SameView Impl.fresh := by
      refine ⟨?_, hclosed.2.mpr hid⟩
      rw [← hclosed.1] at hdomain
      exact Impl.getAddressFamily_of_ne hdomain
    refine World.SameView.observedEqual ⟨fun q ↦ ?_, rfl⟩
    by_cases hq : q = p
    · subst hq
      rw [World.setImpl, World.setImpl, World.set_sockets_self, World.set_sockets_self]
      exact .owner object.address hview
    · rw [World.setImpl, World.setImpl, World.set_sockets_ne w hq, World.set_sockets_ne w hq]
      exact .refl _

end

end

theorem opened_closes (d : SocketDomain) :
    ((World.opened d .stream 3).exec (.call 0 .close)).Runs [⟨.ztsClose 3, ⟨0, 0⟩⟩]
      (.empty emptyResultOK, (World.opened d .stream 3).setImpl 0 ⟨0, ⟨d, .stream, 3⟩⟩
        ⟨d, .stream, ztsErrSocket⟩) :=
  ⟨⟨0, 0⟩, [], rfl, rfl, rfl⟩

theorem closed_ipv4_like_fresh :
    ObservedEqual ((World.opened .internetProtocolIPv4 .stream 3).setImpl 0
        ⟨0, ⟨.internetProtocolIPv4, .stream, 3⟩⟩ ⟨.internetProtocolIPv4, .stream, ztsErrSocket⟩)
      ((World.opened .internetProtocolIPv4 .stream 3).setImpl 0
        ⟨0, ⟨.internetProtocolIPv4, .stream, 3⟩⟩ Impl.fresh) :=
  (closed_like_fresh_iff rfl (opened_closes .internetProtocolIPv4)).mpr
    ⟨by decide, .inl rfl⟩

theorem closed_ipv6_not_like_fresh :
    ¬ ∀ steps s p x es o w', Reaches (Service.arbitrary Libzt) () steps s →
      s.world.object? p = some x → (s.world.exec (.call p .close)).Runs es (o, w') →
      ObservedEqual w' (s.world.setImpl p x Impl.fresh) := by
  intro h
  obtain ⟨steps, hreach⟩ : ∃ steps, Reaches (Service.arbitrary Libzt) () steps
      ⟨.opened .internetProtocolIPv6 .stream 3, ()⟩ :=
    opened_reached (Service.arbitrary Libzt) (by decide) trivial
  have hequal := h steps _ 0 _ _ _ _ hreach rfl (opened_closes .internetProtocolIPv6)
  have hfamily := hequal.family_ipv4 (p := 0) (y := ⟨0, Impl.fresh⟩) rfl rfl rfl
  cases hfamily

end Ztcpp
