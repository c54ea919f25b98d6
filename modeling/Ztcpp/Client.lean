import Ztcpp.Library.ProgramLogic
import Ztcpp.Service
import Ztcpp.Socket.Calls
import Ztcpp.Socket.Leak
import Ztcpp.Socket.Unreachable

/-!
# Programs that use the library

A client program is a program over the functions of the library, which may
throw; `ZTCPP_THROW_ON_ERROR` turns an error report into an exception, and a
Socket declared in a scope is destroyed on every way out of it.  The rules at
the end say what each call does to a process that has lost no descriptor.
-/

namespace Ztcpp

open Interaction

inductive ApiCall where
  /-- An operation on the process's Sockets. -/
  | socket (op : Op)
  | service (op : ServiceOp)
  /-- `LocalNode::setEventHandler`; handlers are numbered. -/
  | setEventHandler (aHandler : Option ℕ)

abbrev Api : Interface where
  Call := ApiCall
  Reply
    | .socket _ => Outcome
    | .service _ => EmptyResult
    | .setEventHandler _ => Unit

structure Process where
  world : World
  eventHandler : Option ℕ

def Process.start : Process := ⟨.start, none⟩

/-- How the library answers its callers, by calls to libzt. -/
def Process.answer [Platform] : Handler Api Libzt Process
  | s, .socket op => do
      let (o, w) ← s.world.exec op
      return (o, { s with world := w })
  | s, .service op => do
      let r ← op.exec
      return (r, s)
  | s, .setEventHandler aHandler => .ret ((), { s with eventHandler := aHandler })

/-- A client program; the exceptions are `std::runtime_error`s with their texts. -/
abbrev Client (α : Type) := Throwing Api String α

def callApi (c : ApiCall) : Prog Api (Api.Reply c) := Prog.perform (I := Api) c

namespace Client

def socket (op : Op) : Client Outcome := ExceptT.lift (callApi (.socket op))

def service (op : ServiceOp) : Client EmptyResult := ExceptT.lift (callApi (.service op))

def setEventHandler (aHandler : Option ℕ) : Client Unit :=
  ExceptT.lift (callApi (.setEventHandler aHandler))

end Client

def Result.report? {α : Type} : Result α → Option ErrorReport
  | .ok _ => none
  | .error report => some report

/-- `getError()` of whatever `Result` the operation returned. -/
def Outcome.report? : Outcome → Option ErrorReport
  | .done | .flag _ => none
  | .empty r => r.report?
  | .count r => r.report?
  | .received r => r.result.report?
  | .receivedFrom r => r.result.report?
  | .events r => r.report?
  | .address r => r.report?
  | .port r => r.report?

/-- `ZTCPP_THROW_ON_ERROR(_result_, std::runtime_error)`. -/
def throwOnError (report? : Option ErrorReport) : Client Unit :=
  match report? with
  | some report => throw report.message
  | none => pure ()

/-- `Socket p; body`, with the destructor at the end of the scope. -/
def withSocket {α : Type} (p : ℕ) (body : Client α) : Client α := do
  let _ ← Client.socket (.construct p)
  Throwing.cleaning body do
    let _ ← callApi (.socket (.destroy p))

/-! ## Processes that lose no descriptor -/

/-- The Sockets are at the places in `A`, none was moved from, and every
descriptor that is open is held by one of them. -/
structure Tidy [Platform] (A : Set ℕ) (s : Session (Set ℤ)) : Prop where
  reached : ∃ steps, Reaches descriptorTable ∅ steps s
  noLeak : NoLeak s
  places : ∀ p, p ∉ A → s.world.sockets p = none
  objects : ∀ p ∈ A, s.world.object? p ≠ none

section

variable [Platform] {A : Set ℕ} {s t : Session (Set ℤ)} {es : List ZtsEvent} {o : Outcome} {p : ℕ}

theorem tidy_start : Tidy ∅ ⟨.start, ∅⟩ :=
  ⟨⟨[], .nil⟩, noLeak_start, fun _ _ ↦ rfl, fun _ hp ↦ hp.elim⟩

/-- Without Sockets no descriptor is open. -/
theorem Tidy.no_descriptors (h : Tidy ∅ s) : s.libzt = ∅ := by
  apply h.noLeak.2
  intro p x hp
  simp [World.object?, h.places p (Set.notMem_empty p)] at hp

theorem Tidy.allows_call {m : Method} (h : Tidy A s) (hp : p ∈ A) :
    s.world.Allows (.call p m) := h.objects p hp

theorem Tidy.allows_destroy (h : Tidy A s) (hp : p ∈ A) : s.world.Allows (.destroy p) := by
  intro hnone
  exact h.objects p hp (by rw [World.object?, hnone]; rfl)

theorem Tidy.step {B : Set ℕ} {l : Step} (hs : Tidy A s)
    (h : (sessions descriptorTable).Step s l t) (hinit : ¬ s.world.Reinitializes l.op)
    (hplaces : ∀ p, p ∉ B → t.world.sockets p = none)
    (hobjects : ∀ p ∈ B, t.world.object? p ≠ none) : Tidy B t := by
  obtain ⟨steps, hreach⟩ := hs.reached
  obtain ⟨history, hsound⟩ := hreach.sound
  exact ⟨⟨_, hreach.snoc h⟩, hs.noLeak.step hreach.owned hsound h hinit, hplaces, hobjects⟩

theorem Tidy.call {m : Method} (hs : Tidy A s) (hp : p ∈ A)
    (h : (sessions descriptorTable).Step s ⟨.call p m, es, o⟩ t)
    (hinit : ¬ s.world.Reinitializes (.call p m)) : Tidy A t := by
  obtain ⟨x, impl, -, -, hw⟩ := World.runs_call h.1
  apply hs.step h hinit
  · intro q hq
    have hne : q ≠ p := fun heq ↦ hq (heq ▸ hp)
    rw [hw, World.setImpl, World.set_sockets_ne _ hne]
    exact hs.places q hq
  · intro q hq
    rw [hw]
    by_cases hqp : q = p
    · subst hqp
      simp
    · rw [World.object?_setImpl_ne _ hqp]
      exact hs.objects q hq

theorem Tidy.construct (hs : Tidy A s)
    (h : (sessions descriptorTable).Step s ⟨.construct p, es, o⟩ t) : Tidy (insert p A) t := by
  have heffect := sessions_effect h
  generalize hw : t.world = w at heffect
  cases heffect with
  | constructed _ hfree =>
      apply hs.step h (by rintro ⟨_, _, _, _, hop, -⟩; cases hop)
      · intro q hq
        have hne : q ≠ p := fun heq ↦ hq (heq ▸ Set.mem_insert p A)
        simp only [hw, World.emplace, Function.update_of_ne hne]
        exact hs.places q fun hqA ↦ hq (Set.mem_insert_of_mem p hqA)
      · intro q hq
        rw [hw]
        by_cases hqp : q = p
        · subst hqp
          simp
        · rw [World.object?_emplace_ne _ hqp]
          exact hs.objects q (hq.resolve_left hqp)

theorem Tidy.destroy (hs : Tidy A s)
    (h : (sessions descriptorTable).Step s ⟨.destroy p, es, o⟩ t) : Tidy (A \ {p}) t := by
  have heffect := sessions_effect h
  generalize hw : t.world = w at heffect
  cases heffect with
  | destroyed _ x _ hp hdelete =>
      apply hs.step h (by rintro ⟨_, _, _, _, hop, -⟩; cases hop)
      · intro q hq
        rw [hw]
        by_cases hqp : q = p
        · subst hqp
          simp
        · rw [World.set_sockets_ne _ hqp]
          exact hs.places q fun hqA ↦ hq ⟨hqA, hqp⟩
      · intro q hq
        rw [hw, World.object?_set_ne _ hq.2]
        exact hs.objects q hq.1

end

/-! ## What each call does -/

/-- A process, the descriptors that are open in its libzt, and the calls it made. -/
abbrev ProcessState := Process × Set ℤ × List ZtsEvent

namespace ProcessState

def start : ProcessState := (.start, ∅, [])

def session (s : ProcessState) : Session (Set ℤ) := ⟨s.1.world, s.2.1⟩

def log (s : ProcessState) : List ZtsEvent := s.2.2

/-- The state after an operation on the Sockets. -/
def afterOp (s : ProcessState) (t : Session (Set ℤ)) (es : List ZtsEvent) : ProcessState :=
  ({ s.1 with world := t.world }, t.libzt, s.log ++ es)

end ProcessState

section

variable [Platform] {A : Set ℕ} {s : ProcessState} {K : Set ℤ × List ZtsEvent → Prop}

/-- What a program ensures of the process that it runs in, whatever libzt
replies; `K` says where it may not go on. -/
abbrev Api.Ensures {α : Type} (p : Prog Api α) (K : Set ℤ × List ZtsEvent → Prop)
    (s : ProcessState) (Q : α → ProcessState → Prop) : Prop :=
  p.Holds Process.answer descriptorTable.logging K s Q

abbrev ApiCall.Ensures (c : ApiCall) (K : Set ℤ × List ZtsEvent → Prop) (s : ProcessState)
    (Q : Api.Reply c → ProcessState → Prop) : Prop :=
  Api.Ensures (callApi c) K s Q

abbrev Client.Ensures {α : Type} (p : Client α) (K : Set ℤ × List ZtsEvent → Prop)
    (s : ProcessState) (Q : α → ProcessState → Prop) (E : String → ProcessState → Prop) : Prop :=
  p.Holds Process.answer descriptorTable.logging K s Q E

theorem ensures_socket {op : Op} {Q : Outcome → ProcessState → Prop}
    (hallows : s.1.world.Allows op)
    (h : ∀ es o t, (sessions descriptorTable).Step s.session ⟨op, es, o⟩ t →
      Q o (s.afterOp t es)) : (ApiCall.socket op).Ensures K s Q := by
  unfold ApiCall.Ensures Api.Ensures callApi
  rw [Prog.holds_perform]
  apply Prog.ensuresUnless_of_runs
  · exact Prog.neverStops_bind_iff.mpr ⟨World.neverStops_exec hallows, fun _ _ _ ↦ trivial⟩
  · intro es r hrun hadmits
    obtain ⟨⟨o, w⟩, front, back, rfl, hexec, rfl, rfl⟩ := Prog.runs_bind.mp hrun
    rw [List.append_nil] at hadmits ⊢
    rw [Service.admitsAll_logging] at hadmits
    rw [Service.after_logging]
    exact h front o ⟨w, descriptorTable.after s.2.1 front⟩ ⟨hexec, hadmits, rfl⟩

theorem ServiceOp.neverStops (op : ServiceOp) : op.exec.NeverStops := by
  cases op with
  | start =>
      intro r
      change Prog.NeverStops (if r.res = ztsErrOk then _ else _)
      split_ifs
      · exact fun _ ↦ trivial
      · trivial
  | _ => exact fun _ ↦ trivial

theorem ensures_service {op : ServiceOp} {Q : EmptyResult → ProcessState → Prop}
    (h : ∀ es r, op.exec.Runs es r → Q r (s.1, descriptorTable.after s.2.1 es, s.log ++ es)) :
    (ApiCall.service op).Ensures K s Q := by
  unfold ApiCall.Ensures Api.Ensures callApi
  rw [Prog.holds_perform]
  apply Prog.ensuresUnless_of_runs
  · exact Prog.neverStops_bind_iff.mpr ⟨op.neverStops, fun _ _ _ ↦ trivial⟩
  · rintro es r hrun -
    obtain ⟨r', front, back, rfl, hexec, rfl, rfl⟩ := Prog.runs_bind.mp hrun
    rw [List.append_nil, Service.after_logging]
    exact h front r' hexec

/-- A function of `Service.hpp` uses no descriptor, and only `stop` stops the node. -/
theorem ServiceOp.events {op : ServiceOp} {es : List ZtsEvent} {r : EmptyResult}
    (h : op.exec.Runs es r) {e : ZtsEvent} (he : e ∈ es) :
    e.call.descriptorUse = .none ∧ (e.call = .ztsNodeStop → op = .stop) := by
  cases op with
  | start =>
      obtain ⟨reply, rest, rfl, hrest⟩ := h
      change Prog.Runs (if reply.res = ztsErrOk then _ else _) _ _ at hrest
      split_ifs at hrest
      · obtain ⟨reply', rest', rfl, rfl, -⟩ := hrest
        simp only [List.mem_cons, List.not_mem_nil, or_false] at he
        rcases he with rfl | rfl
        · exact ⟨rfl, nofun⟩
        · exact ⟨rfl, nofun⟩
      · obtain ⟨rfl, -⟩ := hrest
        obtain rfl := List.mem_singleton.mp he
        exact ⟨rfl, nofun⟩
  | stop =>
      obtain ⟨reply, rest, rfl, rfl, -⟩ := h
      obtain rfl := List.mem_singleton.mp he
      exact ⟨rfl, fun _ ↦ rfl⟩
  | _ =>
      obtain ⟨reply, rest, rfl, rfl, -⟩ := h
      obtain rfl := List.mem_singleton.mp he
      exact ⟨rfl, nofun⟩

omit [Platform] in
theorem descriptors_after {opened : Set ℤ} {es : List ZtsEvent}
    (h : ∀ e ∈ es, e.call.descriptorUse = .none) : descriptorTable.after opened es = opened := by
  induction es with
  | nil => rfl
  | cons e es ih =>
      have he := h e List.mem_cons_self
      rw [Service.after_cons]
      simp only [descriptorTable, he]
      exact ih fun e' he' ↦ h e' (List.mem_cons_of_mem e he')

/-! ## The life of a process -/

/-- A condition on datagrams: on their bytes, how many of them are sent, and where to. -/
abbrev DatagramCondition := List UInt8 → UInt64 → SockaddrStorage → Prop

/-- What a program calls before it stops the node, when `D` is true of the
datagrams that it sends. -/
def Call.Expected (D : DatagramCondition) : Call → Prop
  | .ztsNodeStop => False
  | .ztsBsdSendto _ buf len _ addr _ => D buf len addr
  | _ => True

/-- `sendTo` is only asked for datagrams of which `D` is true. -/
def Op.SendsOnly (D : DatagramCondition) : Op → Prop
  | .call _ (.sendTo stack data size a port) =>
      ∀ addr, toSockaddr stack.sockaddr a port = some addr → D (data.getD []) size addr
  | _ => True

variable {D : DatagramCondition}

theorem World.exec_expected {w w' : World} {op : Op} {es : List ZtsEvent} {o : Outcome}
    (h : (w.exec op).Runs es (o, w')) (hop : op.SendsOnly D) {e : ZtsEvent} (he : e ∈ es) :
    e.call.Expected D := by
  obtain ⟨-, ⟨p, m, x, rfl, -, hcall⟩ | ⟨fd, hcall | hcall⟩⟩ := World.exec_call h he
  · cases m with
    | bind stack a port | connect stack a port =>
        obtain ⟨addr, -, haddr⟩ := Option.map_eq_some_iff.mp hcall
        rw [← haddr]
        trivial
    | sendTo stack data size a port =>
        obtain ⟨addr, hsockaddr, haddr⟩ := Option.map_eq_some_iff.mp hcall
        rw [← haddr]
        exact hop addr hsockaddr
    | isOpen => cases hcall
    | _ =>
        rw [← Option.some.inj hcall]
        trivial
  · rw [hcall]
    trivial
  · rw [hcall]
    trivial

theorem ServiceOp.expected {op : ServiceOp} {es : List ZtsEvent} {r : EmptyResult}
    (h : op.exec.Runs es r) (hop : op ≠ .stop) {e : ZtsEvent} (he : e ∈ es) :
    e.call.Expected D := by
  obtain ⟨huse, hstop⟩ := ServiceOp.events h he
  generalize e.call = c at huse hstop
  cases c with
  | ztsNodeStop => exact hop (hstop rfl)
  | ztsBsdSendto => cases huse
  | _ => trivial

/-- The node was not stopped yet, and the Sockets are at the places in `A`. -/
structure Running (D : DatagramCondition) (A : Set ℕ) (s : ProcessState) : Prop where
  tidy : Tidy A s.session
  expected : ∀ e ∈ s.log, e.call.Expected D

/-- The node was stopped once; since then Sockets were closed at most. -/
structure Stopped (D : DatagramCondition) (A : Set ℕ) (s : ProcessState) : Prop where
  tidy : Tidy A s.session
  stoppedOnce : ∃ before reply after, s.log = before ++ ⟨.ztsNodeStop, reply⟩ :: after ∧
    (∀ e ∈ before, e.call.Expected D) ∧ ∀ e ∈ after, ∃ fd, e.call = .ztsClose fd

/-- The Socket at `p` is not open. -/
def Idle (p : ℕ) (s : ProcessState) : Prop :=
  ∀ x, s.1.world.object? p = some x → ¬ x.impl.isOpen

omit [Platform] in
theorem Idle.not_reinitializes {p : ℕ} {m : Method} (h : Idle p s) :
    ¬ s.1.world.Reinitializes (.call p m) := by
  rintro ⟨q, d, t, x, hop, -, hx, hopen⟩
  cases hop
  exact h x hx hopen

/-- Calls that neither open or destroy a Socket nor stop the node. -/
def ApiCall.Ordinary (D : DatagramCondition) (A : Set ℕ) : ApiCall → Prop
  | .socket (.call p m) => p ∈ A ∧ (∀ d t, m ≠ .init d t) ∧ (Op.call p m).SendsOnly D
  | .socket _ => False
  | .service op => op ≠ .stop
  | .setEventHandler _ => True

namespace Running

theorem start : Running D ∅ .start := ⟨tidy_start, nofun⟩

theorem log_append {es : List ZtsEvent} (hs : Running D A s) (h : ∀ e ∈ es, e.call.Expected D) :
    ∀ e ∈ s.log ++ es, e.call.Expected D := by
  intro e he
  rcases List.mem_append.mp he with he | he
  · exact hs.expected e he
  · exact h e he

theorem call {p : ℕ} {m : Method} (hs : Running D A s) (hp : p ∈ A)
    (hinit : ¬ s.1.world.Reinitializes (.call p m)) (hm : (Op.call p m).SendsOnly D) :
    (ApiCall.socket (.call p m)).Ensures K s fun _ u ↦
      Running D A u ∧ ∀ q, q ≠ p → u.1.world.object? q = s.1.world.object? q := by
  refine ensures_socket (hs.tidy.allows_call hp) fun es o t hstep ↦ ?_
  constructor
  · exact ⟨hs.tidy.call hp hstep hinit,
      hs.log_append fun e he ↦ World.exec_expected hstep.1 hm he⟩
  · intro q hq
    obtain ⟨x, impl, -, -, hw⟩ := World.runs_call hstep.1
    change t.world.object? q = _
    rw [hw]
    exact World.object?_setImpl_ne _ hq _ _

/-- Whatever libzt answers, a Socket is not open after `close`. -/
theorem close {p : ℕ} (hs : Running D A s) (hp : p ∈ A) :
    (ApiCall.socket (.call p .close)).Ensures K s fun _ u ↦ Running D A u ∧ Idle p u := by
  refine ensures_socket (hs.tidy.allows_call hp) fun es o t hstep ↦ ?_
  constructor
  · refine ⟨hs.tidy.call hp hstep ?_,
      hs.log_append fun e he ↦ World.exec_expected hstep.1 trivial he⟩
    rintro ⟨q, d, t, x, hop, -⟩
    cases hop
  · obtain ⟨x, impl, -, hm, hw⟩ := World.runs_call hstep.1
    obtain ⟨r, hclose, -⟩ := Method.runs_returning.mp hm
    intro y hy
    change t.world.object? p = some y at hy
    rw [hw, World.object?_setImpl_self] at hy
    rw [← Option.some.inj hy]
    rcases Impl.runs_close hclose with ⟨hopen, -, himpl, -⟩ | ⟨-, reply, -, himpl, -⟩
    · rw [himpl]
      exact hopen
    · rw [himpl, Impl.isOpen_iff]
      exact not_le.mpr Platform.ztsErrSocket_neg

theorem service {op : ServiceOp} (hs : Running D A s) (hop : op ≠ .stop) :
    (ApiCall.service op).Ensures K s fun _ u ↦ Running D A u := by
  apply ensures_service
  intro es r hrun
  rw [descriptors_after fun e he ↦ (ServiceOp.events hrun he).1]
  exact ⟨hs.tidy, hs.log_append fun e he ↦ ServiceOp.expected hrun hop he⟩

/-- The invariant of ordinary calls. -/
theorem ordinary {c : ApiCall} (hs : Running D A s) (hc : c.Ordinary D A) :
    c.Ensures K s fun _ u ↦ Running D A u := by
  cases c with
  | socket op =>
      cases op with
      | call p m =>
          obtain ⟨hp, hinit, hm⟩ := hc
          have hre : ¬ s.1.world.Reinitializes (.call p m) := by
            rintro ⟨q, d, t, x, hop, -⟩
            cases hop
            exact hinit d t rfl
          exact (hs.call hp hre hm).mono fun _ _ h ↦ h.1
      | _ => exact hc.elim
  | service op => exact hs.service hc
  | setEventHandler aHandler => exact ⟨hs.tidy, hs.expected⟩

theorem within {α : Type} {p : Client α} (hs : Running D A s)
    (hp : p.run.Within {c : ApiCall | c.Ordinary D A}) :
    p.Ensures K s (fun _ u ↦ Running D A u) fun _ u ↦ Running D A u :=
  Throwing.holds_of_within hp (fun _ hc _ hu ↦ hu.ordinary hc) hs

theorem bind {α β : Type} {p : Client α} {f : α → Client β} {Q : β → ProcessState → Prop}
    (hs : Running D A s) (hp : p.run.Within {c : ApiCall | c.Ordinary D A})
    (hf : ∀ a u, Running D A u → (f a).Ensures K u Q fun _ v ↦ Running D A v) :
    (p >>= f).Ensures K s Q fun _ v ↦ Running D A v :=
  (hs.within hp).bind hf

theorem construct {p : ℕ} (hs : Running D A s) (hp : p ∉ A) :
    (ApiCall.socket (.construct p)).Ensures K s fun _ u ↦
      Running D (insert p A) u ∧ Idle p u ∧
        ∀ q, q ≠ p → u.1.world.object? q = s.1.world.object? q := by
  refine ensures_socket (hs.tidy.places p hp) fun es o t hstep ↦ ?_
  constructor
  · exact ⟨hs.tidy.construct hstep,
      hs.log_append fun e he ↦ World.exec_expected hstep.1 trivial he⟩
  · have heffect := sessions_effect hstep
    generalize hw : t.world = w at heffect
    cases heffect with
    | constructed _ hfree =>
        constructor
        · intro x hx
          change t.world.object? p = some x at hx
          rw [hw] at hx
          have hfresh : ⟨_, Impl.fresh⟩ = x := Option.some.inj
            ((World.object?_emplace_self _ p Impl.fresh).symm.trans hx)
          rw [← hfresh, Impl.isOpen_iff]
          exact not_le.mpr Platform.ztsErrSocket_neg
        · intro q hq
          change t.world.object? q = _
          rw [hw]
          exact World.object?_emplace_ne _ hq _

theorem destroy {p : ℕ} (hs : Running D A s) (hp : p ∈ A) :
    (ApiCall.socket (.destroy p)).Ensures K s fun _ u ↦ Running D (A \ {p}) u := by
  refine ensures_socket (hs.tidy.allows_destroy hp) fun es o t hstep ↦ ?_
  exact ⟨hs.tidy.destroy hstep, hs.log_append fun e he ↦ World.exec_expected hstep.1 trivial he⟩

theorem stop (hs : Running D A s) :
    (ApiCall.service .stop).Ensures K s fun _ u ↦
      Stopped D A u ∧ u.1 = s.1 ∧ ∃ before reply, u.log = before ++ [⟨.ztsNodeStop, reply⟩] := by
  apply ensures_service
  rintro es r ⟨reply, rest, rfl, rfl, -⟩
  exact ⟨⟨hs.tidy, s.log, reply, [], rfl, hs.expected, nofun⟩, rfl, s.log, reply, rfl⟩

end Running

theorem Stopped.destroy {p : ℕ} (hs : Stopped D A s) (hp : p ∈ A) :
    (ApiCall.socket (.destroy p)).Ensures K s fun _ u ↦
      Stopped D (A \ {p}) u ∧ u.1.eventHandler = s.1.eventHandler ∧
        (Idle p s → u.log = s.log) := by
  refine ensures_socket (hs.tidy.allows_destroy hp) fun es o t hstep ↦ ?_
  obtain ⟨before, reply, after, hlog, hbefore, hafter⟩ := hs.stoppedOnce
  have hdeletes : ∃ x : Socket, s.1.world.sockets p = some x ∧ World.Deletes x.impl es := by
    have heffect := sessions_effect hstep
    generalize t.world = w at heffect
    cases heffect with
    | destroyed _ x _ hx hdelete => exact ⟨x, hx, hdelete⟩
  obtain ⟨x, hx, hdelete⟩ := hdeletes
  refine ⟨⟨hs.tidy.destroy hstep, before, reply, after ++ es, ?_, hbefore, ?_⟩, rfl, ?_⟩
  · change s.log ++ es = _
    rw [hlog, List.append_assoc, List.cons_append]
  · intro e he
    rcases List.mem_append.mp he with he | he
    · exact hafter e he
    · exact (hdelete.call he).2
  · intro hidle
    change s.log ++ es = s.log
    have hobject : s.1.world.object? p = x.impl := by rw [World.object?, hx]; rfl
    generalize x.impl = object at hdelete hobject
    cases hdelete with
    | none | notOpen => exact List.append_nil _
    | closes object hopen => exact absurd hopen (hidle object hobject)

/-- The scope of a Socket, on both ways out. -/
theorem Running.withSocket {α : Type} {p : ℕ} {body : Client α} {Q R : α → ProcessState → Prop}
    (hs : Running D A s) (hp : p ∉ A)
    (hdestroy : ∀ a u, Q a u → (ApiCall.socket (.destroy p)).Ensures K u fun _ v ↦ R a v)
    (hbody : ∀ u, Running D (insert p A) u → Idle p u →
      (∀ q, q ≠ p → u.1.world.object? q = s.1.world.object? q) →
      body.Ensures K u Q fun _ v ↦ Running D (insert p A) v) :
    (withSocket p body).Ensures K s R fun _ v ↦ Running D A v := by
  apply Throwing.holds_bind.mpr
  apply Throwing.holds_lift.mpr
  refine (hs.construct hp).mono ?_
  rintro o u ⟨hu, hidle, hothers⟩
  apply Throwing.holds_cleaning.mpr
  refine (hbody u hu hidle hothers).mono ?_ ?_
  · intro a v hv
    exact Prog.holds_bind.mpr (hdestroy a v hv)
  · intro e v hv
    have hdestroyed := hv.destroy (K := K) (Set.mem_insert p A)
    rw [Set.insert_sdiff_self_of_notMem hp] at hdestroyed
    exact Prog.holds_bind.mpr hdestroyed

/-- Nothing is left of what the process used. -/
structure Released (s : ProcessState) : Prop where
  sockets : ∀ p, s.1.world.sockets p = none
  descriptors : s.2.1 = ∅
  eventHandler : s.1.eventHandler = none

theorem Stopped.released (hs : Stopped D ∅ s) (hhandler : s.1.eventHandler = none) : Released s :=
  ⟨fun p ↦ hs.tidy.places p (Set.notMem_empty p), hs.tidy.no_descriptors, hhandler⟩

/-- One call stopped the node, and after it Sockets were closed at most. -/
def StoppedOnce (log : List ZtsEvent) : Prop :=
  ∃ before reply after, log = before ++ ⟨.ztsNodeStop, reply⟩ :: after ∧
    (∀ e ∈ before, e.call ≠ .ztsNodeStop) ∧ ∀ e ∈ after, ∃ fd, e.call = .ztsClose fd

def NotStopped (log : List ZtsEvent) : Prop := ∀ e ∈ log, e.call ≠ .ztsNodeStop

omit [Platform] in
theorem notStopped_of_expected {log : List ZtsEvent} (h : ∀ e ∈ log, e.call.Expected D) :
    NotStopped log := by
  intro e he hstop
  have hexpected := h e he
  rw [hstop] at hexpected
  exact hexpected

theorem Stopped.stopped_once (hs : Stopped D A s) : StoppedOnce s.log := by
  obtain ⟨before, reply, after, hlog, hbefore, hafter⟩ := hs.stoppedOnce
  exact ⟨before, reply, after, hlog, notStopped_of_expected hbefore, hafter⟩

/-- `D` is true of each datagram that libzt was given. -/
def SentOnly (D : DatagramCondition) (log : List ZtsEvent) : Prop :=
  ∀ e ∈ log, ∀ fd buf len flags addr addrlen,
    e.call = .ztsBsdSendto fd buf len flags addr addrlen → D buf len addr

omit [Platform] in
theorem sentOnly_of_expected {log : List ZtsEvent} (h : ∀ e ∈ log, e.call.Expected D) :
    SentOnly D log := by
  intro e he fd buf len flags addr addrlen hcall
  have hexpected := h e he
  rw [hcall] at hexpected
  exact hexpected

/-- Before and after the node was stopped, `D` is true of the datagrams sent. -/
theorem Stopped.sentOnly (hs : Stopped D A s) : SentOnly D s.log := by
  obtain ⟨before, reply, after, hlog, hbefore, hafter⟩ := hs.stoppedOnce
  rw [hlog]
  intro e he fd buf len flags addr addrlen hcall
  simp only [List.mem_append, List.mem_cons] at he
  rcases he with he | rfl | he
  · exact sentOnly_of_expected hbefore e he _ _ _ _ _ _ hcall
  · cases hcall
  · obtain ⟨fd', hclose⟩ := hafter e he
    rw [hclose] at hcall
    cases hcall

end

end Ztcpp
