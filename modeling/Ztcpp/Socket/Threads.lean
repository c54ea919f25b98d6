import Ztcpp.Library.Threads
import Ztcpp.Socket.Calls
import Ztcpp.Socket.Isolation

/-!
# Threads with Sockets of their own

The threads of a program share libzt, and each uses the Sockets that it
constructed.  No operation makes more than one call, so threads that interleave
at every call do what whole operations do in some order; a descriptor is used
by the thread that obtained it and by no other.  `zts_errno`, one variable for
all threads, is part of each reply with the value that the message reads.
-/

namespace Ztcpp

open Interaction LabelledSystem

section

variable [Platform] {self : Impl}

namespace Impl

omit [Platform] in
theorem atMostOneCall_reply {α : Type} (c : Call) (f : c.Reply → α) :
    (callLibzt c >>= fun r ↦ Prog.ret (f r)).AtMostOneCall := fun r ↦ ⟨f r, rfl⟩

theorem atMostOneCall_encodeSockaddr {α : Type} {stack : Stack} {a : IpAddress} {port : UInt16}
    {f : SockaddrStorage → Prog Libzt α} (hf : ∀ s, (f s).AtMostOneCall) :
    (encodeSockaddr stack a port >>= f).AtMostOneCall := by
  unfold encodeSockaddr
  cases toSockaddr stack.sockaddr a port with
  | none => trivial
  | some s => exact hf s

theorem atMostOneCall_init (d : SocketDomain) (t : SocketType) :
    (self.init d t).AtMostOneCall := by
  unfold init
  split_ifs
  · trivial
  · trivial
  · exact atMostOneCall_reply _ _

theorem atMostOneCall_bind (stack : Stack) (a : IpAddress) (port : UInt16) :
    (self.bind stack a port).AtMostOneCall := by
  unfold bind
  split_ifs
  · trivial
  · exact atMostOneCall_encodeSockaddr fun _ ↦ atMostOneCall_reply _ _
  · trivial

theorem atMostOneCall_connect (stack : Stack) (a : IpAddress) (port : UInt16) :
    (self.connect stack a port).AtMostOneCall := by
  unfold connect
  split_ifs
  · trivial
  · trivial
  · exact atMostOneCall_encodeSockaddr fun _ ↦ atMostOneCall_reply _ _
  · trivial

theorem atMostOneCall_sendTo (stack : Stack) (data : Option (List UInt8)) (size : UInt64)
    (a : IpAddress) (port : UInt16) : (self.sendTo stack data size a port).AtMostOneCall := by
  unfold sendTo
  split_ifs
  · trivial
  · trivial
  · exact atMostOneCall_encodeSockaddr fun _ ↦ atMostOneCall_reply _ _
  · trivial

theorem atMostOneCall_send (data : Option (List UInt8)) (size : UInt64) :
    (self.send data size).AtMostOneCall := by
  unfold send
  split_ifs
  · trivial
  · exact atMostOneCall_reply _ _

theorem atMostOneCall_receive (buffer : Option (List UInt8)) (size : UInt64) :
    (self.receive buffer size).AtMostOneCall := by
  unfold receive
  split_ifs
  · trivial
  · exact atMostOneCall_reply _ _

theorem atMostOneCall_receiveFrom (stack : Stack) (buffer : Option (List UInt8)) (size : UInt64)
    (a : IpAddress) (port : UInt16) :
    (self.receiveFrom stack buffer size a port).AtMostOneCall := by
  unfold receiveFrom
  split_ifs
  · trivial
  · exact atMostOneCall_reply _ _

theorem atMostOneCall_close : self.close.AtMostOneCall := by
  unfold close
  split_ifs
  · exact atMostOneCall_reply _ _
  · trivial

theorem atMostOneCall_pollEvents (events : BitVec 32) (time : Int64) :
    (self.pollEvents events time).AtMostOneCall := by
  unfold pollEvents
  split_ifs
  · trivial
  · exact atMostOneCall_reply _ _

end Impl

theorem Method.atMostOneCall_exec (m : Method) : (m.exec self).AtMostOneCall := by
  cases m with
  | init d t => exact (Impl.atMostOneCall_init d t).map _
  | bind stack a port => exact (Impl.atMostOneCall_bind stack a port).map _
  | connect stack a port => exact (Impl.atMostOneCall_connect stack a port).map _
  | listen n => exact (Impl.atMostOneCall_reply _ _).map _
  | send data size => exact (Impl.atMostOneCall_send data size).map _
  | sendTo stack data size a port =>
      exact (Impl.atMostOneCall_sendTo stack data size a port).map _
  | receive buffer size => exact (Impl.atMostOneCall_receive buffer size).map _
  | receiveFrom stack buffer size a port =>
      exact (Impl.atMostOneCall_receiveFrom stack buffer size a port).map _
  | isOpen => trivial
  | close => exact Impl.atMostOneCall_close.map _
  | pollEvents events time => exact (Impl.atMostOneCall_pollEvents events time).map _
  | getLocalIpAddress stack | getLocalPort stack | getRemoteIpAddress stack
  | getRemotePort stack => exact fun reply ↦ ⟨_, rfl⟩

namespace World

theorem atMostOneCall_delete (o : Option Object) : (delete o).AtMostOneCall := by
  cases o with
  | none => trivial
  | some object => exact Impl.atMostOneCall_close.map _

/-- No operation, with the destructors that it runs, makes a second call. -/
theorem atMostOneCall_exec (w : World) (op : Op) : (w.exec op).AtMostOneCall := by
  cases op with
  | construct p =>
      simp only [exec]
      split_ifs <;> trivial
  | call p m =>
      simp only [exec]
      cases w.object? p with
      | none => trivial
      | some object => exact m.atMostOneCall_exec.bind fun a ↦ ⟨_, rfl⟩
  | accept p r =>
      simp only [exec]
      cases w.object? p with
      | none => trivial
      | some object =>
          dsimp only
          split_ifs
          · trivial
          · rw [Impl.accept_eq]
            intro reply
            cases h : object.impl.acceptResult reply with
            | ok accepted => exact ⟨_, by simp [h]; rfl⟩
            | error report => exact ⟨_, by simp [h]; rfl⟩
  | moveConstruct p q =>
      simp only [exec]
      cases w.sockets q with
      | none => trivial
      | some s =>
          dsimp only
          split_ifs <;> trivial
  | moveAssign p q =>
      simp only [exec]
      cases w.sockets q with
      | none => trivial
      | some s =>
          dsimp only
          split_ifs
          · trivial
          · exact (atMostOneCall_delete _).bind fun a ↦ ⟨_, rfl⟩
  | destroy p =>
      simp only [exec]
      cases w.sockets p with
      | none => trivial
      | some s => exact (atMostOneCall_delete _).bind fun a ↦ ⟨_, rfl⟩

end World

end

/-! ## Who obtained a descriptor -/

def ZtsEvent.Obtains (e : ZtsEvent) (fd : ℤ) : Prop :=
  (e.call.descriptorUse = .opens ∨ ∃ k, e.call.descriptorUse = .accepts k) ∧ e.res = fd

def ZtsEvent.Closes (e : ZtsEvent) (fd : ℤ) : Prop := e.call.descriptorUse = .closes fd

def ZtsEvent.ActsOn (e : ZtsEvent) (fd : ℤ) : Prop :=
  e.call.descriptorUse = .uses fd ∨ e.call.descriptorUse = .accepts fd ∨
    e.call.descriptorUse = .closes fd

section

variable {T : Type}

/-- The thread `t` obtained `fd` by a call of its own, and since that call
nobody has closed `fd` or obtained it. -/
def ObtainedBy (calls : List (T × ZtsEvent)) (t : T) (fd : ℤ) : Prop :=
  ∃ before e after, calls = before ++ (t, e) :: after ∧ e.Obtains fd ∧
    ∀ c ∈ after, ¬ c.2.Obtains fd ∧ ¬ c.2.Closes fd

theorem obtainedBy_snoc_self (calls : List (T × ZtsEvent)) (t : T) {e : ZtsEvent} {fd : ℤ}
    (h : e.Obtains fd) : ObtainedBy (calls ++ [(t, e)]) t fd :=
  ⟨calls, e, [], rfl, h, by simp⟩

theorem ObtainedBy.snoc {calls : List (T × ZtsEvent)} {t u : T} {e : ZtsEvent} {fd : ℤ}
    (h : ObtainedBy calls t fd) (hobtains : ¬ e.Obtains fd) (hcloses : ¬ e.Closes fd) :
    ObtainedBy (calls ++ [(u, e)]) t fd := by
  obtain ⟨before, f, after, rfl, hf, hafter⟩ := h
  refine ⟨before, f, after ++ [(u, e)], by simp, hf, ?_⟩
  intro c hc
  rcases List.mem_append.mp hc with hc | hc
  · exact hafter c hc
  · rw [List.mem_singleton.mp hc]
    exact ⟨hobtains, hcloses⟩

/-! ## Calls as actions of the threads' objects -/

/-- The objects of all threads, as the owners of descriptors. -/
def ZtsEvent.actionsOf (t : T) (actor keeper : ℕ) (e : ZtsEvent) :
    List (Ownership.Act (T × ℕ) ℤ) :=
  (e.actions actor keeper).map (Ownership.Act.mapOwner (t, ·))

section

variable {t u : T} {actor keeper a : ℕ} {e : ZtsEvent} {fd : ℤ}

theorem ZtsEvent.obtains_of_mem (h : .grant (u, a) fd ∈ e.actionsOf t actor keeper) :
    t = u ∧ e.Obtains fd := by
  unfold ZtsEvent.actionsOf ZtsEvent.actions usedBy obtainedBy at h
  cases huse : e.call.descriptorUse with
  | opens =>
      simp only [huse] at h
      split_ifs at h
      all_goals simp [Ownership.Act.mapOwner] at h
      exact ⟨h.1.1.symm, .inl huse, h.2.symm⟩
  | accepts k =>
      simp only [huse] at h
      split_ifs at h
      all_goals simp [Ownership.Act.mapOwner] at h
      · exact ⟨h.1.1.symm, .inr ⟨k, huse⟩, h.2.symm⟩
      · exact ⟨h.1.1.symm, .inr ⟨k, huse⟩, h.2.symm⟩
  | closes k => simp [huse, Ownership.Act.mapOwner] at h
  | uses k =>
      simp only [huse] at h
      split_ifs at h
      all_goals simp [Ownership.Act.mapOwner] at h
  | none => simp [huse] at h

theorem ZtsEvent.exists_transfers (hfd : 0 ≤ fd) (h : e.Obtains fd ∨ e.Closes fd) :
    ∃ action ∈ e.actionsOf t actor keeper, action.Transfers fd := by
  rcases h with ⟨huse | ⟨k, huse⟩, rfl⟩ | huse
  · refine ⟨.grant (t, keeper) e.res, ?_, rfl⟩
    simp [ZtsEvent.actionsOf, ZtsEvent.actions, huse, obtainedBy, hfd, Ownership.Act.mapOwner]
  · refine ⟨.grant (t, keeper) e.res, ?_, rfl⟩
    simp [ZtsEvent.actionsOf, ZtsEvent.actions, huse, obtainedBy, hfd, Ownership.Act.mapOwner]
  · refine ⟨.release (t, actor) fd, ?_, rfl⟩
    have hcloses : e.call.descriptorUse = .closes fd := huse
    simp [ZtsEvent.actionsOf, ZtsEvent.actions, hcloses, Ownership.Act.mapOwner]

theorem ZtsEvent.exists_actsOn (hfd : 0 ≤ fd) (h : e.ActsOn fd) :
    ∃ action rest, e.actionsOf t actor keeper = action :: rest ∧
      action.ActsOn (t, actor) fd := by
  rcases h with huse | huse | huse
  · refine ⟨.use (t, actor) fd, [], ?_, rfl, rfl⟩
    simp [ZtsEvent.actionsOf, ZtsEvent.actions, huse, usedBy, hfd, Ownership.Act.mapOwner]
  · refine ⟨.use (t, actor) fd,
      (obtainedBy keeper e.res).map (Ownership.Act.mapOwner (t, ·)), ?_, rfl, rfl⟩
    simp [ZtsEvent.actionsOf, ZtsEvent.actions, huse, usedBy, hfd, Ownership.Act.mapOwner]
  · refine ⟨.release (t, actor) fd, [], ?_, rfl, rfl⟩
    simp [ZtsEvent.actionsOf, ZtsEvent.actions, huse, Ownership.Act.mapOwner]

end

/-- `Logged calls history`: the history is that of the calls, each made by some
object of its thread. -/
inductive Logged : List (T × ZtsEvent) → List (Ownership.Act (T × ℕ) ℤ) → Prop where
  | nil : Logged [] []
  | snoc {calls : List (T × ZtsEvent)} {history : List (Ownership.Act (T × ℕ) ℤ)}
      (t : T) (actor keeper : ℕ) (e : ZtsEvent) :
      Logged calls history →
        Logged (calls ++ [(t, e)]) (history ++ e.actionsOf t actor keeper)

section

variable {calls : List (T × ZtsEvent)} {history : List (Ownership.Act (T × ℕ) ℤ)}

theorem Logged.obtainedBy {t : T} {a : ℕ} {fd : ℤ} (h : Logged calls history) (hfd : 0 ≤ fd)
    (hgiven : Ownership.Given history (t, a) fd) : ObtainedBy calls t fd := by
  induction h with
  | nil =>
      obtain ⟨before, after, hsplit, -⟩ := hgiven
      simp at hsplit
  | snoc u actor keeper e _ ih =>
      rcases hgiven.of_append with hgrant | ⟨hbefore, hkept⟩
      · obtain ⟨rfl, hobtains⟩ := ZtsEvent.obtains_of_mem hgrant
        exact obtainedBy_snoc_self _ u hobtains
      · have hquiet : ¬ (e.Obtains fd ∨ e.Closes fd) := by
          intro hacts
          obtain ⟨action, hmem, htransfers⟩ := ZtsEvent.exists_transfers hfd hacts
          exact hkept action hmem htransfers
        exact (ih hbefore).snoc (fun h ↦ hquiet (.inl h)) (fun h ↦ hquiet (.inr h))

theorem Logged.of_snoc {t : T} {e : ZtsEvent} (h : Logged (calls ++ [(t, e)]) history) :
    ∃ first actor keeper, history = first ++ e.actionsOf t actor keeper ∧
      Logged calls first := by
  generalize hall : calls ++ [(t, e)] = all at h
  cases h with
  | nil => simp at hall
  | snoc u actor keeper f hlog =>
      obtain ⟨rfl, hlast⟩ := List.append_inj' hall rfl
      obtain ⟨rfl, rfl⟩ := Prod.mk.inj (List.singleton_inj.mp hlast)
      exact ⟨_, actor, keeper, rfl, hlog⟩

theorem Logged.of_append {more : List (T × ZtsEvent)} (h : Logged (calls ++ more) history) :
    ∃ first second, history = first ++ second ∧ Logged calls first := by
  induction more using List.reverseRecOn generalizing history with
  | nil => exact ⟨history, [], by simp, by simpa using h⟩
  | append_singleton more c ih =>
      rw [← List.append_assoc] at h
      obtain ⟨mid, actor, keeper, rfl, hmid⟩ := h.of_snoc
      obtain ⟨first, second, rfl, hfirst⟩ := ih hmid
      exact ⟨first, _, List.append_assoc .., hfirst⟩

end

/-! ## Whole runs -/

section

variable [Platform]

theorem World.participants_of_event {w w' : World} {op : Op} {e : ZtsEvent}
    (h : w.Effect op [e] w') : ∃ actor keeper, w.participants op = some (actor, keeper) := by
  have hdeletes : ∀ {o : Option Object}, Deletes o [e] →
      ∃ actor keeper, (o.map fun x ↦ (x.address, x.address)) = some (actor, keeper) := by
    intro o ho
    cases ho with
    | closes object hopen reply => exact ⟨object.address, object.address, rfl⟩
  generalize hes : [e] = es at h
  cases h with
  | constructed | moved => simp at hes
  | called p m object _ impl hp =>
      exact ⟨object.address, object.address, by simp [World.participants, hp]⟩
  | refused p r object reply hp | accepted p r object reply hp =>
      exact ⟨object.address, w.allocated, by simp [World.participants, hp]⟩
  | assigned p q s _ hq hp hdelete =>
      subst hes
      exact hdeletes hdelete
  | destroyed p s _ hp hdelete =>
      subst hes
      have hps : w.object? p = s.impl := by simp [World.object?, hp]
      rw [← hps] at hdelete
      exact hdeletes hdelete

theorem Logged.exec {calls : List (T × ZtsEvent)}
    {history : List (Ownership.Act (T × ℕ) ℤ)} (h : Logged calls history) (t : T)
    {w w' : World} {op : Op} {es : List ZtsEvent} {o : Outcome}
    (hexec : (w.exec op).Runs es (o, w')) :
    Logged (calls ++ es.map (t, ·))
      (history ++ (w.actions ⟨op, es, o⟩).map (Ownership.Act.mapOwner (t, ·))) := by
  cases es with
  | nil =>
      have hnone : w.actions ⟨op, [], o⟩ = [] := by
        unfold World.actions
        split <;> rfl
      simpa [hnone] using h
  | cons e es =>
      obtain ⟨hes, -⟩ := World.exec_call hexec List.mem_cons_self
      rw [hes] at hexec ⊢
      obtain ⟨actor, keeper, hpart⟩ := World.participants_of_event (World.exec_effect hexec)
      have hactions : w.actions ⟨op, [e], o⟩ = e.actions actor keeper := by
        simp [World.actions, hpart]
      rw [hactions]
      exact .snoc t actor keeper e h

/-- What every thread holds, by the addresses of its objects. -/
def heldByThreads (worlds : T → World) (owner : T × ℕ) : Set ℤ := (worlds owner.1).held owner.2

variable [DecidableEq T]

/-- Threads on a libzt that they share, interleaved at every call. -/
abbrev threads (T : Type) [DecidableEq T] {σ : Type} (S : Service Libzt σ) :
    LabelledSystem ((T → Thread Libzt World Outcome) × σ) (T × ThreadAct Libzt Op Outcome) :=
  sharing T (thread World.exec S)

/-- The same threads, interleaved between operations only. -/
abbrev wholeOperations (T : Type) [DecidableEq T] {σ : Type} (S : Service Libzt σ) :
    LabelledSystem ((T → World) × σ) (T × Operation Libzt Op Outcome) :=
  sharing T (atomic World.exec S)

theorem threads_ownership {opened : Set ℤ} {ls : List (T × Operation Libzt Op Outcome)}
    {y : (T → World) × Set ℤ}
    (h : (wholeOperations T descriptorTable).Run (fun _ ↦ .start, opened) ls y) :
    ∃ history, Logged (callsOf ls) history ∧ (∀ t, (y.1 t).Owned) ∧
      Ownership.system.Run ⟨fun _ ↦ ∅, opened⟩ history ⟨heldByThreads y.1, y.2⟩ := by
  induction h with
  | nil =>
      refine ⟨[], .nil, fun _ ↦ World.owned_start, ?_⟩
      have hstart : heldByThreads (fun _ : T ↦ World.start) = fun _ ↦ ∅ := by
        have hone : Session.ownership ⟨.start, opened⟩ = ⟨fun _ ↦ ∅, opened⟩ := ownership_start
        funext owner
        exact congrFun (congrArg Ownership.State.held hone) owner.2
      rw [hstart]
      exact .nil
  | snoc hls hlast ih =>
      rename_i ls y z label
      obtain ⟨t, l⟩ := label
      obtain ⟨history, hlog, howned, hrun⟩ := ih
      obtain ⟨w, hstep, hw⟩ := hlast
      have hsession : (sessions descriptorTable).Step ⟨y.1 t, y.2⟩ ⟨l.op, l.calls, l.result⟩
          ⟨w, z.2⟩ := hstep
      have hacts := ownership_step (howned t) hsession
      have hinjective : Function.Injective (fun a : ℕ ↦ (t, a)) := Prod.mk_right_injective t
      obtain ⟨held, hheld, hself, hothers⟩ := Ownership.run_mapOwner hinjective
        (heldByThreads y.1) hacts
      have hnew : held = heldByThreads z.1 := by
        funext ⟨u, a⟩
        by_cases hut : u = t
        · subst hut
          simp only [heldByThreads, hw, Function.update_self]
          exact congrFun hself a
        · rw [hothers (u, a) fun b hb ↦ hut (congrArg Prod.fst hb).symm]
          simp [heldByThreads, hw, hut]
      refine ⟨_, ?_, ?_, LabelledSystem.run_append_iff.mpr ⟨_, hrun, hnew ▸ hheld⟩⟩
      · rw [callsOf, List.flatMap_append, List.flatMap_singleton]
        exact hlog.exec t hstep.1
      · intro u
        rw [hw]
        by_cases hut : u = t
        · subst hut
          rw [Function.update_self]
          exact (howned u).effect (World.exec_effect hstep.1)
        · rw [Function.update_of_ne hut]
          exact howned u

theorem exists_followed {σ : Type} {S : Service Libzt σ} {s : σ}
    {xs : List (T × ThreadAct Libzt Op Outcome)} {x : (T → Thread Libzt World Outcome) × σ}
    (h : (threads T S).Run (fun _ ↦ .idle .start, s) xs x) :
    ∃ ls y, (wholeOperations T S).Run (fun _ ↦ .start, s) ls (y, x.2) ∧
      Followed World.exec xs x.1 ls y := by
  have hstart : Followed World.exec [] (fun _ : T ↦ .idle .start) [] fun _ ↦ .start :=
    followed_start _
  exact hstart.run World.atMostOneCall_exec h

/-- Whatever libzt does, there is an order of whole operations with the calls,
results and Sockets of the threads, and what is done later can be appended to
it: an operation that is over before another starts comes first. -/
theorem threads_serialised {σ : Type} {S : Service Libzt σ} {s : σ}
    {xs ys : List (T × ThreadAct Libzt Op Outcome)}
    {x x' : (T → Thread Libzt World Outcome) × σ}
    (hxs : (threads T S).Run (fun _ ↦ .idle .start, s) xs x) (hys : (threads T S).Run x ys x') :
    ∃ ls ks y z, (wholeOperations T S).Run (fun _ ↦ .start, s) ls (y, x.2) ∧
      (wholeOperations T S).Run (y, x.2) ks (z, x'.2) ∧ Serialises xs x.1 ls y ∧
      Serialises (xs ++ ys) x'.1 (ls ++ ks) z := by
  obtain ⟨ls, y, hls, hfollowed⟩ := exists_followed hxs
  obtain ⟨ks, z, hks, hlater⟩ := hfollowed.run World.atMostOneCall_exec hys
  exact ⟨ls, ks, y, z, hls, hks, hfollowed.serialises, hlater.serialises⟩

end

end

/-- One thread opens a Socket while the other one constructs its own. -/
def opening : List (Bool × ThreadAct Libzt Op Outcome) :=
  [(true, .start (.construct 0)), (true, .finish .done),
    (true, .start (.call 0 (.init .internetProtocolIPv4 .stream))),
    (false, .start (.construct 0)),
    (true, .call ⟨openingCall .internetProtocolIPv4 .stream, (⟨3, 0⟩ : Status)⟩),
    (false, .finish .done), (true, .finish (.empty (Impl.initResult ⟨3, 0⟩)))]

theorem run_opening :
    ∃ x, (threads Bool descriptorTable).Run (fun _ ↦ .idle .start, ∅) opening x ∧
      x.1 true = .idle (.opened .internetProtocolIPv4 .stream 3) := by
  have hadmits : descriptorTable.Admits ∅ (openingCall .internetProtocolIPv4 .stream)
      (⟨3, 0⟩ : Status) := fun _ ↦ Set.notMem_empty 3
  exact ⟨_, run_cons_iff.mpr ⟨_, sharing_start rfl _, run_cons_iff.mpr ⟨_, sharing_finish rfl,
    run_cons_iff.mpr ⟨_, sharing_start rfl _, run_cons_iff.mpr ⟨_, sharing_start rfl _,
    run_cons_iff.mpr ⟨_, sharing_call rfl hadmits, run_cons_iff.mpr ⟨_, sharing_finish rfl,
    run_cons_iff.mpr ⟨_, sharing_finish rfl, .nil⟩⟩⟩⟩⟩⟩⟩, rfl⟩

theorem threads_serialised_opening :
    ∃ x ls ks z, (threads Bool descriptorTable).Run (fun _ ↦ .idle .start, ∅) opening x ∧
      (wholeOperations Bool descriptorTable).Run (fun _ ↦ .start, ∅) (ls ++ ks) (z, x.2) ∧
      Serialises opening x.1 (ls ++ ks) z ∧ z true = .opened .internetProtocolIPv4 .stream 3 := by
  obtain ⟨x, hrun, hx⟩ := run_opening
  have hsplit := hrun
  rw [← List.take_append_drop 4 opening] at hsplit
  obtain ⟨mid, hfirst, hsecond⟩ := run_append_iff.mp hsplit
  obtain ⟨ls, ks, y, z, hls, hks, -, hserial⟩ := threads_serialised hfirst hsecond
  rw [List.take_append_drop] at hserial
  exact ⟨x, ls, ks, z, hrun, run_append_iff.mpr ⟨_, hls, hks⟩, hserial,
    (hserial.idle true _ hx).1⟩

section

variable [Platform] {T : Type} [DecidableEq T]

/-- In every interleaving, a descriptor is used, accepted on and closed only by
the thread that obtained it, and not after anybody closed it; an open Socket of
a thread that is between operations is the only one with its descriptor. -/
theorem threads_isolated {opened : Set ℤ} {xs : List (T × ThreadAct Libzt Op Outcome)}
    {x : (T → Thread Libzt World Outcome) × Set ℤ}
    (h : (threads T descriptorTable).Run (fun _ ↦ .idle .start, opened) xs x) :
    (∀ before t e after fd, callsIn xs = before ++ (t, e) :: after → e.ActsOn fd → 0 ≤ fd →
      ObtainedBy before t fd) ∧
    (∀ t w p a, x.1 t = .idle w → w.object? p = some a → a.impl.isOpen →
      ObtainedBy (callsIn xs) t a.impl.socketID ∧ a.impl.socketID ∈ x.2) ∧
    (∀ t u w v p q a b, x.1 t = .idle w → x.1 u = .idle v → w.object? p = some a →
      v.object? q = some b → a.impl.isOpen → a.impl.socketID = b.impl.socketID →
      t = u ∧ p = q) := by
  obtain ⟨ls, y, hls, hfollowed⟩ := exists_followed h
  have hserial := hfollowed.serialises
  obtain ⟨history, hlog, howned, hrun⟩ := threads_ownership hls
  rw [hserial.calls] at hlog
  have hsound := Ownership.sound_of_run hrun
  have hheld : ∀ t w p a, x.1 t = .idle w → w.object? p = some a → a.impl.isOpen →
      a.impl.socketID ∈ heldByThreads y (t, a.address) := by
    intro t w p a ht hp hopen
    rw [heldByThreads, (hserial.idle t w ht).1]
    exact World.mem_held hp hopen
  refine ⟨?_, ?_, ?_⟩
  · intro before t e after fd hsplit hacts hfd
    rw [hsplit, List.append_cons] at hlog
    obtain ⟨upTo, rest, rfl, hupTo⟩ := hlog.of_append
    obtain ⟨first, actor, keeper, rfl, hfirst⟩ := hupTo.of_snoc
    have hacting : ∃ action others, e.actionsOf t actor keeper = action :: others ∧
        action.ActsOn (t, actor) fd := ZtsEvent.exists_actsOn hfd hacts
    obtain ⟨action, others, hblock, hactsOn⟩ := hacting
    have hhistory : first ++ e.actionsOf t actor keeper ++ rest =
        first ++ action :: (others ++ rest) := by simp [hblock]
    exact hfirst.obtainedBy hfd (Ownership.given_of_actsOn hrun hhistory hactsOn)
  · intro t w p a ht hp hopen
    have hmem := hheld t w p a ht hp hopen
    exact ⟨hlog.obtainedBy (Impl.isOpen_iff.mp hopen) (hsound.given _ _ hmem),
      hsound.live _ _ hmem⟩
  · intro t u w v p q a b ht hu hp hq hopen heq
    have hopen' : b.impl.isOpen := by
      rwa [Impl.isOpen_iff, ← heq, ← Impl.isOpen_iff]
    have hmem := hheld t w p a ht hp hopen
    have hmem' := hheld u v q b hu hq hopen'
    rw [← heq] at hmem'
    obtain ⟨rfl, haddress⟩ := Prod.mk.inj (hsound.exclusive _ _ _ hmem hmem')
    obtain rfl := Thread.idle.inj (ht.symm.trans hu)
    have hw : w.Owned := by
      rw [← (hserial.idle t w ht).1]
      exact howned t
    exact ⟨rfl, hw.unique p q a b hp hq haddress⟩

end

theorem threads_isolated_opening :
    ∃ x, (threads Bool descriptorTable).Run (fun _ ↦ .idle .start, ∅) opening x ∧
      ObtainedBy (callsIn opening) true 3 ∧ 3 ∈ x.2 := by
  obtain ⟨x, hrun, hx⟩ := run_opening
  have hopen : (⟨.internetProtocolIPv4, .stream, 3⟩ : Impl).isOpen := rfl
  obtain ⟨hobtained, hlive⟩ := (threads_isolated hrun).2.1 true _ 0
    ⟨0, .internetProtocolIPv4, .stream, 3⟩ hx (World.object?_setImpl_self ..) hopen
  exact ⟨x, hrun, hobtained, hlive⟩

end Ztcpp
