import Ztcpp.Socket.Ownership

/-!
# Descriptor isolation

Every run of a program over Sockets is, call by call, a run of the ownership
system, when libzt hands out only descriptors that are not open.  So no two
Sockets hold one descriptor, and every call on a descriptor comes from the
object that was given it and has not closed it.
-/

namespace Ztcpp

open Interaction Ownership

def usedBy (actor : ℕ) (fd : ℤ) : List (Act ℕ ℤ) := if 0 ≤ fd then [.use actor fd] else []

/-- A number returned as a new descriptor is a descriptor or an error code;
the caller writes it over what it had in either case. -/
def obtainedBy (keeper : ℕ) (res : ℤ) : List (Act ℕ ℤ) :=
  if 0 ≤ res then [.grant keeper res] else [.forget keeper]

/-- One call to libzt as actions, when the object at `actor` makes the call and
the object at `keeper` keeps a descriptor that it returns. -/
def ZtsEvent.actions (actor keeper : ℕ) (e : ZtsEvent) : List (Act ℕ ℤ) :=
  match e.call.descriptorUse with
  | .opens => obtainedBy keeper e.res
  | .accepts fd => usedBy actor fd ++ obtainedBy keeper e.res
  | .closes fd => [.release actor fd]
  | .uses fd => usedBy actor fd
  | .none => []

namespace World

/-- The addresses of the object whose code calls libzt in an operation and of
the object that keeps a descriptor obtained by it. -/
def participants (w : World) : Op → Option (ℕ × ℕ)
  | .call p _ => (w.object? p).map fun x ↦ (x.address, x.address)
  | .accept p _ => (w.object? p).map fun x ↦ (x.address, w.allocated)
  | .moveAssign p q =>
      ((w.set q (some ⟨none⟩)).object? p).map fun x ↦ (x.address, x.address)
  | .destroy p => (w.object? p).map fun x ↦ (x.address, x.address)
  | .construct _ | .moveConstruct .. => none

def actions (w : World) (l : Step) : List (Act ℕ ℤ) :=
  match w.participants l.op with
  | some (actor, keeper) => l.events.flatMap (ZtsEvent.actions actor keeper)
  | none => []

end World

section

variable [Platform]

section

variable {s t : State ℕ ℤ} {a : ℕ} {fd : ℤ}

omit [Platform] in
theorem run_usedBy (h : 0 ≤ fd → fd ∈ s.held a) : system.Run s (usedBy a fd) s := by
  unfold usedBy
  split_ifs with hfd
  · exact LabelledSystem.run_singleton_iff.mpr (.use a fd (h hfd))
  · exact .nil

omit [Platform] in
theorem run_obtainedBy (impl : Impl) (h : 0 ≤ impl.socketID → impl.socketID ∉ s.live) :
    system.Run s (obtainedBy a impl.socketID)
      ⟨Function.update s.held a (World.descriptor impl),
        withDescriptor s.live impl.socketID⟩ := by
  unfold obtainedBy
  by_cases hopen : impl.isOpen
  · have hfd := Impl.isOpen_iff.mp hopen
    rw [if_pos hfd, withDescriptor_of_nonneg hfd, World.descriptor_of_isOpen hopen]
    exact LabelledSystem.run_singleton_iff.mpr (.grant a impl.socketID (h hfd))
  · have hfd : ¬ 0 ≤ impl.socketID := fun hfd ↦ hopen (Impl.isOpen_iff.mpr hfd)
    rw [if_neg hfd, withDescriptor_of_neg (not_le.mp hfd),
      World.descriptor_of_not_isOpen hopen]
    exact LabelledSystem.run_singleton_iff.mpr (.forget a)

end

def Session.ownership (s : Session (Set ℤ)) : State ℕ ℤ := ⟨s.world.held, s.libzt⟩

namespace World

variable {w w' : World} {opened : Set ℤ}

theorem Owned.effect {op : Op} {es : List ZtsEvent} (hw : w.Owned) (h : w.Effect op es w') :
    w'.Owned := by
  cases h with
  | constructed p hfree => exact hw.emplace p Impl.fresh
  | called p m object es impl hp hm => exact hw.setImpl hp impl
  | refused p r object reply hp hfree herror => exact hw
  | accepted p r object reply hp hfree herror => exact hw.emplace r _
  | moved p q s hq hfree => exact hw.handOver hq p
  | assigned p q s es hq hp hdelete => exact hw.handOver hq p
  | destroyed p s es hp hdelete => exact hw.clear p

omit [Platform] in
theorem run_deletes {o : Option Object} {es : List ZtsEvent} (hw : w.Owned)
    (ho : ∀ x, o = some x → ∃ p, w.object? p = some x) (h : Deletes o es)
    (hheap : w'.heap = dropped w.heap o) :
    system.Run ⟨w.held, opened⟩
      (match o.map fun x ↦ (x.address, x.address) with
        | some (actor, keeper) => es.flatMap (ZtsEvent.actions actor keeper)
        | none => [])
      ⟨w'.held, descriptorTable.after opened es⟩ := by
  cases h with
  | none =>
      have hheld : w'.held = w.held := by
        unfold held
        rw [hheap]
        rfl
      rw [hheld]
      exact .nil
  | notOpen object hopen =>
      obtain ⟨p, hp⟩ := ho object rfl
      have hheld : w'.held = w.held := by
        rw [held_of_heap hheap]
        apply Function.update_eq_self_iff.mpr
        ext fd
        simp [held, hw.heap_of_object hp, descriptor_of_not_isOpen hopen]
      rw [hheld]
      exact .nil
  | closes object hopen reply =>
      obtain ⟨p, hp⟩ := ho object rfl
      have hheld : w'.held = Function.update w.held object.address ∅ := by
        rw [held_of_heap hheap]
        simp
      rw [hheld]
      exact LabelledSystem.run_singleton_iff.mpr
        (.release object.address object.impl.socketID (mem_held hp hopen))

omit [Platform] in
theorem run_usedBy_object (opened : Set ℤ) {p : ℕ} {object : Object}
    (hp : w.object? p = some object) :
    system.Run ⟨w.held, opened⟩ (usedBy object.address object.impl.socketID)
      ⟨w.held, opened⟩ :=
  run_usedBy fun hfd ↦ mem_held hp (Impl.isOpen_iff.mpr hfd)

theorem run_called {p : ℕ} {m : Method} {object : Object} {es : List ZtsEvent} {impl : Impl}
    {o : Outcome} (hw : w.Owned) (hp : w.object? p = some object)
    (hm : Method.Effect object.impl m es impl) (hadmits : descriptorTable.AdmitsAll opened es) :
    system.Run ⟨w.held, opened⟩ (w.actions ⟨.call p m, es, o⟩)
      ⟨(w.setImpl p object impl).held, descriptorTable.after opened es⟩ := by
  have hheld := held_of_heap_singleton (hw.heap_setImpl hp impl)
  have hactions : w.actions ⟨.call p m, es, o⟩ =
      es.flatMap (ZtsEvent.actions object.address object.address) := by
    simp [actions, participants, hp]
  rw [hactions]
  cases hm with
  | opens d t reply hv =>
      rw [hheld]
      have hrun := run_obtainedBy (s := ⟨w.held, opened⟩) (a := object.address)
        ⟨d, t, reply.res⟩ hadmits.1
      simpa [ZtsEvent.actions, Call.descriptorUse, descriptorTable, ZtsEvent.res,
        Call.status] using hrun
  | closes reply hopen =>
      rw [hheld, descriptor_of_not_isOpen]
      · exact LabelledSystem.run_singleton_iff.mpr
          (.release object.address object.impl.socketID (mem_held hp hopen))
      · rw [Impl.isOpen_iff]
        exact not_le.mpr Platform.ztsErrSocket_neg
  | uses m e he =>
      rw [setImpl_self hp]
      have hrun := run_usedBy_object opened hp
      simpa [ZtsEvent.actions, he, descriptorTable] using hrun
  | quiet m =>
      rw [setImpl_self hp]
      exact .nil

theorem run_effect {op : Op} {es : List ZtsEvent} {o : Outcome} (hw : w.Owned)
    (h : w.Effect op es w') (hadmits : descriptorTable.AdmitsAll opened es) :
    system.Run ⟨w.held, opened⟩ (w.actions ⟨op, es, o⟩)
      ⟨w'.held, descriptorTable.after opened es⟩ := by
  cases h with
  | constructed p hfree =>
      have hheld : (w.emplace p Impl.fresh).held = w.held := by
        rw [held_of_heap_singleton (hw.heap_emplace hfree _)]
        apply Function.update_eq_self_iff.mpr
        rw [descriptor_of_not_isOpen Impl.fresh_not_isOpen]
        ext fd
        simp [held, hw.heap_allocated]
      rw [hheld]
      exact .nil
  | called p m object es impl hp hm => exact run_called hw hp hm hadmits
  | refused p r object reply hp hfree herror =>
      have hres := Impl.acceptError_neg herror
      have hheld : w.held = Function.update w.held w.allocated ∅ := by
        apply (Function.update_eq_self_iff.mpr _).symm
        ext fd
        simp [held, hw.heap_allocated]
      have hused := run_usedBy_object opened hp
      have hforget : system.Run (⟨w.held, opened⟩ : State ℕ ℤ) (obtainedBy w.allocated reply.res)
          ⟨w.held, opened⟩ := by
        rw [obtainedBy, if_neg (not_le.mpr hres)]
        nth_rewrite 2 [hheld]
        exact LabelledSystem.run_singleton_iff.mpr (.forget w.allocated)
      have hrun := LabelledSystem.run_append_iff.mpr ⟨_, hused, hforget⟩
      simpa [actions, participants, hp, ZtsEvent.actions, Call.descriptorUse, descriptorTable,
        ZtsEvent.res, Call.status, hres] using hrun
  | accepted p r object reply hp hfree herror =>
      have hused := run_usedBy_object opened hp
      have hobtained := run_obtainedBy (s := ⟨w.held, opened⟩) (a := w.allocated)
        { object.impl with socketID := reply.res } hadmits.1
      have hrun := LabelledSystem.run_append_iff.mpr ⟨_, hused, hobtained⟩
      rw [held_of_heap_singleton (hw.heap_emplace hfree _)]
      simpa [actions, participants, hp, ZtsEvent.actions, Call.descriptorUse, descriptorTable,
        ZtsEvent.res, Call.status] using hrun
  | moved p q s hq hfree =>
      have hempty : (w.set q (some ⟨none⟩)).object? p = none := by
        rw [object?_release]
        split_ifs
        · rfl
        · simp [object?, hfree]
      have hheld : (w.handOver p q s).held = w.held := by
        unfold held
        rw [hw.heap_handOver hq, hempty]
        rfl
      change system.Run _ _ ⟨(w.handOver p q s).held, opened⟩
      rw [hheld]
      exact .nil
  | assigned p q s es hq hp hdelete =>
      refine run_deletes hw ?_ hdelete (hw.heap_handOver hq)
      intro x hx
      rw [object?_release] at hx
      split_ifs at hx
      exact ⟨p, hx⟩
  | destroyed p s es hp hdelete =>
      have hps : w.object? p = s.impl := by simp [object?, hp]
      rw [← hps] at hdelete
      exact run_deletes hw (fun x hx ↦ ⟨p, hx⟩) hdelete hw.heap_clear

end World

/-! ## Whole runs -/

section

variable {σ : Type} {opened : Set ℤ} {steps : List Step} {t : Session (Set ℤ)}
  {history : List (Act ℕ ℤ)}

/-- Sessions that keep the history of what was done to descriptors. -/
def histories (S : Service Libzt σ) : LabelledSystem (Session σ × List (Act ℕ ℤ)) Step :=
  (sessions S).recording fun s l ↦ s.world.actions l

omit [Platform] in
theorem ownership_start : Session.ownership ⟨.start, opened⟩ = ⟨fun _ ↦ ∅, opened⟩ := by
  have hheld : World.start.held = fun _ ↦ ∅ := by
    funext a
    refine Set.eq_empty_iff_forall_notMem.mpr ?_
    rintro fd ⟨impl, ⟨p, hp⟩, -⟩
    simp at hp
  rw [Session.ownership, hheld]

theorem ownership_step {s s' : Session (Set ℤ)} {l : Step} (hw : s.world.Owned)
    (h : (sessions descriptorTable).Step s l s') :
    system.Run s.ownership (s.world.actions l) s'.ownership := by
  have hrun := World.run_effect (o := l.outcome) hw (sessions_effect h) h.2.1
  rw [← h.2.2] at hrun
  exact hrun

theorem ownership_run
    (h : (histories descriptorTable).Run (⟨.start, opened⟩, []) steps (t, history)) :
    t.world.Owned ∧ system.Run ⟨fun _ ↦ ∅, opened⟩ history t.ownership := by
  have hstep : ∀ (s : Session (Set ℤ)) (o : State ℕ ℤ) (l : Step) (s' : Session (Set ℤ)),
      (s.world.Owned ∧ o = s.ownership) → (sessions descriptorTable).Step s l s' →
        ∃ o', system.Run o (s.world.actions l) o' ∧ s'.world.Owned ∧ o' = s'.ownership := by
    rintro s _ l s' ⟨hw, rfl⟩ hl
    exact ⟨_, ownership_step hw hl, hw.effect (sessions_effect hl), rfl⟩
  obtain ⟨o, hrun, hw, rfl⟩ := LabelledSystem.Run.simulated
    (R := fun s o ↦ s.world.Owned ∧ o = Session.ownership s) hstep
    ⟨World.owned_start, ownership_start.symm⟩ h
  exact ⟨hw, hrun⟩

theorem Reaches.owned {S : Service Libzt σ} {s₀ : σ} {s : Session σ}
    (h : Reaches S s₀ steps s) : s.world.Owned := by
  refine LabelledSystem.Run.invariant (fun _ s ↦ s.world.Owned) h World.owned_start ?_
  intro _ s l s' _ hw hl
  exact hw.effect (sessions_effect hl)

theorem Reaches.sound (h : Reaches descriptorTable opened steps t) :
    ∃ history, Sound history t.ownership := by
  obtain ⟨history, hrun⟩ := h.recorded (fun s l ↦ s.world.actions l) []
  exact ⟨history, sound_of_run (ownership_run hrun).2⟩

theorem Reaches.place_unique {p q : ℕ} {x y : Object} (h : Reaches descriptorTable opened steps t)
    (hp : t.world.object? p = some x) (hq : t.world.object? q = some y) (hopen : x.impl.isOpen)
    (heq : x.impl.socketID = y.impl.socketID) : p = q := by
  obtain ⟨history, hsound⟩ := h.sound
  have hxheld := World.mem_held hp hopen
  have hyheld := World.mem_held hq (by rwa [Impl.isOpen_iff, ← heq, ← Impl.isOpen_iff])
  rw [← heq] at hyheld
  exact h.owned.unique p q x y hp hq (hsound.exclusive _ _ _ hxheld hyheld)

theorem Reaches.live {p : ℕ} {x : Object} (h : Reaches descriptorTable opened steps t)
    (hp : t.world.object? p = some x) (hopen : x.impl.isOpen) : x.impl.socketID ∈ t.libzt := by
  obtain ⟨history, hsound⟩ := h.sound
  exact hsound.live x.address _ (World.mem_held hp hopen)

/-- In every reachable state no two Sockets hold one descriptor and each
descriptor held is open.  In the history, every action on a descriptor is by
the object that was given it and kept it since, and a descriptor that is closed
a second time was handed out in between. -/
theorem descriptor_isolation
    (h : (histories descriptorTable).Run (⟨.start, opened⟩, []) steps (t, history)) :
    (∀ p q x y, t.world.object? p = some x → t.world.object? q = some y →
      0 ≤ x.impl.socketID → x.impl.socketID = y.impl.socketID → p = q) ∧
    (∀ p x, t.world.object? p = some x → 0 ≤ x.impl.socketID → x.impl.socketID ∈ t.libzt) ∧
    (∀ before action after a fd, history = before ++ action :: after → action.ActsOn a fd →
      Given before a fd) ∧
    (∀ first second third a b fd,
      history = first ++ .release a fd :: second ++ .release b fd :: third →
        .grant b fd ∈ second) := by
  have hreach : Reaches descriptorTable opened steps t := h.of_recording
  obtain ⟨-, hrun⟩ := ownership_run h
  refine ⟨?_, ?_, ?_, ?_⟩
  · intro p q x y hp hq hx hxy
    exact hreach.place_unique hp hq (Impl.isOpen_iff.mpr hx) hxy
  · intro p x hp hx
    exact hreach.live hp (Impl.isOpen_iff.mpr hx)
  · intro before action after a fd hsplit hacts
    exact given_of_actsOn hrun hsplit hacts
  · intro first second third a b fd hsplit
    exact grant_between_releases hrun hsplit

end

end

def reuse : List (Op × ((c : Call) → c.Reply)) :=
  [(.construct 0, Call.answer 0),
    (.call 0 (.init .internetProtocolIPv4 .stream), Call.answer 3),
    (.call 0 .close, Call.answer 0),
    (.construct 1, Call.answer 0),
    (.call 1 (.init .internetProtocolIPv6 .datagram), Call.answer 3),
    (.moveAssign 0 1, Call.answer 0),
    (.destroy 0, Call.answer 0)]

theorem descriptor_isolation_reuse :
    ∃ steps t history,
      (histories descriptorTable).Run (⟨.start, ∅⟩, []) steps (t, history) ∧
      eventsOf steps = [⟨.ztsSocket 2 1 2, ⟨3, 0⟩⟩, ⟨.ztsClose 3, ⟨0, 0⟩⟩,
        ⟨.ztsSocket 10 2 10, ⟨3, 0⟩⟩, ⟨.ztsClose 3, ⟨0, 0⟩⟩] ∧
      ∀ first second third a b,
        history = first ++ .release a 3 :: second ++ .release b 3 :: third →
          .grant b 3 ∈ second := by
  have hplay : (World.start.play reuse).map (fun r ↦ eventsOf r.1) =
      some [⟨.ztsSocket 2 1 2, ⟨3, 0⟩⟩, ⟨.ztsClose 3, ⟨0, 0⟩⟩,
        ⟨.ztsSocket 10 2 10, ⟨3, 0⟩⟩, ⟨.ztsClose 3, ⟨0, 0⟩⟩] := rfl
  have hadmits : descriptorTable.AdmitsAll ∅ [⟨.ztsSocket 2 1 2, ⟨3, 0⟩⟩, ⟨.ztsClose 3, ⟨0, 0⟩⟩,
      ⟨.ztsSocket 10 2 10, ⟨3, 0⟩⟩, ⟨.ztsClose 3, ⟨0, 0⟩⟩] := by
    simp [descriptorTable, Call.descriptorUse, Call.status]
  obtain ⟨steps, t, -, hevents, hrun⟩ := exists_run_of_play hplay hadmits
  obtain ⟨history, hhistory⟩ := hrun.recorded (fun s l ↦ s.world.actions l) []
  refine ⟨steps, _, history, hhistory, hevents, ?_⟩
  intro first second third a b
  exact (descriptor_isolation hhistory).2.2.2 first second third a b 3

end Ztcpp
