import Ztcpp.Socket.Isolation

/-!
# Descriptor leaks

`init` on a Socket that is open overwrites the descriptor without closing it.
This is the only way to lose one: in a run without such a step every descriptor
that libzt handed out and that was not closed is held by a live Socket.
-/

namespace Ztcpp

open Interaction Ownership

/-- Every descriptor that is open is held by a live Socket; so none is open
when every Socket has been closed or destroyed. -/
def NoLeak (s : Session (Set ℤ)) : Prop :=
  (∀ fd ∈ s.libzt, ∃ p x, s.world.object? p = some x ∧ x.impl.isOpen ∧ x.impl.socketID = fd) ∧
    ((∀ p x, s.world.object? p = some x → ¬ x.impl.isOpen) → s.libzt = ∅)

/-- `init`, with arguments that it does not reject, on a Socket that is open. -/
def World.Reinitializes (w : World) (op : Op) : Prop :=
  ∃ p d t x, op = .call p (.init d t) ∧ Method.ValidInit d t ∧ w.object? p = some x ∧
    x.impl.isOpen

theorem noLeak_iff {s : Session (Set ℤ)} : NoLeak s ↔ NoneLost s.ownership := by
  constructor
  · intro h fd hfd
    obtain ⟨p, x, hp, hopen, rfl⟩ := h.1 fd hfd
    exact ⟨x.address, World.mem_held hp hopen⟩
  · intro h
    have hheld : ∀ fd ∈ s.libzt,
        ∃ p x, s.world.object? p = some x ∧ x.impl.isOpen ∧ x.impl.socketID = fd := by
      intro fd hfd
      obtain ⟨a, impl, ⟨p, hp⟩, hnonneg, rfl⟩ := h fd hfd
      exact ⟨p, ⟨a, impl⟩, hp, Impl.isOpen_iff.mpr hnonneg, rfl⟩
    refine ⟨hheld, fun hclosed ↦ ?_⟩
    apply Set.eq_empty_iff_forall_notMem.mpr
    intro fd hfd
    obtain ⟨p, x, hp, hopen, -⟩ := hheld fd hfd
    exact hclosed p x hp hopen

section

variable {s t : State ℕ ℤ} {a : ℕ} {fd res : ℤ} {history : List (Act ℕ ℤ)}

theorem eq_of_run_usedBy (h : system.Run s (usedBy a fd) t) : t = s := by
  unfold usedBy at h
  split_ifs at h
  · cases LabelledSystem.run_singleton_iff.mp h with
    | use => rfl
  · exact LabelledSystem.run_nil_iff.mp h

theorem noneLost_obtainedBy_iff (hsound : Sound history s) (hs : NoneLost s)
    (h : system.Run s (obtainedBy a res) t) : NoneLost t ↔ s.held a = ∅ := by
  unfold obtainedBy at h
  split_ifs at h
  · exact hsound.noneLost_step_iff hs (LabelledSystem.run_singleton_iff.mp h)
  · exact hsound.noneLost_step_iff hs (LabelledSystem.run_singleton_iff.mp h)

end

namespace World

variable {w w' : World} {op : Op} {es : List ZtsEvent} {o : Outcome}

theorem actions_call {p : ℕ} {m : Method} {object : Object} (hp : w.object? p = some object) :
    w.actions ⟨.call p m, es, o⟩ =
      es.flatMap (ZtsEvent.actions object.address object.address) := by
  simp [actions, participants, hp]

inductive ActionsShape (w : World) : Op → List (Act ℕ ℤ) → Prop where
  | nothing (op : Op) : ActionsShape w op []
  | used (op : Op) (a : ℕ) (fd : ℤ) : ActionsShape w op (usedBy a fd)
  | released (op : Op) (a : ℕ) (fd : ℤ) : ActionsShape w op [.release a fd]
  | accepted (op : Op) (a : ℕ) (fd res : ℤ) :
      ActionsShape w op (usedBy a fd ++ obtainedBy w.allocated res)
  | initialized (p : ℕ) (d : SocketDomain) (t : SocketType) (object : Object) (res : ℤ)
      (hv : Method.ValidInit d t) (hp : w.object? p = some object) :
      ActionsShape w (.call p (.init d t)) (obtainedBy object.address res)

theorem actions_deletes {object : Option Object} (h : Deletes object es) :
    ActionsShape w op (match object.map fun x ↦ (x.address, x.address) with
      | some (actor, keeper) => es.flatMap (ZtsEvent.actions actor keeper)
      | none => []) := by
  cases h with
  | none => exact .nothing op
  | notOpen object hopen => exact .nothing op
  | closes object hopen reply => exact .released op object.address object.impl.socketID

theorem actionsShape_of_effect [Platform] (h : w.Effect op es w') :
    ActionsShape w op (w.actions ⟨op, es, o⟩) := by
  cases h with
  | constructed p hfree => exact .nothing _
  | called p m object es impl hp hm =>
      rw [actions_call hp]
      cases hm with
      | opens d t reply hv =>
          have hshape := ActionsShape.initialized p d t object reply.res hv hp
          simpa [ZtsEvent.actions, Call.descriptorUse, ZtsEvent.res, Call.status] using hshape
      | closes reply hopen => exact .released _ object.address object.impl.socketID
      | uses m e he =>
          have hshape := ActionsShape.used (w := w) (.call p m) object.address object.impl.socketID
          simpa [ZtsEvent.actions, he] using hshape
      | quiet m => exact .nothing _
  | refused p r object reply hp hfree herror | accepted p r object reply hp hfree herror =>
      have hshape := ActionsShape.accepted (w := w) (.accept p r) object.address
        object.impl.socketID reply.res
      simpa [actions, participants, hp, ZtsEvent.actions, Call.descriptorUse, ZtsEvent.res,
        Call.status] using hshape
  | moved p q s hq hfree => exact .nothing _
  | assigned p q s es hq hp hdelete => exact actions_deletes hdelete
  | destroyed p s es hp hdelete =>
      have hps : w.object? p = s.impl := by simp [object?, hp]
      rw [← hps] at hdelete
      exact actions_deletes hdelete

end World

section

variable [Platform] {s t : Session (Set ℤ)} {l : Step} {history : List (Act ℕ ℤ)}

theorem NoLeak.step (hw : s.world.Owned) (hsound : Sound history s.ownership)
    (hs : NoLeak s) (h : (sessions descriptorTable).Step s l t)
    (hl : ¬ s.world.Reinitializes l.op) : NoLeak t := by
  rw [noLeak_iff] at hs ⊢
  have hrun := ownership_step hw h
  have hshape := World.actionsShape_of_effect (o := l.outcome) (sessions_effect h)
  change World.ActionsShape s.world l.op (s.world.actions l) at hshape
  generalize s.world.actions l = actions at hrun hshape
  generalize hop : l.op = op at hshape
  cases hshape with
  | nothing =>
      rw [LabelledSystem.run_nil_iff.mp hrun]
      exact hs
  | used op a fd =>
      rw [eq_of_run_usedBy hrun]
      exact hs
  | released op a fd =>
      have hstep := LabelledSystem.run_singleton_iff.mp hrun
      exact (hsound.noneLost_step_iff hs hstep).mpr trivial
  | accepted op a fd res =>
      obtain ⟨u, hused, hobtained⟩ := LabelledSystem.run_append_iff.mp hrun
      obtain rfl := eq_of_run_usedBy hused
      apply (noneLost_obtainedBy_iff hsound hs hobtained).mpr
      simp [Session.ownership, World.held, hw.heap_allocated]
  | initialized p d t object res hv hp =>
      apply (noneLost_obtainedBy_iff hsound hs hrun).mpr
      have hopen : ¬ object.impl.isOpen := fun hopen ↦ hl ⟨p, d, t, object, hop, hv, hp, hopen⟩
      simp [Session.ownership, World.held, hw.heap_of_object hp,
        World.descriptor_of_not_isOpen hopen]

theorem not_noLeak_of_reinitializes (hw : s.world.Owned) (hsound : Sound history s.ownership)
    (hs : NoLeak s) (h : (sessions descriptorTable).Step s l t)
    (hl : s.world.Reinitializes l.op) : ¬ NoLeak t := by
  obtain ⟨p, d, type, object, hop, hv, hp, hopen⟩ := hl
  rw [noLeak_iff] at hs ⊢
  have hrun := ownership_step hw h
  have hexec := h.1
  rw [hop] at hexec
  obtain ⟨impl, hm, -⟩ := World.runs_call_of_object hp hexec
  obtain ⟨r, hinit, -⟩ := Method.runs_returning.mp hm
  rcases Impl.runs_init hinit with ⟨hinvalid, -⟩ | ⟨-, reply, hevents, -, -⟩
  · exact absurd hv hinvalid
  · have hactions : s.world.actions l = obtainedBy object.address reply.res := by
      have hsplit : l = ⟨.call p (.init d type), l.events, l.outcome⟩ := by rw [← hop]
      rw [hsplit, World.actions_call hp, hevents]
      simp [ZtsEvent.actions, Call.descriptorUse, ZtsEvent.res, Call.status]
    rw [hactions] at hrun
    intro ht
    have hempty := (noneLost_obtainedBy_iff hsound hs hrun).mp ht
    have hheld := World.mem_held hp hopen
    rw [show s.world.held object.address = ∅ from hempty] at hheld
    exact hheld

omit [Platform] in
theorem noLeak_start : NoLeak ⟨.start, ∅⟩ :=
  ⟨fun _ hfd ↦ hfd.elim, fun _ ↦ rfl⟩

/-- No state of a run leaks a descriptor if and only if no step of the run is
an `init` on an open Socket. -/
theorem noLeak_throughout_iff {steps : List Step}
    (h : Reaches descriptorTable ∅ steps t) :
    (∀ u, (sessions descriptorTable).Visits ⟨.start, ∅⟩ steps t u → NoLeak u) ↔
      ∀ u l, (sessions descriptorTable).Takes ⟨.start, ∅⟩ steps t u l →
        ¬ u.world.Reinitializes l.op := by
  refine LabelledSystem.Run.forall_visits_iff h noLeak_start ?_
  intro steps u l v hreach hu hl
  have hw := Reaches.owned hreach
  obtain ⟨history, hsound⟩ := Reaches.sound hreach
  constructor
  · intro hv hreinit
    exact not_noLeak_of_reinitializes hw hsound hu hl hreinit hv
  · intro hcondition
    exact hu.step hw hsound hl hcondition

end

def initTwice : List (Op × ((c : Call) → c.Reply)) :=
  [(.construct 0, Call.answer 0),
    (.call 0 (.init .internetProtocolIPv4 .stream), Call.answer 3),
    (.call 0 (.init .internetProtocolIPv4 .stream), Call.answer 4),
    (.destroy 0, Call.answer 0)]

/-- No Socket is left, and descriptor 3 was never passed to `zts_close`. -/
theorem initTwice_run :
    ∃ steps t, Reaches descriptorTable ∅ steps t ∧
      eventsOf steps = [⟨.ztsSocket 2 1 2, ⟨3, 0⟩⟩, ⟨.ztsSocket 2 1 2, ⟨4, 0⟩⟩,
        ⟨.ztsClose 4, ⟨0, 0⟩⟩] ∧
      (∀ p, t.world.sockets p = none) ∧ 3 ∈ t.libzt ∧ ¬ NoLeak t := by
  have hplay : (World.start.play initTwice).map (fun r ↦ eventsOf r.1) =
      some [⟨.ztsSocket 2 1 2, ⟨3, 0⟩⟩, ⟨.ztsSocket 2 1 2, ⟨4, 0⟩⟩,
        ⟨.ztsClose 4, ⟨0, 0⟩⟩] := rfl
  have hadmits : descriptorTable.AdmitsAll ∅ [⟨.ztsSocket 2 1 2, ⟨3, 0⟩⟩,
      ⟨.ztsSocket 2 1 2, ⟨4, 0⟩⟩, ⟨.ztsClose 4, ⟨0, 0⟩⟩] := by
    simp [descriptorTable, Call.descriptorUse, Call.status]
  obtain ⟨steps, t, ht, hevents, hrun⟩ := exists_run_of_play hplay hadmits
  have hempty : ∀ p, t.sockets p = none := by
    intro p
    cases ht
    by_cases hp : p = 0
    · subst hp
      rfl
    · simp [World.set, World.setImpl, World.emplace, World.start]
  have hleft : 3 ∈ descriptorTable.after ∅ [⟨.ztsSocket 2 1 2, ⟨3, 0⟩⟩,
      ⟨.ztsSocket 2 1 2, ⟨4, 0⟩⟩, ⟨.ztsClose 4, ⟨0, 0⟩⟩] := by
    simp [descriptorTable, Call.descriptorUse, Call.status]
  refine ⟨steps, _, hrun, hevents, hempty, hleft, ?_⟩
  rintro ⟨hheld, -⟩
  obtain ⟨p, x, hp, -⟩ := hheld 3 hleft
  simp [World.object?, hempty] at hp

theorem init_twice_leaks : ¬ ∀ steps t, Reaches descriptorTable ∅ steps t → NoLeak t := by
  intro h
  obtain ⟨steps, t, hrun, -, -, -, hleak⟩ := initTwice_run
  exact hleak (h steps t hrun)

theorem initTwice_reinitializes :
    ∃ steps t u l, Reaches descriptorTable ∅ steps t ∧
      (sessions descriptorTable).Takes ⟨.start, ∅⟩ steps t u l ∧
      u.world.Reinitializes l.op := by
  obtain ⟨steps, t, hrun, -, -, -, hleak⟩ := initTwice_run
  by_contra hnone
  have hcondition : ∀ u l, (sessions descriptorTable).Takes ⟨.start, ∅⟩ steps t u l →
      ¬ u.world.Reinitializes l.op := by
    intro u l htakes hreinit
    exact hnone ⟨steps, t, u, l, hrun, htakes, hreinit⟩
  have hvisits := (noLeak_throughout_iff hrun).mpr hcondition t
  exact hleak (hvisits ⟨steps, [], by simp, hrun, .nil⟩)

end Ztcpp
