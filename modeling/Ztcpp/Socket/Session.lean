import Ztcpp.Library.LabelledSystem
import Ztcpp.Socket.World

/-!
# Runs of a program against libzt

A session is the state of the program's Sockets together with the state of
libzt.  Each step is one operation, with the calls it made and the replies
that libzt, as described by a `Service`, was free to give.
-/

namespace Ztcpp

open Interaction

structure Step where
  op : Op
  events : List ZtsEvent
  outcome : Outcome

structure Session (σ : Type) where
  world : World
  libzt : σ

def eventsOf (steps : List Step) : List ZtsEvent := steps.flatMap Step.events

@[simp] theorem eventsOf_nil : eventsOf [] = [] := rfl

@[simp] theorem eventsOf_snoc (steps : List Step) (l : Step) :
    eventsOf (steps ++ [l]) = eventsOf steps ++ l.events := by simp [eventsOf]

variable [Platform] {σ τ : Type}

/-- The program's steps against the service `S`. -/
def sessions (S : Service Libzt σ) : LabelledSystem (Session σ) Step where
  Step s l t :=
    (s.world.exec l.op).Runs l.events (l.outcome, t.world) ∧
      S.AdmitsAll s.libzt l.events ∧ t.libzt = S.after s.libzt l.events

/-- `Reaches S s₀ steps t`: a run that starts without any Socket. -/
def Reaches (S : Service Libzt σ) (s₀ : σ) (steps : List Step) (t : Session σ) : Prop :=
  (sessions S).Run ⟨.start, s₀⟩ steps t

theorem sessions_effect {S : Service Libzt σ} {s t : Session σ} {l : Step}
    (h : (sessions S).Step s l t) : s.world.Effect l.op l.events t.world :=
  World.exec_effect h.1

/-- A run against a service is a run against every service it refines. -/
theorem sessions_simulates {S : Service Libzt σ} {T : Service Libzt τ} {view : σ → τ}
    (h : S.Refines T view) :
    (sessions S).Simulates (sessions T) id fun s t ↦
      t.world = s.world ∧ t.libzt = view s.libzt := by
  rintro s t l s' ⟨hworld, hlibzt⟩ ⟨hexec, hadmits, hafter⟩
  refine ⟨⟨s'.world, view s'.libzt⟩, ⟨?_, ?_, ?_⟩, rfl, rfl⟩
  · rw [hworld]
    exact hexec
  · rw [hlibzt]
    exact h.admitsAll hadmits
  · rw [hlibzt, hafter]
    exact h.after hadmits

theorem Reaches.refines {S : Service Libzt σ} {T : Service Libzt τ} {view : σ → τ}
    (h : S.Refines T view) {s₀ : σ} {steps : List Step} {t : Session σ}
    (hrun : Reaches S s₀ steps t) : Reaches T (view s₀) steps ⟨t.world, view t.libzt⟩ := by
  obtain ⟨⟨world, libzt⟩, hrun', rfl, rfl⟩ :=
    (sessions_simulates h).run (t := ⟨.start, view s₀⟩) ⟨rfl, rfl⟩ hrun
  rwa [List.map_id] at hrun'

theorem Reaches.libzt_eq {S : Service Libzt σ} {s₀ : σ} {steps : List Step} {t : Session σ}
    (hrun : Reaches S s₀ steps t) : t.libzt = S.after s₀ (eventsOf steps) := by
  refine LabelledSystem.Run.invariant (fun steps t ↦ t.libzt = S.after s₀ (eventsOf steps))
    hrun rfl ?_
  rintro steps s l t - ih ⟨-, -, hafter⟩
  rw [hafter, ih, eventsOf_snoc, Service.after_append]

theorem step_of_follow {S : Service Libzt σ} {w w' : World} {s : σ} {op : Op}
    {answer : (c : Call) → c.Reply} {es : List ZtsEvent} {o : Outcome}
    (h : (w.exec op).follow answer = some (es, o, w')) (hs : S.AdmitsAll s es) :
    (sessions S).Step ⟨w, s⟩ ⟨op, es, o⟩ ⟨w', S.after s es⟩ :=
  ⟨Prog.runs_of_follow h, hs, rfl⟩

/-- Run operations in turn, each with the replies given for it. -/
def World.play (w : World) : List (Op × ((c : Call) → c.Reply)) → Option (List Step × World)
  | [] => some ([], w)
  | (op, answer) :: script => do
      let (es, o, w') ← (w.exec op).follow answer
      let (steps, t) ← w'.play script
      return (⟨op, es, o⟩ :: steps, t)

/-- What `play` computes is a run, if libzt may give these replies. -/
theorem run_of_play {S : Service Libzt σ} {script : List (Op × ((c : Call) → c.Reply))}
    {w t : World} {steps : List Step} {s : σ} (h : w.play script = some (steps, t))
    (hs : S.AdmitsAll s (eventsOf steps)) :
    (sessions S).Run ⟨w, s⟩ steps ⟨t, S.after s (eventsOf steps)⟩ := by
  induction script generalizing w steps s with
  | nil =>
      cases h
      exact .nil
  | cons entry script ih =>
      obtain ⟨⟨es, o, w'⟩, hexec, h⟩ := Option.bind_eq_some_iff.mp h
      obtain ⟨⟨rest, t'⟩, hrest, h⟩ := Option.bind_eq_some_iff.mp h
      cases h
      have hsplit : eventsOf (⟨entry.1, es, o⟩ :: rest) = es ++ eventsOf rest := by
        simp [eventsOf]
      rw [hsplit, Service.admitsAll_append] at hs
      rw [hsplit, Service.after_append]
      exact LabelledSystem.run_cons_iff.mpr ⟨_, step_of_follow hexec hs.1, ih hrest hs.2⟩

theorem exists_run_of_play {S : Service Libzt σ} {script : List (Op × ((c : Call) → c.Reply))}
    {w : World} {s : σ} {events : List ZtsEvent}
    (h : (w.play script).map (fun r ↦ eventsOf r.1) = some events) (hs : S.AdmitsAll s events) :
    ∃ steps t, w.play script = some (steps, t) ∧ eventsOf steps = events ∧
      (sessions S).Run ⟨w, s⟩ steps ⟨t, S.after s events⟩ := by
  obtain ⟨⟨steps, t⟩, hplay, rfl⟩ := Option.map_eq_some_iff.mp h
  exact ⟨steps, t, hplay, rfl, run_of_play hplay hs⟩

/-- One Socket, constructed at place 0 and opened on `fd`. -/
def World.opened (d : SocketDomain) (t : SocketType) (fd : ℤ) : World :=
  (start.emplace 0 Impl.fresh).setImpl 0 ⟨0, Impl.fresh⟩ ⟨d, t, fd⟩

/-- The call that `init` makes on a fresh Socket. -/
def openingCall (d : SocketDomain) (t : SocketType) : Call :=
  .ztsSocket (Impl.getZTAddressFamily ⟨d, t, ztsErrSocket⟩)
    (Impl.getZTSocketType ⟨d, t, ztsErrSocket⟩) (Impl.getZTProtocolFamily ⟨d, t, ztsErrSocket⟩)

theorem runs_opening {d : SocketDomain} {t : SocketType} (hv : Method.ValidInit d t) (fd : ℤ) :
    ((World.start.emplace 0 Impl.fresh).exec (.call 0 (.init d t))).Runs
      [⟨openingCall d t, (⟨fd, 0⟩ : Status)⟩]
      (.empty (Impl.initResult ⟨fd, 0⟩), .opened d t fd) := by
  rcases hv with ⟨rfl | rfl, rfl | rfl | rfl⟩
  all_goals exact ⟨⟨fd, 0⟩, [], rfl, rfl, rfl⟩

theorem opened_reached (S : Service Libzt σ) {s : σ} {d : SocketDomain} {t : SocketType} {fd : ℤ}
    (hv : Method.ValidInit d t) (hs : S.Admits s (openingCall d t) (⟨fd, 0⟩ : Status)) :
    ∃ steps, Reaches S s steps
      ⟨.opened d t fd, S.next s (openingCall d t) (⟨fd, 0⟩ : Status)⟩ := by
  have hconstruct : (sessions S).Step ⟨.start, s⟩ ⟨.construct 0, [], .done⟩
      ⟨World.start.emplace 0 Impl.fresh, s⟩ := ⟨⟨rfl, rfl⟩, trivial, rfl⟩
  have hinit : (sessions S).Step ⟨World.start.emplace 0 Impl.fresh, s⟩
      ⟨.call 0 (.init d t), [⟨openingCall d t, (⟨fd, 0⟩ : Status)⟩],
        .empty (Impl.initResult ⟨fd, 0⟩)⟩
      ⟨.opened d t fd, S.next s (openingCall d t) (⟨fd, 0⟩ : Status)⟩ :=
    ⟨runs_opening hv fd, ⟨hs, trivial⟩, rfl⟩
  exact ⟨_, .snoc (.snoc .nil hconstruct) hinit⟩

/-! ## libzt's table of open descriptors -/

def withDescriptor (opened : Set ℤ) (res : ℤ) : Set ℤ :=
  if 0 ≤ res then insert res opened else opened

/-- A new descriptor is one that is not open; a closed one may come again.
`zts_close` ends the descriptor's life whatever it returns. -/
def descriptorTable : Service Libzt (Set ℤ) where
  Admits opened c r :=
    match c.descriptorUse with
    | .opens | .accepts _ => 0 ≤ (c.status r).res → (c.status r).res ∉ opened
    | _ => True
  next opened c r :=
    match c.descriptorUse with
    | .opens | .accepts _ => withDescriptor opened (c.status r).res
    | .closes fd => opened \ {fd}
    | _ => opened

omit [Platform] in
@[simp] theorem withDescriptor_of_neg {opened : Set ℤ} {res : ℤ} (h : res < 0) :
    withDescriptor opened res = opened := if_neg (not_le.mpr h)

omit [Platform] in
@[simp] theorem withDescriptor_of_nonneg {opened : Set ℤ} {res : ℤ} (h : 0 ≤ res) :
    withDescriptor opened res = insert res opened := if_pos h

/-! ## Tables with an entry for each open descriptor -/

section

variable {α : Type}

def withEntry (table : ℤ → Option α) (res : ℤ) (entry : Option α) : ℤ → Option α :=
  if 0 ≤ res then Function.update table res entry else table

def recorded (table : ℤ → Option α) : Set ℤ := {fd | table fd ≠ none}

omit [Platform] in
theorem withEntry_of_neg {table : ℤ → Option α} {res : ℤ} {entry : Option α} (h : res < 0) :
    withEntry table res entry = table := if_neg (not_le.mpr h)

omit [Platform] in
theorem withEntry_of_ne {table : ℤ → Option α} {res fd : ℤ} {entry : Option α} (h : fd ≠ res) :
    withEntry table res entry fd = table fd := by
  unfold withEntry
  split_ifs
  · exact Function.update_of_ne h entry table
  · rfl

omit [Platform] in
theorem recorded_withEntry {table : ℤ → Option α} {res : ℤ} {entry : Option α}
    (h : 0 ≤ res → entry ≠ none) :
    recorded (withEntry table res entry) = withDescriptor (recorded table) res := by
  unfold withEntry
  split_ifs with hres
  · rw [withDescriptor_of_nonneg hres]
    ext x
    by_cases hx : x = res
    · subst hx
      simp [recorded, h hres]
    · simp [recorded, hx]
  · rw [withDescriptor_of_neg (not_le.mp hres)]

omit [Platform] in
theorem recorded_update_none (table : ℤ → Option α) (fd : ℤ) :
    recorded (Function.update table fd none) = recorded table \ {fd} := by
  ext x
  by_cases hx : x = fd
  · subst hx
    simp [recorded]
  · simp [recorded, hx]

end

end Ztcpp
