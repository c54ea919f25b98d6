import Mathlib.Data.List.Perm.Basic
import Ztcpp.Events.Delivery

/-!
# The data of event handlers

The callbacks of a handler read the handler's own data and write them back at a
later step.  Threads may deliver events at the same time and set handlers in
between, a callback may call the library at any moment, and nothing but the
mutex of the library keeps the callbacks apart.  The mutex is recursive: a
callback that delivers an event to its own handler between its read and its
write loses the update of the inner callback.  Apart from this no update is
lost, and the data are what the callbacks compute one after another.
-/

namespace Ztcpp

open RecursiveMutex

namespace EventHandling

/-- What a callback can read: its arguments, the payloads that its details
point to, and what its uninitialised locals hold. -/
structure Delivered where
  callback : Callback
  addrs : AddrMemory
  stack : IpAddress

/-- How far a callback is with its handler's data. -/
inductive Phase (S : Type) where
  | begun
  | loaded (v : S)
  | stored

/-- A callback in progress. -/
structure Busy (H S : Type) where
  handler : H
  delivered : Delivered
  phase : Phase S

namespace Busy

variable {H S : Type}

def running (b : Busy H S) : Running H := ⟨b.handler, b.delivered.callback⟩

/-- The data that the callback has read and not written yet. -/
def loaded? (b : Busy H S) : Option S :=
  match b.phase with
  | .loaded v => some v
  | _ => none

def hasStored (b : Busy H S) : Bool :=
  match b.phase with
  | .stored => true
  | _ => false

end Busy

structure Worker (H S : Type) where
  /-- The callbacks in progress, the innermost first. -/
  callbacks : List (Busy H S)
  frame : Frame H

/-- The thread of the library that a worker is. -/
def Worker.thread {H S : Type} (l : Worker H S) : Thread H :=
  ⟨l.callbacks.map Busy.running, l.frame⟩

structure SharedData (H S : Type) where
  g_eventHandler : Option H
  states : H → S

inductive DataAction (H S : Type) where
  | library (a : EventAction H)
  | beginCallback (p : H) (d : Delivered)
  | load (p : H) (v : S)
  | store (p : H) (d : Delivered) (v : S)

/-- The steps of a thread whose callbacks compute `update`.  Each callback reads
the data once and writes them once; before, between and after it may call the
library. -/
inductive WorkerLocal [Platform] {H S : Type} (update : H → Delivered → S → S) :
    Worker H S → Act (DataAction H S) → Worker H S → Prop where
  | acquire (cs : List (Busy H S)) (f f' : Frame H)
      (h : Local ⟨cs.map Busy.running, f⟩ .acquire ⟨cs.map Busy.running, f'⟩) :
      WorkerLocal update ⟨cs, f⟩ .acquire ⟨cs, f'⟩
  | release (cs : List (Busy H S)) (f f' : Frame H)
      (h : Local ⟨cs.map Busy.running, f⟩ .release ⟨cs.map Busy.running, f'⟩) :
      WorkerLocal update ⟨cs, f⟩ .release ⟨cs, f'⟩
  | library (cs : List (Busy H S)) (f f' : Frame H) (a : EventAction H)
      (h : Local ⟨cs.map Busy.running, f⟩ (.other a) ⟨cs.map Busy.running, f'⟩) :
      WorkerLocal update ⟨cs, f⟩ (.other (.library a)) ⟨cs, f'⟩
  | beginCallback (cs : List (Busy H S)) (data : EventMessage) (eventHandler : H)
      (memory : AddrMemory) (d : Delivered)
      (h : dispatch memory data = some (d.callback, d.addrs)) :
      WorkerLocal update ⟨cs, .eventDispatch data (some eventHandler)⟩
        (.other (.beginCallback eventHandler d)) ⟨⟨eventHandler, d, .begun⟩ :: cs, .program⟩
  | load (cs : List (Busy H S)) (p : H) (d : Delivered) (v : S) :
      WorkerLocal update ⟨⟨p, d, .begun⟩ :: cs, .program⟩ (.other (.load p v))
        ⟨⟨p, d, .loaded v⟩ :: cs, .program⟩
  | store (cs : List (Busy H S)) (p : H) (d : Delivered) (v : S) :
      WorkerLocal update ⟨⟨p, d, .loaded v⟩ :: cs, .program⟩
        (.other (.store p d (update p d v))) ⟨⟨p, d, .stored⟩ :: cs, .program⟩
  | endCallback (cs : List (Busy H S)) (p : H) (d : Delivered) :
      WorkerLocal update ⟨⟨p, d, .stored⟩ :: cs, .program⟩
        (.other (.library (.endCallback p))) ⟨cs, .eventUnlock⟩

/-- `EventHandling.Shared`, with the handlers' data beside the handler. -/
def DataShared {H S : Type} [DecidableEq H] :
    DataAction H S → SharedData H S → SharedData H S → Prop
  | .library a, g, g' => Shared a g.g_eventHandler g'.g_eventHandler ∧ g'.states = g.states
  | .beginCallback .., g, g' => g' = g
  | .load p v, g, g' => v = g.states p ∧ g' = g
  | .store p _ v, g, g' => g' = { g with states := Function.update g.states p v }

def workers [Platform] {H S : Type} [DecidableEq H] (update : H → Delivered → S → S) :
    Program (Worker H S) (SharedData H S) (DataAction H S) where
  Local := WorkerLocal update
  Shared := DataShared

abbrev WorkerState (T H S : Type) := RecursiveMutex.State T (Worker H S) (SharedData H S)

def startWorkers (T : Type) {H S : Type} (states : H → S) : WorkerState T H S :=
  ⟨.free, ⟨none, states⟩, fun _ ↦ ⟨[], .program⟩⟩

section

variable [Platform] {T H S : Type} [DecidableEq T] [DecidableEq H]
  {update : H → Delivered → S → S}

/-! ## Workers are threads of the library -/

abbrev WorkerLabel (T H S : Type) := T × Act (DataAction H S)

/-- What a step does in the library, if anything. -/
def WorkerLabel.library? : WorkerLabel T H S → Option (Label T H)
  | (t, .acquire) => some (t, .acquire)
  | (t, .release) => some (t, .release)
  | (t, .other (.library a)) => some (t, .other a)
  | (t, .other (.beginCallback p _)) => some (t, .other (.beginCallback p))
  | (_, .other (.load ..)) | (_, .other (.store ..)) => none

def WorkerState.library (s : WorkerState T H S) : State T H :=
  ⟨s.mutex, s.shared.g_eventHandler, fun t ↦ (s.threads t).thread⟩

theorem library_step {s s' : WorkerState T H S} {l : WorkerLabel T H S}
    (h : (workers update).system.Step s l s') :
    match l.library? with
    | some k => (system T H).Step s.library k s'.library
    | none => s'.library = s.library := by
  obtain ⟨t, action⟩ := l
  obtain ⟨next, hlocal, hthreads, heffect⟩ := h
  have hproject : s'.library.threads = Function.update s.library.threads t next.thread := by
    funext u
    simp only [WorkerState.library, hthreads]
    by_cases hu : u = t
    · rw [hu, Function.update_self, Function.update_self]
    · rw [Function.update_of_ne hu, Function.update_of_ne hu]
  have hself : s.library.threads t = (s.threads t).thread := rfl
  generalize s.threads t = th at hlocal hself
  cases hlocal with
  | acquire cs f f' h =>
      refine ⟨_, ?_, hproject, heffect.1, congrArg SharedData.g_eventHandler heffect.2⟩
      rw [hself]
      exact h
  | release cs f f' h =>
      refine ⟨_, ?_, hproject, heffect.1, congrArg SharedData.g_eventHandler heffect.2⟩
      rw [hself]
      exact h
  | library cs f f' a h =>
      refine ⟨_, ?_, hproject, heffect.1, heffect.2.1⟩
      rw [hself]
      exact h
  | beginCallback cs data eventHandler memory d h =>
      refine ⟨_, ?_, hproject, heffect.1, congrArg SharedData.g_eventHandler heffect.2⟩
      rw [hself]
      exact .beginCallback _ data eventHandler memory _ _ h
  | endCallback cs p d =>
      refine ⟨_, ?_, hproject, heffect.1, heffect.2.1⟩
      rw [hself]
      exact .endCallback _ _
  | load cs p d v =>
      have hsame : s'.library.threads = s.library.threads := by
        rw [hproject]
        exact (Function.update_eq_self_iff).mpr hself.symm
      simp only [WorkerState.library, State.mk.injEq] at hsame ⊢
      exact ⟨heffect.1, congrArg SharedData.g_eventHandler heffect.2.2, hsame⟩
  | store cs p d v =>
      have hsame : s'.library.threads = s.library.threads := by
        rw [hproject]
        exact (Function.update_eq_self_iff).mpr hself.symm
      simp only [WorkerState.library, State.mk.injEq] at hsame ⊢
      have hstored : s'.shared = { s.shared with
        states := Function.update s.shared.states p (update p d v) } := heffect.2
      have hhandler := congrArg SharedData.g_eventHandler hstored
      exact ⟨heffect.1, hhandler, hsame⟩

theorem library_run {states : H → S} {s : WorkerState T H S} {ls : List (WorkerLabel T H S)}
    (h : (workers update).system.Run (startWorkers T states) ls s) :
    Reaches (ls.filterMap WorkerLabel.library?) s.library := by
  refine h.invariant (fun ls (s : WorkerState T H S) ↦
    Reaches (ls.filterMap WorkerLabel.library?) s.library) .nil ?_
  intro ls s l s' _ ih hl
  have hstep := library_step hl
  rw [List.filterMap_append]
  cases hk : l.library? with
  | some k =>
      rw [hk] at hstep
      rw [List.filterMap_cons_some hk]
      exact ih.snoc hstep
  | none =>
      rw [hk] at hstep
      rw [List.filterMap_cons_none hk, List.filterMap_nil, List.append_nil, hstep]
      exact ih

/-! ## No update is lost -/

/-- The callback on `p` that begins in this step. -/
def begun? (p : H) : WorkerLabel T H S → Option Delivered
  | (_, .other (.beginCallback q d)) => if q = p then some d else none
  | _ => none

def stored? (p : H) : WorkerLabel T H S → Option Delivered
  | (_, .other (.store q d _)) => if q = p then some d else none
  | _ => none

/-- No callback on `p` begins inside one on `p` that has read the data and not
written them. -/
def Undisturbed (p : H) (s : WorkerState T H S) : WorkerLabel T H S → Prop
  | (t, .other (.beginCallback q _)) =>
      q = p → ∀ b ∈ (s.threads t).callbacks, b.handler = p → b.loaded? = none
  | _ => True

/-- No callback begins inside another one. -/
def NotNested (s : WorkerState T H S) : WorkerLabel T H S → Prop
  | (t, .other (.beginCallback ..)) => (s.threads t).callbacks = []
  | _ => True

variable {states : H → S} {s s' : WorkerState T H S} {ls : List (WorkerLabel T H S)}
  {l : WorkerLabel T H S} {p : H}

abbrev WorkersReach (update : H → Delivered → S → S) (states : H → S)
    (ls : List (WorkerLabel T H S)) (s : WorkerState T H S) : Prop :=
  (workers update).system.Run (startWorkers T states) ls s

/-- The same with steps that all meet a condition. -/
abbrev WorkersReachBy (C : WorkerState T H S → WorkerLabel T H S → Prop)
    (update : H → Delivered → S → S) (states : H → S) (ls : List (WorkerLabel T H S))
    (s : WorkerState T H S) : Prop :=
  ((workers update).system.restrict C).Run (startWorkers T states) ls s

theorem WorkersReach.callbacks_exclusive (h : WorkersReach update states ls s) {t u : T}
    (ht : (s.threads t).callbacks ≠ []) (hne : u ≠ t) : (s.threads u).callbacks = [] := by
  by_contra hu
  refine hne ((library_run h).callbacks_exclusive (a := u) (b := t) ?_ ?_)
  · exact fun hnil ↦ hu (List.map_eq_nil_iff.mp hnil)
  · refine Nat.add_pos_left (List.length_pos_iff.mpr ?_) _
    exact fun hnil ↦ ht (List.map_eq_nil_iff.mp hnil)

/-- The callbacks on `p` that have read the data have read what is there, and no
callback on `p` is in progress inside such a one. -/
structure UpToDate (p : H) (s : WorkerState T H S) : Prop where
  current : ∀ t, ∀ b ∈ (s.threads t).callbacks, b.handler = p →
    ∀ v, b.loaded? = some v → s.shared.states p = v
  nested : ∀ t, (s.threads t).callbacks.Pairwise fun inner outer ↦
    inner.handler = p → outer.handler = p → outer.loaded? = none

/-- Only a callback in progress changes the data. -/
theorem states_eq_or_busy {t : T} {a : Act (DataAction H S)}
    (hl : (workers update).system.Step s (t, a) s') (p : H) :
    s'.shared.states p = s.shared.states p ∨ (s.threads t).callbacks ≠ [] := by
  obtain ⟨next, hlocal, -, heffect⟩ := hl
  generalize s.threads t = th at hlocal
  cases hlocal with
  | acquire | release | beginCallback =>
      rw [show s'.shared = s.shared from heffect.2]
      exact .inl rfl
  | library => exact .inl (congrFun heffect.2.2 p)
  | load | store | endCallback => exact .inr (List.cons_ne_nil _ _)

theorem UpToDate.step (h : UpToDate p s) (hreach : WorkersReach update states ls s)
    (hl : (workers update).system.Step s l s') (hundisturbed : Undisturbed p s l) :
    UpToDate p s' := by
  obtain ⟨t, action⟩ := l
  have hchanges := states_eq_or_busy hl p
  have hcalm : ∀ q d, action = .other (.beginCallback q d) → q = p →
      ∀ b ∈ (s.threads t).callbacks, b.handler = p → b.loaded? = none := by
    rintro q d rfl
    exact hundisturbed
  obtain ⟨next, hlocal, hthreads, heffect⟩ := hl
  have hown : (∀ b ∈ next.callbacks, b.handler = p → ∀ v, b.loaded? = some v →
      s'.shared.states p = v) ∧ next.callbacks.Pairwise fun inner outer ↦
        inner.handler = p → outer.handler = p → outer.loaded? = none := by
    have hcurrent := h.current t
    have hnested := h.nested t
    generalize s.threads t = th at hlocal hcurrent hnested hcalm
    cases hlocal with
    | acquire | release =>
        rw [show s'.shared = s.shared from heffect.2]
        exact ⟨hcurrent, hnested⟩
    | library =>
        rw [show s'.shared.states = s.shared.states from heffect.2.2]
        exact ⟨hcurrent, hnested⟩
    | beginCallback cs data q memory d hdispatch =>
        rw [show s'.shared = s.shared from heffect.2]
        refine ⟨List.forall_mem_cons.mpr ⟨fun _ v hv ↦ ?_, hcurrent⟩,
          List.pairwise_cons.mpr ⟨fun b hb hq ↦ hcalm q d rfl hq b hb, hnested⟩⟩
        cases hv
    | load cs q d v =>
        obtain ⟨hread, hsame⟩ : v = s.shared.states q ∧ s'.shared = s.shared := heffect.2
        rw [hsame]
        obtain ⟨hhead, htail⟩ := List.pairwise_cons.mp hnested
        refine ⟨List.forall_mem_cons.mpr ⟨?_, (List.forall_mem_cons.mp hcurrent).2⟩,
          List.pairwise_cons.mpr ⟨hhead, htail⟩⟩
        rintro rfl w ⟨⟩
        exact hread.symm
    | store cs q d v =>
        have hstates : s'.shared.states = Function.update s.shared.states q (update q d v) :=
          congrArg SharedData.states heffect.2
        obtain ⟨hhead, htail⟩ := List.pairwise_cons.mp hnested
        refine ⟨List.forall_mem_cons.mpr ⟨fun _ w hw ↦ ?_, fun b hb hbp w hw ↦ ?_⟩,
          List.pairwise_cons.mpr ⟨hhead, htail⟩⟩
        · cases hw
        · by_cases hq : q = p
          · -- the outer callbacks on `p` have not read
            rw [hhead b hb hq hbp] at hw
            cases hw
          · rw [hstates, Function.update_of_ne (Ne.symm hq)]
            exact hcurrent b (List.mem_cons_of_mem _ hb) hbp w hw
    | endCallback cs q d =>
        rw [show s'.shared.states = s.shared.states from heffect.2.2]
        exact ⟨(List.forall_mem_cons.mp hcurrent).2, (List.pairwise_cons.mp hnested).2⟩
  constructor
  · intro u b hb hbp v hv
    by_cases hu : u = t
    · subst hu
      rw [hthreads, Function.update_self] at hb
      exact hown.1 b hb hbp v hv
    · rw [hthreads, Function.update_of_ne hu] at hb
      rcases hchanges with hsame | hbusy
      · rw [hsame]
        exact h.current u b hb hbp v hv
      · rw [hreach.callbacks_exclusive hbusy hu] at hb
        exact absurd hb List.not_mem_nil
  · intro u
    by_cases hu : u = t
    · subst hu
      rw [hthreads, Function.update_self]
      exact hown.2
    · rw [hthreads, Function.update_of_ne hu]
      exact h.nested u

/-- What a callback overwrites is what it has read. -/
theorem states_step (h : UpToDate p s) (hl : (workers update).system.Step s l s') :
    s'.shared.states p =
      (stored? p l).toList.foldl (fun v d ↦ update p d v) (s.shared.states p) := by
  obtain ⟨t, action⟩ := l
  obtain ⟨next, hlocal, -, heffect⟩ := hl
  have hcurrent := h.current t
  generalize s.threads t = th at hlocal hcurrent
  cases hlocal with
  | acquire | release | beginCallback =>
      rw [show s'.shared = s.shared from heffect.2]
      rfl
  | load =>
      rw [show s'.shared = s.shared from heffect.2.2]
      rfl
  | library | endCallback => exact congrFun heffect.2.2 p
  | store cs q d v =>
      have hstored : s'.shared.states = Function.update s.shared.states q (update q d v) :=
        congrArg SharedData.states heffect.2
      rw [hstored]
      by_cases hq : q = p
      · subst hq
        have hread : s.shared.states q = v := hcurrent _ List.mem_cons_self rfl v rfl
        simp [stored?, hread]
      · rw [Function.update_of_ne (Ne.symm hq)]
        simp [stored?, hq]

theorem states_eq_foldl (h : WorkersReachBy (Undisturbed p) update states ls s) :
    s.shared.states p =
      (ls.filterMap (stored? p)).foldl (fun v d ↦ update p d v) (states p) := by
  have hinvariant := LabelledSystem.Run.invariant (fun ls (s : WorkerState T H S) ↦
    UpToDate p s ∧ s.shared.states p =
      (ls.filterMap (stored? p)).foldl (fun v d ↦ update p d v) (states p))
    h ⟨⟨by simp [startWorkers], by simp [startWorkers]⟩, rfl⟩ ?_
  · exact hinvariant.2
  · rintro ls s l s' hrun ⟨hup, hstates⟩ ⟨hl, hundisturbed⟩
    refine ⟨hup.step hrun.of_restrict hl hundisturbed, ?_⟩
    rw [states_step hup hl, hstates, LabelledSystem.filterMap_snoc,
      List.foldl_append]

/-! ## Every callback that began -/

/-- The callbacks on `p` in progress that have not written the data yet. -/
def Worker.pending (l : Worker H S) (p : H) : List Delivered :=
  (l.callbacks.filter fun b ↦ b.handler = p ∧ ¬ b.hasStored).map Busy.delivered

/-- `ds` are the callbacks on `p` that are pending on the one thread that has
callbacks in progress. -/
structure Pending (p : H) (s : WorkerState T H S) (ds : List Delivered) : Prop where
  busy : ∀ t, (s.threads t).callbacks ≠ [] → ds = (s.threads t).pending p
  idle : (∀ t, (s.threads t).callbacks = []) → ds = []

omit [Platform] in
theorem Worker.pending_of_nil {l : Worker H S} (h : l.callbacks = []) (p : H) :
    l.pending p = [] := by
  simp [Worker.pending, h]

omit [Platform] in
theorem Worker.pending_length_le (l : Worker H S) (p : H) :
    (l.pending p).length ≤ l.callbacks.length := by
  rw [Worker.pending, List.length_map]
  exact List.length_filter_le _ _

omit [DecidableEq T] in
/-- A step of a thread makes a callback on `p` pending, or completes the
innermost one that is, or leaves them as they are. -/
theorem pending_step {l l' : Worker H S} {a : Act (DataAction H S)}
    (h : WorkerLocal update l a l') (t : T) (p : H) :
    begun? p (t, a) = none ∧ stored? p (t, a) = none ∧ l'.pending p = l.pending p ∨
      (∃ d, begun? p (t, a) = some d ∧ stored? p (t, a) = none ∧
        l'.pending p = d :: l.pending p) ∨
      ∃ d, begun? p (t, a) = none ∧ stored? p (t, a) = some d ∧
        l.pending p = d :: l'.pending p := by
  cases h with
  | acquire | release | library => exact .inl ⟨rfl, rfl, rfl⟩
  | beginCallback cs data q memory d h =>
      by_cases hq : q = p
      · exact .inr (.inl ⟨d, by simp [begun?, stored?, Worker.pending, Busy.hasStored, hq]⟩)
      · exact .inl (by simp [begun?, stored?, Worker.pending, hq])
  | load cs q d v =>
      by_cases hq : q = p
      · exact .inl (by simp [begun?, stored?, Worker.pending, Busy.hasStored, hq])
      · exact .inl (by simp [begun?, stored?, Worker.pending, hq])
  | store cs q d v =>
      by_cases hq : q = p
      · exact .inr (.inr ⟨d, by simp [begun?, stored?, Worker.pending, Busy.hasStored, hq]⟩)
      · exact .inl (by simp [begun?, stored?, Worker.pending, hq])
  | endCallback cs q d => exact .inl (by simp [begun?, stored?, Worker.pending, Busy.hasStored])

/-- A step leaves the pending callbacks as they are, or they are those of its thread. -/
theorem Pending.step {t : T} {a : Act (DataAction H S)} {ds : List Delivered}
    (h : Pending p s ds) (hreach : WorkersReach update states ls s)
    (hl : (workers update).system.Step s (t, a) s') :
    ∃ ds', Pending p s' ds' ∧ (ds' = ds ∧ begun? p (t, a) = none ∧ stored? p (t, a) = none ∨
      ds = (s.threads t).pending p ∧ ds' = (s'.threads t).pending p) := by
  have hreach' : WorkersReach update states (ls ++ [(t, a)]) s' := hreach.snoc hl
  obtain ⟨next, hlocal, hthreads, -⟩ := hl
  have hnext : s'.threads t = next := by rw [hthreads, Function.update_self]
  have hsame : ∀ u, u ≠ t → s'.threads u = s.threads u := by
    intro u hu
    rw [hthreads, Function.update_of_ne hu]
  by_cases hquiet : (s.threads t).callbacks = [] ∧ next.callbacks = []
  · refine ⟨ds, ⟨fun u hu ↦ ?_, fun hidle ↦ h.idle fun u ↦ ?_⟩, .inl ⟨rfl, ?_⟩⟩
    · by_cases hut : u = t
      · subst hut
        rw [hnext] at hu
        exact absurd hquiet.2 hu
      · rw [hsame u hut] at hu ⊢
        exact h.busy u hu
    · by_cases hut : u = t
      · rw [hut]
        exact hquiet.1
      · rw [← hsame u hut]
        exact hidle u
    · generalize s.threads t = th at hlocal hquiet
      cases hlocal with
      | acquire | release | library => exact ⟨rfl, rfl⟩
      | beginCallback => exact absurd hquiet.2 (List.cons_ne_nil _ _)
      | load | store | endCallback => exact absurd hquiet.1 (List.cons_ne_nil _ _)
  · -- the thread had callbacks before the step or has one now, so that no other has
    have hothers : ∀ u, u ≠ t → (s.threads u).callbacks = [] := by
      intro u hu
      by_cases hbefore : (s.threads t).callbacks = []
      · have hafter : (s'.threads t).callbacks ≠ [] := by
          rw [hnext]
          exact fun hnil ↦ hquiet ⟨hbefore, hnil⟩
        rw [← hsame u hu]
        exact hreach'.callbacks_exclusive hafter hu
      · exact hreach.callbacks_exclusive hbefore hu
    refine ⟨_, ⟨fun u hu ↦ ?_, fun hidle ↦ ?_⟩, .inr ⟨?_, rfl⟩⟩
    · obtain rfl : u = t := by
        by_contra hut
        rw [hsame u hut] at hu
        exact hu (hothers u hut)
      rfl
    · exact Worker.pending_of_nil (hidle t) p
    · by_cases hbefore : (s.threads t).callbacks = []
      · rw [Worker.pending_of_nil hbefore]
        refine h.idle fun u ↦ ?_
        by_cases hut : u = t
        · rw [hut]
          exact hbefore
        · exact hothers u hut
      · exact h.busy t hbefore

/-- Each callback that began has written the data or is pending. -/
theorem begun_perm (h : WorkersReach update states ls s) (p : H) :
    ∃ ds, Pending p s ds ∧
      (ls.filterMap (begun? p)).Perm (ls.filterMap (stored? p) ++ ds) := by
  refine LabelledSystem.Run.invariant (fun ls (s : WorkerState T H S) ↦ ∃ ds, Pending p s ds ∧
    (ls.filterMap (begun? p)).Perm (ls.filterMap (stored? p) ++ ds)) h ?_ ?_
  · exact ⟨[], ⟨fun t ht ↦ absurd rfl ht, fun _ ↦ rfl⟩, .nil⟩
  · rintro ls s ⟨t, a⟩ s' hrun ⟨ds, hds, hperm⟩ hl
    obtain ⟨ds', hds', hcase⟩ := hds.step hrun hl
    refine ⟨ds', hds', ?_⟩
    rw [LabelledSystem.filterMap_snoc, LabelledSystem.filterMap_snoc]
    rcases hcase with ⟨rfl, hbegun, hstored⟩ | ⟨rfl, rfl⟩
    · simpa [hbegun, hstored] using hperm
    · obtain ⟨next, hlocal, hthreads, -⟩ := hl
      rw [hthreads, Function.update_self]
      rcases pending_step hlocal t p with ⟨hbegun, hstored, hsame⟩ | ⟨d, hbegun, hstored, hmore⟩ |
        ⟨d, hbegun, hstored, hless⟩
      · simpa [hbegun, hstored, hsame] using hperm
      · simp only [hbegun, hstored, hmore, Option.toList_some, Option.toList_none, List.append_nil]
        refine (hperm.append_right [d]).trans ?_
        rw [List.append_assoc]
        exact (List.perm_append_singleton d _).append_left _
      · rw [hless] at hperm
        simpa [hbegun, hstored] using hperm

theorem callbacks_length_step (hl : (workers update).system.Step s l s')
    (hlength : ∀ t, (s.threads t).callbacks.length ≤ 1) (halone : NotNested s l) (u : T) :
    (s'.threads u).callbacks.length ≤ 1 := by
  obtain ⟨t, action⟩ := l
  have hempty : ∀ q d, action = .other (.beginCallback q d) → (s.threads t).callbacks = [] := by
    rintro q d rfl
    exact halone
  obtain ⟨next, hlocal, hthreads, -⟩ := hl
  rw [hthreads]
  by_cases hu : u = t
  · subst hu
    rw [Function.update_self]
    have hold := hlength u
    generalize s.threads u = th at hlocal hold hempty
    cases hlocal with
    | beginCallback cs data q memory d hdispatch =>
        obtain rfl : cs = [] := hempty q d rfl
        exact le_rfl
    | endCallback => exact (Nat.le_succ _).trans hold
    | _ => exact hold
  · rw [Function.update_of_ne hu]
    exact hlength u

/-- In order, when no callback begins inside another one. -/
theorem begun_eq (h : WorkersReachBy NotNested update states ls s) (p : H) :
    ∃ ds, Pending p s ds ∧ ls.filterMap (begun? p) = ls.filterMap (stored? p) ++ ds := by
  have hinvariant := LabelledSystem.Run.invariant (fun ls (s : WorkerState T H S) ↦
    (∀ t, (s.threads t).callbacks.length ≤ 1) ∧ ∃ ds, Pending p s ds ∧
      ls.filterMap (begun? p) = ls.filterMap (stored? p) ++ ds) h ?_ ?_
  · exact hinvariant.2
  · exact ⟨fun _ ↦ Nat.zero_le _, [], ⟨fun t ht ↦ absurd rfl ht, fun _ ↦ rfl⟩, rfl⟩
  · rintro ls s ⟨t, a⟩ s' hrun ⟨hlength, ds, hds, heq⟩ ⟨hl, hnested⟩
    have hlength' : ∀ u, (s'.threads u).callbacks.length ≤ 1 := fun u ↦
      callbacks_length_step hl hlength hnested u
    obtain ⟨ds', hds', hcase⟩ := hds.step hrun.of_restrict hl
    refine ⟨hlength', ds', hds', ?_⟩
    rw [LabelledSystem.filterMap_snoc, LabelledSystem.filterMap_snoc, heq]
    rcases hcase with ⟨rfl, hbegun, hstored⟩ | ⟨rfl, rfl⟩
    · simp [hbegun, hstored]
    · have hbefore := ((s.threads t).pending_length_le p).trans (hlength t)
      have hafter := ((s'.threads t).pending_length_le p).trans (hlength' t)
      obtain ⟨next, hlocal, hthreads, -⟩ := hl
      rw [hthreads, Function.update_self] at hafter ⊢
      rcases pending_step hlocal t p with ⟨hbegun, hstored, hsame⟩ | ⟨d, hbegun, hstored, hmore⟩ |
        ⟨d, hbegun, hstored, hless⟩
      · simp [hbegun, hstored, hsame]
      · -- the callback that begins is the only one
        have hnil : (s.threads t).pending p = [] := by simpa [hmore] using hafter
        simp [hbegun, hstored, hmore, hnil]
      · have hnil : next.pending p = [] := by simpa [hless] using hbefore
        simp [hbegun, hstored, hless, hnil]

/-- At every moment the data of a handler are the result of its callbacks, in
the order in which they write, and none twice; when no callback is in progress,
of all that began.  The order is the one in which they began if no callback
begins inside another one. -/
theorem states_serialised (h : WorkersReachBy (Undisturbed p) update states ls s) :
    s.shared.states p =
        (ls.filterMap (stored? p)).foldl (fun v d ↦ update p d v) (states p) ∧
      (ls.filterMap (stored? p)).Subperm (ls.filterMap (begun? p)) ∧
      ((∀ t, (s.threads t).callbacks = []) →
        (ls.filterMap (stored? p)).Perm (ls.filterMap (begun? p))) ∧
      (WorkersReachBy NotNested update states ls s →
        ls.filterMap (stored? p) <+: ls.filterMap (begun? p)) := by
  obtain ⟨ds, hds, hperm⟩ := begun_perm h.of_restrict p
  refine ⟨states_eq_foldl h, ?_, fun hidle ↦ ?_, fun halone ↦ ?_⟩
  · exact (List.sublist_append_left _ _).subperm.trans hperm.symm.subperm
  · rw [hds.idle hidle, List.append_nil] at hperm
    exact hperm.symm
  · obtain ⟨ds', -, heq⟩ := begun_eq halone p
    exact ⟨ds', heq.symm⟩

/-! ## Handlers that do not call the library -/

/-- No callback on `p` calls a function of the library. -/
def Quiet (p : H) (s : WorkerState T H S) : WorkerLabel T H S → Prop
  | (t, .other (.library .call)) => ∀ b ∈ (s.threads t).callbacks.head?, b.handler ≠ p
  | _ => True

/-- A callback on `p` is the innermost one, and runs code of the program. -/
structure Worker.Innermost (p : H) (l : Worker H S) : Prop where
  tail : ∀ b ∈ l.callbacks.tail, b.handler ≠ p
  head : l.frame ≠ .program → ∀ b ∈ l.callbacks.head?, b.handler ≠ p

omit [Platform] [DecidableEq H] in
theorem forall_ne_of_head_tail {cs : List (Busy H S)} (hhead : ∀ b ∈ cs.head?, b.handler ≠ p)
    (htail : ∀ b ∈ cs.tail, b.handler ≠ p) : ∀ b ∈ cs, b.handler ≠ p := by
  cases cs with
  | nil => exact nofun
  | cons b cs => exact List.forall_mem_cons.mpr ⟨hhead b rfl, htail⟩

omit [Platform] [DecidableEq H] in
theorem Worker.innermost_of_forall_ne {l : Worker H S} (h : ∀ b ∈ l.callbacks, b.handler ≠ p) :
    l.Innermost p :=
  ⟨fun b hb ↦ h b (List.mem_of_mem_tail hb), fun _ b hb ↦ h b (List.mem_of_mem_head? hb)⟩

omit [DecidableEq H] in
/-- Code of the program calls the library, or ends a callback. -/
theorem Local.of_program {l l' : Thread H} {a : Act (EventAction H)} (h : Local l a l')
    (hframe : l.frame = .program) : a = .other .call ∨ ∃ c, l.callbacks = c :: l'.callbacks := by
  cases h with
  | setEventHandler | getEventHandler | eventNull | event => exact .inl rfl
  | endCallback cs c => exact .inr ⟨c, rfl⟩
  | _ => cases hframe

theorem Worker.Innermost.step (h : ∀ t, (s.threads t).Innermost p)
    (hl : (workers update).system.Step s l s') (hquiet : Quiet p s l) :
    (∀ t, (s'.threads t).Innermost p) ∧ Undisturbed p s l := by
  obtain ⟨t, action⟩ := l
  have hcalm : action = .other (.library .call) →
      ∀ b ∈ (s.threads t).callbacks.head?, b.handler ≠ p := by
    rintro rfl
    exact hquiet
  obtain ⟨next, hlocal, hthreads, -⟩ := hl
  have hinner := h t
  have hboth : next.Innermost p ∧ ∀ q d, action = .other (.beginCallback q d) →
      ∀ b ∈ (s.threads t).callbacks, b.handler ≠ p := by
    generalize s.threads t = th at hlocal hinner hcalm
    -- inside the library no callback in progress is on `p`
    have hinside : ∀ {cs : List (Busy H S)} {f f' : Frame H} {a : Act (EventAction H)},
        th = ⟨cs, f⟩ → Local ⟨cs.map Busy.running, f⟩ a ⟨cs.map Busy.running, f'⟩ →
        (a = .other .call → action = .other (.library .call)) →
          ∀ b ∈ cs, b.handler ≠ p := by
      rintro cs f f' a rfl hstep hcall
      refine forall_ne_of_head_tail ?_ hinner.tail
      by_cases hf : f = .program
      · rcases hstep.of_program hf with hcalled | ⟨c, hc⟩
        · exact hcalm (hcall hcalled)
        · exact absurd hc.symm (List.cons_ne_self c _)
      · exact hinner.head hf
    cases hlocal with
    | acquire cs f f' hstep | release cs f f' hstep =>
        exact ⟨innermost_of_forall_ne (hinside rfl hstep nofun), nofun⟩
    | library cs f f' a hstep =>
        refine ⟨innermost_of_forall_ne (hinside rfl hstep ?_), nofun⟩
        rintro ⟨⟩
        rfl
    | beginCallback cs data q memory d hdispatch =>
        have hall := forall_ne_of_head_tail (hinner.head nofun) hinner.tail
        exact ⟨⟨hall, fun hframe ↦ absurd rfl hframe⟩, fun _ _ _ ↦ hall⟩
    | load | store => exact ⟨⟨hinner.tail, fun hframe ↦ absurd rfl hframe⟩, nofun⟩
    | endCallback => exact ⟨innermost_of_forall_ne hinner.tail, nofun⟩
  constructor
  · intro u
    rw [hthreads]
    by_cases hu : u = t
    · rw [hu, Function.update_self]
      exact hboth.1
    · rw [Function.update_of_ne hu]
      exact h u
  · cases action with
    | acquire | release => trivial
    | other a =>
        cases a with
        | beginCallback q d => exact fun _ b hb hbp ↦ absurd hbp (hboth.2 q d rfl b hb)
        | library | load | store => trivial

/-- A handler whose callbacks do not call the library is never disturbed. -/
theorem WorkersReachBy.undisturbed (h : WorkersReachBy (Quiet p) update states ls s) :
    WorkersReachBy (Undisturbed p) update states ls s := by
  refine LabelledSystem.Run.restrict_of (P := fun s ↦ ∀ t, (s.threads t).Innermost p) h ?_ ?_
  · exact fun t ↦ ⟨nofun, nofun⟩
  · exact fun _ _ _ hinner hl hquiet ↦ Worker.Innermost.step hinner hl hquiet

end

section

variable [Platform] {H S : Type} [DecidableEq H] {update : H → Delivered → S → S}

/-- No callback is nested in another, and none on `p` calls the library. -/
def Simple (p : H) (s : WorkerState Unit H S) (l : WorkerLabel Unit H S) : Prop :=
  NotNested s l ∧ Quiet p s l

theorem unit_step {m m' : RecursiveMutex.Mutex Unit} {g g' : SharedData H S} {l l' : Worker H S}
    {a : Act (DataAction H S)} (hlocal : WorkerLocal update l a l')
    (heffect : (workers update).Effect () a ⟨m, g, fun _ ↦ l⟩ ⟨m', g', fun _ ↦ l'⟩) :
    (workers update).system.Step ⟨m, g, fun _ ↦ l⟩ ((), a) ⟨m', g', fun _ ↦ l'⟩ :=
  ⟨l', hlocal, rfl, heffect⟩

/-- One thread sets a handler and delivers a message to it. -/
theorem exists_delivery (states : H → S) (p : H) {memory : AddrMemory} {data : EventMessage}
    {d : Delivered} (hdispatch : dispatch memory data = some (d.callback, d.addrs)) :
    ∃ (ls : List (WorkerLabel Unit H S)) (s : WorkerState Unit H S),
      WorkersReachBy (Simple p) update states ls s ∧ (∀ t, (s.threads t).callbacks = []) ∧
        ls.filterMap (begun? p) = [d] := by
  have h₀ : WorkersReachBy (Simple p) update states [] (startWorkers Unit states) := .nil
  have h₁ := h₀.snoc ⟨unit_step (.library [] _ _ _ (.setEventHandler [] (some p))) ⟨rfl, rfl, rfl⟩,
    ⟨trivial, nofun⟩⟩
  have h₂ := h₁.snoc ⟨unit_step (.acquire [] _ _ (.setLock [] (some p))) ⟨rfl, rfl⟩,
    ⟨trivial, trivial⟩⟩
  have h₃ : WorkersReachBy (Simple p) update states _ ⟨_, ⟨some p, states⟩, _⟩ :=
    h₂.snoc ⟨unit_step (.library [] _ _ _ (.setAssign [] (some p))) ⟨rfl, rfl, rfl⟩,
      ⟨trivial, trivial⟩⟩
  have h₄ := h₃.snoc ⟨unit_step (.release [] _ _ (.setUnlock [] (some p))) ⟨rfl, rfl⟩,
    ⟨trivial, trivial⟩⟩
  have h₅ := h₄.snoc ⟨unit_step (.library [] _ _ _ (.event [] data)) ⟨rfl, rfl, rfl⟩,
    ⟨trivial, nofun⟩⟩
  have h₆ := h₅.snoc ⟨unit_step (.acquire [] _ _ (.eventLock [] data)) ⟨rfl, rfl⟩,
    ⟨trivial, trivial⟩⟩
  have h₇ := h₆.snoc ⟨unit_step (.acquire [] _ _ (.getLock [] (some data))) ⟨rfl, rfl⟩,
    ⟨trivial, trivial⟩⟩
  have h₈ := h₇.snoc ⟨unit_step (.library [] _ _ _ (.getRead [] (some data) (some p)))
    ⟨rfl, ⟨rfl, rfl⟩, rfl⟩, ⟨trivial, trivial⟩⟩
  have h₉ := h₈.snoc ⟨unit_step (.release [] _ _ (.getReturnTo [] data (some p))) ⟨rfl, rfl⟩,
    ⟨trivial, trivial⟩⟩
  have h₁₀ := h₉.snoc ⟨unit_step (.beginCallback [] data p memory d hdispatch) ⟨rfl, rfl⟩,
    ⟨rfl, trivial⟩⟩
  have h₁₁ := h₁₀.snoc ⟨unit_step (.load [] p d (states p)) ⟨rfl, rfl, rfl⟩, ⟨trivial, trivial⟩⟩
  have h₁₂ := h₁₁.snoc ⟨unit_step (.store [] p d (states p)) ⟨rfl, rfl⟩, ⟨trivial, trivial⟩⟩
  have h₁₃ := h₁₂.snoc ⟨unit_step (.endCallback [] p d) ⟨rfl, rfl, rfl⟩, ⟨trivial, trivial⟩⟩
  exact ⟨_, _, h₁₃, fun _ ↦ rfl, by simp [List.filterMap_cons, begun?]⟩

/-- A thread delivers a message, up to where the callback has read the data. -/
def untilLoaded (p : H) (d : Delivered) (v : S) : List (WorkerLabel Unit H S) :=
  [((), .other (.library .call)), ((), .acquire), ((), .acquire),
    ((), .other (.library (.read (some p)))), ((), .release), ((), .other (.beginCallback p d)),
    ((), .other (.load p v))]

theorem run_untilLoaded {states : H → S} {p : H} {memory : AddrMemory} {data : EventMessage}
    {d : Delivered} (hdispatch : dispatch memory data = some (d.callback, d.addrs))
    {m m' m'' : RecursiveMutex.Mutex Unit} (hm : m.acquire () = some m')
    (hm' : m'.acquire () = some m'') (cs : List (Busy H S)) :
    (workers update).system.Run ⟨m, ⟨some p, states⟩, fun _ ↦ ⟨cs, .program⟩⟩
      (untilLoaded p d (states p))
      ⟨m', ⟨some p, states⟩, fun _ ↦ ⟨⟨p, d, .loaded (states p)⟩ :: cs, .program⟩⟩ := by
  have h₀ : (workers update).system.Run ⟨m, ⟨some p, states⟩, fun _ ↦ ⟨cs, .program⟩⟩ []
    ⟨m, ⟨some p, states⟩, fun _ ↦ ⟨cs, .program⟩⟩ := .nil
  have h₁ := h₀.snoc (unit_step (.library cs _ _ _ (.event _ data)) ⟨rfl, rfl, rfl⟩)
  have h₂ := h₁.snoc (unit_step (.acquire cs _ _ (.eventLock _ data)) ⟨hm, rfl⟩)
  have h₃ := h₂.snoc (unit_step (.acquire cs _ _ (.getLock _ (some data))) ⟨hm', rfl⟩)
  have h₄ := h₃.snoc (unit_step (.library cs _ _ _ (.getRead _ (some data) (some p)))
    ⟨rfl, ⟨rfl, rfl⟩, rfl⟩)
  have h₅ := h₄.snoc (unit_step (.release cs _ _ (.getReturnTo _ data (some p)))
    ⟨Mutex.release_eq_some_iff.mpr hm', rfl⟩)
  have h₆ := h₅.snoc (unit_step (.beginCallback cs data p memory d hdispatch) ⟨rfl, rfl⟩)
  exact h₆.snoc (unit_step (.load cs p d (states p)) ⟨rfl, rfl, rfl⟩)

/-- The condition is needed: a callback that delivers to its own handler between
its read and its write overwrites what the inner callback wrote. -/
theorem update_lost (states : H → S) (p : H) {memory : AddrMemory} {data : EventMessage}
    {d : Delivered} (hdispatch : dispatch memory data = some (d.callback, d.addrs)) :
    ∃ (ls : List (WorkerLabel Unit H S)) (s : WorkerState Unit H S),
      WorkersReach update states ls s ∧ (∀ t, (s.threads t).callbacks = []) ∧
        ls.filterMap (begun? p) = [d, d] ∧ s.shared.states p = update p d (states p) := by
  have h₀ : WorkersReach update states [] (startWorkers Unit states) := .nil
  have h₁ := h₀.snoc (unit_step (.library [] _ _ _ (.setEventHandler [] (some p))) ⟨rfl, rfl, rfl⟩)
  have h₂ := h₁.snoc (unit_step (.acquire [] _ _ (.setLock [] (some p))) ⟨rfl, rfl⟩)
  have h₃ : WorkersReach update states _ ⟨_, ⟨some p, states⟩, _⟩ :=
    h₂.snoc (unit_step (.library [] _ _ _ (.setAssign [] (some p))) ⟨rfl, rfl, rfl⟩)
  have h₄ := h₃.snoc (unit_step (.release [] _ _ (.setUnlock [] (some p))) ⟨rfl, rfl⟩)
  have h₅ := LabelledSystem.run_append_iff.mpr ⟨_, h₄, run_untilLoaded hdispatch rfl rfl []⟩
  have h₆ := LabelledSystem.run_append_iff.mpr
    ⟨_, h₅, run_untilLoaded hdispatch rfl rfl [⟨p, d, .loaded (states p)⟩]⟩
  have h₇ := h₆.snoc (unit_step (.store _ p d (states p)) ⟨rfl, rfl⟩)
  have h₈ := h₇.snoc (unit_step (.endCallback _ p d) ⟨rfl, rfl, rfl⟩)
  have h₉ := h₈.snoc (unit_step (.release _ _ _ (.eventUnlock _)) ⟨rfl, rfl⟩)
  have h₁₀ := h₉.snoc (unit_step (.store [] p d (states p)) ⟨rfl, rfl⟩)
  have h₁₁ := h₁₀.snoc (unit_step (.endCallback [] p d) ⟨rfl, rfl, rfl⟩)
  refine ⟨_, _, h₁₁, fun _ ↦ rfl, ?_, Function.update_self _ _ _⟩
  simp [untilLoaded, List.filterMap_cons, begun?]

end

/-- What a `NODE_UP` message delivers. -/
def deliveredNodeUp : Delivered :=
  ⟨.onEvent .node 200 (some 1), fun _ ↦ ⟨0, Octets.Image.zeros _⟩, (Stack.filled 0).ipAddress⟩

/-- A handler that counts its callbacks. -/
def counting (_ : ℕ) (_ : Delivered) (count : ℕ) : ℕ := count + 1

theorem states_serialised_counting :
    ∃ (ls : List (WorkerLabel Unit ℕ ℕ)) (s : WorkerState Unit ℕ ℕ),
      ls.filterMap (begun? 7) = [deliveredNodeUp] ∧
      s.shared.states 7 = (ls.filterMap (stored? 7)).foldl (fun v d ↦ counting 7 d v) 0 ∧
      (ls.filterMap (stored? 7)).Perm (ls.filterMap (begun? 7)) ∧
      ls.filterMap (stored? 7) <+: ls.filterMap (begun? 7) := by
  have hdispatch : dispatch deliveredNodeUp.addrs nodeUpMessage =
    some (deliveredNodeUp.callback, deliveredNodeUp.addrs) := rfl
  obtain ⟨ls, s, h, hidle, hbegun⟩ :=
    @exists_delivery _ _ _ _ counting (fun _ ↦ 0) 7 _ _ _ hdispatch
  have hquiet := h.restrict_of (P := fun _ ↦ True) trivial fun _ _ _ _ _ hl ↦ ⟨trivial, hl.2⟩
  have halone := h.restrict_of (P := fun _ ↦ True) trivial fun _ _ _ _ _ hl ↦ ⟨trivial, hl.1⟩
  obtain ⟨hstates, -, hperm, hprefix⟩ :=
    states_serialised (WorkersReachBy.undisturbed (p := 7) hquiet)
  exact ⟨ls, s, hbegun, hstates, hperm hidle, hprefix halone⟩

end EventHandling

end Ztcpp
