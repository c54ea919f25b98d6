import Ztcpp.Events.Dispatch
import Ztcpp.Library.RecursiveMutex

/-!
# Lifetime of the event handler

Threads call `SetEventHandler`, `GetEventHandler` and `IntermediateEventHandler`
in any interleaving, also from inside a callback.  Each function is cut at its
accesses to what the threads share, so that every schedule of these accesses is
a run.
-/

namespace Ztcpp

open RecursiveMutex

namespace EventHandling

/-- What the innermost running function of the library does next on a thread;
`program` when the thread runs code of the program, in a callback or outside.
A call of `GetEventHandler` knows the message whose delivery waits for it. -/
inductive Frame (H : Type) where
  | program
  | setLock (aHandler : Option H)
  | setAssign (aHandler : Option H)
  | setUnlock (aHandler : Option H)
  | getLock (caller : Option EventMessage)
  | getRead (caller : Option EventMessage)
  | getUnlock (caller : Option EventMessage) (p : Option H)
  | eventLock (data : EventMessage)
  | eventDispatch (data : EventMessage) (eventHandler : Option H)
  | eventUnlock

structure Running (H : Type) where
  handler : H
  callback : Callback

structure Thread (H : Type) where
  /-- The callbacks in progress, the innermost first. -/
  callbacks : List (Running H)
  frame : Frame H

inductive EventAction (H : Type) where
  | call
  | read (p : Option H)
  | write (aHandler : Option H)
  | beginCallback (p : H)
  | endCallback (p : H)
  /-- `IntermediateEventHandler` returns because there is no handler. -/
  | skip

inductive Local [Platform] {H : Type} : Thread H → Act (EventAction H) → Thread H → Prop where
  -- `SetEventHandler`
  | setEventHandler (cs : List (Running H)) (aHandler : Option H) :
      Local ⟨cs, .program⟩ (.other .call) ⟨cs, .setLock aHandler⟩
  | setLock (cs : List (Running H)) (aHandler : Option H) :
      Local ⟨cs, .setLock aHandler⟩ .acquire ⟨cs, .setAssign aHandler⟩
  | setAssign (cs : List (Running H)) (aHandler : Option H) :
      Local ⟨cs, .setAssign aHandler⟩ (.other (.write aHandler)) ⟨cs, .setUnlock aHandler⟩
  | setUnlock (cs : List (Running H)) (aHandler : Option H) :
      Local ⟨cs, .setUnlock aHandler⟩ .release ⟨cs, .program⟩
  -- `GetEventHandler`
  | getEventHandler (cs : List (Running H)) :
      Local ⟨cs, .program⟩ (.other .call) ⟨cs, .getLock none⟩
  | getLock (cs : List (Running H)) (caller : Option EventMessage) :
      Local ⟨cs, .getLock caller⟩ .acquire ⟨cs, .getRead caller⟩
  | getRead (cs : List (Running H)) (caller : Option EventMessage) (p : Option H) :
      Local ⟨cs, .getRead caller⟩ (.other (.read p)) ⟨cs, .getUnlock caller p⟩
  | getReturn (cs : List (Running H)) (p : Option H) :
      Local ⟨cs, .getUnlock none p⟩ .release ⟨cs, .program⟩
  | getReturnTo (cs : List (Running H)) (data : EventMessage) (p : Option H) :
      Local ⟨cs, .getUnlock (some data) p⟩ .release ⟨cs, .eventDispatch data p⟩
  -- `IntermediateEventHandler`, first with a null message
  | eventNull (cs : List (Running H)) :
      Local ⟨cs, .program⟩ (.other .call) ⟨cs, .program⟩
  | event (cs : List (Running H)) (data : EventMessage) :
      Local ⟨cs, .program⟩ (.other .call) ⟨cs, .eventLock data⟩
  | eventLock (cs : List (Running H)) (data : EventMessage) :
      Local ⟨cs, .eventLock data⟩ .acquire ⟨cs, .getLock (some data)⟩
  | eventSkip (cs : List (Running H)) (data : EventMessage) :
      Local ⟨cs, .eventDispatch data none⟩ (.other .skip) ⟨cs, .eventUnlock⟩
  -- the payloads are libzt's, so they may hold anything at this moment
  | beginCallback (cs : List (Running H)) (data : EventMessage) (eventHandler : H)
      (memory memory' : AddrMemory) (callback : Callback)
      (h : dispatch memory data = some (callback, memory')) :
      Local ⟨cs, .eventDispatch data (some eventHandler)⟩ (.other (.beginCallback eventHandler))
        ⟨⟨eventHandler, callback⟩ :: cs, .program⟩
  | endCallback (cs : List (Running H)) (c : Running H) :
      Local ⟨c :: cs, .program⟩ (.other (.endCallback c.handler)) ⟨cs, .eventUnlock⟩
  | eventUnlock (cs : List (Running H)) :
      Local ⟨cs, .eventUnlock⟩ .release ⟨cs, .program⟩

def Shared {H : Type} : EventAction H → Option H → Option H → Prop
  | .read p, g, g' => p = g ∧ g' = g
  | .write aHandler, _, g' => g' = aHandler
  | .call, g, g' | .beginCallback _, g, g' | .endCallback _, g, g' | .skip, g, g' => g' = g

def program [Platform] (H : Type) : Program (Thread H) (Option H) (EventAction H) where
  Local := Local
  Shared := Shared

abbrev State (T H : Type) := RecursiveMutex.State T (Thread H) (Option H)

def start (T H : Type) : State T H := ⟨.free, none, fun _ ↦ ⟨[], .program⟩⟩

/-! ## The locks a thread holds -/

/-- How many `scoped_lock`s the running functions have, without those of
deliveries that wait for a callback. -/
def Frame.holds {H : Type} : Frame H → ℕ
  | .program | .setLock _ | .getLock none | .eventLock _ => 0
  | .setAssign _ | .setUnlock _ | .getRead none | .getUnlock none _ | .getLock (some _)
  | .eventDispatch .. | .eventUnlock => 1
  | .getRead (some _) | .getUnlock (some _) _ => 2

def Thread.holds {H : Type} (th : Thread H) : ℕ := th.callbacks.length + th.frame.holds

/-- The value of `g_eventHandler` that a running function relies on. -/
def Frame.expects? {H : Type} : Frame H → Option (Option H)
  | .setUnlock aHandler => some aHandler
  | .getUnlock _ p | .eventDispatch _ p => some p
  | _ => none

def Thread.Knows {H : Type} (th : Thread H) (g : Option H) : Prop :=
  ∀ p, th.frame.expects? = some p → g = p

section

variable [Platform] {T H : Type} [DecidableEq T]

theorem counts : (program H).Counts Thread.holds where
  acquire := by
    intro l l' h
    cases h with
    | setLock cs aHandler => rfl
    | getLock cs caller => cases caller <;> rfl
    | eventLock cs data => rfl
  release := by
    intro l l' h
    cases h with
    | setUnlock | getReturn | getReturnTo | eventUnlock => rfl
  other := by
    intro l a l' h
    cases h with
    | getRead cs caller p => cases caller <;> rfl
    | beginCallback cs data p memory memory' callback h | endCallback cs c =>
        simp [Thread.holds, Frame.holds]
    | _ => rfl

theorem guards : (program H).Guards Thread.holds Thread.Knows where
  free := by
    rintro ⟨cs, frame⟩ g hfree p hp
    have hframe : frame.holds = 0 := (Nat.add_eq_zero_iff.mp hfree).2
    cases frame with
    | getUnlock caller q => cases caller <;> cases hframe
    | setUnlock | eventDispatch => cases hframe
    | _ => cases hp
  acquire := by
    intro l l' g h hknows p hp
    cases h with
    | setLock | getLock | eventLock => cases hp
  release := by
    intro l l' g h hknows p hp
    cases h with
    | getReturnTo cs data q => exact hknows p hp
    | setUnlock | getReturn | eventUnlock => cases hp
  other := by
    intro l a l' g g' h hshared hknows p hp
    cases h with
    | setAssign cs aHandler =>
        cases hp
        exact hshared
    | getRead cs caller q =>
        cases hp
        obtain ⟨rfl, hsame⟩ := hshared
        exact hsame
    | _ => cases hp
  write := by
    intro l a l' g g' h hshared hne
    cases h with
    | setAssign cs aHandler => exact Nat.lt_add_left _ Nat.one_pos
    | getRead cs caller p => exact absurd hshared.2 hne
    | _ => exact absurd hshared hne

/-! ## Runs -/

abbrev Label (T H : Type) := T × Act (EventAction H)

abbrev system (T H : Type) [DecidableEq T] : LabelledSystem (State T H) (Label T H) :=
  (program H).system

abbrev Reaches (ls : List (Label T H)) (s : State T H) : Prop :=
  (system T H).Run (start T H) ls s

variable {s s' u v : State T H} {ls ks : List (Label T H)} {t : T}

theorem Reaches.agrees (h : Reaches ls s) : Agrees Thread.holds s :=
  agrees_of_run counts h rfl

theorem Reaches.knows (h : Reaches ls s) : ∀ t, (s.threads t).Knows s.shared := by
  refine knows_of_run counts guards h rfl ?_
  intro t p hp
  cases hp

theorem Reaches.callbacks_exclusive (h : Reaches ls s) {a b : T}
    (ha : (s.threads a).callbacks ≠ []) (hb : 0 < (s.threads b).holds) : a = b := by
  refine h.agrees.exclusive ?_ hb
  exact Nat.add_pos_left (List.length_pos_iff.mpr ha) _

theorem Reaches.beginCallback (h : Reaches ls s) {p : H}
    (hstep : (system T H).Step s (t, .other (.beginCallback p)) s') : s.shared = some p := by
  obtain ⟨next, hlocal, -, -⟩ := hstep
  have hknows := h.knows t
  generalize s.threads t = th at hlocal hknows
  cases hlocal with
  | beginCallback => exact hknows _ rfl

/-! ## After a handler was replaced -/

/-- No callback on `g` is in progress, and `g` is not the handler. -/
structure Retired (g : H) (s : State T H) : Prop where
  notSet : s.shared ≠ some g
  notRunning : ∀ t, ∀ c ∈ (s.threads t).callbacks, c.handler ≠ g

/-- When `SetEventHandler` releases the mutex outside of any callback, no
callback is in progress on any thread. -/
theorem Reaches.no_callbacks (h : Reaches ls s) {aHandler : Option H}
    (ht : s.threads t = ⟨[], .setUnlock aHandler⟩) (a : T) : (s.threads a).callbacks = [] := by
  by_contra ha
  have hholds : 0 < (s.threads t).holds := by
    rw [ht]
    exact Nat.one_pos
  obtain rfl := h.callbacks_exclusive ha hholds
  rw [ht] at ha
  exact ha rfl

theorem Reaches.retired_of_release (h : Reaches ls s) {aHandler : Option H} {g : H}
    (ht : s.threads t = ⟨[], .setUnlock aHandler⟩) (hne : aHandler ≠ some g)
    (hstep : (system T H).Step s (t, .release) s') : Retired g s' := by
  have hset : s.shared = aHandler := h.knows t aHandler (by rw [ht]; rfl)
  obtain ⟨next, hlocal, hthreads, -, hshared⟩ := hstep
  constructor
  · rw [hshared, hset]
    exact hne
  · intro a c hc
    rw [hthreads] at hc
    by_cases ha : a = t
    · subst ha
      rw [Function.update_self] at hc
      rw [ht] at hlocal
      cases hlocal with
      | setUnlock => simp at hc
    · rw [Function.update_of_ne ha, h.no_callbacks ht a] at hc
      simp at hc

theorem Retired.step {g : H} {l : Label T H} (hretired : Retired g s)
    (h : Reaches ls s) (hl : (system T H).Step s l s') (hwrite : l.2 ≠ .other (.write (some g))) :
    Retired g s' := by
  obtain ⟨a, action⟩ := l
  have hstep := hl
  obtain ⟨next, hlocal, hthreads, heffect⟩ := hl
  -- the thread's own callbacks are the old ones, or one on the handler set
  have hown : ∀ c ∈ next.callbacks, c.handler ≠ g := by
    have hold := hretired.notRunning a
    generalize s.threads a = th at hlocal hold
    cases hlocal with
    | beginCallback cs data p memory memory' callback hdispatch =>
        have hset := h.beginCallback hstep
        intro c hc
        rcases List.mem_cons.mp hc with rfl | hc
        · rintro rfl
          exact hretired.notSet hset
        · exact hold c hc
    | endCallback cs c => exact (List.forall_mem_cons.mp hold).2
    | _ => exact hold
  constructor
  · cases action with
    | acquire | release =>
        rw [heffect.2]
        exact hretired.notSet
    | other b =>
        cases b with
        | write aHandler =>
            rw [show s'.shared = aHandler from heffect.2]
            rintro rfl
            exact hwrite rfl
        | read p =>
            rw [show s'.shared = s.shared from heffect.2.2]
            exact hretired.notSet
        | call | beginCallback | endCallback | skip =>
            rw [show s'.shared = s.shared from heffect.2]
            exact hretired.notSet
  · intro b c hc
    rw [hthreads] at hc
    by_cases hb : b = a
    · subst hb
      rw [Function.update_self] at hc
      exact hown c hc
    · rw [Function.update_of_ne hb] at hc
      exact hretired.notRunning b c hc

theorem Retired.run {g : H} (hretired : Retired g s) (h : Reaches ls s)
    (hrun : (system T H).Run s ks u) (hwrite : ∀ a, (a, .other (.write (some g))) ∉ ks) :
    Retired g u := by
  refine hrun.invariant (fun ks u ↦ (∀ a, (a, .other (.write (some g))) ∉ ks) → Retired g u)
    (fun _ ↦ hretired) ?_ hwrite
  intro ks u l v hu ih hl hks
  have hreach : Reaches (ls ++ ks) u := LabelledSystem.run_append_iff.mpr ⟨s, h, hu⟩
  have hold : Retired g u := ih fun a ha ↦ hks a (List.mem_append_left _ ha)
  refine hold.step hreach hl ?_
  intro hl'
  apply hks l.1
  rw [← hl']
  exact List.mem_append_right _ List.mem_cons_self

/-! ## Calls and their returns -/

/-- A call that was made inside the callbacks `cs` has not returned. -/
def Thread.InCall (cs : List (Running H)) (th : Thread H) : Prop :=
  th.frame = .program → cs.length < th.callbacks.length

theorem Local.suffix {l l' : Thread H} {a : Act (EventAction H)} {cs : List (Running H)}
    (h : Local l a l') (hcall : l.InCall cs) (hcs : cs <:+ l.callbacks) : cs <:+ l'.callbacks := by
  cases h with
  | beginCallback ds data p memory memory' callback h => exact List.suffix_cons_iff.mpr (.inr hcs)
  | endCallback ds c =>
      rcases List.suffix_cons_iff.mp hcs with rfl | hsuffix
      · exact absurd (hcall rfl) (Nat.lt_irrefl _)
      · exact hsuffix
  | _ => exact hcs

theorem call_returns (hcall : (system T H).Step s (t, .other .call) u)
    (hrun : (system T H).Run u ks v)
    (hduring : ∀ w, (system T H).VisitsBefore u ks v w →
      (w.threads t).InCall (s.threads t).callbacks)
    (hreturned : ¬ (v.threads t).InCall (s.threads t).callbacks) :
    v.threads t = s.threads t := by
  obtain ⟨next, hlocal, hthreads, -⟩ := hcall
  have hcalled : (s.threads t).frame = .program ∧ next.callbacks = (s.threads t).callbacks := by
    generalize s.threads t = th at hlocal
    cases hlocal with
    | setEventHandler | getEventHandler | eventNull | event => exact ⟨rfl, rfl⟩
  have hsuffix : (s.threads t).callbacks <:+ (v.threads t).callbacks := by
    refine hrun.invariant_before
      (P := fun w ↦ (s.threads t).callbacks <:+ (w.threads t).callbacks) hduring ?_ ?_
    · have hcallbacks : (u.threads t).callbacks = (s.threads t).callbacks := by
        rw [hthreads, Function.update_self, hcalled.2]
      exact hcallbacks ▸ List.suffix_rfl
    · rintro w ⟨a, action⟩ w' ⟨next', hlocal', hthreads', -⟩ hw hcs
      rw [hthreads']
      by_cases ha : t = a
      · subst ha
        rw [Function.update_self]
        exact hlocal'.suffix hw hcs
      · rwa [Function.update_of_ne ha]
  obtain ⟨hframe, hlength⟩ := Classical.not_imp.mp hreturned
  have hcallbacks := hsuffix.eq_of_length_le (not_lt.mp hlength)
  generalize v.threads t = th' at hframe hcallbacks
  generalize s.threads t = th at hcalled hcallbacks
  obtain ⟨cs', frame'⟩ := th'
  obtain ⟨cs, frame⟩ := th
  obtain rfl : frame' = .program := hframe
  obtain rfl : frame = .program := hcalled.1
  obtain rfl : cs = cs' := hcallbacks
  rfl

/-- In every reachable state: a callback begins only on the handler set; once a
call of `SetEventHandler` outside of callbacks has replaced `g`, no callback on
`g` is in progress or begins until `g` is written back; callbacks in progress
run on one thread; and when a call returns, the lock depth is what it was. -/
theorem handler_lifetime (h : Reaches ls s) :
    (∀ t p s', (system T H).Step s (t, .other (.beginCallback p)) s' → s.shared = some p) ∧
    (∀ t aHandler g s' ks u, s.threads t = ⟨[], .setUnlock aHandler⟩ → aHandler ≠ some g →
      (system T H).Step s (t, .release) s' → (system T H).Run s' ks u →
      (∀ a, (a, .other (.write (some g))) ∉ ks) →
        (∀ a, ∀ c ∈ (u.threads a).callbacks, c.handler ≠ g) ∧
        ∀ a u', ¬ (system T H).Step u (a, .other (.beginCallback g)) u') ∧
    (∀ a b, (s.threads a).callbacks ≠ [] → (s.threads b).callbacks ≠ [] → a = b) ∧
    (∀ t u ks v, (system T H).Step s (t, .other .call) u → (system T H).Run u ks v →
      (∀ w, (system T H).VisitsBefore u ks v w → (w.threads t).InCall (s.threads t).callbacks) →
      ¬ (v.threads t).InCall (s.threads t).callbacks →
        v.threads t = s.threads t ∧ v.mutex.depthOf t = s.mutex.depthOf t) := by
  refine ⟨fun t p s' hstep ↦ h.beginCallback hstep, ?_, ?_, ?_⟩
  · intro t aHandler g s' ks u ht hne hstep hrun hwrite
    have hs' : Reaches (ls ++ [(t, .release)]) s' := .snoc h hstep
    have hu : Reaches (ls ++ [(t, .release)] ++ ks) u :=
      LabelledSystem.run_append_iff.mpr ⟨s', hs', hrun⟩
    have hretired := (h.retired_of_release ht hne hstep).run hs' hrun hwrite
    refine ⟨hretired.notRunning, ?_⟩
    intro a u' hbegin
    exact hretired.notSet (hu.beginCallback hbegin)
  · intro a b ha hb
    exact h.callbacks_exclusive ha (Nat.add_pos_left (List.length_pos_iff.mpr hb) _)
  · intro t u ks v hcall hrun hduring hreturned
    have hthread := call_returns hcall hrun hduring hreturned
    refine ⟨hthread, ?_⟩
    have hu : Reaches (ls ++ [(t, .other .call)]) u := .snoc h hcall
    have hv : Reaches (ls ++ [(t, .other .call)] ++ ks) v :=
      LabelledSystem.run_append_iff.mpr ⟨u, hu, hrun⟩
    rw [congrFun hv.agrees t, congrFun h.agrees t, Function.comp_apply, Function.comp_apply,
      hthread]

end

def twoThreads (m : Mutex Bool) (g : Option ℕ) (a b : Thread ℕ) : State Bool ℕ :=
  ⟨m, g, fun t ↦ cond t b a⟩

section

variable {m m' : Mutex Bool} {g g' : Option ℕ} {a b next : Thread ℕ}
  {action : Act (EventAction ℕ)}

theorem step_first (hlocal : Local a action next)
    (heffect : (program ℕ).Effect false action (twoThreads m g a b) (twoThreads m' g' next b)) :
    (system Bool ℕ).Step (twoThreads m g a b) (false, action) (twoThreads m' g' next b) := by
  refine ⟨next, hlocal, ?_, heffect⟩
  funext t
  cases t <;> rfl

theorem step_second (hlocal : Local b action next)
    (heffect : (program ℕ).Effect true action (twoThreads m g a b) (twoThreads m' g' a next)) :
    (system Bool ℕ).Step (twoThreads m g a b) (true, action) (twoThreads m' g' a next) := by
  refine ⟨next, hlocal, ?_, heffect⟩
  funext t
  cases t <;> rfl

end

/-- One thread sets the handler 7, another delivers a message to it, and the
first sets the null handler. -/
theorem handler_lifetime_replaced :
    ∃ (ls : List (Label Bool ℕ)) (s s' : State Bool ℕ), Reaches ls s ∧
      (true, .other (.beginCallback 7)) ∈ ls ∧ (system Bool ℕ).Step s (false, .release) s' ∧
      ∀ ks u, (system Bool ℕ).Run s' ks u → (∀ a, (a, .other (.write (some 7))) ∉ ks) →
        ∀ a u', ¬ (system Bool ℕ).Step u (a, .other (.beginCallback 7)) u' := by
  let data : EventMessage := ⟨0, none, none, none, none, none, none⟩
  have h₀ : Reaches [] (twoThreads .free none ⟨[], .program⟩ ⟨[], .program⟩) := by
    rw [show twoThreads _ _ _ _ = start Bool ℕ by simp [twoThreads, start]]
    exact .nil
  have h₁ := h₀.snoc (step_first (.setEventHandler [] (some 7)) ⟨rfl, rfl⟩)
  have h₂ := h₁.snoc (step_first (.setLock [] (some 7)) ⟨rfl, rfl⟩)
  have h₃ := h₂.snoc (step_first (.setAssign [] (some 7)) ⟨rfl, rfl⟩)
  have h₄ := h₃.snoc (step_first (.setUnlock [] (some 7)) ⟨rfl, rfl⟩)
  have h₅ := h₄.snoc (step_second (.event [] data) ⟨rfl, rfl⟩)
  have h₆ := h₅.snoc (step_second (.eventLock [] data) ⟨rfl, rfl⟩)
  have h₇ := h₆.snoc (step_second (.getLock [] (some data)) ⟨rfl, rfl⟩)
  have h₈ := h₇.snoc (step_second (.getRead [] (some data) (some 7)) ⟨rfl, rfl, rfl⟩)
  have h₉ := h₈.snoc (step_second (.getReturnTo [] data (some 7)) ⟨rfl, rfl⟩)
  have hdispatch : dispatch (fun _ ↦ ⟨0, Octets.Image.zeros _⟩) data =
      some (.onUnknownEvent 0, _) := rfl
  have h₁₀ := h₉.snoc (step_second (.beginCallback [] data 7 _ _ _ hdispatch) ⟨rfl, rfl⟩)
  have h₁₁ := h₁₀.snoc (step_second (.endCallback [] ⟨7, .onUnknownEvent 0⟩) ⟨rfl, rfl⟩)
  have h₁₂ := h₁₁.snoc (step_second (.eventUnlock []) ⟨rfl, rfl⟩)
  have h₁₃ := h₁₂.snoc (step_first (.setEventHandler [] none) ⟨rfl, rfl⟩)
  have h₁₄ := h₁₃.snoc (step_first (.setLock [] none) ⟨rfl, rfl⟩)
  have h₁₅ := h₁₄.snoc (step_first (.setAssign [] none) ⟨rfl, rfl⟩)
  have hrelease := step_first (m := .held false 0) (g := none) (b := ⟨[], .program⟩)
    (.setUnlock [] none) ⟨rfl, rfl⟩
  refine ⟨_, _, _, h₁₅, by simp, hrelease, ?_⟩
  intro ks u hrun hwrite
  exact ((handler_lifetime h₁₅).2.1 false none 7 _ ks u rfl (by simp) hrelease hrun hwrite).2

end EventHandling

end Ztcpp
