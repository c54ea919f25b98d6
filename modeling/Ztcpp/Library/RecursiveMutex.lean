import Mathlib.Logic.Function.Basic
import Ztcpp.Library.LabelledSystem

/-!
# Threads that share data behind a recursive mutex

Each thread runs its own steps; the shared data are one value behind a mutex
that its owner may acquire again.  When the steps of a thread are counted, the
depth of the mutex is known from the thread's own state, and what a thread has
learned about the shared data while it holds the mutex stays true until it
changes the data itself.
-/

namespace RecursiveMutex

/-- A free mutex has no owner, and a held one has exactly one. -/
inductive Mutex (T : Type) where
  | free
  /-- Acquired by `owner`, and `again` more times after that. -/
  | held (owner : T) (again : ℕ)

namespace Mutex

variable {T : Type} [DecidableEq T]

def depthOf (m : Mutex T) (t : T) : ℕ :=
  match m with
  | .free => 0
  | .held owner again => if t = owner then again + 1 else 0

/-- `none` when the thread has to wait. -/
def acquire (m : Mutex T) (t : T) : Option (Mutex T) :=
  match m with
  | .free => some (.held t 0)
  | .held owner again => if t = owner then some (.held owner (again + 1)) else none

def release (m : Mutex T) (t : T) : Option (Mutex T) :=
  match m with
  | .free => none
  | .held owner again =>
      if t = owner then
        match again with
        | 0 => some .free
        | again + 1 => some (.held owner again)
      else none

variable {m m' : Mutex T} {s t : T}

@[simp] theorem depthOf_free (t : T) : (free : Mutex T).depthOf t = 0 := rfl

theorem depthOf_held (owner : T) (again : ℕ) (t : T) :
    (held owner again).depthOf t = if t = owner then again + 1 else 0 := rfl

theorem eq_of_depthOf_pos (hs : 0 < m.depthOf s) (ht : 0 < m.depthOf t) : s = t := by
  cases m with
  | free => exact absurd hs (Nat.lt_irrefl 0)
  | held owner again =>
      rw [depthOf_held] at hs ht
      split_ifs at hs ht with hsowner htowner
      · rw [hsowner, htowner]
      all_goals omega

theorem depthOf_of_acquire (h : m.acquire t = some m') :
    m'.depthOf = Function.update m.depthOf t (m.depthOf t + 1) := by
  funext s
  cases m with
  | free =>
      cases h
      by_cases hs : s = t
      · simp [hs, depthOf]
      · simp [hs, depthOf]
  | held owner again =>
      obtain ⟨rfl, h⟩ := Option.ite_none_right_eq_some.mp h
      cases h
      by_cases hs : s = t
      · simp [hs, depthOf_held]
      · simp [hs, depthOf_held]

theorem release_eq_some_iff : m.release t = some m' ↔ m'.acquire t = some m := by
  cases m with
  | free =>
      cases m' with
      | free => simp [release, acquire]
      | held owner again => simp [release, acquire]
  | held owner again =>
      cases m' with
      | free =>
          cases again with
          | zero => simp [release, acquire, eq_comm]
          | succ again => simp [release, acquire]
      | held owner' again' =>
          cases again with
          | zero => simp [release, acquire]
          | succ again =>
              simp only [release, acquire, Option.ite_none_right_eq_some, Option.some.injEq,
                held.injEq, Nat.add_right_cancel_iff]
              constructor
              · rintro ⟨rfl, rfl, rfl⟩
                exact ⟨rfl, rfl, rfl⟩
              · rintro ⟨rfl, rfl, rfl⟩
                exact ⟨rfl, rfl, rfl⟩

theorem depthOf_of_release (h : m.release t = some m') :
    m.depthOf = Function.update m'.depthOf t (m'.depthOf t + 1) :=
  depthOf_of_acquire (release_eq_some_iff.mp h)

end Mutex

/-- The steps of one thread: on the mutex, or another one labelled by `A`. -/
inductive Act (A : Type) where
  | acquire
  | release
  | other (a : A)

/-- What one thread may do: how its own state goes on, and what its labelled
steps read from and write to the shared data. -/
structure Program (L G A : Type) where
  Local : L → Act A → L → Prop
  Shared : A → G → G → Prop

structure State (T L G : Type) where
  mutex : Mutex T
  shared : G
  threads : T → L

variable {T L G A : Type} [DecidableEq T]

def Program.Effect (P : Program L G A) (t : T) : Act A → State T L G → State T L G → Prop
  | .acquire, s, s' => s.mutex.acquire t = some s'.mutex ∧ s'.shared = s.shared
  | .release, s, s' => s.mutex.release t = some s'.mutex ∧ s'.shared = s.shared
  | .other a, s, s' => s'.mutex = s.mutex ∧ P.Shared a s.shared s'.shared

/-- Any number of threads run the program, one step of one thread at a time. -/
def Program.system (P : Program L G A) : LabelledSystem (State T L G) (T × Act A) where
  Step s l s' :=
    ∃ next, P.Local (s.threads l.1) l.2 next ∧ s'.threads = Function.update s.threads l.1 next ∧
      P.Effect l.1 l.2 s s'

/-- `holds` counts how often a thread in a given state holds the mutex. -/
structure Program.Counts (P : Program L G A) (holds : L → ℕ) : Prop where
  acquire : ∀ l l', P.Local l .acquire l' → holds l' = holds l + 1
  release : ∀ l l', P.Local l .release l' → holds l = holds l' + 1
  other : ∀ l a l', P.Local l (.other a) l' → holds l' = holds l

section

variable {P : Program L G A} {holds : L → ℕ} {s s' : State T L G} {ls : List (T × Act A)}

/-- The depth of the mutex is what the threads count. -/
def Agrees (holds : L → ℕ) (s : State T L G) : Prop :=
  s.mutex.depthOf = holds ∘ s.threads

theorem Agrees.step {l : T × Act A} (h : Agrees holds s) (hcounts : P.Counts holds)
    (hl : P.system.Step s l s') : Agrees holds s' := by
  obtain ⟨t, action⟩ := l
  obtain ⟨next, hlocal, hthreads, heffect⟩ := hl
  have hcomp : holds ∘ s'.threads = Function.update (holds ∘ s.threads) t (holds next) := by
    rw [hthreads, Function.comp_update]
  unfold Agrees at h ⊢
  cases action with
  | acquire =>
      rw [hcomp, Mutex.depthOf_of_acquire heffect.1, h, hcounts.acquire _ _ hlocal]
      rfl
  | release =>
      have hdepth := Mutex.depthOf_of_release heffect.1
      rw [h] at hdepth
      have hself : holds (s.threads t) = s'.mutex.depthOf t + 1 := by
        simpa using congrFun hdepth t
      have hnext : holds next = s'.mutex.depthOf t := by
        have hcount : holds (s.threads t) = holds next + 1 := hcounts.release _ _ hlocal
        omega
      rw [hcomp, hdepth, Function.update_idem, hnext, Function.update_eq_self]
  | other a =>
      rw [hcomp, heffect.1, h, hcounts.other _ _ _ hlocal]
      exact (Function.update_eq_self t (holds ∘ s.threads)).symm

theorem agrees_of_run (hcounts : P.Counts holds) (hrun : P.system.Run s ls s')
    (h : Agrees holds s) : Agrees holds s' :=
  hrun.invariant (fun _ s ↦ Agrees holds s) h fun _ _ _ _ _ ih hl ↦ ih.step hcounts hl

theorem Agrees.exclusive (h : Agrees holds s) {t u : T} (ht : 0 < holds (s.threads t))
    (hu : 0 < holds (s.threads u)) : t = u := by
  have hdepth : ∀ v, s.mutex.depthOf v = holds (s.threads v) := congrFun h
  apply s.mutex.eq_of_depthOf_pos
  · rwa [hdepth]
  · rwa [hdepth]

/-- `Knows l g`: what a thread in the state `l` has learned of the shared data.
A thread keeps what it knows as long as it holds the mutex, because nobody else
can change the data. -/
structure Program.Guards (P : Program L G A) (holds : L → ℕ) (Knows : L → G → Prop) : Prop where
  free : ∀ l g, holds l = 0 → Knows l g
  acquire : ∀ l l' g, P.Local l .acquire l' → Knows l g → Knows l' g
  release : ∀ l l' g, P.Local l .release l' → Knows l g → Knows l' g
  other : ∀ l a l' g g', P.Local l (.other a) l' → P.Shared a g g' → Knows l g → Knows l' g'
  write : ∀ l a l' g g', P.Local l (.other a) l' → P.Shared a g g' → g' ≠ g → 0 < holds l

theorem Program.Guards.step {Knows : L → G → Prop} {l : T × Act A}
    (hguards : P.Guards holds Knows) (hagrees : Agrees holds s)
    (h : ∀ t, Knows (s.threads t) s.shared) (hl : P.system.Step s l s') :
    ∀ t, Knows (s'.threads t) s'.shared := by
  obtain ⟨t, action⟩ := l
  obtain ⟨next, hlocal, hthreads, heffect⟩ := hl
  intro u
  rw [hthreads]
  by_cases hu : u = t
  · subst hu
    rw [Function.update_self]
    cases action with
    | acquire =>
        rw [heffect.2]
        exact hguards.acquire _ _ _ hlocal (h u)
    | release =>
        rw [heffect.2]
        exact hguards.release _ _ _ hlocal (h u)
    | other a => exact hguards.other _ _ _ _ _ hlocal heffect.2 (h u)
  · rw [Function.update_of_ne hu]
    cases action with
    | acquire | release =>
        rw [heffect.2]
        exact h u
    | other a =>
        by_cases hsame : s'.shared = s.shared
        · rw [hsame]
          exact h u
        -- the writer holds the mutex, so this thread does not
        · have hwriter := hguards.write _ _ _ _ _ hlocal heffect.2 hsame
          apply hguards.free
          by_contra hholds
          exact hu (hagrees.exclusive (Nat.pos_of_ne_zero hholds) hwriter)

theorem knows_of_run {Knows : L → G → Prop} (hcounts : P.Counts holds)
    (hguards : P.Guards holds Knows) (hrun : P.system.Run s ls s') (hagrees : Agrees holds s)
    (h : ∀ t, Knows (s.threads t) s.shared) : ∀ t, Knows (s'.threads t) s'.shared := by
  refine hrun.invariant (fun _ s ↦ ∀ t, Knows (s.threads t) s.shared) h ?_
  intro _ u l v hrun ih hl
  exact hguards.step (agrees_of_run hcounts hrun hagrees) ih hl

end

end RecursiveMutex
