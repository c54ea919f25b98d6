import Mathlib.Algebra.Order.BigOperators.Group.Finset
import Ztcpp.Library.RecursiveMutex

/-!
# Threads that finish what they began

Some of a program's labelled steps begin something new, for which a bounded
number of steps is due.  When every other step brings its thread closer to
rest, and a thread that is not at rest has such a step whatever the shared data
are, then no schedule gets stuck before all threads are at rest, and its length
is bounded by what is due at its start and what it begins.
-/

namespace RecursiveMutex

variable {T L G A : Type}

/-- Whether the step begins something new. -/
def Act.begins (begins : A → Bool) : Act A → Bool
  | .acquire | .release => false
  | .other a => begins a

/-- `work` counts the steps that a thread still has to take, at most `cost` for
what it begins, and `Good` are the states in which it can take them. -/
structure Program.Finishes (P : Program L G A) (holds : L → ℕ) (begins : A → Bool)
    (Good : L → Prop) (work : L → ℕ) (cost : ℕ) : Prop where
  rest : ∀ l, work l = 0 → holds l = 0
  decreases : ∀ l a l', P.Local l a l' → a.begins begins = false → work l' < work l
  charged : ∀ l a l', P.Local l a l' → a.begins begins = true → work l' ≤ work l + cost
  enabled : ∀ l g, Good l → work l ≠ 0 →
    ∃ a l', P.Local l a l' ∧ a.begins begins = false ∧ ∀ b, a = .other b → ∃ g', P.Shared b g g'

namespace Mutex

variable [DecidableEq T] {m : Mutex T} {t : T}

theorem exists_acquire (h : ∀ u, 0 < m.depthOf u → u = t) : ∃ m', m.acquire t = some m' := by
  cases m with
  | free => exact ⟨_, rfl⟩
  | held owner again =>
      obtain rfl : owner = t := by
        apply h
        rw [depthOf_held, if_pos rfl]
        exact Nat.succ_pos again
      exact ⟨_, if_pos rfl⟩

theorem exists_release (h : 0 < m.depthOf t) : ∃ m', m.release t = some m' := by
  cases m with
  | free => exact absurd h (Nat.lt_irrefl 0)
  | held owner again =>
      rw [depthOf_held] at h
      split_ifs at h with howner
      · cases again with
        | zero => exact ⟨_, if_pos howner⟩
        | succ again => exact ⟨_, if_pos howner⟩
      · exact absurd h (Nat.lt_irrefl 0)

theorem eq_free_of_depthOf (h : ∀ u, m.depthOf u = 0) : m = .free := by
  cases m with
  | free => rfl
  | held owner again =>
      have howner := h owner
      rw [depthOf_held, if_pos rfl] at howner
      exact absurd howner (Nat.succ_ne_zero again)

end Mutex

section

variable [DecidableEq T] {P : Program L G A} {holds : L → ℕ} {begins : A → Bool}
  {Good : L → Prop} {work : L → ℕ} {cost : ℕ} {s s' : State T L G} {ls : List (T × Act A)} {t : T}

/-- A thread takes a step of its own, once the mutex lets it. -/
theorem Program.Finishes.exists_step_of_owner (h : P.Finishes holds begins Good work cost)
    (hcounts : P.Counts holds) (hagrees : Agrees holds s) (hgood : Good (s.threads t))
    (hwork : work (s.threads t) ≠ 0) (howner : ∀ u, 0 < holds (s.threads u) → u = t) :
    ∃ a s', P.system.Step s (t, a) s' ∧ a.begins begins = false := by
  obtain ⟨a, next, hlocal, hcontinues, hshared⟩ := h.enabled (s.threads t) s.shared hgood hwork
  have hdepth : ∀ u, s.mutex.depthOf u = holds (s.threads u) := congrFun hagrees
  have hstep : ∀ m g, P.Effect t a s ⟨m, g, Function.update s.threads t next⟩ →
      ∃ a s', P.system.Step s (t, a) s' ∧ a.begins begins = false :=
    fun m g heffect ↦ ⟨a, ⟨m, g, _⟩, ⟨next, hlocal, rfl, heffect⟩, hcontinues⟩
  cases a with
  | acquire =>
      obtain ⟨m, hm⟩ := s.mutex.exists_acquire (t := t) fun u hu ↦ howner u (hdepth u ▸ hu)
      exact hstep m s.shared ⟨hm, rfl⟩
  | release =>
      have hpos : 0 < s.mutex.depthOf t := by
        rw [hdepth, hcounts.release _ _ hlocal]
        exact Nat.succ_pos _
      obtain ⟨m, hm⟩ := Mutex.exists_release hpos
      exact hstep m s.shared ⟨hm, rfl⟩
  | other b =>
      obtain ⟨g, hg⟩ := hshared b rfl
      exact hstep s.mutex g ⟨rfl, hg⟩

/-- No deadlock: while a thread is not at rest, some thread can go on. -/
theorem Program.Finishes.exists_step (h : P.Finishes holds begins Good work cost)
    (hcounts : P.Counts holds) (hagrees : Agrees holds s) (hgood : ∀ t, Good (s.threads t))
    (hwork : work (s.threads t) ≠ 0) :
    ∃ l s', P.system.Step s l s' ∧ l.2.begins begins = false := by
  have hnext : ∃ u, work (s.threads u) ≠ 0 ∧ ∀ v, 0 < holds (s.threads v) → v = u := by
    by_cases hheld : ∃ u, 0 < holds (s.threads u)
    · -- the owner of the mutex waits for nobody
      obtain ⟨u, hu⟩ := hheld
      exact ⟨u, fun hrest ↦ hu.ne' (h.rest _ hrest), fun v hv ↦ hagrees.exclusive hv hu⟩
    · exact ⟨t, hwork, fun v hv ↦ absurd ⟨v, hv⟩ hheld⟩
  obtain ⟨u, hu, howner⟩ := hnext
  obtain ⟨a, s', hstep, hcontinues⟩ :=
    h.exists_step_of_owner hcounts hagrees (hgood u) hu howner
  exact ⟨(u, a), s', hstep, hcontinues⟩

/-- No livelock: each step uses up work of the threads in `F`, or begins
something that is charged for. -/
theorem Program.Finishes.length_add_work_le (h : P.Finishes holds begins Good work cost)
    {F : Finset T} (hF : ∀ l ∈ ls, l.1 ∈ F) (hrun : P.system.Run s ls s') :
    ls.length + ∑ t ∈ F, work (s'.threads t) ≤
      ∑ t ∈ F, work (s.threads t) + (cost + 1) * ls.countP (·.2.begins begins) := by
  refine hrun.invariant (fun ls u ↦ (∀ l ∈ ls, l.1 ∈ F) →
    ls.length + ∑ t ∈ F, work (u.threads t) ≤
      ∑ t ∈ F, work (s.threads t) + (cost + 1) * ls.countP (·.2.begins begins)) (by simp) ?_ hF
  rintro ls u ⟨a, action⟩ v - ih ⟨next, hlocal, hthreads, -⟩ hmem
  have hle := ih fun l hl ↦ hmem l (List.mem_append_left _ hl)
  have ha : a ∈ F := hmem (a, action) (List.mem_append_right _ List.mem_cons_self)
  -- only the thread of the step has other work than before
  have hrest : ∑ t ∈ F.erase a, work (v.threads t) = ∑ t ∈ F.erase a, work (u.threads t) := by
    apply Finset.sum_congr rfl
    intro t ht
    rw [hthreads, Function.update_of_ne (Finset.ne_of_mem_erase ht)]
  have hself : v.threads a = next := by rw [hthreads, Function.update_self]
  rw [← Finset.add_sum_erase F (fun t ↦ work (u.threads t)) ha] at hle
  rw [← Finset.add_sum_erase F (fun t ↦ work (v.threads t)) ha, hrest, hself,
    List.length_append, List.length_singleton, List.countP_append, List.countP_singleton]
  cases hbegins : action.begins begins with
  | false =>
      have hless : work next < work (u.threads a) := h.decreases _ _ _ hlocal hbegins
      simp only [Bool.false_eq_true, if_false, Nat.add_zero]
      omega
  | true =>
      have hcharged : work next ≤ work (u.threads a) + cost := h.charged _ _ _ hlocal hbegins
      simp only [if_true, Nat.mul_add, Nat.mul_one]
      omega

theorem threads_eq_of_notMem (hrun : P.system.Run s ls s') (ht : t ∉ ls.map Prod.fst) :
    s'.threads t = s.threads t := by
  refine hrun.invariant (fun ls u ↦ t ∉ ls.map Prod.fst → u.threads t = s.threads t)
    (fun _ ↦ rfl) ?_ ht
  rintro ls u ⟨a, action⟩ v - ih ⟨next, -, hthreads, -⟩ hnot
  rw [List.map_append, List.mem_append, not_or] at hnot
  have hne : t ≠ a := by
    rintro rfl
    exact hnot.2 (List.mem_singleton.mpr rfl)
  rw [hthreads, Function.update_of_ne hne]
  exact ih hnot.1

end

end RecursiveMutex
