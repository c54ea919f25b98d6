import Mathlib.Algebra.Order.Ring.Cast
import Mathlib.Data.Int.CharZero
import Mathlib.Order.Bounds.Basic
import Ztcpp.Library.Interaction

/-!
# Programs and waits in time

A program runs against a service that also says when each call returns, if it
ever does.  A wait with a timeout ends at the first of a set of instants, or
when the time has passed; a negative timeout is no timeout.
-/

namespace Interaction

inductive Ending (τ α : Type) where
  | returned (time : τ) (a : α)
  | waiting
  | stopped

namespace Prog

variable {I : Interface} {τ α : Type}

/-- Run a program from the time `now` on; `none` is a call that never returns. -/
def timed (answer : τ → (c : I.Call) → Option (τ × I.Reply c)) : τ → Prog I α → Ending τ α
  | now, .ret a => .returned now a
  | _, .crash => .stopped
  | now, .call c next =>
      match answer now c with
      | none => .waiting
      | some (later, r) => (next r).timed answer later

variable {answer : τ → (c : I.Call) → Option (τ × I.Reply c)} {now later : τ} {c : I.Call}

@[simp] theorem timed_ret (a : α) :
    (Prog.ret a : Prog I α).timed answer now = .returned now a := rfl

theorem timed_call_of_some {next : I.Reply c → Prog I α} {r : I.Reply c}
    (h : answer now c = some (later, r)) :
    (Prog.call c next).timed answer now = (next r).timed answer later := by
  simp only [timed, h]

theorem timed_call_of_none {next : I.Reply c → Prog I α} (h : answer now c = none) :
    (Prog.call c next).timed answer now = .waiting := by
  simp only [timed, h]

end Prog

end Interaction

namespace Waiting

/-- How a wait ends. -/
inductive Wait (τ : Type) where
  | ready (s : τ)
  | timedOut (s : τ)
  | forever

def Wait.time? {τ : Type} : Wait τ → Option τ
  | .ready s | .timedOut s => some s
  | .forever => none

variable {τ : Type} [Ring τ] [LinearOrder τ]

/-- The first instant of `A` is `s`, and comes within the timeout. -/
def InTime (A : Set τ) (now : τ) (timeout : ℤ) (s : τ) : Prop :=
  IsLeast A s ∧ (timeout < 0 ∨ s ≤ now + timeout)

inductive Waits (A : Set τ) (now : τ) (timeout : ℤ) : Wait τ → Prop where
  | ready (s : τ) (h : InTime A now timeout s) : Waits A now timeout (.ready s)
  | timedOut (h : ∀ s, ¬ InTime A now timeout s) (hnonneg : 0 ≤ timeout) :
      Waits A now timeout (.timedOut (now + timeout))
  | forever (h : ∀ s, ¬ InTime A now timeout s) (hneg : timeout < 0) : Waits A now timeout .forever

variable {A : Set τ} {now s : τ} {m n : ℤ} {v w : Wait τ}

theorem exists_waits (A : Set τ) (now : τ) (n : ℤ) : ∃ w, Waits A now n w := by
  by_cases hready : ∃ s, InTime A now n s
  · obtain ⟨s, hs⟩ := hready
    exact ⟨_, .ready s hs⟩
  · have hlate : ∀ s, ¬ InTime A now n s := fun s hs ↦ hready ⟨s, hs⟩
    rcases lt_or_ge n 0 with hn | hn
    · exact ⟨_, .forever hlate hn⟩
    · exact ⟨_, .timedOut hlate hn⟩

/-- Waits for the same instants with different timeouts end alike once they
end at the same time. -/
theorem Waits.eq_of_time?_eq (hv : Waits A now m v) (hw : Waits A now n w)
    (h : v.time? = w.time?) : v = w := by
  cases hv with
  | ready s hs =>
      cases hw with
      | ready s' hs' => rw [hs.1.unique hs'.1]
      | timedOut hlate hn =>
          -- the instant is the end of the second timeout, so not late for it
          obtain rfl : s = now + n := Option.some.inj h
          exact absurd ⟨hs.1, .inr le_rfl⟩ (hlate _)
      | forever => cases h
  | timedOut hlate hm =>
      cases hw with
      | ready s' hs' =>
          obtain rfl : now + m = s' := Option.some.inj h
          exact absurd ⟨hs'.1, .inr le_rfl⟩ (hlate _)
      | timedOut => rw [Option.some.inj h]
      | forever => cases h
  | forever =>
      cases hw with
      | ready | timedOut => cases h
      | forever => rfl

theorem Waits.unique (hv : Waits A now n v) (hw : Waits A now n w) : v = w := by
  apply hv.eq_of_time?_eq hw
  cases hv with
  | ready s hs =>
      cases hw with
      | ready s' hs' => rw [hs.1.unique hs'.1]
      | timedOut hlate | forever hlate => exact absurd hs (hlate s)
  | timedOut hlate hnonneg =>
      cases hw with
      | ready s' hs' => exact absurd hs' (hlate s')
      | timedOut => rfl
      | forever _ hneg => exact absurd hneg (not_lt.mpr hnonneg)
  | forever hlate hneg =>
      cases hw with
      | ready s' hs' => exact absurd hs' (hlate s')
      | timedOut _ hnonneg => exact absurd hneg (not_lt.mpr hnonneg)
      | forever => rfl

/-- When two timeouts make no difference. -/
theorem exists_waits_both_iff [IsStrictOrderedRing τ] :
    (∃ w, Waits A now m w ∧ Waits A now n w) ↔
      m = n ∨ (m < 0 ∧ n < 0) ∨ ∃ s, InTime A now m s ∧ InTime A now n s := by
  constructor
  · rintro ⟨w, hm, hn⟩
    generalize hw : w = w' at hn
    cases hm with
    | ready s hs =>
        subst hw
        cases hn with
        | ready _ hs' => exact .inr (.inr ⟨s, hs, hs'⟩)
    | timedOut hlate hnonneg =>
        cases hn with
        | ready | forever => cases hw
        | timedOut =>
            left
            have htime := add_left_cancel (Wait.timedOut.inj hw)
            exact Int.cast_injective htime
    | forever hlate hneg =>
        subst hw
        cases hn with
        | forever _ hneg' => exact .inr (.inl ⟨hneg, hneg'⟩)
  · rintro (rfl | ⟨hm, hn⟩ | ⟨s, hm, hn⟩)
    · obtain ⟨w, hw⟩ := exists_waits A now m
      exact ⟨w, hw, hw⟩
    · by_cases hready : ∃ s, IsLeast A s
      · obtain ⟨s, hs⟩ := hready
        exact ⟨_, .ready s ⟨hs, .inl hm⟩, .ready s ⟨hs, .inl hn⟩⟩
      · exact ⟨_, .forever (fun s hs ↦ hready ⟨s, hs.1⟩) hm,
          .forever (fun s hs ↦ hready ⟨s, hs.1⟩) hn⟩
    · exact ⟨_, .ready s hm, .ready s hn⟩

end Waiting
