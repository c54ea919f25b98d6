import Ztcpp.Library.Interaction

/-!
# Programs in lockstep

Two programs are in lockstep when they make the same calls, whatever the
replies, and return related results.  What one of them does with some replies
the other does with the same replies.
-/

namespace Interaction

variable {I : Interface} {α β γ δ : Type}

inductive Lockstep (R : α → β → Prop) : Prog I α → Prog I β → Prop where
  | ret {a : α} {b : β} (h : R a b) : Lockstep R (.ret a) (.ret b)
  | crash : Lockstep R .crash .crash
  | call (c : I.Call) {p : I.Reply c → Prog I α} {q : I.Reply c → Prog I β}
      (h : ∀ r, Lockstep R (p r) (q r)) : Lockstep R (.call c p) (.call c q)

namespace Lockstep

variable {R : α → β → Prop} {Q : γ → δ → Prop} {p : Prog I α} {q : Prog I β}

theorem refl {R : α → α → Prop} (h : ∀ a, R a a) (p : Prog I α) : Lockstep R p p := by
  induction p with
  | ret a => exact .ret (h a)
  | crash => exact .crash
  | call c next ih => exact .call c ih

theorem bind {f : α → Prog I γ} {g : β → Prog I δ} (h : Lockstep R p q)
    (hf : ∀ a b, R a b → Lockstep Q (f a) (g b)) : Lockstep Q (p >>= f) (q >>= g) := by
  induction h with
  | ret hab => exact hf _ _ hab
  | crash => exact .crash
  | call c _ ih => exact .call c ih

theorem ite {c : Prop} [Decidable c] {p' : Prog I α} {q' : Prog I β}
    (h : c → Lockstep R p q) (h' : ¬ c → Lockstep R p' q') :
    Lockstep R (if c then p else p') (if c then q else q') := by
  by_cases hc : c
  · rw [if_pos hc, if_pos hc]
    exact h hc
  · rw [if_neg hc, if_neg hc]
    exact h' hc

theorem runs (h : Lockstep R p q) {es : List (Event I)} {a : α} (hp : p.Runs es a) :
    ∃ b, q.Runs es b ∧ R a b := by
  induction h generalizing es with
  | ret hab =>
      obtain ⟨rfl, rfl⟩ := hp
      exact ⟨_, ⟨rfl, rfl⟩, hab⟩
  | crash => exact hp.elim
  | call c _ ih =>
      obtain ⟨r, rest, rfl, hrest⟩ := hp
      obtain ⟨b, hb, hab⟩ := ih r hrest
      exact ⟨b, ⟨r, rest, rfl, hb⟩, hab⟩

end Lockstep

end Interaction
