import Mathlib.Data.List.Induction
import Mathlib.Logic.Function.Basic
import Ztcpp.Library.LabelledSystem

/-!
# Parties with a shared state

Each party steps on a state of its own together with one that all parties
share.  A run interleaves the steps of the parties in any order; the steps of
one party form a run of its own.  What is there at the end of a run, and was
not at its start, was put there by one of the steps.
-/

namespace LabelledSystem

section

variable {S L : Type} {M : LabelledSystem S L}

theorem Takes.snoc {s t u v : S} {ls : List L} {k l : L} (h : M.Takes s ls t u k)
    (hl : M.Step t l v) : M.Takes s (ls ++ [l]) v u k := by
  obtain ⟨before, after, w, rfl, hbefore, hk, hafter⟩ := h
  exact ⟨before, after ++ [l], w, by simp, hbefore, hk, .snoc hafter hl⟩

theorem takes_last {s t u : S} {ls : List L} {l : L} (h : M.Run s ls t) (hl : M.Step t l u) :
    M.Takes s (ls ++ [l]) u t l :=
  ⟨ls, [], u, rfl, h, hl, .nil⟩

/-- A property that begins to hold during a run begins to hold at a step. -/
theorem Run.exists_change {P : S → Prop} {s t : S} {ls : List L} (hrun : M.Run s ls t)
    (hs : ¬ P s) (ht : P t) :
    ∃ u l v, M.Takes s ls t u l ∧ M.Step u l v ∧ ¬ P u ∧ P v := by
  induction hrun with
  | nil => exact absurd ht hs
  | snoc hrun hlast ih =>
      rename_i ks u v k
      by_cases hu : P u
      · obtain ⟨w, l, w', htakes, hl, hw, hw'⟩ := ih hu
        exact ⟨w, l, w', htakes.snoc hlast, hl, hw, hw'⟩
      · exact ⟨u, k, v, takes_last hrun hlast, hlast, hu, ht⟩

end

variable {P L G K T : Type} [DecidableEq P]

/-- The parties `P`, each of which steps as `M` does. -/
def sharing (P : Type) [DecidableEq P] (M : LabelledSystem (L × G) K) :
    LabelledSystem ((P → L) × G) (P × K) where
  Step s l t :=
    ∃ next, M.Step (s.1 l.1, s.2) l.2 (next, t.2) ∧ t.1 = Function.update s.1 l.1 next

/-- The steps of the party `p`. -/
def labelsOf (p : P) (ls : List (P × K)) : List K :=
  ls.filterMap fun l ↦ if l.1 = p then some l.2 else none

@[simp] theorem labelsOf_nil (p : P) : labelsOf p ([] : List (P × K)) = [] := rfl

@[simp] theorem labelsOf_snoc_self (p : P) (ls : List (P × K)) (k : K) :
    labelsOf p (ls ++ [(p, k)]) = labelsOf p ls ++ [k] := by
  simp [labelsOf]

@[simp] theorem labelsOf_snoc_ne {p q : P} (h : q ≠ p) (ls : List (P × K)) (k : K) :
    labelsOf p (ls ++ [(q, k)]) = labelsOf p ls := by
  simp [labelsOf, h]

theorem labelsOf_snoc (p q : P) (ls : List (P × K)) (k : K) :
    labelsOf p (ls ++ [(q, k)]) = labelsOf p ls ++ if q = p then [k] else [] := by
  by_cases hqp : q = p
  · rw [hqp, labelsOf_snoc_self, if_pos rfl]
  · rw [labelsOf_snoc_ne hqp, if_neg hqp, List.append_nil]

variable {M : LabelledSystem (L × G) K} {N : LabelledSystem T K}

theorem labelsOf_append (p : P) (ls ks : List (P × K)) :
    labelsOf p (ls ++ ks) = labelsOf p ls ++ labelsOf p ks := List.filterMap_append

theorem labelsOf_append_cons_self (p : P) (before after : List (P × K)) (k : K) :
    labelsOf p (before ++ (p, k) :: after) = labelsOf p before ++ k :: labelsOf p after := by
  simp [labelsOf]

theorem labelsOf_map_mk (p q : P) (ks : List K) :
    labelsOf p (ks.map fun k ↦ (q, k)) = if q = p then ks else [] := by
  induction ks using List.reverseRecOn with
  | nil => simp
  | append_singleton ks k ih =>
      rw [List.map_append, List.map_singleton, labelsOf_snoc, ih]
      split_ifs <;> simp

/-- A run of one party while the others wait. -/
theorem Run.of_party {s : (P → L) × G} {p : P} {ks : List K} {t : L × G}
    (h : M.Run (s.1 p, s.2) ks t) :
    (sharing P M).Run s (ks.map fun k ↦ (p, k)) (Function.update s.1 p t.1, t.2) := by
  induction h with
  | nil =>
      rw [Function.update_eq_self]
      exact .nil
  | snoc hrun hlast ih =>
      rename_i ks t u k
      rw [List.map_append]
      refine .snoc ih ⟨u.1, ?_, ?_⟩
      · change M.Step (Function.update s.1 p t.1 p, t.2) k u
        rw [Function.update_self]
        exact hlast
      · exact (Function.update_idem t.1 u.1 s.1).symm

/-- If `M` without the shared state is `N`, each party makes a run of `N`. -/
theorem Run.party (view : L → T)
    (hview : ∀ s l t, M.Step s l t → N.Step (view s.1) l (view t.1))
    {s t : (P → L) × G} {ls : List (P × K)} (h : (sharing P M).Run s ls t) (p : P) :
    N.Run (view (s.1 p)) (labelsOf p ls) (view (t.1 p)) := by
  induction h with
  | nil => exact .nil
  | snoc hrun hlast ih =>
      rename_i ks u v l
      obtain ⟨q, k⟩ := l
      obtain ⟨next, hstep, hnext⟩ := hlast
      by_cases hqp : q = p
      · subst hqp
        rw [labelsOf_snoc_self, hnext, Function.update_self]
        exact .snoc ih (hview _ _ _ hstep)
      · rw [labelsOf_snoc_ne hqp, hnext, Function.update_of_ne (Ne.symm hqp)]
        exact ih

end LabelledSystem
