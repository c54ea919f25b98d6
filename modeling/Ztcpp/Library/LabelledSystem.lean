import Mathlib.Data.List.Induction
import Mathlib.Tactic.Common

/-!
# Labelled transition systems

A run is a finite sequence of labelled steps, extended at its end.  Invariants
may mention the labels read so far, so that a property of the whole history is
proved by the same one-step argument as a property of the current state.
-/

structure LabelledSystem (S L : Type) where
  Step : S → L → S → Prop

namespace LabelledSystem

variable {S L T K : Type} (M : LabelledSystem S L)

/-- `M.Run s ls t`: the steps labelled `ls` lead from `s` to `t`. -/
inductive Run (s : S) : List L → S → Prop where
  | nil : Run s [] s
  | snoc {ls : List L} {t u : S} {l : L} :
      Run s ls t → M.Step t l u → Run s (ls ++ [l]) u

variable {M}

@[simp] theorem run_nil_iff {s t : S} : M.Run s [] t ↔ t = s := by
  constructor
  · intro h
    generalize hls : ([] : List L) = ls at h
    cases h with
    | nil => rfl
    | snoc _ _ => simp at hls
  · rintro rfl
    exact .nil

theorem run_snoc_iff {s u : S} {ls : List L} {l : L} :
    M.Run s (ls ++ [l]) u ↔ ∃ t, M.Run s ls t ∧ M.Step t l u := by
  constructor
  · intro h
    generalize hks : ls ++ [l] = ks at h
    cases h with
    | nil => simp at hks
    | snoc hrun hstep =>
        obtain ⟨rfl, hl⟩ := List.append_inj' hks rfl
        obtain rfl : l = _ := List.singleton_inj.mp hl
        exact ⟨_, hrun, hstep⟩
  · rintro ⟨t, hrun, hstep⟩
    exact .snoc hrun hstep

theorem run_append_iff {s u : S} {ls ks : List L} :
    M.Run s (ls ++ ks) u ↔ ∃ t, M.Run s ls t ∧ M.Run t ks u := by
  induction ks using List.reverseRecOn generalizing u with
  | nil => simp
  | append_singleton ks k ih =>
      rw [← List.append_assoc, run_snoc_iff]
      constructor
      · rintro ⟨v, hrun, hstep⟩
        obtain ⟨t, hs, ht⟩ := ih.mp hrun
        exact ⟨t, hs, .snoc ht hstep⟩
      · rintro ⟨t, hs, hks⟩
        obtain ⟨v, ht, hstep⟩ := run_snoc_iff.mp hks
        exact ⟨v, ih.mpr ⟨t, hs, ht⟩, hstep⟩

theorem run_singleton_iff {s t : S} {l : L} : M.Run s [l] t ↔ M.Step s l t := by
  simpa using @run_snoc_iff S L M s t [] l

theorem run_cons_iff {s u : S} {l : L} {ls : List L} :
    M.Run s (l :: ls) u ↔ ∃ t, M.Step s l t ∧ M.Run t ls u := by
  simpa [run_singleton_iff] using @run_append_iff S L M s u [l] ls

/-- The invariant rule: what holds at the start and survives each step, with
the history extended by the step's label, holds after every run. -/
theorem Run.invariant {s t : S} {ls : List L} (P : List L → S → Prop) (hrun : M.Run s ls t)
    (hstart : P [] s)
    (hstep : ∀ ls t l u, M.Run s ls t → P ls t → M.Step t l u → P (ls ++ [l]) u) : P ls t := by
  induction hrun with
  | nil => exact hstart
  | snoc hrun hlast ih => exact hstep _ _ _ _ hrun ih hlast

def Visits (M : LabelledSystem S L) (s : S) (ls : List L) (t u : S) : Prop :=
  ∃ before after, ls = before ++ after ∧ M.Run s before u ∧ M.Run u after t

def Takes (M : LabelledSystem S L) (s : S) (ls : List L) (t u : S) (l : L) : Prop :=
  ∃ before after v, ls = before ++ l :: after ∧ M.Run s before u ∧ M.Step u l v ∧ M.Run v after t

/-- A property that each step keeps exactly under a condition holds throughout
a run exactly when all steps of the run meet the condition. -/
theorem Run.forall_visits_iff {P : S → Prop} {C : S → L → Prop} {s t : S} {ls : List L}
    (hrun : M.Run s ls t) (hstart : P s)
    (hstep : ∀ ks u l v, M.Run s ks u → P u → M.Step u l v → (P v ↔ C u l)) :
    (∀ u, M.Visits s ls t u → P u) ↔ ∀ u l, M.Takes s ls t u l → C u l := by
  constructor
  · rintro h u l ⟨before, after, v, rfl, hbefore, hl, hafter⟩
    have hu : P u := h u ⟨before, l :: after, rfl, hbefore, run_cons_iff.mpr ⟨v, hl, hafter⟩⟩
    have hv : P v := h v ⟨before ++ [l], after, by simp, .snoc hbefore hl, hafter⟩
    exact (hstep before u l v hbefore hu hl).mp hv
  · rintro h u ⟨before, after, hsplit, hbefore, hafter⟩
    induction hbefore generalizing after with
    | nil => exact hstart
    | snoc hks hl ih =>
        rename_i ks v u l
        have hsplit' : ls = ks ++ l :: after := by rw [hsplit, List.append_assoc]; rfl
        have hv : P v := ih (l :: after) hsplit' (run_cons_iff.mpr ⟨u, hl, hafter⟩)
        exact (hstep ks v l u hks hv hl).mpr (h v l ⟨ks, after, u, hsplit', hks, hl, hafter⟩)

def VisitsBefore (M : LabelledSystem S L) (s : S) (ls : List L) (t u : S) : Prop :=
  ∃ before after, ls = before ++ after ∧ after ≠ [] ∧ M.Run s before u ∧ M.Run u after t

/-- An invariant of the steps from states that meet a condition, along a run
that meets the condition up to its last step. -/
theorem Run.invariant_before {P C : S → Prop} {s t : S} {ls : List L} (hrun : M.Run s ls t)
    (hbefore : ∀ u, M.VisitsBefore s ls t u → C u) (hstart : P s)
    (hstep : ∀ u l v, M.Step u l v → C u → P u → P v) : P t := by
  induction hrun with
  | nil => exact hstart
  | snoc hrun hlast ih =>
      rename_i ls u v l
      have hu : P u := by
        apply ih
        rintro w ⟨before, after, rfl, hne, hw, hafter⟩
        apply hbefore
        exact ⟨before, after ++ [l], by simp, by simp, hw, .snoc hafter hlast⟩
      have hCu : C u :=
        hbefore u ⟨ls, [l], rfl, by simp, hrun, run_singleton_iff.mpr hlast⟩
      exact hstep u l v hlast hCu hu

/-- The steps of `M` that meet a condition. -/
def restrict (M : LabelledSystem S L) (C : S → L → Prop) : LabelledSystem S L where
  Step s l t := M.Step s l t ∧ C s l

theorem Run.of_restrict {C : S → L → Prop} {s t : S} {ls : List L}
    (hrun : (M.restrict C).Run s ls t) : M.Run s ls t := by
  induction hrun with
  | nil => exact .nil
  | snoc _ hlast ih => exact .snoc ih hlast.1

/-- A condition on steps follows from another one, along an invariant. -/
theorem Run.restrict_of {C D : S → L → Prop} {P : S → Prop} {s t : S} {ls : List L}
    (hrun : (M.restrict C).Run s ls t) (hstart : P s)
    (hstep : ∀ u l v, P u → M.Step u l v → C u l → P v ∧ D u l) : (M.restrict D).Run s ls t := by
  have hboth : P t ∧ (M.restrict D).Run s ls t := by
    induction hrun with
    | nil => exact ⟨hstart, .nil⟩
    | snoc _ hlast ih =>
        obtain ⟨hnext, hmeets⟩ := hstep _ _ _ ih.1 hlast.1 hlast.2
        exact ⟨hnext, ih.2.snoc ⟨hlast.1, hmeets⟩⟩
  exact hboth.2

/-- `N` can follow every step of `M`, relabelled by `f`, from related states. -/
def Simulates (M : LabelledSystem S L) (N : LabelledSystem T K) (f : L → K)
    (R : S → T → Prop) : Prop :=
  ∀ s t l s', R s t → M.Step s l s' → ∃ t', N.Step t (f l) t' ∧ R s' t'

theorem Simulates.run {N : LabelledSystem T K} {f : L → K} {R : S → T → Prop}
    (h : M.Simulates N f R) {s s' : S} {t : T} {ls : List L} (hR : R s t)
    (hrun : M.Run s ls s') : ∃ t', N.Run t (ls.map f) t' ∧ R s' t' := by
  induction hrun with
  | nil => exact ⟨t, .nil, hR⟩
  | snoc _ hlast ih =>
      obtain ⟨u, hu, hRu⟩ := ih
      obtain ⟨u', hu', hRu'⟩ := h _ _ _ _ hRu hlast
      refine ⟨u', ?_, hRu'⟩
      rw [List.map_append]
      exact .snoc hu hu'

/-! ## Histories -/

theorem filterMap_snoc (f : L → Option K) (ls : List L) (l : L) :
    (ls ++ [l]).filterMap f = ls.filterMap f ++ (f l).toList := by
  rw [List.filterMap_append]
  cases hf : f l <;> simp [hf]

/-- `M` with a history variable: each step appends what `record` reads off it. -/
def recording (M : LabelledSystem S L) (record : S → L → List K) :
    LabelledSystem (S × List K) L where
  Step s l t := M.Step s.1 l t.1 ∧ t.2 = s.2 ++ record s.1 l

theorem Run.recorded {s t : S} {ls : List L} (h : M.Run s ls t) (record : S → L → List K)
    (ks : List K) : ∃ js, (M.recording record).Run (s, ks) ls (t, js) := by
  induction h with
  | nil => exact ⟨ks, .nil⟩
  | snoc _ hlast ih =>
      obtain ⟨js, hjs⟩ := ih
      exact ⟨_, .snoc hjs ⟨hlast, rfl⟩⟩

theorem Run.of_recording {record : S → L → List K} {s t : S × List K} {ls : List L}
    (h : (M.recording record).Run s ls t) : M.Run s.1 ls t.1 := by
  induction h with
  | nil => exact .nil
  | snoc _ hlast ih => exact .snoc ih hlast.1

/-- If `N` can do what each step of `M` records, it can do the whole history. -/
theorem Run.simulated {N : LabelledSystem T K} {record : S → L → List K} {R : S → T → Prop}
    (hstep : ∀ s t l s', R s t → M.Step s l s' → ∃ t', N.Run t (record s l) t' ∧ R s' t')
    {s : S} {t : T} {ls : List L} {s' : S × List K} (hR : R s t)
    (h : (M.recording record).Run (s, []) ls s') : ∃ t', N.Run t s'.2 t' ∧ R s'.1 t' := by
  induction h with
  | nil => exact ⟨t, .nil, hR⟩
  | snoc _ hlast ih =>
      obtain ⟨u, hu, hRu⟩ := ih
      obtain ⟨u', hu', hRu'⟩ := hstep _ _ _ _ hRu hlast.1
      refine ⟨u', ?_, hRu'⟩
      rw [hlast.2]
      exact run_append_iff.mpr ⟨u, hu, hu'⟩

end LabelledSystem
