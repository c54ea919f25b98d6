import Mathlib.Data.Set.Insert
import Mathlib.Logic.Function.Basic
import Ztcpp.Library.LabelledSystem

/-!
# Owners of numbered resources

Owners are given resources, use them and release them.  A provider hands out
only resources that are not in use, and may hand out a released one again.
An owner that is given a second resource, or is refused one, forgets the first
without releasing it.  Whatever the order of the actions, no two owners hold
one resource, and who acts on a resource was given it and has kept it since.
-/

namespace Ownership

variable {A R : Type}

structure State (A R : Type) where
  held : A → Set R
  /-- The resources that were handed out and not released since. -/
  live : Set R

inductive Act (A R : Type) where
  | grant (a : A) (r : R)
  | use (a : A) (r : R)
  | release (a : A) (r : R)
  | forget (a : A)

namespace Act

def ActsOn : Act A R → A → R → Prop
  | .use a r, b, s | .release a r, b, s => a = b ∧ r = s
  | .grant .., _, _ | .forget _, _, _ => False

def Transfers : Act A R → R → Prop
  | .grant _ r, s | .release _ r, s => r = s
  | .use .., _ | .forget _, _ => False

end Act

variable [DecidableEq A]

inductive Step (s : State A R) : Act A R → State A R → Prop where
  | grant (a : A) (r : R) (h : r ∉ s.live) :
      Step s (.grant a r) ⟨Function.update s.held a {r}, insert r s.live⟩
  | use (a : A) (r : R) (h : r ∈ s.held a) : Step s (.use a r) s
  | release (a : A) (r : R) (h : r ∈ s.held a) :
      Step s (.release a r) ⟨Function.update s.held a ∅, s.live \ {r}⟩
  | forget (a : A) : Step s (.forget a) ⟨Function.update s.held a ∅, s.live⟩

def system : LabelledSystem (State A R) (Act A R) where
  Step := Step

/-- In this history `a` was given `r`, and since then `r` was neither released
nor handed out again. -/
def Given (history : List (Act A R)) (a : A) (r : R) : Prop :=
  ∃ before after, history = before ++ .grant a r :: after ∧
    ∀ action ∈ after, ¬ action.Transfers r

omit [DecidableEq A] in
theorem given_grant (history : List (Act A R)) (a : A) (r : R) :
    Given (history ++ [.grant a r]) a r := by
  refine ⟨history, [], rfl, ?_⟩
  simp

omit [DecidableEq A] in
theorem Given.snoc {history : List (Act A R)} {a : A} {r : R} (h : Given history a r)
    {action : Act A R} (haction : ¬ action.Transfers r) :
    Given (history ++ [action]) a r := by
  obtain ⟨before, after, rfl, hafter⟩ := h
  refine ⟨before, after ++ [action], by simp, ?_⟩
  intro x hx
  rcases List.mem_append.mp hx with hx | hx
  · exact hafter x hx
  · rwa [List.mem_singleton.mp hx]

/-- What holds of owners and resources after the actions of `history`. -/
structure Sound (history : List (Act A R)) (s : State A R) : Prop where
  exclusive : ∀ a b r, r ∈ s.held a → r ∈ s.held b → a = b
  single : ∀ a r q, r ∈ s.held a → q ∈ s.held a → r = q
  live : ∀ a r, r ∈ s.held a → r ∈ s.live
  given : ∀ a r, r ∈ s.held a → Given history a r

theorem mem_update_empty {f : A → Set R} {a b : A} {r : R} :
    r ∈ Function.update f a ∅ b ↔ b ≠ a ∧ r ∈ f b := by
  by_cases hb : b = a
  · subst hb
    simp
  · simp [hb]

theorem mem_update_singleton {f : A → Set R} {a b : A} {r s : R} :
    s ∈ Function.update f a {r} b ↔ (b = a ∧ s = r) ∨ (b ≠ a ∧ s ∈ f b) := by
  by_cases hb : b = a
  · subst hb
    simp
  · simp [hb]

omit [DecidableEq A] in
/-- An action after which owners hold nothing new keeps a history sound, if it
leaves what they still hold alone. -/
theorem Sound.of_subset {history : List (Act A R)} {s t : State A R} {action : Act A R}
    (h : Sound history s) (hheld : ∀ a r, r ∈ t.held a → r ∈ s.held a)
    (hlive : ∀ a r, r ∈ t.held a → r ∈ t.live)
    (haction : ∀ a r, r ∈ t.held a → ¬ action.Transfers r) : Sound (history ++ [action]) t where
  exclusive a b r ha hb := h.exclusive a b r (hheld a r ha) (hheld b r hb)
  single a r q hr hq := h.single a r q (hheld a r hr) (hheld a q hq)
  live := hlive
  given a r hr := (h.given a r (hheld a r hr)).snoc (haction a r hr)

theorem Sound.step {history : List (Act A R)} {s t : State A R} {action : Act A R}
    (h : Sound history s) (hstep : Step s action t) : Sound (history ++ [action]) t := by
  cases hstep with
  | grant a r hr =>
      refine ⟨?_, ?_, ?_, ?_⟩
      · intro b c q hb hc
        rcases mem_update_singleton.mp hb with ⟨rfl, rfl⟩ | ⟨-, holdb⟩
        · rcases mem_update_singleton.mp hc with ⟨rfl, -⟩ | ⟨-, holdc⟩
          · rfl
          · exact absurd (h.live c q holdc) hr
        · rcases mem_update_singleton.mp hc with ⟨-, rfl⟩ | ⟨-, holdc⟩
          · exact absurd (h.live b q holdb) hr
          · exact h.exclusive b c q holdb holdc
      · intro b q q' hb hc
        rcases mem_update_singleton.mp hb with ⟨rfl, rfl⟩ | ⟨hne, holdb⟩
        · rcases mem_update_singleton.mp hc with ⟨-, rfl⟩ | ⟨hne, -⟩
          · rfl
          · exact absurd rfl hne
        · rcases mem_update_singleton.mp hc with ⟨heq, -⟩ | ⟨-, holdc⟩
          · exact absurd heq hne
          · exact h.single b q q' holdb holdc
      · intro b q hb
        rcases mem_update_singleton.mp hb with ⟨-, rfl⟩ | ⟨-, hb⟩
        · exact Set.mem_insert q s.live
        · exact Set.mem_insert_of_mem r (h.live b q hb)
      · intro b q hb
        rcases mem_update_singleton.mp hb with ⟨rfl, rfl⟩ | ⟨-, hb⟩
        · exact given_grant history b q
        · apply (h.given b q hb).snoc
          rintro rfl
          exact hr (h.live b r hb)
  | use a r hr =>
      exact h.of_subset (fun _ _ hb ↦ hb) h.live (fun _ _ _ ↦ id)
  | release a r hr =>
      -- nobody else holds what `a` gives up
      have hne : ∀ b q, q ∈ Function.update s.held a ∅ b → q ≠ r := by
        rintro b q hb rfl
        obtain ⟨hba, hold⟩ := mem_update_empty.mp hb
        exact hba (h.exclusive b a q hold hr)
      refine h.of_subset ?_ ?_ ?_
      · intro b q hb
        exact (mem_update_empty.mp hb).2
      · intro b q hb
        exact ⟨h.live b q (mem_update_empty.mp hb).2, hne b q hb⟩
      · intro b q hb
        exact (hne b q hb).symm
  | forget a =>
      refine h.of_subset ?_ ?_ ?_
      · intro b q hb
        exact (mem_update_empty.mp hb).2
      · intro b q hb
        exact h.live b q (mem_update_empty.mp hb).2
      · exact fun _ _ _ ↦ id

section

variable {live : Set R} {history : List (Act A R)} {s : State A R}

theorem sound_of_run (h : system.Run ⟨fun _ ↦ ∅, live⟩ history s) : Sound history s := by
  refine LabelledSystem.Run.invariant Sound h ?_ ?_
  · exact ⟨fun _ _ _ hr ↦ hr.elim, fun _ _ _ hr ↦ hr.elim, fun _ _ hr ↦ hr.elim,
      fun _ _ hr ↦ hr.elim⟩
  · intro history t action u _ hsound hstep
    exact hsound.step hstep

/-- Who acts on a resource was given it, and it has not changed hands since. -/
theorem given_of_actsOn (h : system.Run ⟨fun _ ↦ ∅, live⟩ history s)
    {before after : List (Act A R)} {action : Act A R} {a : A} {r : R}
    (hsplit : history = before ++ action :: after) (hacts : action.ActsOn a r) :
    Given before a r := by
  subst hsplit
  obtain ⟨t, hbefore, hafter⟩ := LabelledSystem.run_append_iff.mp h
  obtain ⟨u, hstep, -⟩ := LabelledSystem.run_cons_iff.mp hafter
  have hgiven := (sound_of_run hbefore).given a r
  cases hstep with
  | grant | forget => exact hacts.elim
  | use b q hr | release b q hr =>
      obtain ⟨rfl, rfl⟩ := hacts
      exact hgiven hr

omit [DecidableEq A] in
theorem Given.grant_after_release {first second : List (Act A R)} {a b : A} {r : R}
    (h : Given (first ++ .release a r :: second) b r) : .grant b r ∈ second := by
  obtain ⟨before, after, hsplit, hafter⟩ := h
  rcases List.append_eq_append_iff.mp hsplit with ⟨m, rfl, hm⟩ | ⟨m, rfl, hm⟩
  · cases m with
    | nil => simp at hm
    | cons x m =>
        obtain ⟨-, rfl⟩ := List.cons.inj hm
        simp
  · cases m with
    | nil => simp at hm
    | cons x m =>
        obtain ⟨-, rfl⟩ := List.cons.inj hm
        exact absurd rfl (hafter (.release a r) (by simp))

/-- No resource is released twice without being handed out in between. -/
theorem grant_between_releases (h : system.Run ⟨fun _ ↦ ∅, live⟩ history s)
    {first second third : List (Act A R)} {a b : A} {r : R}
    (hsplit : history = first ++ .release a r :: second ++ .release b r :: third) :
    .grant b r ∈ second :=
  (given_of_actsOn h hsplit ⟨rfl, rfl⟩).grant_after_release

end

omit [DecidableEq A] in
/-- What was given by the end of a block was given in the block, or before it
and not transferred by it. -/
theorem Given.of_append {history block : List (Act A R)} {a : A} {r : R}
    (h : Given (history ++ block) a r) :
    .grant a r ∈ block ∨ (Given history a r ∧ ∀ action ∈ block, ¬ action.Transfers r) := by
  obtain ⟨before, after, hsplit, hafter⟩ := h
  rcases List.append_eq_append_iff.mp hsplit with ⟨m, rfl, rfl⟩ | ⟨m, rfl, hm⟩
  · exact .inl (by simp)
  · cases m with
    | nil =>
        rw [List.nil_append] at hm
        rw [← hm]
        exact .inl List.mem_cons_self
    | cons action m =>
        obtain ⟨rfl, rfl⟩ := List.cons.inj hm
        refine .inr ⟨⟨before, m, rfl, ?_⟩, ?_⟩
        · exact fun x hx ↦ hafter x (List.mem_append_left block hx)
        · exact fun x hx ↦ hafter x (List.mem_append_right m hx)

/-! ## Owners among others -/

section

variable {B : Type} [DecidableEq B]

def Act.mapOwner (f : A → B) : Act A R → Act B R
  | .grant a r => .grant (f a) r
  | .use a r => .use (f a) r
  | .release a r => .release (f a) r
  | .forget a => .forget (f a)

theorem Step.mapOwner {f : A → B} (hf : Function.Injective f) (held : B → Set R) {live : Set R}
    {action : Act A R} {t : State A R} (h : Step ⟨fun a ↦ held (f a), live⟩ action t) :
    ∃ held', Step ⟨held, live⟩ (action.mapOwner f) ⟨held', t.live⟩ ∧
      (fun a ↦ held' (f a)) = t.held ∧ ∀ b, (∀ a, f a ≠ b) → held' b = held b := by
  have hother : ∀ a b (x : Set R), (∀ c, f c ≠ b) → Function.update held (f a) x b = held b :=
    fun a b x hb ↦ Function.update_of_ne (hb a).symm x held
  cases h with
  | grant a r hr =>
      exact ⟨_, .grant (f a) r hr, Function.update_comp_eq_of_injective held hf a {r},
        fun b hb ↦ hother a b _ hb⟩
  | use a r hr => exact ⟨held, .use (f a) r hr, rfl, fun _ _ ↦ rfl⟩
  | release a r hr =>
      exact ⟨_, .release (f a) r hr, Function.update_comp_eq_of_injective held hf a ∅,
        fun b hb ↦ hother a b _ hb⟩
  | forget a =>
      exact ⟨_, .forget (f a), Function.update_comp_eq_of_injective held hf a ∅,
        fun b hb ↦ hother a b _ hb⟩

/-- A run of some owners is a run of them among others, who wait. -/
theorem run_mapOwner {f : A → B} (hf : Function.Injective f) (held : B → Set R) {live : Set R}
    {history : List (Act A R)} {t : State A R}
    (h : system.Run ⟨fun a ↦ held (f a), live⟩ history t) :
    ∃ held', system.Run ⟨held, live⟩ (history.map (Act.mapOwner f)) ⟨held', t.live⟩ ∧
      (fun a ↦ held' (f a)) = t.held ∧ ∀ b, (∀ a, f a ≠ b) → held' b = held b := by
  induction h with
  | nil => exact ⟨held, .nil, rfl, fun _ _ ↦ rfl⟩
  | snoc hrun hlast ih =>
      obtain ⟨mid, hmid, heq, hothers⟩ := ih
      rename_i history s t action
      have hmapped : Step ⟨fun a ↦ mid (f a), s.live⟩ action t := by
        rw [heq]
        exact hlast
      obtain ⟨last, hstep, hlast, hrest⟩ := hmapped.mapOwner hf mid
      refine ⟨last, ?_, hlast, fun b hb ↦ (hrest b hb).trans (hothers b hb)⟩
      rw [List.map_append]
      exact .snoc hmid hstep

end

/-! ## Lost resources -/

/-- Every resource in use is held by someone. -/
def NoneLost (s : State A R) : Prop := ∀ r ∈ s.live, ∃ a, r ∈ s.held a

def Act.Keeps (s : State A R) : Act A R → Prop
  | .grant a _ | .forget a => s.held a = ∅
  | .use .. | .release .. => True

/-- A step loses a resource exactly when it makes an owner forget one. -/
theorem Sound.noneLost_step_iff {history : List (Act A R)} {s t : State A R}
    {action : Act A R} (h : Sound history s) (hs : NoneLost s) (hstep : Step s action t) :
    NoneLost t ↔ action.Keeps s := by
  cases hstep with
  | grant a r hr =>
      constructor
      · intro ht
        refine Set.eq_empty_iff_forall_notMem.mpr fun q hq ↦ ?_
        have hlive := h.live a q hq
        obtain ⟨b, hb⟩ := ht q (Set.mem_insert_of_mem r hlive)
        rcases mem_update_singleton.mp hb with ⟨-, rfl⟩ | ⟨hne, hb⟩
        · exact hr hlive
        · exact hne (h.exclusive b a q hb hq)
      · intro hempty q hq
        rcases hq with rfl | hq
        · exact ⟨a, mem_update_singleton.mpr (.inl ⟨rfl, rfl⟩)⟩
        · obtain ⟨b, hb⟩ := hs q hq
          refine ⟨b, mem_update_singleton.mpr (.inr ⟨?_, hb⟩)⟩
          rintro rfl
          exact (hempty ▸ hb : q ∈ (∅ : Set R))
  | use a r hr => exact ⟨fun _ ↦ trivial, fun _ ↦ hs⟩
  | release a r hr =>
      refine ⟨fun _ ↦ trivial, fun _ q hq ↦ ?_⟩
      obtain ⟨b, hb⟩ := hs q hq.1
      refine ⟨b, mem_update_empty.mpr ⟨?_, hb⟩⟩
      rintro rfl
      exact hq.2 (h.single b q r hb hr)
  | forget a =>
      constructor
      · intro ht
        refine Set.eq_empty_iff_forall_notMem.mpr fun q hq ↦ ?_
        obtain ⟨b, hb⟩ := ht q (h.live a q hq)
        obtain ⟨hne, hb⟩ := mem_update_empty.mp hb
        exact hne (h.exclusive b a q hb hq)
      · intro hempty q hq
        obtain ⟨b, hb⟩ := hs q hq
        refine ⟨b, mem_update_empty.mpr ⟨?_, hb⟩⟩
        rintro rfl
        exact (hempty ▸ hb : q ∈ (∅ : Set R))

end Ownership
