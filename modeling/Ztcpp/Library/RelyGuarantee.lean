import Ztcpp.Library.ProgramLogic

/-!
# What a program guarantees while it runs

A program that others run beside may be stopped between any two of its calls.
As long as the replies are those that it relies on, each call that it makes is
as it guarantees; the state is whatever the calls so far determine.  The calls
may be seen only in part, as labels.
-/

namespace Interaction

variable {I : Interface} {α β ε σ L : Type}

namespace Prog

/-- With the replies in `es`, these are the first calls that `p` makes. -/
def Begins : Prog I α → List (Event I) → Prop
  | .ret _, es => es = []
  | .crash, es => es = []
  | .call c next, es => es = [] ∨ ∃ r rest, es = ⟨c, r⟩ :: rest ∧ (next r).Begins rest

/-- The first `n` calls of `p`, with the replies that `answer` gives. -/
def first (answer : (c : I.Call) → I.Reply c) : ℕ → Prog I α → List (Event I)
  | n + 1, .call c next => ⟨c, answer c⟩ :: (next (answer c)).first answer n
  | _, _ => []

theorem begins_nil (p : Prog I α) : p.Begins [] := by
  cases p with
  | ret a => exact rfl
  | crash => exact rfl
  | call c next => exact .inl rfl

theorem begins_first (answer : (c : I.Call) → I.Reply c) (n : ℕ) (p : Prog I α) :
    p.Begins (p.first answer n) := by
  induction n generalizing p with
  | zero => exact begins_nil p
  | succ n ih =>
      cases p with
      | ret a => exact rfl
      | crash => exact rfl
      | call c next => exact .inr ⟨answer c, _, rfl, ih (next (answer c))⟩

/-- While the replies are those that `S` admits, `G` is true of each call in
the state in which it is made, and `Q` of what `p` returns. -/
def Guarantees (S : Service I σ) (G : σ → I.Call → Prop) :
    Prog I α → σ → (α → σ → Prop) → Prop
  | .ret a, s, Q => Q a s
  | .crash, _, _ => True
  | .call c next, s, Q => G s c ∧ ∀ r, S.Admits s c r → (next r).Guarantees S G (S.next s c r) Q

variable {S : Service I σ} {G : σ → I.Call → Prop} {s : σ} {p : Prog I α} {Q : α → σ → Prop}

theorem Guarantees.bind {f : α → Prog I β} {R : β → σ → Prop} (hp : p.Guarantees S G s Q)
    (hf : ∀ a t, Q a t → (f a).Guarantees S G t R) : (p >>= f).Guarantees S G s R := by
  induction p generalizing s with
  | ret a => exact hf a s hp
  | crash => exact hp
  | call c next ih => exact ⟨hp.1, fun r hr ↦ ih r (hp.2 r hr)⟩

/-- A call is as guaranteed when the replies before it were as relied on. -/
theorem Guarantees.of_begins (hp : p.Guarantees S G s Q) {es fs : List (Event I)} {e : Event I}
    (hbegins : p.Begins (es ++ e :: fs)) (hs : S.AdmitsAll s es) : G (S.after s es) e.call := by
  induction p generalizing s es with
  | ret a => exact absurd hbegins (by simp [Begins])
  | crash => exact absurd hbegins (by simp [Begins])
  | call c next ih =>
      obtain ⟨hcall, hnext⟩ := hp
      rcases hbegins with hnil | ⟨r, rest, heq, hrest⟩
      · simp at hnil
      · cases es with
        | nil =>
            obtain ⟨rfl, -⟩ := List.cons.inj heq
            exact hcall
        | cons e' es =>
            obtain ⟨rfl, rfl⟩ := List.cons.inj heq
            exact ih r (hnext r hs.1) hrest hs.2

theorem Begins.of_append {p : Prog I α} {es fs : List (Event I)} (h : p.Begins (es ++ fs)) :
    p.Begins es := by
  induction p generalizing es with
  | ret a => exact (List.append_eq_nil_iff.mp h).1
  | crash => exact (List.append_eq_nil_iff.mp h).1
  | call c next ih =>
      cases es with
      | nil => exact .inl rfl
      | cons e es =>
          rcases h with hnil | ⟨r, rest, heq, hrest⟩
          · cases hnil
          · obtain ⟨rfl, rfl⟩ := List.cons.inj heq
            exact .inr ⟨r, es, rfl, ih r hrest⟩

/-! ## Programs of which only some calls are seen -/

/-- `ls` is what `view` shows of the first calls of `p`. -/
def Shows (view : Event I → Option L) (p : Prog I α) (ls : List L) : Prop :=
  ∃ es, p.Begins es ∧ es.filterMap view = ls

theorem Shows.of_append {view : Event I → Option L} {p : Prog I α} {ls ks : List L}
    (h : p.Shows view (ls ++ ks)) : p.Shows view ls := by
  obtain ⟨es, hbegins, hview⟩ := h
  obtain ⟨front, back, rfl, hfront, -⟩ := List.filterMap_eq_append_iff.mp hview
  exact ⟨front, hbegins.of_append, hfront⟩

end Prog

/-- Each label is as `R` wants it in the state that the labels before it lead to. -/
def Relies (R : σ → L → Prop) (step : σ → L → σ) : σ → List L → Prop
  | _, [] => True
  | s, l :: ls => R s l ∧ Relies R step (step s l) ls

variable {R : σ → L → Prop} {step : σ → L → σ} {view : Event I → Option L} {s : σ}

theorem relies_append {ls ks : List L} :
    Relies R step s (ls ++ ks) ↔ Relies R step s ls ∧ Relies R step (ls.foldl step s) ks := by
  induction ls generalizing s with
  | nil => exact (and_iff_right trivial).symm
  | cons l ls ih =>
      rw [List.cons_append, Relies, ih, Relies, and_assoc]
      rfl

/-- The replies that `R` wants, in states that only the calls seen change. -/
def Service.following (view : Event I → Option L) (R : σ → L → Prop) (step : σ → L → σ) :
    Service I σ where
  Admits s c r := ∀ l, view ⟨c, r⟩ = some l → R s l
  next s c r := (view ⟨c, r⟩).elim s (step s)

theorem Relies.admitsAll {es : List (Event I)} (h : Relies R step s (es.filterMap view)) :
    (Service.following view R step).AdmitsAll s es ∧
      (Service.following view R step).after s es = (es.filterMap view).foldl step s := by
  induction es generalizing s with
  | nil => exact ⟨trivial, rfl⟩
  | cons e es ih =>
      cases hview : view e with
      | none =>
          have hnext : (Service.following view R step).next s e.call e.reply = s := by
            simp [Service.following, hview]
          rw [List.filterMap_cons_none hview] at h ⊢
          rw [Service.admitsAll_cons, Service.after_cons, hnext]
          obtain ⟨hadmits, hafter⟩ := ih h
          refine ⟨⟨fun l hl ↦ ?_, hadmits⟩, hafter⟩
          cases hview.symm.trans hl
      | some l =>
          have hnext : (Service.following view R step).next s e.call e.reply = step s l := by
            simp [Service.following, hview]
          rw [List.filterMap_cons_some hview] at h ⊢
          rw [Service.admitsAll_cons, Service.after_cons, hnext]
          obtain ⟨hadmits, hafter⟩ := ih h.2
          refine ⟨⟨fun l' hl ↦ ?_, hadmits⟩, hafter⟩
          cases hview.symm.trans hl
          exact h.1

/-- The call behind a label is as guaranteed when the labels before it were as
relied on. -/
theorem Prog.Guarantees.of_shows {G : σ → I.Call → Prop} {p : Prog I α} {Q : α → σ → Prop}
    (hp : p.Guarantees (Service.following view R step) G s Q) {ls ks : List L} {l : L}
    (hshows : p.Shows view (ls ++ l :: ks)) (hls : Relies R step s ls) :
    ∃ e, view e = some l ∧ G (ls.foldl step s) e.call := by
  obtain ⟨es, hbegins, hview⟩ := hshows
  obtain ⟨front, back, rfl, rfl, hback⟩ := List.filterMap_eq_append_iff.mp hview
  obtain ⟨hidden, e, rest, rfl, hhidden, he, -⟩ := List.filterMap_eq_cons_iff.mp hback
  have hfront : (front ++ hidden).filterMap view = front.filterMap view := by
    rw [List.filterMap_append, List.filterMap_eq_nil_iff.mpr hhidden, List.append_nil]
  rw [← hfront] at hls ⊢
  obtain ⟨hadmits, hafter⟩ := hls.admitsAll
  rw [← hafter]
  rw [← List.append_assoc] at hbegins
  exact ⟨e, he, hp.of_begins hbegins hadmits⟩

/-! ## Exceptions -/

namespace Throwing

/-- `Q` when `p` returns and `E` when it throws. -/
def Guarantees (S : Service I σ) (G : σ → I.Call → Prop) (p : Throwing I ε α) (s : σ)
    (Q : α → σ → Prop) (E : ε → σ → Prop) : Prop :=
  Prog.Guarantees S G p.run s fun r t ↦ r.casesOn (fun e ↦ E e t) fun a ↦ Q a t

variable {S : Service I σ} {G : σ → I.Call → Prop} {p : Throwing I ε α} {Q : α → σ → Prop}
  {E : ε → σ → Prop}

theorem guarantees_lift {p : Prog I α} (hp : p.Guarantees S G s Q) :
    Guarantees S G (ExceptT.lift p : Throwing I ε α) s Q E :=
  Prog.Guarantees.bind hp fun _ _ ha ↦ ha

theorem Guarantees.bind {f : α → Throwing I ε β} {R : β → σ → Prop} (hp : Guarantees S G p s Q E)
    (hf : ∀ a t, Q a t → Guarantees S G (f a) t R E) : Guarantees S G (p >>= f) s R E := by
  refine Prog.Guarantees.bind hp ?_
  rintro (e | a) t h
  · exact h
  · exact hf a t h

theorem Guarantees.run_bind {f : Except ε α → Prog I β} {R : β → σ → Prop}
    (hp : Guarantees S G p s Q E) (hreturns : ∀ a t, Q a t → (f (.ok a)).Guarantees S G t R)
    (hthrows : ∀ e t, E e t → (f (.error e)).Guarantees S G t R) :
    (p.run >>= f).Guarantees S G s R := by
  refine Prog.Guarantees.bind hp ?_
  rintro (e | a) t h
  · exact hthrows e t h
  · exact hreturns a t h

theorem Guarantees.cleaning {cleanup : Prog I Unit} {R : α → σ → Prop} {F : ε → σ → Prop}
    (hp : Guarantees S G p s Q E)
    (hreturns : ∀ a t, Q a t → cleanup.Guarantees S G t fun _ u ↦ R a u)
    (hthrows : ∀ e t, E e t → cleanup.Guarantees S G t fun _ u ↦ F e u) :
    Guarantees S G (Throwing.cleaning p cleanup) s R F := by
  refine hp.run_bind (f := fun r ↦ cleanup >>= fun _ ↦ Prog.ret r) ?_ ?_
  · exact fun a t ha ↦ (hreturns a t ha).bind fun _ _ h ↦ h
  · exact fun e t he ↦ (hthrows e t he).bind fun _ _ h ↦ h

theorem guarantees_waitWhile {waits : ℕ → Bool} {looks : ℕ} {Q : Unit → σ → Prop} (hQ : Q () s) :
    Guarantees S G (waitWhile waits looks : Throwing I ε Unit) s Q E := by
  induction looks generalizing waits with
  | zero => exact trivial
  | succ looks ih =>
      rw [waitWhile]
      split_ifs
      · exact ih
      · exact hQ

/-- The invariant rule for loops. -/
theorem guarantees_iterate {body : ℕ → α → Throwing I ε α}
    (hbody : ∀ n a t, Q a t → Guarantees S G (body n a) t Q E) (n : ℕ) {a : α} (ha : Q a s) :
    Guarantees S G (iterate body n a) s Q E := by
  induction n with
  | zero => exact ha
  | succ n ih => exact ih.bind fun b t hb ↦ hbody n b t hb

end Throwing

end Interaction
