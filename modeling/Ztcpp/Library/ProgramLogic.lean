import Ztcpp.Library.Interaction

/-!
# Rules of pre- and postconditions

A program over one interface can have its calls answered by programs over
another, with a state of its own.  The rules here derive what such a program
ensures from what each call ensures: sequencing, exceptions, clean-up on every
path, loops, and the invariant rule for a program that makes only calls of one
kind.  A program may also not go on at some point, because it waits or because
nothing is defined for it; then the rules say in which states it does not.
-/

namespace Interaction

variable {I J : Interface} {α β ε σ τ : Type}

/-- `h s c`: how the call `c` is answered in the state `s`. -/
abbrev Handler (I J : Interface) (σ : Type) := σ → (c : I.Call) → Prog J (I.Reply c × σ)

namespace Prog

variable {S : Service J τ} {K : τ → Prop} {t : τ}

/-- Whatever `S` replies, what `p` returns satisfies `Q` in the state reached;
if `p` does not go on, `K` is true where it stops. -/
def EnsuresUnless (S : Service J τ) (K : τ → Prop) : Prog J α → τ → (α → τ → Prop) → Prop
  | .ret a, t, Q => Q a t
  | .crash, t, _ => K t
  | .call c next, t, Q => ∀ r, S.Admits t c r → (next r).EnsuresUnless S K (S.next t c r) Q

theorem ensuresUnless_bind {p : Prog J α} {f : α → Prog J β} {Q : β → τ → Prop} :
    (p >>= f).EnsuresUnless S K t Q ↔
      p.EnsuresUnless S K t fun a u ↦ (f a).EnsuresUnless S K u Q := by
  induction p generalizing t with
  | ret a => rfl
  | crash => rfl
  | call c next ih =>
      rw [call_bind]
      exact forall_congr' fun r ↦ imp_congr_right fun _ ↦ ih r

theorem EnsuresUnless.mono {p : Prog J α} {Q R : α → τ → Prop} (h : p.EnsuresUnless S K t Q)
    (hQ : ∀ a u, Q a u → R a u) : p.EnsuresUnless S K t R := by
  induction p generalizing t with
  | ret a => exact hQ a t h
  | crash => exact h
  | call c next ih => exact fun r hr ↦ ih r (h r hr)

/-- A program that does not stop ensures what all its runs do. -/
theorem ensuresUnless_of_runs {p : Prog J α} {Q : α → τ → Prop} (hstops : p.NeverStops)
    (h : ∀ es a, p.Runs es a → S.AdmitsAll t es → Q a (S.after t es)) :
    p.EnsuresUnless S K t Q := by
  induction p generalizing t with
  | ret a => exact h [] a ⟨rfl, rfl⟩ trivial
  | crash => exact hstops.elim
  | call c next ih =>
      intro r hr
      refine ih r (hstops r) fun es a hrun hadmits ↦ ?_
      exact h (⟨c, r⟩ :: es) a ⟨r, es, rfl, hrun⟩ ⟨hr, hadmits⟩

/-- `p` with its calls answered by `h`. -/
def interp (h : Handler I J σ) : Prog I α → σ → Prog J (α × σ)
  | .ret a, s => .ret (a, s)
  | .crash, _ => .crash
  | .call c next, s => h s c >>= fun r ↦ (next r.1).interp h r.2

/-- Whatever `S` replies, what `p` returns satisfies `Q` in the states reached;
if `p` does not go on, `K` is true where it stops. -/
def Holds (h : Handler I J σ) (S : Service J τ) (K : τ → Prop) (p : Prog I α) (s : σ × τ)
    (Q : α → σ × τ → Prop) : Prop :=
  (p.interp h s.1).EnsuresUnless S K s.2 fun r u ↦ Q r.1 (r.2, u)

variable {h : Handler I J σ} {s : σ × τ}

@[simp] theorem holds_ret {a : α} {Q : α → σ × τ → Prop} :
    (Prog.ret a : Prog I α).Holds h S K s Q ↔ Q a s := Iff.rfl

theorem holds_call {c : I.Call} {next : I.Reply c → Prog I α} {Q : α → σ × τ → Prop} :
    (Prog.call c next).Holds h S K s Q ↔
      (perform c).Holds h S K s fun r u ↦ (next r).Holds h S K u Q := by
  unfold Holds perform
  simp only [interp, ensuresUnless_bind, EnsuresUnless]

theorem holds_bind {p : Prog I α} {f : α → Prog I β} {Q : β → σ × τ → Prop} :
    (p >>= f).Holds h S K s Q ↔ p.Holds h S K s fun a u ↦ (f a).Holds h S K u Q := by
  induction p generalizing s with
  | ret a => rfl
  | crash => rfl
  | call c next ih =>
      rw [call_bind]
      refine holds_call.trans (Iff.trans ?_ holds_call.symm)
      simp only [ih]

theorem Holds.mono {p : Prog I α} {Q R : α → σ × τ → Prop} (hp : p.Holds h S K s Q)
    (hQ : ∀ a u, Q a u → R a u) : p.Holds h S K s R :=
  EnsuresUnless.mono hp fun _ _ ↦ hQ _ _

theorem holds_perform {c : I.Call} {Q : I.Reply c → σ × τ → Prop} :
    (perform c).Holds h S K s Q ↔
      (h s.1 c).EnsuresUnless S K s.2 fun r u ↦ Q r.1 (r.2, u) := by
  unfold Holds perform
  simp only [interp, ensuresUnless_bind, EnsuresUnless]

/-! ## Calls of one kind -/

/-- `p` does not stop, and all its calls are in `C`. -/
def Within (C : Set I.Call) : Prog I α → Prop
  | .ret _ => True
  | .crash => False
  | .call c next => c ∈ C ∧ ∀ r, (next r).Within C

variable {C : Set I.Call}

@[simp] theorem within_ret (a : α) : (Prog.ret a : Prog I α).Within C := trivial

@[simp] theorem within_call {c : I.Call} {next : I.Reply c → Prog I α} :
    (Prog.call c next).Within C ↔ c ∈ C ∧ ∀ r, (next r).Within C := Iff.rfl

theorem Within.bind {p : Prog I α} {f : α → Prog I β} (hp : p.Within C)
    (hf : ∀ a, (f a).Within C) : (p >>= f).Within C := by
  induction p with
  | ret a => exact hf a
  | crash => exact hp.elim
  | call c next ih => exact ⟨hp.1, fun r ↦ ih r (hp.2 r)⟩

/-- A property that each call in `C` keeps is kept by a program of such calls. -/
theorem Within.invariant {P : σ × τ → Prop} {p : Prog I α} (hp : p.Within C)
    (hC : ∀ c ∈ C, ∀ s, P s → (perform c).Holds h S K s fun _ u ↦ P u) (hs : P s) :
    p.Holds h S K s fun _ u ↦ P u := by
  induction p generalizing s with
  | ret a => exact hs
  | crash => exact hp.elim
  | call c next ih =>
      rw [holds_call]
      exact (hC c hp.1 s hs).mono fun r u hu ↦ ih r (hp.2 r) hu

end Prog

/-! ## Services with a log -/

namespace Service

variable (S : Service J τ)

/-- `S`, with the calls made so far and their replies. -/
def logging : Service J (τ × List (Event J)) where
  Admits t c r := S.Admits t.1 c r
  next t c r := (S.next t.1 c r, t.2 ++ [⟨c, r⟩])

theorem after_logging (t : τ × List (Event J)) (es : List (Event J)) :
    S.logging.after t es = (S.after t.1 es, t.2 ++ es) := by
  induction es generalizing t with
  | nil => simp
  | cons e es ih =>
      rw [after_cons, ih]
      simp [logging]

theorem admitsAll_logging (t : τ × List (Event J)) (es : List (Event J)) :
    S.logging.AdmitsAll t es ↔ S.AdmitsAll t.1 es := by
  induction es generalizing t with
  | nil => rfl
  | cons e es ih => exact and_congr_right fun _ ↦ ih _

end Service

/-! ## Exceptions -/

/-- A program that returns a value or throws. -/
abbrev Throwing (I : Interface) (ε : Type) := ExceptT ε (Prog I)

namespace Throwing

variable {h : Handler I J σ} {S : Service J τ} {K : τ → Prop} {s : σ × τ} {p : Throwing I ε α}

/-- `Q` when `p` returns, `E` when it throws and `K` when it does not go on. -/
def Holds (h : Handler I J σ) (S : Service J τ) (K : τ → Prop) (p : Throwing I ε α) (s : σ × τ)
    (Q : α → σ × τ → Prop) (E : ε → σ × τ → Prop) : Prop :=
  Prog.Holds h S K p.run s fun r u ↦ r.casesOn (fun e ↦ E e u) fun a ↦ Q a u

variable {Q : α → σ × τ → Prop} {E : ε → σ × τ → Prop}

@[simp] theorem holds_pure {a : α} :
    Holds h S K (pure a : Throwing I ε α) s Q E ↔ Q a s := Iff.rfl

@[simp] theorem holds_throw {e : ε} :
    Holds h S K (throw e : Throwing I ε α) s Q E ↔ E e s := Iff.rfl

/-- A program that does not go on. -/
def crash : Throwing I ε α := ExceptT.mk .crash

@[simp] theorem holds_crash : Holds h S K (crash : Throwing I ε α) s Q E ↔ K s.2 := Iff.rfl

theorem holds_lift {p : Prog I α} :
    Holds h S K (ExceptT.lift p : Throwing I ε α) s Q E ↔ p.Holds h S K s Q := by
  change Prog.Holds h S K (p >>= fun a ↦ Prog.ret (Except.ok a)) s _ ↔ _
  rw [Prog.holds_bind]
  rfl

theorem holds_bind {f : α → Throwing I ε β} {Q : β → σ × τ → Prop} :
    Holds h S K (p >>= f) s Q E ↔ Holds h S K p s (fun a u ↦ Holds h S K (f a) u Q E) E := by
  change Prog.Holds h S K (p.run >>= ExceptT.bindCont f) s _ ↔ _
  rw [Prog.holds_bind]
  refine iff_of_eq (congrArg _ ?_)
  funext r u
  cases r with
  | ok a => rfl
  | error e => rfl

theorem Holds.mono {R : α → σ × τ → Prop} {F : ε → σ × τ → Prop} (hp : Holds h S K p s Q E)
    (hQ : ∀ a u, Q a u → R a u) (hE : ∀ e u, E e u → F e u) : Holds h S K p s R F := by
  refine Prog.Holds.mono hp ?_
  rintro (e | a) u hu
  · exact hE e u hu
  · exact hQ a u hu

/-- Sequencing, when both parts may throw. -/
theorem Holds.bind {f : α → Throwing I ε β} {R : β → σ × τ → Prop} (hp : Holds h S K p s Q E)
    (hf : ∀ a u, Q a u → Holds h S K (f a) u R E) : Holds h S K (p >>= f) s R E :=
  holds_bind.mpr (hp.mono hf fun _ _ he ↦ he)

/-- A program that goes on with both outcomes, as the `catch` clauses of a
function do. -/
theorem holds_run_bind {f : Except ε α → Prog I β} {R : β → σ × τ → Prop} :
    Prog.Holds h S K (p.run >>= f) s R ↔
      Holds h S K p s (fun a u ↦ (f (.ok a)).Holds h S K u R) fun e u ↦
        (f (.error e)).Holds h S K u R := by
  rw [Prog.holds_bind]
  refine iff_of_eq (congrArg _ ?_)
  funext r u
  cases r with
  | ok a => rfl
  | error e => rfl

/-- `p`, and then `cleanup` whether `p` returned or threw. -/
def cleaning (p : Throwing I ε α) (cleanup : Prog I Unit) : Throwing I ε α :=
  ExceptT.mk do
    let r ← p.run
    cleanup
    return r

theorem holds_cleaning {cleanup : Prog I Unit} :
    Holds h S K (cleaning p cleanup) s Q E ↔
      Holds h S K p s (fun a u ↦ cleanup.Holds h S K u fun _ v ↦ Q a v)
        fun e u ↦ cleanup.Holds h S K u fun _ v ↦ E e v := by
  change Prog.Holds h S K (p.run >>= fun r ↦ cleanup >>= fun _ ↦ Prog.ret r) s _ ↔ _
  rw [holds_run_bind]
  simp only [Prog.holds_bind, Prog.holds_ret]

/-- `body`, `n` times, on a value that it carries along. -/
def iterate (body : ℕ → α → Throwing I ε α) : ℕ → α → Throwing I ε α
  | 0, a => pure a
  | n + 1, a => iterate body n a >>= body n

/-- The invariant rule for loops. -/
theorem holds_iterate {body : ℕ → α → Throwing I ε α}
    (hbody : ∀ n a u, Q a u → Holds h S K (body n a) u Q E) (n : ℕ) {a : α} (ha : Q a s) :
    Holds h S K (iterate body n a) s Q E := by
  induction n with
  | zero => exact ha
  | succ n ih => exact ih.bind (hbody n)

/-- A loop without a body that waits for what others do: `waits k` is what it
sees when it looks for the `k`-th time.  It is followed for so many looks. -/
def waitWhile (waits : ℕ → Bool) : ℕ → Throwing I ε Unit
  | 0 => crash
  | looks + 1 => if waits 0 then waitWhile (fun k ↦ waits (k + 1)) looks else pure ()

theorem holds_waitWhile {waits : ℕ → Bool} {looks : ℕ} {Q : Unit → σ × τ → Prop}
    (hwaits : (∀ k < looks, waits k = true) → K s.2) (hQ : Q () s) :
    Holds h S K (waitWhile waits looks) s Q E := by
  induction looks generalizing waits with
  | zero => exact hwaits fun k hk ↦ absurd hk (Nat.not_lt_zero k)
  | succ looks ih =>
      rw [waitWhile]
      split_ifs with hfirst
      · refine ih fun hlater ↦ hwaits fun k hk ↦ ?_
        cases k with
        | zero => exact hfirst
        | succ k => exact hlater k (Nat.lt_of_succ_lt_succ hk)
      · exact hQ

variable {C : Set I.Call}

theorem within_bind {f : α → Throwing I ε β} (hp : p.run.Within C)
    (hf : ∀ a, (f a).run.Within C) : (p >>= f).run.Within C := by
  refine Prog.Within.bind hp ?_
  rintro (e | a)
  · exact Prog.within_ret _
  · exact hf a

/-- The invariant rule, for both ways in which a program can end. -/
theorem holds_of_within {P : σ × τ → Prop} (hp : p.run.Within C)
    (hC : ∀ c ∈ C, ∀ s, P s → (Prog.perform c).Holds h S K s fun _ u ↦ P u) (hs : P s) :
    Holds h S K p s (fun _ u ↦ P u) fun _ u ↦ P u := by
  refine (hp.invariant hC hs).mono ?_
  rintro (e | a) u hu
  · exact hu
  · exact hu

end Throwing

end Interaction
