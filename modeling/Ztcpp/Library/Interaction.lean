import Mathlib.Data.List.Basic
import Mathlib.Tactic.Common

/-!
# Programs that call an external service

A program is a finite tree: it returns, it stops the process (a failed
assertion, or behaviour the language leaves undefined), or it makes one call
and continues with the reply.  What the service does stays outside the tree.
A trace lists the calls made with the replies received, and a `Service` says
which replies it may give in each of its states.
-/

namespace Interaction

/-- The calls a service offers, with the type of the reply to each. -/
structure Interface where
  Call : Type
  Reply : Call → Type

structure Event (I : Interface) where
  call : I.Call
  reply : I.Reply call

inductive Prog (I : Interface) (α : Type) where
  | ret (a : α)
  /-- The process stops here, without a result. -/
  | crash
  | call (c : I.Call) (next : I.Reply c → Prog I α)

variable {I : Interface} {α β σ τ : Type}

namespace Prog

def bind : Prog I α → (α → Prog I β) → Prog I β
  | .ret a, f => f a
  | .crash, _ => .crash
  | .call c next, f => .call c fun r => (next r).bind f

def perform (c : I.Call) : Prog I (I.Reply c) := .call c .ret

instance : Monad (Prog I) where
  pure := .ret
  bind := bind

@[simp] theorem pure_eq (a : α) : (pure a : Prog I α) = .ret a := rfl

@[simp] theorem ret_bind (a : α) (f : α → Prog I β) : (Prog.ret a >>= f) = f a := rfl

@[simp] theorem crash_bind (f : α → Prog I β) : ((.crash : Prog I α) >>= f) = .crash := rfl

@[simp] theorem call_bind (c : I.Call) (next : I.Reply c → Prog I α) (f : α → Prog I β) :
    (Prog.call c next >>= f) = .call c fun r => next r >>= f := rfl

@[simp] theorem perform_eq (c : I.Call) : perform c = .call c .ret := rfl

/-- `p.Runs es a`: with the calls and replies of `es`, in this order, `p`
returns `a`.  A program that stops the process returns nothing. -/
def Runs : Prog I α → List (Event I) → α → Prop
  | .ret a, es, b => es = [] ∧ b = a
  | .crash, _, _ => False
  | .call c next, es, b => ∃ r rest, es = ⟨c, r⟩ :: rest ∧ (next r).Runs rest b

@[simp] theorem runs_ret {a b : α} {es : List (Event I)} :
    (Prog.ret a : Prog I α).Runs es b ↔ es = [] ∧ b = a := Iff.rfl

@[simp] theorem runs_crash {b : α} {es : List (Event I)} :
    ¬ (.crash : Prog I α).Runs es b := id

theorem runs_call {c : I.Call} {next : I.Reply c → Prog I α} {b : α}
    {es : List (Event I)} :
    (Prog.call c next).Runs es b ↔
      ∃ r rest, es = ⟨c, r⟩ :: rest ∧ (next r).Runs rest b := Iff.rfl

theorem runs_bind {p : Prog I α} {f : α → Prog I β} {b : β} {es : List (Event I)} :
    (p >>= f).Runs es b ↔
      ∃ a front back, es = front ++ back ∧ p.Runs front a ∧ (f a).Runs back b := by
  induction p generalizing es with
  | ret a =>
      rw [ret_bind]
      constructor
      · intro h
        exact ⟨a, [], es, rfl, ⟨rfl, rfl⟩, h⟩
      · rintro ⟨_, _, back, rfl, ⟨rfl, rfl⟩, h⟩
        exact h
  | crash => simp
  | call c next ih =>
      rw [call_bind, runs_call]
      constructor
      · rintro ⟨r, rest, rfl, h⟩
        obtain ⟨a, front, back, rfl, hp, hf⟩ := (ih r).mp h
        exact ⟨a, ⟨c, r⟩ :: front, back, rfl, ⟨r, front, rfl, hp⟩, hf⟩
      · rintro ⟨a, _, back, rfl, ⟨r, front, rfl, hp⟩, hf⟩
        exact ⟨r, front ++ back, rfl, (ih r).mpr ⟨a, front, back, rfl, hp, hf⟩⟩

theorem runs_map {f : α → β} {p : Prog I α} {b : β} {es : List (Event I)} :
    (f <$> p).Runs es b ↔ ∃ a, p.Runs es a ∧ b = f a := by
  change (p >>= fun a ↦ .ret (f a)).Runs es b ↔ _
  rw [runs_bind]
  constructor
  · rintro ⟨a, front, _, rfl, hp, rfl, rfl⟩
    exact ⟨a, by rwa [List.append_nil], rfl⟩
  · rintro ⟨a, hp, rfl⟩
    exact ⟨a, es, [], (List.append_nil es).symm, hp, rfl, rfl⟩

/-- Whatever the replies, the process does not stop. -/
def NeverStops : Prog I α → Prop
  | .ret _ => True
  | .crash => False
  | .call _ next => ∀ r, (next r).NeverStops

@[simp] theorem neverStops_ret (a : α) : (Prog.ret a : Prog I α).NeverStops := trivial

@[simp] theorem not_neverStops_crash : ¬ (.crash : Prog I α).NeverStops := id

theorem neverStops_bind_iff {p : Prog I α} {f : α → Prog I β} :
    (p >>= f).NeverStops ↔ p.NeverStops ∧ ∀ es a, p.Runs es a → (f a).NeverStops := by
  induction p with
  | ret a =>
      rw [ret_bind]
      constructor
      · rintro h
        refine ⟨trivial, ?_⟩
        rintro es b ⟨-, rfl⟩
        exact h
      · intro h
        exact h.2 [] a ⟨rfl, rfl⟩
  | crash =>
      rw [crash_bind]
      exact iff_of_false id fun h ↦ h.1
  | call c next ih =>
      rw [call_bind]
      constructor
      · intro h
        refine ⟨fun r ↦ ((ih r).mp (h r)).1, ?_⟩
        rintro es a ⟨r, rest, -, hrun⟩
        exact ((ih r).mp (h r)).2 rest a hrun
      · rintro ⟨hnext, hf⟩ r
        refine (ih r).mpr ⟨hnext r, fun es a hrun ↦ ?_⟩
        exact hf (⟨c, r⟩ :: es) a ⟨r, es, rfl, hrun⟩

theorem neverStops_map_iff {f : α → β} {p : Prog I α} : (f <$> p).NeverStops ↔ p.NeverStops := by
  change (p >>= fun a ↦ .ret (f a)).NeverStops ↔ _
  rw [neverStops_bind_iff]
  exact and_iff_left fun _ _ _ ↦ trivial

/-- Run `p` with the replies that `answer` gives, and return the calls made. -/
def follow (answer : (c : I.Call) → I.Reply c) : Prog I α → Option (List (Event I) × α)
  | .ret a => some ([], a)
  | .crash => none
  | .call c next => ((next (answer c)).follow answer).map (Prod.map (⟨c, answer c⟩ :: ·) id)

theorem runs_of_follow {answer : (c : I.Call) → I.Reply c} {p : Prog I α}
    {es : List (Event I)} {a : α} (h : p.follow answer = some (es, a)) : p.Runs es a := by
  induction p generalizing es with
  | ret b =>
      cases h
      exact ⟨rfl, rfl⟩
  | crash => cases h
  | call c next ih =>
      obtain ⟨⟨rest, b⟩, hrest, heq⟩ := Option.map_eq_some_iff.mp h
      cases heq
      exact ⟨answer c, rest, rfl, ih (answer c) hrest⟩

end Prog

/-- A service as a party of its own: the replies it may give in a state, and
the state after each call. -/
structure Service (I : Interface) (σ : Type) where
  Admits : σ → (c : I.Call) → I.Reply c → Prop
  next : σ → (c : I.Call) → I.Reply c → σ

namespace Service

variable (S : Service I σ)

def AdmitsAll : σ → List (Event I) → Prop
  | _, [] => True
  | s, e :: es => S.Admits s e.call e.reply ∧ AdmitsAll (S.next s e.call e.reply) es

def after (s : σ) (es : List (Event I)) : σ :=
  es.foldl (fun s e => S.next s e.call e.reply) s

@[simp] theorem admitsAll_nil (s : σ) : S.AdmitsAll s [] := trivial

@[simp] theorem admitsAll_cons (s : σ) (e : Event I) (es : List (Event I)) :
    S.AdmitsAll s (e :: es) ↔
      S.Admits s e.call e.reply ∧ S.AdmitsAll (S.next s e.call e.reply) es := Iff.rfl

@[simp] theorem after_nil (s : σ) : S.after s [] = s := rfl

@[simp] theorem after_cons (s : σ) (e : Event I) (es : List (Event I)) :
    S.after s (e :: es) = S.after (S.next s e.call e.reply) es := rfl

theorem after_append (s : σ) (es fs : List (Event I)) :
    S.after s (es ++ fs) = S.after (S.after s es) fs := List.foldl_append

theorem admitsAll_append (s : σ) (es fs : List (Event I)) :
    S.AdmitsAll s (es ++ fs) ↔ S.AdmitsAll s es ∧ S.AdmitsAll (S.after s es) fs := by
  induction es generalizing s with
  | nil => simp
  | cons e es ih => simp [ih, and_assoc]

def arbitrary (I : Interface) : Service I Unit where
  Admits _ _ _ := True
  next _ _ _ := ()

@[simp] theorem arbitrary_admitsAll (s : Unit) (es : List (Event I)) :
    (arbitrary I).AdmitsAll s es := by
  induction es with
  | nil => trivial
  | cons e es ih => exact ⟨trivial, ih⟩

/-- `T` allows whatever `S` allows, along the view `view` of its state. -/
structure Refines (S : Service I σ) (T : Service I τ) (view : σ → τ) : Prop where
  admits : ∀ s c r, S.Admits s c r → T.Admits (view s) c r
  next : ∀ s c r, S.Admits s c r → view (S.next s c r) = T.next (view s) c r

theorem Refines.after {S : Service I σ} {T : Service I τ} {view : σ → τ}
    (h : S.Refines T view) {s : σ} {es : List (Event I)} (hs : S.AdmitsAll s es) :
    view (S.after s es) = T.after (view s) es := by
  induction es generalizing s with
  | nil => rfl
  | cons e es ih => rw [after_cons, after_cons, ih hs.2, h.next s e.call e.reply hs.1]

theorem Refines.admitsAll {S : Service I σ} {T : Service I τ} {view : σ → τ}
    (h : S.Refines T view) {s : σ} {es : List (Event I)} (hs : S.AdmitsAll s es) :
    T.AdmitsAll (view s) es := by
  induction es generalizing s with
  | nil => trivial
  | cons e es ih =>
      refine ⟨h.admits s e.call e.reply hs.1, ?_⟩
      rw [← h.next s e.call e.reply hs.1]
      exact ih hs.2

end Service

namespace Prog

/-- A program that does not stop has a run against every service that always replies. -/
theorem NeverStops.exists_runs {S : Service I σ} {p : Prog I α} (hp : p.NeverStops)
    (hS : ∀ s c, ∃ r, S.Admits s c r) (s : σ) : ∃ es a, p.Runs es a ∧ S.AdmitsAll s es := by
  induction p generalizing s with
  | ret a => exact ⟨[], a, ⟨rfl, rfl⟩, trivial⟩
  | crash => exact hp.elim
  | call c next ih =>
      obtain ⟨r, hr⟩ := hS s c
      obtain ⟨es, a, hrun, hadmits⟩ := ih r (hp r) (S.next s c r)
      exact ⟨⟨c, r⟩ :: es, a, ⟨r, es, rfl, hrun⟩, hr, hadmits⟩

/-- Total correctness against a service: whatever `S` replies, `p` does not
stop the process, and what it returns satisfies `Q` in the state reached. -/
def Ensures (S : Service I σ) : Prog I α → σ → (α → σ → Prop) → Prop
  | .ret a, s, Q => Q a s
  | .crash, _, _ => False
  | .call c next, s, Q =>
      ∀ r, S.Admits s c r → (next r).Ensures S (S.next s c r) Q

@[simp] theorem ensures_ret {S : Service I σ} {a : α} {s : σ} {Q : α → σ → Prop} :
    (Prog.ret a : Prog I α).Ensures S s Q ↔ Q a s := Iff.rfl

@[simp] theorem ensures_call {S : Service I σ} {c : I.Call} {next : I.Reply c → Prog I α}
    {s : σ} {Q : α → σ → Prop} :
    (Prog.call c next).Ensures S s Q ↔
      ∀ r, S.Admits s c r → (next r).Ensures S (S.next s c r) Q := Iff.rfl

end Prog

end Interaction
