import Ztcpp.Library.Interaction
import Ztcpp.Library.Parties

/-!
# Threads that share a service

Each thread runs one operation after the other on a state of its own; all that
the others see of it are its calls to the service.  When an operation makes at
most one call, a run of the threads, interleaved at every call, does what some
run of whole operations does, with the same calls in the same order.
-/

namespace Interaction

open LabelledSystem

variable {I : Interface} {T W O R σ α β : Type}

namespace Prog

/-- The program stops the process at once, or makes at most one call and returns. -/
def AtMostOneCall : Prog I α → Prop
  | .call _ next => ∀ r, ∃ a, next r = .ret a
  | _ => True

theorem AtMostOneCall.bind {p : Prog I α} {f : α → Prog I β} (hp : p.AtMostOneCall)
    (hf : ∀ a, ∃ b, f a = .ret b) : (p >>= f).AtMostOneCall := by
  cases p with
  | ret a =>
      obtain ⟨b, hb⟩ := hf a
      rw [ret_bind, hb]
      trivial
  | crash => trivial
  | call c next =>
      intro r
      obtain ⟨a, ha⟩ := hp r
      obtain ⟨b, hb⟩ := hf a
      refine ⟨b, ?_⟩
      change (next r).bind f = _
      rw [ha]
      exact hb

theorem AtMostOneCall.map {p : Prog I α} (hp : p.AtMostOneCall) (f : α → β) :
    (f <$> p).AtMostOneCall := hp.bind fun a ↦ ⟨f a, rfl⟩

end Prog

/-- A thread between two operations, or in the middle of one. -/
inductive Thread (I : Interface) (W R : Type) where
  | idle (w : W)
  | busy (rest : Prog I (R × W))

inductive ThreadAct (I : Interface) (O R : Type) where
  | start (op : O)
  | call (e : Event I)
  | finish (r : R)

namespace ThreadAct

def op? : ThreadAct I O R → Option O
  | .start op => some op
  | _ => none

def call? : ThreadAct I O R → Option (Event I)
  | .call e => some e
  | _ => none

def result? : ThreadAct I O R → Option R
  | .finish r => some r
  | _ => none

end ThreadAct

/-- An operation as a whole, with its calls and its result. -/
structure Operation (I : Interface) (O R : Type) where
  op : O
  calls : List (Event I)
  result : R

variable (exec : W → O → Prog I (R × W)) (S : Service I σ)

inductive ThreadStep : Thread I W R × σ → ThreadAct I O R → Thread I W R × σ → Prop where
  | start (w : W) (op : O) (s : σ) : ThreadStep (.idle w, s) (.start op) (.busy (exec w op), s)
  | call (c : I.Call) (next : I.Reply c → Prog I (R × W)) (r : I.Reply c) (s : σ)
      (h : S.Admits s c r) :
      ThreadStep (.busy (.call c next), s) (.call ⟨c, r⟩) (.busy (next r), S.next s c r)
  | finish (r : R) (w : W) (s : σ) :
      ThreadStep (.busy (.ret (r, w)), s) (.finish r) (.idle w, s)

/-- One thread, step by step. -/
def thread : LabelledSystem (Thread I W R × σ) (ThreadAct I O R) where
  Step := ThreadStep exec S

/-- One thread, an operation at a time. -/
def atomic : LabelledSystem (W × σ) (Operation I O R) where
  Step s l t :=
    (exec s.1 l.op).Runs l.calls (l.result, t.1) ∧ S.AdmitsAll s.2 l.calls ∧
      t.2 = S.after s.2 l.calls

def callsIn (xs : List (T × ThreadAct I O R)) : List (T × Event I) :=
  xs.filterMap fun x ↦ x.2.call?.map (x.1, ·)

def callsOf (ls : List (T × Operation I O R)) : List (T × Event I) :=
  ls.flatMap fun l ↦ l.2.calls.map (l.1, ·)

variable {exec S}

/-- The thread has started the operations `ops` and got the results `results`;
taken as a whole, the operations in `done` were carried out, which leaves `w`. -/
inductive Follows (exec : W → O → Prog I (R × W)) (ops : List O) (results : List R)
    (done : List (Operation I O R)) : Thread I W R → W → Prop where
  | idle (w : W) (hops : done.map Operation.op = ops)
      (hresults : done.map Operation.result = results) : Follows exec ops results done (.idle w) w
  | pending (w : W) (op : O) (c : I.Call) (next : I.Reply c → Prog I (R × W))
      (hexec : exec w op = .call c next) (hops : done.map Operation.op ++ [op] = ops)
      (hresults : done.map Operation.result = results) :
      Follows exec ops results done (.busy (.call c next)) w
  | returning (w : W) (r : R) (hops : done.map Operation.op = ops)
      (hresults : done.map Operation.result = results ++ [r]) :
      Follows exec ops results done (.busy (.ret (r, w))) w
  | stopped (w : W) (op : O) (hops : done.map Operation.op ++ [op] = ops)
      (hresults : done.map Operation.result = results) :
      Follows exec ops results done (.busy .crash) w

section

variable {ops : List O} {results : List R} {done : List (Operation I O R)} {th : Thread I W R}
  {w : W}

theorem Follows.ops_isPrefix (h : Follows exec ops results done th w) :
    done.map Operation.op <+: ops := by
  cases h with
  | idle _ hops | returning _ _ hops =>
      subst hops
      exact List.prefix_rfl
  | pending _ op _ _ _ hops | stopped _ op hops => exact ⟨[op], hops⟩

theorem Follows.results_isPrefix (h : Follows exec ops results done th w) :
    results <+: done.map Operation.result := by
  cases h with
  | idle _ _ hresults | pending _ _ _ _ _ _ hresults | stopped _ _ _ hresults =>
      subst hresults
      exact List.prefix_rfl
  | returning _ r _ hresults => exact ⟨[r], hresults.symm⟩

/-- A step of a thread is, for the operations as a whole, nothing or one operation. -/
theorem Follows.step (hexec : ∀ w op, (exec w op).AtMostOneCall) {x x' : Thread I W R × σ}
    {act : ThreadAct I O R} (h : Follows exec ops results done x.1 w)
    (hstep : ThreadStep exec S x act x') :
    ∃ new w', (atomic exec S).Run (w, x.2) new (w', x'.2) ∧
      new.flatMap Operation.calls = act.call?.toList ∧
      Follows exec (ops ++ act.op?.toList) (results ++ act.result?.toList) (done ++ new) x'.1
        w' := by
  cases hstep with
  | start w op s =>
      cases h with
      | idle _ hops hresults =>
          cases hprog : exec w op with
          | ret a =>
              obtain ⟨r, w'⟩ := a
              refine ⟨[⟨op, [], r⟩], w', ?_, rfl, .returning w' r ?_ ?_⟩
              · apply LabelledSystem.run_singleton_iff.mpr
                refine ⟨?_, trivial, rfl⟩
                rw [hprog]
                exact ⟨rfl, rfl⟩
              · simp [hops, ThreadAct.op?]
              · simp [hresults, ThreadAct.result?]
          | crash =>
              refine ⟨[], w, .nil, rfl, .stopped w op ?_ ?_⟩
              · simp [hops, ThreadAct.op?]
              · simp [hresults, ThreadAct.result?]
          | call c next =>
              refine ⟨[], w, .nil, rfl, .pending w op c next hprog ?_ ?_⟩
              · simp [hops, ThreadAct.op?]
              · simp [hresults, ThreadAct.result?]
  | call c next r s hadmits =>
      cases h with
      | pending _ op _ _ hprog hops hresults =>
          have honce := hexec w op
          rw [hprog] at honce
          obtain ⟨⟨result, w'⟩, hret⟩ := honce r
          rw [hret]
          refine ⟨[⟨op, [⟨c, r⟩], result⟩], w', ?_, rfl, .returning w' result ?_ ?_⟩
          · apply LabelledSystem.run_singleton_iff.mpr
            refine ⟨?_, ⟨hadmits, trivial⟩, rfl⟩
            rw [hprog]
            refine ⟨r, [], rfl, ?_⟩
            rw [hret]
            exact ⟨rfl, rfl⟩
          · simp [hops, ThreadAct.op?]
          · simp [hresults, ThreadAct.result?]
  | finish r w s =>
      cases h with
      | returning _ _ hops hresults =>
          refine ⟨[], w, .nil, rfl, .idle w ?_ ?_⟩
          · simp [hops, ThreadAct.op?]
          · simp [hresults, ThreadAct.result?]

end

section

variable [DecidableEq T] {xs ys : List (T × ThreadAct I O R)} {x x' : (T → Thread I W R) × σ}
  {ls ks : List (T × Operation I O R)} {y : T → W}

def startedBy (t : T) (xs : List (T × ThreadAct I O R)) : List O :=
  (labelsOf t xs).filterMap ThreadAct.op?

def finishedBy (t : T) (xs : List (T × ThreadAct I O R)) : List R :=
  (labelsOf t xs).filterMap ThreadAct.result?

theorem sharing_start {t : T} {w : W} (h : x.1 t = .idle w) (op : O) :
    (sharing T (thread (O := O) exec S)).Step x (t, .start op)
      (Function.update x.1 t (.busy (exec w op)), x.2) := by
  refine ⟨_, ?_, rfl⟩
  rw [h]
  exact .start w op x.2

theorem sharing_call {t : T} {c : I.Call} {next : I.Reply c → Prog I (R × W)}
    (h : x.1 t = .busy (.call c next)) {r : I.Reply c} (hr : S.Admits x.2 c r) :
    (sharing T (thread exec S)).Step x (t, .call ⟨c, r⟩)
      (Function.update x.1 t (.busy (next r)), S.next x.2 c r) := by
  refine ⟨_, ?_, rfl⟩
  rw [h]
  exact .call c next r x.2 hr

theorem sharing_finish {t : T} {r : R} {w : W} (h : x.1 t = .busy (.ret (r, w))) :
    (sharing T (thread exec S)).Step x (t, .finish r) (Function.update x.1 t (.idle w), x.2) := by
  refine ⟨_, ?_, rfl⟩
  rw [h]
  exact .finish r w x.2

omit [DecidableEq T] in
theorem callsIn_snoc (xs : List (T × ThreadAct I O R)) (t : T) (act : ThreadAct I O R) :
    callsIn (xs ++ [(t, act)]) = callsIn xs ++ act.call?.toList.map (t, ·) := by
  cases act <;> simp [callsIn, ThreadAct.call?]

theorem startedBy_snoc (t u : T) (xs : List (T × ThreadAct I O R)) (act : ThreadAct I O R) :
    startedBy t (xs ++ [(u, act)]) = startedBy t xs ++ if u = t then act.op?.toList else [] := by
  rw [startedBy, labelsOf_snoc, List.filterMap_append]
  split_ifs
  · cases act <;> rfl
  · rfl

theorem finishedBy_snoc (t u : T) (xs : List (T × ThreadAct I O R)) (act : ThreadAct I O R) :
    finishedBy t (xs ++ [(u, act)]) =
      finishedBy t xs ++ if u = t then act.result?.toList else [] := by
  rw [finishedBy, labelsOf_snoc, List.filterMap_append]
  split_ifs
  · cases act <;> rfl
  · rfl

omit [DecidableEq T] in
theorem callsOf_append_party (ls : List (T × Operation I O R)) (t : T)
    (new : List (Operation I O R)) :
    callsOf (ls ++ new.map fun l ↦ (t, l)) =
      callsOf ls ++ (new.flatMap Operation.calls).map (t, ·) := by
  simp [callsOf, List.flatMap_map, List.map_flatMap]

/-- The whole operations `ls` are what the threads did in the steps `xs`: their
calls in their order, no operation that was not started, and each that was
finished with its result.  A thread between two operations has nothing left. -/
structure Serialises (xs : List (T × ThreadAct I O R)) (threads : T → Thread I W R)
    (ls : List (T × Operation I O R)) (worlds : T → W) : Prop where
  calls : callsOf ls = callsIn xs
  started : ∀ t, (labelsOf t ls).map Operation.op <+: startedBy t xs
  finished : ∀ t, finishedBy t xs <+: (labelsOf t ls).map Operation.result
  idle : ∀ t w, threads t = .idle w → worlds t = w ∧
    (labelsOf t ls).map Operation.op = startedBy t xs ∧
    (labelsOf t ls).map Operation.result = finishedBy t xs

/-- What carries the induction: every thread is followed by its operations. -/
def Followed (exec : W → O → Prog I (R × W)) (xs : List (T × ThreadAct I O R))
    (threads : T → Thread I W R) (ls : List (T × Operation I O R)) (worlds : T → W) : Prop :=
  callsOf ls = callsIn xs ∧
    ∀ t, Follows exec (startedBy t xs) (finishedBy t xs) (labelsOf t ls) (threads t) (worlds t)

theorem followed_start (start : T → W) :
    Followed exec [] (fun t ↦ (.idle (start t) : Thread I W R)) [] start :=
  ⟨rfl, fun _ ↦ .idle _ rfl rfl⟩

theorem Followed.serialises {threads : T → Thread I W R} (h : Followed exec xs threads ls y) :
    Serialises xs threads ls y where
  calls := h.1
  started t := (h.2 t).ops_isPrefix
  finished t := (h.2 t).results_isPrefix
  idle t w hw := by
    have hfollows := h.2 t
    rw [hw] at hfollows
    generalize y t = w' at hfollows
    cases hfollows with
    | idle _ hops hresults => exact ⟨rfl, hops, hresults⟩

theorem Followed.step (hexec : ∀ w op, (exec w op).AtMostOneCall)
    (h : Followed exec xs x.1 ls y) {t : T} {act : ThreadAct I O R}
    (hstep : (sharing T (thread exec S)).Step x (t, act) x') :
    ∃ new z, (sharing T (atomic exec S)).Run (y, x.2) new (z, x'.2) ∧
      Followed exec (xs ++ [(t, act)]) x'.1 (ls ++ new) z := by
  obtain ⟨next, hthread, hnext⟩ := hstep
  obtain ⟨new, w, hnew, hcall, hfollow⟩ := (h.2 t).step hexec hthread
  refine ⟨new.map fun l ↦ (t, l), Function.update y t w, Run.of_party (s := (y, x.2)) hnew, ?_, ?_⟩
  · rw [callsOf_append_party, hcall, h.1, callsIn_snoc]
  · intro u
    rw [startedBy_snoc, finishedBy_snoc, labelsOf_append, labelsOf_map_mk, hnext]
    by_cases htu : t = u
    · subst htu
      rw [Function.update_self, Function.update_self, if_pos rfl, if_pos rfl, if_pos rfl]
      exact hfollow
    · rw [Function.update_of_ne (Ne.symm htu), Function.update_of_ne (Ne.symm htu)]
      simpa [htu] using h.2 u

/-- Whole operations that are what the threads did so far can be continued by
whole operations that are what the threads do next. -/
theorem Followed.run (hexec : ∀ w op, (exec w op).AtMostOneCall)
    (h : Followed exec xs x.1 ls y) (hrun : (sharing T (thread exec S)).Run x ys x') :
    ∃ ks z, (sharing T (atomic exec S)).Run (y, x.2) ks (z, x'.2) ∧
      Followed exec (xs ++ ys) x'.1 (ls ++ ks) z := by
  induction hrun with
  | nil => exact ⟨[], y, .nil, by simpa using h⟩
  | snoc hys hlast ih =>
      rename_i ys v u l
      obtain ⟨ks, z, hks, hv⟩ := ih
      obtain ⟨t, act⟩ := l
      obtain ⟨new, z', hnew, hu⟩ := hv.step hexec hlast
      refine ⟨ks ++ new, z', LabelledSystem.run_append_iff.mpr ⟨_, hks, hnew⟩, ?_⟩
      simpa using hu

end

end Interaction
