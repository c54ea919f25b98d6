import Mathlib.Logic.Function.Basic
import Ztcpp.Socket.Methods

/-!
# Socket objects and their owners

A program holds `Socket` objects in variables and in `Result<Socket>` objects;
both are places here.  A `Socket` is the `unique_ptr` to its `Impl`, which a
move leaves null.  Each allocated `Impl` has an address of its own, so that its
history can be followed through moves.
-/

namespace Ztcpp

open Octets Interaction

structure Object where
  address : ℕ
  impl : Impl

structure Socket where
  /-- `std::unique_ptr<Impl> _impl`; `none` after the Socket was moved from. -/
  impl : Option Object

structure World where
  sockets : ℕ → Option Socket
  allocated : ℕ

namespace World

def start : World := ⟨fun _ ↦ none, 0⟩

def set (w : World) (p : ℕ) (s : Option Socket) : World :=
  { w with sockets := Function.update w.sockets p s }

def emplace (w : World) (p : ℕ) (impl : Impl) : World :=
  ⟨Function.update w.sockets p (some ⟨some ⟨w.allocated, impl⟩⟩), w.allocated + 1⟩

/-- The `Impl` that the Socket at `p` owns. -/
def object? (w : World) (p : ℕ) : Option Object := (w.sockets p).bind Socket.impl

def setImpl (w : World) (p : ℕ) (object : Object) (impl : Impl) : World :=
  w.set p (some ⟨some ⟨object.address, impl⟩⟩)

@[simp] theorem set_sockets_self (w : World) (p : ℕ) (s : Option Socket) :
    (w.set p s).sockets p = s := Function.update_self ..

@[simp] theorem set_sockets_ne (w : World) {p q : ℕ} (h : q ≠ p) (s : Option Socket) :
    (w.set p s).sockets q = w.sockets q := Function.update_of_ne h ..

@[simp] theorem object?_set_self (w : World) (p : ℕ) (s : Option Socket) :
    (w.set p s).object? p = s.bind Socket.impl := by simp [object?]

@[simp] theorem object?_set_ne (w : World) {p q : ℕ} (h : q ≠ p) (s : Option Socket) :
    (w.set p s).object? q = w.object? q := by simp [object?, h]

@[simp] theorem object?_emplace_self (w : World) (p : ℕ) (impl : Impl) :
    (w.emplace p impl).object? p = some ⟨w.allocated, impl⟩ := by simp [object?, emplace]

@[simp] theorem object?_emplace_ne (w : World) {p q : ℕ} (h : q ≠ p) (impl : Impl) :
    (w.emplace p impl).object? q = w.object? q := by simp [object?, emplace, h]

@[simp] theorem object?_setImpl_self (w : World) (p : ℕ) (object : Object) (impl : Impl) :
    (w.setImpl p object impl).object? p = some ⟨object.address, impl⟩ := by
  rw [setImpl, object?_set_self]
  rfl

@[simp] theorem object?_setImpl_ne (w : World) {p q : ℕ} (h : q ≠ p) (object : Object)
    (impl : Impl) : (w.setImpl p object impl).object? q = w.object? q :=
  object?_set_ne w h _

@[simp] theorem object?_start (p : ℕ) : start.object? p = none := rfl

theorem object?_eq_some_iff {w : World} {p : ℕ} {object : Object} :
    w.object? p = some object ↔ w.sockets p = some ⟨some object⟩ := by
  unfold object?
  rcases w.sockets p with _ | ⟨_ | _⟩ <;> simp

theorem setImpl_self {w : World} {p : ℕ} {object : Object} (h : w.object? p = some object) :
    w.setImpl p object object.impl = w := by
  rw [object?_eq_some_iff] at h
  unfold setImpl set
  rw [← h, Function.update_eq_self]

end World

inductive Op where
  /-- `Socket p;` -/
  | construct (p : ℕ)
  | call (p : ℕ) (m : Method)
  /-- `accept` on the Socket at `p`; the `Result<Socket>` keeps its Socket at `r`. -/
  | accept (p r : ℕ)
  /-- `Socket p{std::move(q)};` -/
  | moveConstruct (p q : ℕ)
  /-- `p = std::move(q);` -/
  | moveAssign (p q : ℕ)
  /-- The Socket at `p`, or the `Result<Socket>` that holds it, is destroyed. -/
  | destroy (p : ℕ)

namespace World

variable [Platform]

def delete : Option Object → Prog Libzt Unit
  | some object => object.impl.destroy
  | none => .ret ()

/-- A use of a Socket that does not exist, a method call through a null
`unique_ptr` and a second Socket at an occupied place stop the process. -/
def exec (w : World) : Op → Prog Libzt (Outcome × World)
  | .construct p =>
      if (w.sockets p).isSome then .crash else .ret (.done, w.emplace p Impl.fresh)
  | .call p m =>
      match w.object? p with
      | some object => do
          let (o, impl) ← m.exec object.impl
          return (o, w.setImpl p object impl)
      | none => .crash
  | .accept p r =>
      match w.object? p with
      | some object =>
          if (w.sockets r).isSome then .crash
          else do
            let (result, impl) ← object.impl.accept
            let w := w.setImpl p object impl
            match result with
            | .ok accepted => return (.empty emptyResultOK, w.emplace r accepted)
            | .error report => return (.empty (.error report), w)
      | none => .crash
  | .moveConstruct p q =>
      match w.sockets q with
      | some s =>
          if (w.sockets p).isSome then .crash
          else .ret (.done, (w.set q (some ⟨none⟩)).set p (some s))
      | none => .crash
  | .moveAssign p q =>
      match w.sockets q with
      | some s =>
          if (w.sockets p).isNone then .crash
          else do
            -- `_impl.reset(other._impl.release())`
            let w := w.set q (some ⟨none⟩)
            let old := w.object? p
            let w := w.set p (some s)
            delete old
            return (.done, w)
      | none => .crash
  | .destroy p =>
      match w.sockets p with
      | some s => do
          delete s.impl
          return (.done, w.set p none)
      | none => .crash

inductive Deletes : Option Object → List ZtsEvent → Prop where
  | none : Deletes none []
  | notOpen (object : Object) (h : ¬ object.impl.isOpen) : Deletes (some object) []
  | closes (object : Object) (h : object.impl.isOpen) (reply : Status) :
      Deletes (some object) [⟨.ztsClose object.impl.socketID, reply⟩]

inductive Effect (w : World) : Op → List ZtsEvent → World → Prop where
  | constructed (p : ℕ) (hfree : w.sockets p = none) :
      Effect w (.construct p) [] (w.emplace p Impl.fresh)
  | called (p : ℕ) (m : Method) (object : Object) (es : List ZtsEvent) (impl : Impl)
      (hp : w.object? p = some object) (hm : Method.Effect object.impl m es impl) :
      Effect w (.call p m) es (w.setImpl p object impl)
  | refused (p r : ℕ) (object : Object) (reply : Status) (hp : w.object? p = some object)
      (hfree : w.sockets r = none) (herror : (Impl.acceptError reply).isSome) :
      Effect w (.accept p r) [⟨.ztsAccept object.impl.socketID, reply⟩] w
  | accepted (p r : ℕ) (object : Object) (reply : Status) (hp : w.object? p = some object)
      (hfree : w.sockets r = none) (herror : Impl.acceptError reply = none) :
      Effect w (.accept p r) [⟨.ztsAccept object.impl.socketID, reply⟩]
        (w.emplace r { object.impl with socketID := reply.res })
  | moved (p q : ℕ) (s : Socket) (hq : w.sockets q = some s) (hfree : w.sockets p = none) :
      Effect w (.moveConstruct p q) [] ((w.set q (some ⟨none⟩)).set p (some s))
  | assigned (p q : ℕ) (s : Socket) (es : List ZtsEvent) (hq : w.sockets q = some s)
      (hp : w.sockets p ≠ none) (hdelete : Deletes ((w.set q (some ⟨none⟩)).object? p) es) :
      Effect w (.moveAssign p q) es ((w.set q (some ⟨none⟩)).set p (some s))
  | destroyed (p : ℕ) (s : Socket) (es : List ZtsEvent) (hp : w.sockets p = some s)
      (hdelete : Deletes s.impl es) :
      Effect w (.destroy p) es (w.set p none)

theorem runs_delete {o : Option Object} {es : List ZtsEvent} (h : (delete o).Runs es ()) :
    Deletes o es := by
  cases o with
  | none =>
      obtain ⟨rfl, -⟩ := h
      exact .none
  | some object =>
      rcases Impl.runs_destroy h with ⟨ho, rfl⟩ | ⟨ho, reply, rfl⟩
      · exact .notOpen object ho
      · exact .closes object ho reply

theorem runs_call {w w' : World} {p : ℕ} {m : Method} {es : List ZtsEvent} {o : Outcome}
    (h : (w.exec (.call p m)).Runs es (o, w')) :
    ∃ object impl, w.object? p = some object ∧ (m.exec object.impl).Runs es (o, impl) ∧
      w' = w.setImpl p object impl := by
  cases hp : w.object? p with
  | none => simp [exec, hp] at h
  | some object =>
      simp only [exec, hp] at h
      obtain ⟨⟨o', impl⟩, front, back, rfl, hm, rfl, ⟨⟩⟩ := Prog.runs_bind.mp h
      exact ⟨object, impl, rfl, by rwa [List.append_nil], rfl⟩

theorem runs_call_of_object {w w' : World} {p : ℕ} {m : Method} {object : Object}
    {es : List ZtsEvent} {o : Outcome} (hp : w.object? p = some object)
    (h : (w.exec (.call p m)).Runs es (o, w')) :
    ∃ impl, (m.exec object.impl).Runs es (o, impl) ∧ w' = w.setImpl p object impl := by
  obtain ⟨object', impl, hp', hm, hw'⟩ := runs_call h
  obtain rfl : object = object' := Option.some.inj (hp.symm.trans hp')
  exact ⟨impl, hm, hw'⟩

theorem runs_accept {w w' : World} {p r : ℕ} {es : List ZtsEvent} {o : Outcome}
    (h : (w.exec (.accept p r)).Runs es (o, w')) :
    ∃ object, w.object? p = some object ∧ w.sockets r = none ∧ ∃ reply : Status,
      es = [⟨.ztsAccept object.impl.socketID, reply⟩] ∧
      ((∃ report, Impl.acceptError reply = some report ∧ o = .empty (.error report) ∧ w' = w) ∨
        (Impl.acceptError reply = none ∧ o = .empty emptyResultOK ∧
          w' = w.emplace r { object.impl with socketID := reply.res })) := by
  cases hp : w.object? p with
  | none => simp [exec, hp] at h
  | some object =>
      simp only [exec, hp] at h
      split_ifs at h with hr
      · exact h.elim
      · obtain ⟨⟨result, impl⟩, front, back, rfl, hm, hback⟩ := Prog.runs_bind.mp h
        obtain ⟨rfl, reply, rfl, ⟨report, herror, rfl⟩ | ⟨herror, rfl⟩⟩ := Impl.runs_accept hm
        · obtain ⟨rfl, ⟨⟩⟩ := hback
          exact ⟨object, rfl, by simpa using hr, reply, rfl,
            .inl ⟨report, herror, rfl, setImpl_self hp⟩⟩
        · obtain ⟨rfl, ⟨⟩⟩ := hback
          exact ⟨object, rfl, by simpa using hr, reply, rfl,
            .inr ⟨herror, rfl, by rw [setImpl_self hp]⟩⟩

theorem exec_effect {w w' : World} {op : Op} {es : List ZtsEvent} {o : Outcome}
    (h : (w.exec op).Runs es (o, w')) : Effect w op es w' := by
  cases op with
  | construct p =>
      simp only [exec] at h
      split_ifs at h with hp
      · exact h.elim
      · obtain ⟨rfl, ⟨⟩⟩ := h
        exact .constructed p (by simpa using hp)
  | call p m =>
      obtain ⟨object, impl, hp, hm, rfl⟩ := runs_call h
      exact .called p m object es impl hp (Method.exec_effect hm)
  | accept p r =>
      obtain ⟨object, hp, hr, reply, rfl, ⟨report, herror, -, rfl⟩ | ⟨herror, -, rfl⟩⟩ :=
        runs_accept h
      · exact .refused p r object reply hp hr (by rw [herror]; rfl)
      · exact .accepted p r object reply hp hr herror
  | moveConstruct p q =>
      cases hq : w.sockets q with
      | none => simp [exec, hq] at h
      | some s =>
          simp only [exec, hq] at h
          split_ifs at h with hp
          · exact h.elim
          · obtain ⟨rfl, ⟨⟩⟩ := h
            exact .moved p q s hq (by simpa using hp)
  | moveAssign p q =>
      cases hq : w.sockets q with
      | none => simp [exec, hq] at h
      | some s =>
          simp only [exec, hq] at h
          split_ifs at h with hp
          · exact h.elim
          · obtain ⟨_, front, back, rfl, hdelete, rfl, ⟨⟩⟩ := Prog.runs_bind.mp h
            rw [List.append_nil]
            exact .assigned p q s front hq (by simpa using hp) (runs_delete hdelete)
  | destroy p =>
      cases hp : w.sockets p with
      | none => simp [exec, hp] at h
      | some s =>
          simp only [exec, hp] at h
          obtain ⟨_, front, back, rfl, hdelete, rfl, ⟨⟩⟩ := Prog.runs_bind.mp h
          rw [List.append_nil]
          exact .destroyed p s front hp (runs_delete hdelete)

end World

end Ztcpp
