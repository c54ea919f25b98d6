import Ztcpp.Library.Ownership
import Ztcpp.Socket.Session

/-!
# Sockets as owners of descriptors

Each live `Impl` is owned by one Socket, and what an operation does to the
live objects is one update of the map from addresses to them.  The calls to
libzt are read as actions of owners on descriptors, and every step of a session
is a run of the ownership system.
-/

namespace Ztcpp

open Interaction

namespace World

/-- The live `Impl` at an address, if there is one. -/
def heap (w : World) (a : ℕ) : Set Impl := {impl | ∃ p, w.object? p = some ⟨a, impl⟩}

/-- No two Sockets own one `Impl`, and later objects get new addresses. -/
structure Owned (w : World) : Prop where
  unique : ∀ p q x y, w.object? p = some x → w.object? q = some y → x.address = y.address → p = q
  allocated : ∀ p x, w.object? p = some x → x.address < w.allocated

def dropped (heap : ℕ → Set Impl) : Option Object → ℕ → Set Impl
  | some object => Function.update heap object.address ∅
  | none => heap

def handOver (w : World) (p q : ℕ) (s : Socket) : World :=
  (w.set q (some ⟨none⟩)).set p (some s)

theorem owned_start : start.Owned := by
  constructor
  · intro p q x y hp
    simp at hp
  · intro p x hp
    simp at hp

theorem mem_dropped {heap : ℕ → Set Impl} {o : Option Object} {a : ℕ} {impl : Impl} :
    impl ∈ dropped heap o a ↔ impl ∈ heap a ∧ ∀ x, o = some x → a ≠ x.address := by
  cases o with
  | none => simp [dropped]
  | some object =>
      rw [dropped, Ownership.mem_update_empty, and_comm]
      simp

section

variable {w : World} {p q : ℕ} {object : Object} {s : Socket}

theorem object?_handOver (r : ℕ) :
    (w.handOver p q s).object? r =
      if r = p then s.impl else (w.set q (some ⟨none⟩)).object? r := by
  by_cases hr : r = p
  · subst hr
    simp [handOver]
  · simp [handOver, hr]

theorem object?_release (r : ℕ) :
    (w.set q (some ⟨none⟩)).object? r = if r = q then none else w.object? r := by
  by_cases hr : r = q
  · subst hr
    simp
  · simp [hr]

theorem Owned.setImpl (hw : w.Owned) (hp : w.object? p = some object) (impl : Impl) :
    (w.setImpl p object impl).Owned := by
  have hold : ∀ q y, (w.setImpl p object impl).object? q = some y →
      ∃ x, w.object? q = some x ∧ x.address = y.address := by
    intro q y hy
    by_cases hq : q = p
    · subst hq
      refine ⟨object, hp, ?_⟩
      simp only [World.setImpl, object?_set_self, Option.bind_some, Option.some.injEq] at hy
      rw [← hy]
    · rw [World.setImpl, object?_set_ne w hq] at hy
      exact ⟨y, hy, rfl⟩
  constructor
  · intro q r y z hy hz hyz
    obtain ⟨y', hy', hyy⟩ := hold q y hy
    obtain ⟨z', hz', hzz⟩ := hold r z hz
    exact hw.unique q r y' z' hy' hz' (by rw [hyy, hyz, hzz])
  · intro q y hy
    obtain ⟨y', hy', hyy⟩ := hold q y hy
    rw [← hyy]
    exact hw.allocated q y' hy'

theorem Owned.emplace (hw : w.Owned) (p : ℕ) (impl : Impl) : (w.emplace p impl).Owned := by
  have hnew : ∀ q y, (w.emplace p impl).object? q = some y →
      (q = p ∧ y.address = w.allocated) ∨ (q ≠ p ∧ w.object? q = some y) := by
    intro q y hy
    by_cases hq : q = p
    · subst hq
      rw [object?_emplace_self, Option.some.injEq] at hy
      exact .inl ⟨rfl, by rw [← hy]⟩
    · rw [object?_emplace_ne w hq] at hy
      exact .inr ⟨hq, hy⟩
  constructor
  · intro q r y z hy hz hyz
    rcases hnew q y hy with ⟨rfl, hya⟩ | ⟨-, hyold⟩
    · rcases hnew r z hz with ⟨rfl, -⟩ | ⟨-, hzold⟩
      · rfl
      · have hlt := hw.allocated r z hzold
        omega
    · rcases hnew r z hz with ⟨rfl, hza⟩ | ⟨-, hzold⟩
      · have hlt := hw.allocated q y hyold
        omega
      · exact hw.unique q r y z hyold hzold hyz
  · intro q y hy
    change y.address < w.allocated + 1
    rcases hnew q y hy with ⟨-, hya⟩ | ⟨-, hy⟩
    · omega
    · have hlt := hw.allocated q y hy
      omega

theorem Owned.handOver (hw : w.Owned) (hq : w.sockets q = some s) (p : ℕ) :
    (w.handOver p q s).Owned := by
  have hqs : w.object? q = s.impl := by simp [object?, hq]
  -- the object now at `r` was at `q` before when `r = p`, and at `r` otherwise
  have hold : ∀ r y, (w.handOver p q s).object? r = some y →
      (r = p ∧ w.object? q = some y) ∨ (r ≠ p ∧ r ≠ q ∧ w.object? r = some y) := by
    intro r y hy
    rw [object?_handOver, object?_release, ← hqs] at hy
    split_ifs at hy with hrp hrq
    · exact .inl ⟨hrp, hy⟩
    · exact .inr ⟨hrp, hrq, hy⟩
  constructor
  · intro r r' y z hy hz hyz
    rcases hold r y hy with ⟨rfl, hyold⟩ | ⟨-, hne, hyold⟩
    · rcases hold r' z hz with ⟨rfl, -⟩ | ⟨-, hne, hzold⟩
      · rfl
      · exact absurd (hw.unique q r' y z hyold hzold hyz).symm hne
    · rcases hold r' z hz with ⟨rfl, hzold⟩ | ⟨-, -, hzold⟩
      · exact absurd (hw.unique r q y z hyold hzold hyz) hne
      · exact hw.unique r r' y z hyold hzold hyz
  · intro r y hy
    rcases hold r y hy with ⟨-, hy⟩ | ⟨-, -, hy⟩
    · exact hw.allocated q y hy
    · exact hw.allocated r y hy

theorem Owned.clear (hw : w.Owned) (p : ℕ) : (w.set p none).Owned := by
  have hold : ∀ q y, (w.set p none).object? q = some y → w.object? q = some y := by
    intro q y hy
    by_cases hq : q = p
    · subst hq
      simp at hy
    · rwa [object?_set_ne w hq] at hy
  exact ⟨fun q r y z hy hz ↦ hw.unique q r y z (hold q y hy) (hold r z hz),
    fun q y hy ↦ hw.allocated q y (hold q y hy)⟩

theorem Owned.heap_allocated (hw : w.Owned) : w.heap w.allocated = ∅ := by
  refine Set.eq_empty_iff_forall_notMem.mpr ?_
  rintro impl ⟨p, hp⟩
  exact lt_irrefl _ (hw.allocated p _ hp)

theorem Owned.heap_of_object (hw : w.Owned) (hp : w.object? p = some object) :
    w.heap object.address = {object.impl} := by
  ext impl
  constructor
  · rintro ⟨q, hq⟩
    obtain rfl := hw.unique q p _ _ hq hp rfl
    rw [hp, Option.some.injEq] at hq
    rw [hq, Set.mem_singleton_iff]
  · rintro rfl
    exact ⟨p, hp⟩

theorem Owned.heap_setImpl (hw : w.Owned) (hp : w.object? p = some object) (impl : Impl) :
    (w.setImpl p object impl).heap = Function.update w.heap object.address {impl} := by
  ext a i
  rw [Ownership.mem_update_singleton]
  constructor
  · rintro ⟨q, hq⟩
    by_cases hqp : q = p
    · subst hqp
      simp only [World.setImpl, object?_set_self, Option.bind_some, Option.some.injEq,
        Object.mk.injEq] at hq
      exact .inl ⟨hq.1.symm, hq.2.symm⟩
    · rw [World.setImpl, object?_set_ne w hqp] at hq
      refine .inr ⟨?_, q, hq⟩
      rintro rfl
      exact hqp (hw.unique q p _ _ hq hp rfl)
  · rintro (⟨rfl, rfl⟩ | ⟨hne, q, hq⟩)
    · exact ⟨p, by simp [World.setImpl]⟩
    · refine ⟨q, ?_⟩
      have hqp : q ≠ p := by
        rintro rfl
        rw [hp, Option.some.injEq] at hq
        exact hne (by rw [hq])
      rwa [World.setImpl, object?_set_ne w hqp]

theorem Owned.heap_emplace (hw : w.Owned) (hp : w.sockets p = none) (impl : Impl) :
    (w.emplace p impl).heap = Function.update w.heap w.allocated {impl} := by
  ext a i
  rw [Ownership.mem_update_singleton]
  constructor
  · rintro ⟨q, hq⟩
    by_cases hqp : q = p
    · subst hqp
      simp only [object?_emplace_self, Option.some.injEq, Object.mk.injEq] at hq
      exact .inl ⟨hq.1.symm, hq.2.symm⟩
    · rw [object?_emplace_ne w hqp] at hq
      refine .inr ⟨?_, q, hq⟩
      rintro rfl
      exact lt_irrefl _ (hw.allocated q _ hq)
  · rintro (⟨rfl, rfl⟩ | ⟨-, q, hq⟩)
    · exact ⟨p, by simp⟩
    · refine ⟨q, ?_⟩
      have hqp : q ≠ p := by
        rintro rfl
        simp [object?, hp] at hq
      rwa [object?_emplace_ne w hqp]

theorem Owned.heap_clear (hw : w.Owned) : (w.set p none).heap = dropped w.heap (w.object? p) := by
  ext a i
  rw [mem_dropped]
  constructor
  · rintro ⟨q, hq⟩
    have hqp : q ≠ p := by
      rintro rfl
      simp at hq
    rw [object?_set_ne w hqp] at hq
    refine ⟨⟨q, hq⟩, ?_⟩
    rintro x hx rfl
    exact hqp (hw.unique q p _ _ hq hx rfl)
  · rintro ⟨⟨q, hq⟩, hne⟩
    refine ⟨q, ?_⟩
    have hqp : q ≠ p := by
      rintro rfl
      exact hne _ hq rfl
    rwa [object?_set_ne w hqp]

theorem Owned.heap_handOver (hw : w.Owned) (hq : w.sockets q = some s) :
    (w.handOver p q s).heap = dropped w.heap ((w.set q (some ⟨none⟩)).object? p) := by
  have hqs : w.object? q = s.impl := by simp [object?, hq]
  ext a i
  rw [mem_dropped, object?_release]
  constructor
  · rintro ⟨r, hr⟩
    rw [object?_handOver, object?_release, ← hqs] at hr
    split_ifs at hr with hrp hrq
    · refine ⟨⟨q, hr⟩, ?_⟩
      rintro x hx rfl
      split_ifs at hx with hpq
      exact hpq (hw.unique p q _ _ hx hr rfl)
    · refine ⟨⟨r, hr⟩, ?_⟩
      rintro x hx rfl
      split_ifs at hx with hpq
      exact hrp (hw.unique r p _ _ hr hx rfl)
  · rintro ⟨⟨r, hr⟩, hne⟩
    by_cases hrq : r = q
    · subst hrq
      exact ⟨p, by rw [object?_handOver, if_pos rfl, ← hqs, hr]⟩
    · have hrp : r ≠ p := by
        rintro rfl
        rw [if_neg hrq] at hne
        exact hne _ hr rfl
      exact ⟨r, by rw [object?_handOver, if_neg hrp, object?_release, if_neg hrq, hr]⟩

end

/-- What an operation can do to the live objects, with its calls to libzt. -/
inductive HeapEffect (heap : ℕ → Set Impl) [Platform] :
    List ZtsEvent → (ℕ → Set Impl) → Prop where
  | same : HeapEffect heap [] heap
  | used (a : ℕ) (impl : Impl) (h : impl ∈ heap a) (e : ZtsEvent)
      (he : e.call.descriptorUse = .uses impl.socketID) : HeapEffect heap [e] heap
  | constructed (a : ℕ) (ha : heap a = ∅) :
      HeapEffect heap [] (Function.update heap a {Impl.fresh})
  | initialized (a : ℕ) (impl : Impl) (h : impl ∈ heap a) (d : SocketDomain) (t : SocketType)
      (hv : Method.ValidInit d t) (reply : Status) :
      HeapEffect heap
        [⟨.ztsSocket (Impl.getZTAddressFamily ⟨d, t, impl.socketID⟩)
          (Impl.getZTSocketType ⟨d, t, impl.socketID⟩)
          (Impl.getZTProtocolFamily ⟨d, t, impl.socketID⟩), reply⟩]
        (Function.update heap a {⟨d, t, reply.res⟩})
  | refused (a : ℕ) (impl : Impl) (h : impl ∈ heap a) (reply : Status)
      (herror : (Impl.acceptError reply).isSome) :
      HeapEffect heap [⟨.ztsAccept impl.socketID, reply⟩] heap
  | accepted (a : ℕ) (impl : Impl) (h : impl ∈ heap a) (reply : Status) (b : ℕ)
      (hb : heap b = ∅) :
      HeapEffect heap [⟨.ztsAccept impl.socketID, reply⟩]
        (Function.update heap b {{ impl with socketID := reply.res }})
  | closed (a : ℕ) (impl : Impl) (h : impl ∈ heap a) (hopen : impl.isOpen) (reply : Status) :
      HeapEffect heap [⟨.ztsClose impl.socketID, reply⟩]
        (Function.update heap a {{ impl with socketID := ztsErrSocket }})
  | deleted (a : ℕ) (impl : Impl) (h : impl ∈ heap a) (hopen : ¬ impl.isOpen) :
      HeapEffect heap [] (Function.update heap a ∅)
  | deletedOpen (a : ℕ) (impl : Impl) (h : impl ∈ heap a) (hopen : impl.isOpen)
      (reply : Status) :
      HeapEffect heap [⟨.ztsClose impl.socketID, reply⟩] (Function.update heap a ∅)

section

variable [Platform] {w w' : World} {op : Op} {es : List ZtsEvent}

theorem heapEffect_deletes {o : Option Object} (ho : ∀ x, o = some x → x.impl ∈ w.heap x.address)
    (h : Deletes o es) : HeapEffect w.heap es (dropped w.heap o) := by
  cases h with
  | none => exact .same
  | notOpen object hopen => exact .deleted object.address object.impl (ho object rfl) hopen
  | closes object hopen reply =>
      exact .deletedOpen object.address object.impl (ho object rfl) hopen reply

theorem Owned.heapEffect (hw : w.Owned) (h : w.Effect op es w') :
    HeapEffect w.heap es w'.heap := by
  cases h with
  | constructed p hfree =>
      rw [hw.heap_emplace hfree]
      exact .constructed w.allocated hw.heap_allocated
  | called p m object es impl hp hm =>
      have hmem : object.impl ∈ w.heap object.address := ⟨p, hp⟩
      rw [hw.heap_setImpl hp]
      cases hm with
      | opens d t reply hv => exact .initialized object.address object.impl hmem d t hv reply
      | closes reply hopen => exact .closed object.address object.impl hmem hopen reply
      | uses m e he =>
          rw [← hw.heap_of_object hp, Function.update_eq_self]
          exact .used object.address object.impl hmem e he
      | quiet m =>
          rw [← hw.heap_of_object hp, Function.update_eq_self]
          exact .same
  | refused p r object reply hp hfree herror =>
      have hmem : object.impl ∈ w.heap object.address := ⟨p, hp⟩
      exact .refused object.address object.impl hmem reply herror
  | accepted p r object reply hp hfree herror =>
      have hmem : object.impl ∈ w.heap object.address := ⟨p, hp⟩
      rw [hw.heap_emplace hfree]
      exact .accepted object.address object.impl hmem reply w.allocated hw.heap_allocated
  | moved p q s hq hfree =>
      have hempty : (w.set q (some ⟨none⟩)).object? p = none := by
        rw [object?_release]
        split_ifs
        · rfl
        · simp [object?, hfree]
      change HeapEffect w.heap [] (w.handOver p q s).heap
      rw [hw.heap_handOver hq, hempty]
      exact .same
  | assigned p q s es hq hp hdelete =>
      change HeapEffect w.heap es (w.handOver p q s).heap
      rw [hw.heap_handOver hq]
      refine heapEffect_deletes ?_ hdelete
      intro x hx
      rw [object?_release] at hx
      split_ifs at hx
      exact ⟨p, hx⟩
  | destroyed p s es hp hdelete =>
      have hps : w.object? p = s.impl := by simp [object?, hp]
      rw [← hps] at hdelete
      rw [hw.heap_clear]
      exact heapEffect_deletes (fun x hx ↦ ⟨p, hx⟩) hdelete

end

def descriptor (impl : Impl) : Set ℤ := {fd | 0 ≤ fd ∧ impl.socketID = fd}

def held (w : World) (a : ℕ) : Set ℤ := {fd | ∃ impl ∈ w.heap a, fd ∈ descriptor impl}

theorem descriptor_of_isOpen {impl : Impl} (h : impl.isOpen) :
    descriptor impl = {impl.socketID} := by
  ext fd
  rw [Impl.isOpen_iff] at h
  constructor
  · rintro ⟨-, hfd⟩
    exact hfd.symm
  · rintro rfl
    exact ⟨h, rfl⟩

theorem descriptor_of_not_isOpen {impl : Impl} (h : ¬ impl.isOpen) : descriptor impl = ∅ := by
  refine Set.eq_empty_iff_forall_notMem.mpr ?_
  rintro fd ⟨hfd, rfl⟩
  exact h (Impl.isOpen_iff.mpr hfd)

theorem held_of_heap {w w' : World} {a : ℕ} {impls : Set Impl}
    (h : w'.heap = Function.update w.heap a impls) :
    w'.held = Function.update w.held a {fd | ∃ impl ∈ impls, fd ∈ descriptor impl} := by
  funext b
  unfold held
  by_cases hb : b = a
  · subst hb
    simp [h]
  · simp [h, hb]

theorem held_of_heap_singleton {w w' : World} {a : ℕ} {impl : Impl}
    (h : w'.heap = Function.update w.heap a {impl}) :
    w'.held = Function.update w.held a (descriptor impl) := by
  rw [held_of_heap h]
  simp

theorem mem_held {w : World} {p : ℕ} {object : Object} (hp : w.object? p = some object)
    (hopen : object.impl.isOpen) : object.impl.socketID ∈ w.held object.address :=
  ⟨object.impl, ⟨p, hp⟩, Impl.isOpen_iff.mp hopen, rfl⟩

end World

end Ztcpp
