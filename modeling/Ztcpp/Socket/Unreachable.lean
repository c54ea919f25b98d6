import Ztcpp.Construction
import Ztcpp.Socket.Session

/-!
# Places that are marked as unreachable

`ToSockaddr` asserts what its callers have checked, and `getAddressFamily` has
an end that its comment calls unreachable.  The checked methods repeat `bind`,
`connect` and `sendTo` with a `getAddressFamily` that stops the process there,
as the assertions do, so that no marked place is reached exactly when the
process never stops.
-/

namespace Ztcpp

open Interaction

section

variable [Platform]

namespace Impl

def getAddressFamilyChecked (self : Impl) : Prog Libzt AddressFamily :=
  match self.socketDomain with
  | .internetProtocolIPv4 => .ret .ipv4
  | .internetProtocolIPv6 => .ret .ipv6
  | .unnamed .. => .crash

def bindChecked (self : Impl) (stack : Stack) (aLocalIpAddress : IpAddress)
    (aLocalPortInHostOrder : UInt16) : Prog Libzt (EmptyResult × Impl) := do
  if ¬ aLocalIpAddress.isValid then
    return (.error (ztcppErrorReport .argumentError "aLocalIpAddress is invalid" "bind"), self)
  let addressFamily ← self.getAddressFamilyChecked
  if aLocalIpAddress.getAddressFamily ≠ addressFamily then
    return (.error (ztcppErrorReport .argumentError "aLocalIpAddress is of wrong address family"
      "bind"), self)
  let sockaddr ← encodeSockaddr stack aLocalIpAddress aLocalPortInHostOrder
  let reply : Status ← callLibzt (.ztsBsdBind self.socketID sockaddr sizeofSockaddrStorage)
  return (statusResult "bind" "zts_bind" reply (), self)

def connectChecked (self : Impl) (stack : Stack) (aRemoteIpAddress : IpAddress)
    (aRemotePortInHostOrder : UInt16) : Prog Libzt (EmptyResult × Impl) := do
  if aRemotePortInHostOrder = 0 then
    return (.error (ztcppErrorReport .argumentError "0 is not a valid port to connect to"
      "connect"), self)
  if ¬ aRemoteIpAddress.isValid then
    return (.error (ztcppErrorReport .argumentError "aRemoteIpAddress is invalid" "connect"), self)
  let addressFamily ← self.getAddressFamilyChecked
  if aRemoteIpAddress.getAddressFamily ≠ addressFamily then
    return (.error (ztcppErrorReport .argumentError "aRemoteIpAddress is of wrong address family"
      "connect"), self)
  let sockaddr ← encodeSockaddr stack aRemoteIpAddress aRemotePortInHostOrder
  let reply : Status ← callLibzt (.ztsBsdConnect self.socketID sockaddr sizeofSockaddrStorage)
  return (statusResult "connect" "zts_connect" reply (), self)

def sendToChecked (self : Impl) (stack : Stack) (aData : Option (List UInt8))
    (aDataByteSize : UInt64) (aRemoteIpAddress : IpAddress) (aLocalPortInHostOrder : UInt16) :
    Prog Libzt (Result UInt64 × Impl) := do
  if aData = none ∨ aDataByteSize = 0 then
    return (.error (ztcppErrorReport .argumentError "aData is null or aDataByteSize == 0"
      "sendTo"), self)
  if ¬ aRemoteIpAddress.isValid then
    return (.error (ztcppErrorReport .argumentError "aRemoteIpAddress is invalid" "sendTo"), self)
  let addressFamily ← self.getAddressFamilyChecked
  if aRemoteIpAddress.getAddressFamily ≠ addressFamily then
    return (.error (ztcppErrorReport .argumentError "aRemoteIpAddress is of wrong address family"
      "sendTo"), self)
  let sockaddr ← encodeSockaddr stack aRemoteIpAddress aLocalPortInHostOrder
  let reply : Status ← callLibzt (.ztsBsdSendto self.socketID (aData.getD []) aDataByteSize 0
    sockaddr sizeofSockaddrStorage)
  return (sentResult "sendTo" "zts_sendto" reply aDataByteSize, self)

end Impl

/-- The other methods call neither function. -/
def Method.execChecked (self : Impl) : Method → Prog Libzt (Outcome × Impl)
  | .bind stack a p => returning .empty (self.bindChecked stack a p)
  | .connect stack a p => returning .empty (self.connectChecked stack a p)
  | .sendTo stack data size a p => returning .count (self.sendToChecked stack data size a p)
  | m => m.exec self

def World.execChecked (w : World) : Op → Prog Libzt (Outcome × World)
  | .call p m =>
      match w.object? p with
      | some object => do
          let (o, impl) ← m.execChecked object.impl
          return (o, w.setImpl p object impl)
      | none => .crash
  | op => w.exec op

/-- The operations that the program may do next: it uses Sockets that exist,
calls no method of one that was moved from, and puts none where one lives. -/
def World.Allows (w : World) : Op → Prop
  | .construct p => w.sockets p = none
  | .call p _ => w.object? p ≠ none
  | .accept p r => w.object? p ≠ none ∧ w.sockets r = none
  | .moveConstruct p q => w.sockets q ≠ none ∧ w.sockets p = none
  | .moveAssign p q => w.sockets q ≠ none ∧ w.sockets p ≠ none
  | .destroy p => w.sockets p ≠ none

/-! ## One method -/

namespace Impl

variable {self : Impl}

def Named (self : Impl) : Prop :=
  self.socketDomain = .internetProtocolIPv4 ∨ self.socketDomain = .internetProtocolIPv6

omit [Platform] in
theorem getAddressFamilyChecked_of_named (h : self.Named) :
    self.getAddressFamilyChecked = .ret self.getAddressFamily := by
  unfold getAddressFamilyChecked getAddressFamily
  rcases h with h | h
  · rw [h]
  · rw [h]

omit [Platform] in
theorem getAddressFamilyChecked_of_not_named (h : ¬ self.Named) :
    self.getAddressFamilyChecked = .crash := by
  unfold getAddressFamilyChecked
  cases hdomain : self.socketDomain with
  | internetProtocolIPv4 => exact absurd (.inl hdomain) h
  | internetProtocolIPv6 => exact absurd (.inr hdomain) h
  | unnamed raw hraw => rfl

omit [Platform] in
theorem getAddressFamily_eq (self : Impl) :
    self.getAddressFamily = .ipv4 ∨ self.getAddressFamily = .ipv6 := by
  unfold getAddressFamily
  cases self.socketDomain with
  | internetProtocolIPv4 => exact .inl rfl
  | internetProtocolIPv6 => exact .inr rfl
  | unnamed raw hraw => exact .inl rfl

/-- The assertions of `ToSockaddr` hold for an address that passed the guards. -/
theorem neverStops_encodeSockaddr (stack : Stack) {a : IpAddress} (port : UInt16)
    (h : self.Accepts a) : (encodeSockaddr stack a port).NeverStops := by
  have hfamily := self.getAddressFamily_eq
  rw [← h.2] at hfamily
  obtain ⟨s, hs⟩ := Option.isSome_iff_exists.mp (toSockaddr_isSome_iff.mpr ⟨h.1, hfamily⟩)
  unfold encodeSockaddr
  rw [hs]
  trivial

theorem neverStops_bind (self : Impl) (stack : Stack) (a : IpAddress) (port : UInt16) :
    (self.bind stack a port).NeverStops := by
  unfold bind
  split_ifs with hvalid hfamily
  · trivial
  · refine Prog.neverStops_bind_iff.mpr ⟨?_, fun _ _ _ _ ↦ trivial⟩
    exact neverStops_encodeSockaddr stack port ⟨hvalid, not_not.mp hfamily⟩
  · trivial

theorem neverStops_connect (self : Impl) (stack : Stack) (a : IpAddress) (port : UInt16) :
    (self.connect stack a port).NeverStops := by
  unfold connect
  split_ifs with hport hvalid hfamily
  · trivial
  · trivial
  · refine Prog.neverStops_bind_iff.mpr ⟨?_, fun _ _ _ _ ↦ trivial⟩
    exact neverStops_encodeSockaddr stack port ⟨hvalid, not_not.mp hfamily⟩
  · trivial

theorem neverStops_sendTo (self : Impl) (stack : Stack) (data : Option (List UInt8))
    (size : UInt64) (a : IpAddress) (port : UInt16) :
    (self.sendTo stack data size a port).NeverStops := by
  unfold sendTo
  split_ifs with hdata hvalid hfamily
  · trivial
  · trivial
  · refine Prog.neverStops_bind_iff.mpr ⟨?_, fun _ _ _ _ ↦ trivial⟩
    exact neverStops_encodeSockaddr stack port ⟨hvalid, not_not.mp hfamily⟩
  · trivial

theorem neverStops_destroy (self : Impl) : self.destroy.NeverStops := by
  by_cases hopen : self.isOpen
  · unfold destroy close
    rw [if_pos hopen]
    intro reply
    trivial
  · rw [destroy_of_not_isOpen hopen]
    trivial

end Impl

namespace Method

variable {self self' : Impl} {m : Method}

omit [Platform] in
theorem neverStops_returning {α : Type} {f : α → Outcome} {p : Prog Libzt (α × Impl)} :
    (returning f p).NeverStops ↔ p.NeverStops := Prog.neverStops_map_iff

omit [Platform] in
theorem neverStops_reading {α : Type} {f : α → Outcome} {p : Prog Libzt α} :
    (reading self f p).NeverStops ↔ p.NeverStops := Prog.neverStops_map_iff

theorem neverStops_exec (self : Impl) (m : Method) : (m.exec self).NeverStops := by
  cases m with
  | init d t =>
      apply neverStops_returning.mpr
      unfold Impl.init
      split_ifs
      all_goals first | trivial | exact fun _ ↦ trivial
  | bind stack a p => exact neverStops_returning.mpr (self.neverStops_bind stack a p)
  | connect stack a p => exact neverStops_returning.mpr (self.neverStops_connect stack a p)
  | sendTo stack data size a p =>
      exact neverStops_returning.mpr (self.neverStops_sendTo stack data size a p)
  | listen n => exact fun _ ↦ trivial
  | send data size =>
      apply neverStops_returning.mpr
      unfold Impl.send
      split_ifs
      · trivial
      · exact fun _ ↦ trivial
  | receive buffer size =>
      apply neverStops_returning.mpr
      unfold Impl.receive
      split_ifs
      · trivial
      · exact fun _ ↦ trivial
  | receiveFrom stack buffer size a p =>
      apply neverStops_returning.mpr
      unfold Impl.receiveFrom
      split_ifs
      · trivial
      · exact fun _ ↦ trivial
  | isOpen => trivial
  | close =>
      apply neverStops_returning.mpr
      unfold Impl.close
      split_ifs
      · exact fun _ ↦ trivial
      · trivial
  | pollEvents events time =>
      apply neverStops_reading.mpr
      unfold Impl.pollEvents
      split_ifs
      · trivial
      · exact fun _ ↦ trivial
  | getLocalIpAddress stack | getLocalPort stack | getRemoteIpAddress stack
  | getRemotePort stack => exact fun _ ↦ trivial

/-- The calls that compare the family of an address with the Socket's. -/
def ChecksFamily : Method → Prop
  | .bind _ a _ => a.isValid
  | .connect _ a port => port ≠ 0 ∧ a.isValid
  | .sendTo _ data size a _ => ¬ (data = none ∨ size = 0) ∧ a.isValid
  | _ => False

/-- On a Socket with a domain the checked methods are the methods. -/
theorem execChecked_eq (h : m.ChecksFamily → self.Named) : m.execChecked self = m.exec self := by
  cases m with
  | bind stack a port =>
      rw [execChecked, exec, Impl.bindChecked, Impl.bind]
      by_cases hvalid : a.isValid
      · rw [Impl.getAddressFamilyChecked_of_named (h hvalid)]
        rfl
      · rw [if_pos hvalid, if_pos hvalid]
  | connect stack a port =>
      rw [execChecked, exec, Impl.connectChecked, Impl.connect]
      by_cases hport : port = 0
      · rw [if_pos hport, if_pos hport]
      by_cases hvalid : a.isValid
      · rw [Impl.getAddressFamilyChecked_of_named (h ⟨hport, hvalid⟩)]
        rfl
      · rw [if_pos hvalid, if_pos hvalid]
  | sendTo stack data size a port =>
      rw [execChecked, exec, Impl.sendToChecked, Impl.sendTo]
      by_cases hdata : data = none ∨ size = 0
      · rw [if_pos hdata, if_pos hdata]
      by_cases hvalid : a.isValid
      · rw [Impl.getAddressFamilyChecked_of_named (h ⟨hdata, hvalid⟩)]
        rfl
      · rw [if_pos hvalid, if_pos hvalid]
  | _ => rfl

/-- Without one they stop at the fall-through. -/
theorem execChecked_eq_crash (hm : m.ChecksFamily) (h : ¬ self.Named) :
    m.execChecked self = .crash := by
  cases m with
  | bind stack a port =>
      have hvalid : a.isValid := hm
      rw [execChecked, Impl.bindChecked, if_neg (not_not.mpr hvalid),
        Impl.getAddressFamilyChecked_of_not_named h]
      rfl
  | connect stack a port =>
      rw [execChecked, Impl.connectChecked, if_neg hm.1, if_neg (not_not.mpr hm.2),
        Impl.getAddressFamilyChecked_of_not_named h]
      rfl
  | sendTo stack data size a port =>
      rw [execChecked, Impl.sendToChecked, if_neg hm.1, if_neg (not_not.mpr hm.2),
        Impl.getAddressFamilyChecked_of_not_named h]
      rfl
  | _ => exact hm.elim

theorem neverStops_execChecked_iff :
    (m.execChecked self).NeverStops ↔ (m.ChecksFamily → self.Named) := by
  constructor
  · intro h hm
    by_contra hnamed
    rw [execChecked_eq_crash hm hnamed] at h
    exact h
  · intro h
    rw [execChecked_eq h]
    exact neverStops_exec self m

end Method

/-! ## One operation -/

namespace World

variable {w w' : World} {op : Op} {es : List ZtsEvent} {o : Outcome}

theorem neverStops_delete (object? : Option Object) : (delete object?).NeverStops := by
  cases object? with
  | none => trivial
  | some object => exact object.impl.neverStops_destroy

/-- The assertions of `ToSockaddr` hold in every operation. -/
theorem neverStops_exec (h : w.Allows op) : (w.exec op).NeverStops := by
  cases op with
  | construct p =>
      have hfree : w.sockets p = none := h
      simp [exec, hfree]
  | call p m =>
      obtain ⟨object, hp⟩ := Option.ne_none_iff_exists'.mp h
      simp only [exec, hp]
      exact Prog.neverStops_bind_iff.mpr ⟨m.neverStops_exec object.impl, fun _ _ _ ↦ trivial⟩
  | accept p r =>
      obtain ⟨object, hp⟩ := Option.ne_none_iff_exists'.mp h.1
      simp only [exec, hp, h.2, Option.isSome_none, Bool.false_eq_true, if_false]
      refine Prog.neverStops_bind_iff.mpr ⟨?_, ?_⟩
      · rw [Impl.accept_eq]
        exact fun _ ↦ trivial
      · rintro _ ⟨result, impl⟩ -
        cases result with
        | ok accepted => trivial
        | error report => trivial
  | moveConstruct p q =>
      obtain ⟨s, hq⟩ := Option.ne_none_iff_exists'.mp h.1
      simp [exec, hq, h.2]
  | moveAssign p q =>
      obtain ⟨s, hq⟩ := Option.ne_none_iff_exists'.mp h.1
      simp only [exec, hq, Option.isNone_iff_eq_none, h.2, if_false]
      exact Prog.neverStops_bind_iff.mpr ⟨neverStops_delete _, fun _ _ _ ↦ trivial⟩
  | destroy p =>
      obtain ⟨s, hp⟩ := Option.ne_none_iff_exists'.mp h
      simp only [exec, hp]
      exact Prog.neverStops_bind_iff.mpr ⟨neverStops_delete _, fun _ _ _ ↦ trivial⟩

/-- The Socket that an operation calls a method on has a domain if the method
compares it. -/
def ReadyFor (w : World) : Op → Prop
  | .call p m => ∀ object, w.object? p = some object → m.ChecksFamily → object.impl.Named
  | _ => True

theorem neverStops_execChecked_iff (h : w.Allows op) :
    (w.execChecked op).NeverStops ↔ w.ReadyFor op := by
  cases op with
  | call p m =>
      obtain ⟨object, hp⟩ := Option.ne_none_iff_exists'.mp h
      simp only [execChecked, hp, ReadyFor]
      rw [Prog.neverStops_bind_iff, Method.neverStops_execChecked_iff]
      constructor
      · rintro ⟨hready, -⟩ object' hobject
        cases hobject
        exact hready
      · intro hready
        exact ⟨hready object rfl, fun _ _ _ ↦ trivial⟩
  | _ => exact iff_of_true (neverStops_exec h) trivial

/-- What can be done is allowed. -/
theorem allows_of_runs (h : (w.exec op).Runs es (o, w')) : w.Allows op := by
  have hne {α : Type} {x : Option α} {a : α} (hx : x = some a) : x ≠ none := by
    rw [hx]
    exact Option.some_ne_none a
  cases exec_effect h with
  | constructed p hfree => exact hfree
  | called p m object es impl hp hm => exact hne hp
  | refused p r object reply hp hfree | accepted p r object reply hp hfree => exact ⟨hne hp, hfree⟩
  | moved p q s hq hfree => exact ⟨hne hq, hfree⟩
  | assigned p q s es hq hp => exact ⟨hne hq, hp⟩
  | destroyed p s es hp => exact hne hp

end World

end

/-! ## Which Sockets were initialised -/

def Method.Initializes : Method → Prop
  | .init d t => ValidInit d t
  | _ => False

instance (m : Method) : Decidable m.Initializes :=
  match m with
  | .init d t => inferInstanceAs (Decidable (Method.ValidInit d t))
  | .bind .. | .connect .. | .listen .. | .send .. | .sendTo .. | .receive .. | .receiveFrom ..
  | .isOpen | .close | .pollEvents .. | .getLocalIpAddress .. | .getLocalPort ..
  | .getRemoteIpAddress .. | .getRemotePort .. => inferInstanceAs (Decidable False)

/-- The places whose Socket was initialised, here or before it was moved or
accepted from there. -/
def nextInitialized (initialized : ℕ → Bool) (l : Step) : ℕ → Bool :=
  match l.op with
  | .construct p => Function.update initialized p false
  | .call p m => if m.Initializes then Function.update initialized p true else initialized
  | .accept p r =>
      if l.outcome.hasError then initialized else Function.update initialized r (initialized p)
  | .moveConstruct p q | .moveAssign p q => Function.update initialized p (initialized q)
  | .destroy _ => initialized

def initializedAfter (steps : List Step) : ℕ → Bool :=
  steps.foldl nextInitialized fun _ ↦ false

@[simp] theorem initializedAfter_snoc (steps : List Step) (l : Step) :
    initializedAfter (steps ++ [l]) = nextInitialized (initializedAfter steps) l := by
  simp [initializedAfter]

/-- `initialized` tells which Sockets have a domain. -/
def World.DomainsAgree (w : World) (initialized : ℕ → Bool) : Prop :=
  ∀ p object, w.object? p = some object → (initialized p = true ↔ object.impl.Named)

namespace World.DomainsAgree

variable {w : World} {initialized : ℕ → Bool} {p q : ℕ} {b : Bool}

theorem emplace {impl : Impl} (h : w.DomainsAgree initialized) (hb : b = true ↔ impl.Named) :
    (w.emplace p impl).DomainsAgree (Function.update initialized p b) := by
  intro x object hx
  by_cases hxp : x = p
  · subst hxp
    rw [object?_emplace_self] at hx
    cases hx
    rwa [Function.update_self]
  · rw [object?_emplace_ne w hxp] at hx
    rw [Function.update_of_ne hxp]
    exact h x object hx

theorem move {s : Socket} (h : w.DomainsAgree initialized) (hq : w.sockets q = some s) :
    ((w.set q (some ⟨none⟩)).set p (some s)).DomainsAgree
      (Function.update initialized p (initialized q)) := by
  intro x object hx
  by_cases hxp : x = p
  · subst hxp
    rw [object?_set_self] at hx
    rw [Function.update_self]
    apply h q object
    rw [object?, hq]
    exact hx
  · rw [object?_set_ne _ hxp] at hx
    rw [Function.update_of_ne hxp]
    by_cases hxq : x = q
    · subst hxq
      simp at hx
    · rw [object?_set_ne _ hxq] at hx
      exact h x object hx

theorem call {m : Method} {object : Object} {impl : Impl} (h : w.DomainsAgree initialized)
    (hp : w.object? p = some object) (hnamed : impl.Named ↔ m.Initializes ∨ object.impl.Named) :
    (w.setImpl p object impl).DomainsAgree
      (if m.Initializes then Function.update initialized p true else initialized) := by
  intro x object' hx
  by_cases hxp : x = p
  · subst hxp
    rw [object?_setImpl_self] at hx
    cases hx
    split_ifs with hinit
    · rw [Function.update_self]
      exact iff_of_true rfl (hnamed.mpr (.inl hinit))
    · exact (h x object hp).trans (hnamed.trans (or_iff_right hinit)).symm
  · rw [object?_setImpl_ne w hxp] at hx
    split_ifs
    · rw [Function.update_of_ne hxp]
      exact h x object' hx
    · exact h x object' hx

end World.DomainsAgree

section

variable [Platform]

theorem Impl.fresh_not_named : ¬ Impl.fresh.Named := by
  rintro (h | h)
  · cases h
  · cases h

theorem Method.named_of_runs {self self' : Impl} {m : Method} {es : List ZtsEvent} {o : Outcome}
    (h : (m.exec self).Runs es (o, self')) : self'.Named ↔ m.Initializes ∨ self.Named := by
  by_cases hinit : ∃ d t, m = .init d t
  · obtain ⟨d, t, rfl⟩ := hinit
    obtain ⟨r, hrun, -⟩ := runs_returning.mp h
    rcases Impl.runs_init hrun with ⟨hinvalid, -, rfl, -⟩ | ⟨hvalid, reply, -, rfl, -⟩
    · exact (or_iff_right hinvalid).symm
    · exact iff_of_true hvalid.1 (.inl hvalid)
  · have hother : ¬ m.Initializes := by
      intro hm
      cases m with
      | init d t => exact hinit ⟨d, t, rfl⟩
      | _ => exact hm
    rw [or_iff_right hother]
    cases exec_effect h with
    | opens d t => exact absurd ⟨d, t, rfl⟩ hinit
    | closes | uses | quiet => exact Iff.rfl

theorem World.DomainsAgree.step {w w' : World} {initialized : ℕ → Bool} {l : Step}
    (h : w.DomainsAgree initialized) (hl : (w.exec l.op).Runs l.events (l.outcome, w')) :
    w'.DomainsAgree (nextInitialized initialized l) := by
  obtain ⟨op, es, o⟩ := l
  cases op with
  | construct p =>
      cases exec_effect hl with
      | constructed _ hfree =>
          apply h.emplace
          exact iff_of_false Bool.false_ne_true Impl.fresh_not_named
  | call p m =>
      obtain ⟨object, impl, hp, hm, rfl⟩ := runs_call hl
      exact h.call hp (Method.named_of_runs hm)
  | accept p r =>
      obtain ⟨object, hp, -, reply, -, ⟨report, -, rfl, rfl⟩ | ⟨-, rfl, rfl⟩⟩ := runs_accept hl
      · exact h
      · exact h.emplace (h p object hp)
  | moveConstruct p q =>
      cases exec_effect hl with
      | moved _ _ s hq => exact h.move hq
  | moveAssign p q =>
      cases exec_effect hl with
      | assigned _ _ s _ hq => exact h.move hq
  | destroy p =>
      cases exec_effect hl with
      | destroyed =>
          intro x object hx
          by_cases hxp : x = p
          · subst hxp
            simp at hx
          · rw [object?_set_ne w hxp] at hx
            exact h x object hx

variable {σ : Type} {S : Service Libzt σ} {s₀ : σ} {steps : List Step} {t : Session σ} {op : Op}

theorem Reaches.domainsAgree (h : Reaches S s₀ steps t) :
    t.world.DomainsAgree (initializedAfter steps) := by
  refine LabelledSystem.Run.invariant
    (fun steps t ↦ t.world.DomainsAgree (initializedAfter steps)) h ?_ ?_
  · intro p object hp
    cases hp
  · intro steps s l t _ ih hl
    rw [initializedAfter_snoc]
    exact ih.step hl.1

/-- After `steps`, `op` compares the family of an address with the domain of a
Socket that was never initialised. -/
def AsksTooEarly (steps : List Step) (op : Op) : Prop :=
  ∃ p m, op = .call p m ∧ m.ChecksFamily ∧ initializedAfter steps p = false

theorem Reaches.readyFor_iff (h : Reaches S s₀ steps t) (hop : t.world.Allows op) :
    t.world.ReadyFor op ↔ ¬ AsksTooEarly steps op := by
  constructor
  · rintro hready ⟨p, m, rfl, hm, hearly⟩
    obtain ⟨object, hp⟩ := Option.ne_none_iff_exists'.mp hop
    have hnamed := (h.domainsAgree p object hp).mpr (hready object hp hm)
    rw [hearly] at hnamed
    cases hnamed
  · intro hearly
    cases op with
    | call p m =>
        intro object hp hm
        apply (h.domainsAgree p object hp).mp
        by_contra hfalse
        exact hearly ⟨p, m, rfl, hm, Bool.eq_false_iff.mpr hfalse⟩
    | _ => trivial

/-- In a run and in the operation that comes next, no place that is marked as
unreachable is reached if and only if no operation asks too early. -/
theorem marked_places_unreached_iff (h : Reaches S s₀ steps t) (hop : t.world.Allows op) :
    ((∀ u l, (sessions S).Takes ⟨.start, s₀⟩ steps t u l → (u.world.execChecked l.op).NeverStops) ∧
      (t.world.execChecked op).NeverStops) ↔
    (∀ before l after, steps = before ++ l :: after → ¬ AsksTooEarly before l.op) ∧
      ¬ AsksTooEarly steps op := by
  have hlast := (World.neverStops_execChecked_iff hop).trans (h.readyFor_iff hop)
  refine and_congr ?_ hlast
  constructor
  · rintro hclear before l after rfl
    obtain ⟨u, hu, hrest⟩ := LabelledSystem.run_append_iff.mp h
    obtain ⟨v, hl, hafter⟩ := LabelledSystem.run_cons_iff.mp hrest
    have hallows := World.allows_of_runs hl.1
    rw [← Reaches.readyFor_iff hu hallows, ← World.neverStops_execChecked_iff hallows]
    exact hclear u l ⟨before, after, v, rfl, hu, hl, hafter⟩
  · rintro hearly u l ⟨before, after, v, hsplit, hu, hl, -⟩
    have hallows := World.allows_of_runs hl.1
    rw [World.neverStops_execChecked_iff hallows, Reaches.readyFor_iff hu hallows]
    exact hearly before l after hsplit

end

/-- The addresses passed are ones that a program can have. -/
def Op.AddressesObtained [Platform] [Inet] (op : Op) : Prop :=
  ∀ p m a port, op = .call p m → m.endpoint? = some (a, port) → a.Obtained

def bindAny : Op :=
  .call 0 (.bind (.filled 0) (.ipv4Unspecified (Stack.filled 0).ipAddress) 80)

theorem allows_bindAny {w : World} {object : Object} (h : w.object? 0 = some object) :
    w.Allows bindAny := by
  intro hnone
  rw [h] at hnone
  cases hnone

/-- A Socket that is initialised, and then bound. -/
theorem marked_places_unreached_opened :
    ∃ steps t, Reaches (Service.arbitrary Libzt) () steps t ∧
      (∀ u l, (sessions (Service.arbitrary Libzt)).Takes ⟨.start, ()⟩ steps t u l →
        (u.world.execChecked l.op).NeverStops) ∧
      (t.world.execChecked bindAny).NeverStops := by
  have hplay : World.start.play [(.construct 0, Call.answer 0),
      (.call 0 (.init .internetProtocolIPv4 .stream), Call.answer 3)] = some (_, _) := rfl
  have hrun := run_of_play (S := Service.arbitrary Libzt) (s := ()) hplay
    (Service.arbitrary_admitsAll _ _)
  refine ⟨_, _, hrun, (marked_places_unreached_iff hrun (allows_bindAny rfl)).mpr ⟨?_, ?_⟩⟩
  · rintro before l after hsplit ⟨p, m, hop, hm, -⟩
    have hmem : l ∈ before ++ l :: after := by simp
    rw [← hsplit, List.mem_pair] at hmem
    rcases hmem with rfl | rfl
    · cases hop
    · cases hop
      exact hm
  · rintro ⟨p, m, hop, -, hearly⟩
    cases hop
    cases hearly

/-- `bind` of a Socket that was never initialised reaches the end of
`getAddressFamily`. -/
theorem bind_before_init_reaches_mark :
    ¬ ∀ (steps : List Step) (t : Session Unit) (op : Op),
      Reaches (Service.arbitrary Libzt) () steps t → t.world.Allows op → op.AddressesObtained →
      (t.world.execChecked op).NeverStops := by
  intro h
  have hplay : World.start.play [(.construct 0, Call.answer 0)] = some (_, _) := rfl
  have hrun := run_of_play (S := Service.arbitrary Libzt) (s := ()) hplay
    (Service.arbitrary_admitsAll _ _)
  refine h _ _ bindAny hrun (allows_bindAny rfl) ?_
  intro p m a port hop ha
  cases hop
  cases ha
  exact ⟨.ipv4Unspecified _, rfl⟩

end Ztcpp
