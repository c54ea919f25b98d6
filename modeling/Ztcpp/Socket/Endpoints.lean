import Ztcpp.Socket.Families

/-!
# The endpoints of Sockets

A program that uses Sockets thinks of a map from each Socket to the address and
port it was last bound and connected to.  libzt keeps the bytes of socket
addresses for each descriptor instead.  In every run the getters answer as the
map says, and an operation moves or changes the entries of the map that it
names and no others.
-/

namespace Ztcpp

open Octets Interaction

/-- The endpoint that `bind` sets and the local getters report, and the one
that `connect` sets and the remote getters report. -/
inductive Endpoint where
  | bound
  | connected
  deriving DecidableEq

def Endpoint.getIpAddress : Endpoint → Stack → Method
  | .bound => .getLocalIpAddress
  | .connected => .getRemoteIpAddress

def Endpoint.getPort : Endpoint → Stack → Method
  | .bound => .getLocalPort
  | .connected => .getRemotePort

/-! ## The store of libzt -/

/-- For each open descriptor, the socket addresses last given to a successful
`zts_bsd_bind` and `zts_bsd_connect`. -/
abbrev EndpointStore := ℤ → Option (Endpoint → Option SockaddrStorage)

def EndpointStore.stored (store : EndpointStore) (fd : ℤ) (e : Endpoint) :
    Option SockaddrStorage :=
  (store fd).bind (· e)

/-- What libzt promises about a reply when it has `stored` for the endpoint.
For the port 0 it picks a port of its own, and nothing is promised. -/
def Reports [Platform] (stored : Option SockaddrStorage) (r : AddressReply) : Prop :=
  ∀ s, stored = some s → UInt16.ofNat (load .bigEndian s.port) ≠ 0 →
    r.res = ztsErrOk ∧ SameEndpoint s r.addr

def EndpointStore.record [Platform] (store : EndpointStore) (fd : ℤ) (e : Endpoint)
    (addr : SockaddrStorage) (r : Status) : EndpointStore :=
  if r.res = ztsErrOk then
    Function.update store fd ((store fd).map fun entry ↦ Function.update entry e (some addr))
  else store

def endpointStore [Platform] : Service Libzt EndpointStore where
  Admits store c r :=
    match c, r with
    | .ztsSocket .., (r : Status) => 0 ≤ r.res → store r.res = none
    | .ztsAccept _, (r : Status) => 0 ≤ r.res → store r.res = none
    | .ztsBsdGetsockname fd _ _, (r : AddressReply) => Reports (store.stored fd .bound) r
    | .ztsBsdGetpeername fd _ _, (r : AddressReply) => Reports (store.stored fd .connected) r
    | _, _ => True
  next store c r :=
    match c, r with
    | .ztsSocket .., (r : Status) => withEntry store r.res (some fun _ ↦ none)
    | .ztsAccept _, (r : Status) => withEntry store r.res (some fun _ ↦ none)
    | .ztsBsdBind fd addr _, (r : Status) => store.record fd .bound addr r
    | .ztsBsdConnect fd addr _, (r : Status) => store.record fd .connected addr r
    | .ztsClose fd, _ => Function.update store fd none
    | _, _ => store

/-! ## The map of a program -/

/-- The address and port of each endpoint of one Socket. -/
abbrev Endpoints := Endpoint → Option (IpAddress × UInt16)

def Endpoints.empty : Endpoints := fun _ ↦ none

/-- The endpoints of a Socket after a call of one of its methods. -/
def Endpoints.afterCall (ends : Endpoints) : Method → Outcome → Endpoints
  | .bind _ a port, .empty (.ok _) => Function.update ends .bound (some (a, port))
  | .connect _ a port, .empty (.ok _) => Function.update ends .connected (some (a, port))
  | .init d t, _ => if Method.ValidInit d t then .empty else ends
  | .close, _ => .empty
  | _, _ => ends

def nextEndpoints (map : ℕ → Endpoints) (l : Step) : ℕ → Endpoints :=
  match l.op with
  | .call p m => Function.update map p ((map p).afterCall m l.outcome)
  | .construct p | .accept _ p | .destroy p => Function.update map p .empty
  | .moveConstruct p q | .moveAssign p q =>
      Function.update (Function.update map q .empty) p (map q)

def endpointsOf (steps : List Step) : ℕ → Endpoints :=
  steps.foldl nextEndpoints fun _ ↦ .empty

theorem endpointsOf_snoc (steps : List Step) (l : Step) :
    endpointsOf (steps ++ [l]) = nextEndpoints (endpointsOf steps) l := by
  simp [endpointsOf]

def Op.sockets : Op → List ℕ
  | .construct p | .call p _ | .destroy p => [p]
  | .accept p q | .moveConstruct p q | .moveAssign p q => [p, q]

theorem nextEndpoints_of_notMem (map : ℕ → Endpoints) {l : Step} {p : ℕ}
    (h : p ∉ l.op.sockets) : nextEndpoints map l p = map p := by
  unfold nextEndpoints
  cases hop : l.op with
  | construct q | call q m | destroy q =>
      rw [hop, Op.sockets, List.mem_singleton] at h
      exact Function.update_of_ne h _ _
  | accept q r =>
      rw [hop] at h
      have hr : p ≠ r := fun heq ↦ h (by simp [Op.sockets, heq])
      exact Function.update_of_ne hr _ _
  | moveConstruct q r | moveAssign q r =>
      rw [hop] at h
      have hq : p ≠ q := fun heq ↦ h (by simp [Op.sockets, heq])
      have hr : p ≠ r := fun heq ↦ h (by simp [Op.sockets, heq])
      exact (Function.update_of_ne hq _ _).trans (Function.update_of_ne hr _ _)

section

variable [Platform]

theorem endpointStore_refines : endpointStore.Refines descriptorTable recorded where
  admits := by
    intro store c r h
    cases c with
    | ztsSocket | ztsAccept => exact fun hres hmem ↦ hmem (h hres)
    | _ => trivial
  next := by
    have hrecord : ∀ (store : EndpointStore) fd e addr (r : Status),
        recorded (store.record fd e addr r) = recorded store := by
      intro store fd e addr r
      unfold EndpointStore.record
      split_ifs
      · ext x
        by_cases hx : x = fd
        · subst hx
          simp [recorded]
        · simp [recorded, hx]
      · rfl
    intro store c r h
    cases c with
    | ztsSocket | ztsAccept => exact recorded_withEntry fun _ ↦ Option.some_ne_none _
    | ztsBsdBind fd addr _ => exact hrecord store fd .bound addr r
    | ztsBsdConnect fd addr _ => exact hrecord store fd .connected addr r
    | ztsClose fd => exact recorded_update_none store fd
    | _ => rfl

/-! ## Calls that concern a descriptor -/

omit [Platform] in
/-- The call is made on `fd`, or hands it out. -/
def ZtsEvent.Concerns (e : ZtsEvent) (fd : ℤ) : Prop :=
  match e.call.descriptorUse with
  | .opens | .accepts _ => e.res = fd
  | .closes fd' | .uses fd' => fd' = fd
  | .none => False

theorem endpointStore_next_of_not_concerns {store : EndpointStore} {e : ZtsEvent} {fd : ℤ}
    (h : ¬ e.Concerns fd) : endpointStore.next store e.call e.reply fd = store fd := by
  have hrecord : ∀ fd' side addr (r : Status), ¬ fd' = fd →
      store.record fd' side addr r fd = store fd := by
    intro fd' side addr r hne
    unfold EndpointStore.record
    split_ifs
    · exact Function.update_of_ne (Ne.symm hne) _ _
    · rfl
  obtain ⟨c, r⟩ := e
  cases c with
  | ztsSocket | ztsAccept => exact withEntry_of_ne (Ne.symm h)
  | ztsBsdBind fd' addr _ => exact hrecord fd' .bound addr r h
  | ztsBsdConnect fd' addr _ => exact hrecord fd' .connected addr r h
  | ztsClose fd' => exact Function.update_of_ne (Ne.symm h) _ _
  | _ => rfl

theorem endpointStore_after_of_not_concerns {store : EndpointStore} {es : List ZtsEvent} {fd : ℤ}
    (h : ∀ e ∈ es, ¬ e.Concerns fd) : endpointStore.after store es fd = store fd := by
  induction es generalizing store with
  | nil => rfl
  | cons e es ih =>
      obtain ⟨he, hes⟩ := List.forall_mem_cons.mp h
      rw [Service.after_cons, ih hes, endpointStore_next_of_not_concerns he]

/-- The Socket whose descriptor an operation calls libzt on, apart from the
listener of `accept`, which keeps its entry. -/
def Op.subject : Op → Option ℕ
  | .call p _ | .destroy p => some p
  | .moveAssign p q => if p = q then none else some p
  | .construct _ | .accept .. | .moveConstruct .. => none

omit [Platform] in
theorem World.Deletes.concerns {o : Option Object} {es : List ZtsEvent} {e : ZtsEvent} {fd : ℤ}
    (h : Deletes o es) (he : e ∈ es) (hc : e.Concerns fd) :
    ∃ x, o = some x ∧ x.impl.socketID = fd := by
  cases h with
  | none | notOpen => simp at he
  | closes object hopen reply =>
      obtain rfl := List.mem_singleton.mp he
      exact ⟨object, rfl, hc⟩

theorem World.Effect.concerns {w w' : World} {op : Op} {es : List ZtsEvent} {e : ZtsEvent}
    {fd : ℤ} {opened : Set ℤ} (h : w.Effect op es w')
    (hadmits : descriptorTable.AdmitsAll opened es) (hfd : 0 ≤ fd) (hopened : fd ∈ opened)
    (he : e ∈ es) (hc : e.Concerns fd) :
    ∃ p x, op.subject = some p ∧ w.object? p = some x ∧ x.impl.socketID = fd := by
  cases h with
  | constructed | moved => simp at he
  | called p m object es impl hp hm =>
      cases hm with
      | opens d t reply hv =>
          obtain rfl := List.mem_singleton.mp he
          obtain rfl : reply.res = fd := hc
          exact absurd hopened (hadmits.1 hfd)
      | closes reply hopen =>
          obtain rfl := List.mem_singleton.mp he
          exact ⟨p, object, rfl, hp, hc⟩
      | uses m e' he' =>
          obtain rfl := List.mem_singleton.mp he
          unfold ZtsEvent.Concerns at hc
          rw [he'] at hc
          exact ⟨p, object, rfl, hp, hc⟩
      | quiet m => simp at he
  | refused p r object reply hp hfree herror | accepted p r object reply hp hfree herror =>
      obtain rfl := List.mem_singleton.mp he
      obtain rfl : reply.res = fd := hc
      exact absurd hopened (hadmits.1 hfd)
  | assigned p q s es hq hp hdelete =>
      obtain ⟨x, hx, hxfd⟩ := hdelete.concerns he hc
      rw [object?_release] at hx
      split_ifs at hx with hpq
      exact ⟨p, x, if_neg hpq, hx, hxfd⟩
  | destroyed p s es hp hdelete =>
      obtain ⟨x, hx, hxfd⟩ := hdelete.concerns he hc
      exact ⟨p, x, rfl, by simp [object?, hp, hx], hxfd⟩

/-! ## One method call -/

/-- libzt has the socket address of every endpoint in the map. -/
def Represents (stored : Endpoint → Option SockaddrStorage) (ends : Endpoints) : Prop :=
  ∀ e a port, ends e = some (a, port) →
    ∃ s, stored e = some s ∧ Encodes s a port ∧ (e = .connected → port ≠ 0)

theorem represents_empty (stored : Endpoint → Option SockaddrStorage) :
    Represents stored .empty := by
  intro e a port h
  cases h

theorem Represents.record {store : EndpointStore} {fd : ℤ} {ends : Endpoints} {e : Endpoint}
    {addr : SockaddrStorage} {reply : Status} {a : IpAddress} {port : UInt16}
    (h : Represents (store.stored fd) ends) (hlive : store fd ≠ none) (hok : reply.res = ztsErrOk)
    (hencodes : Encodes addr a port) (hport : e = .connected → port ≠ 0) :
    Represents ((store.record fd e addr reply).stored fd)
      (Function.update ends e (some (a, port))) := by
  obtain ⟨entry, hentry⟩ := Option.ne_none_iff_exists'.mp hlive
  have hstored : (store.record fd e addr reply).stored fd =
      Function.update (store.stored fd) e (some addr) := by
    funext e'
    unfold EndpointStore.stored EndpointStore.record
    rw [if_pos hok, Function.update_self, hentry]
    by_cases he : e' = e
    · subst he
      simp
    · simp [he]
  rw [hstored]
  intro e' b n hb
  by_cases he : e' = e
  · subst he
    rw [Function.update_self, Option.some.injEq, Prod.mk.injEq] at hb
    obtain ⟨rfl, rfl⟩ := hb
    exact ⟨addr, Function.update_self .., hencodes, hport⟩
  · rw [Function.update_of_ne he] at hb ⊢
    exact h e' b n hb

/-- A setter that gave libzt the encoding of its endpoint, with libzt's answer. -/
theorem Represents.afterSetter {store : EndpointStore} {fd : ℤ} {ends : Endpoints} {e : Endpoint}
    {addr : SockaddrStorage} {reply : Status} {a : IpAddress} {port : UInt16} {m : Method}
    (h : Represents (store.stored fd) ends ∧ store fd ≠ none) (hencodes : Encodes addr a port)
    (hport : e = .connected → port ≠ 0) (function callee : String)
    (hok : ends.afterCall m (.empty (.ok ())) = Function.update ends e (some (a, port)))
    (herror : ∀ report, ends.afterCall m (.empty (.error report)) = ends) :
    Represents ((store.record fd e addr reply).stored fd)
      (ends.afterCall m (.empty (statusResult function callee reply ()))) := by
  obtain ⟨hrepresents, hlive⟩ := h
  unfold statusResult
  by_cases hres : reply.res = ztsErrOk
  · rw [if_pos hres, hok]
    exact hrepresents.record hlive hres hencodes hport
  · rw [if_neg hres, herror, EndpointStore.record, if_neg hres]
    exact hrepresents

/-- Only `init`, `close`, `bind` and `connect` change an entry of either side. -/
def Method.SetsEndpoints : Method → Prop
  | .init .. | .close | .bind .. | .connect .. => True
  | _ => False

omit [Platform] in
theorem Endpoints.afterCall_of_not_sets {ends : Endpoints} {m : Method} {o : Outcome}
    (h : ¬ m.SetsEndpoints) : ends.afterCall m o = ends := by
  cases m with
  | init | close | bind | connect => exact absurd trivial h
  | _ => rfl

theorem endpointStore_next_of_uses {store : EndpointStore} {e : ZtsEvent} {fd : ℤ}
    (huse : e.call.descriptorUse = .uses fd) (haddr : e.call.sockaddr? = none) :
    endpointStore.next store e.call e.reply = store := by
  obtain ⟨c, r⟩ := e
  cases c with
  | ztsBsdBind | ztsBsdConnect => cases haddr
  | ztsSocket | ztsAccept | ztsClose => cases huse
  | _ => rfl

theorem Method.exec_of_not_sets {self self' : Impl} {m : Method} {es : List ZtsEvent}
    {o : Outcome} (hm : ¬ m.SetsEndpoints) (h : (exec self m).Runs es (o, self'))
    (store : EndpointStore) : self' = self ∧ endpointStore.after store es = store := by
  cases hendpoint : m.endpoint? with
  | some endpoint =>
      cases m with
      | sendTo stack data size a port =>
          obtain ⟨r, hrun, -⟩ := runs_returning.mp h
          obtain ⟨rfl, ⟨-, rfl, -⟩ | ⟨-, s, reply, -, rfl, -⟩⟩ := Impl.runs_sendTo hrun
          · exact ⟨rfl, rfl⟩
          · exact ⟨rfl, rfl⟩
      | bind | connect => exact absurd trivial hm
      | _ => cases hendpoint
  | none =>
      have haddr := fun e he ↦ exec_sockaddr_none (e := e) h hendpoint he
      cases exec_effect h with
      | opens | closes => exact absurd trivial hm
      | uses m e he =>
          exact ⟨rfl, endpointStore_next_of_uses he (haddr e List.mem_cons_self)⟩
      | quiet m => exact ⟨rfl, rfl⟩

theorem Method.exec_represents {self self' : Impl} {m : Method} {es : List ZtsEvent}
    {o : Outcome} {store : EndpointStore} {ends : Endpoints} (h : (exec self m).Runs es (o, self'))
    (hstored : self.isOpen →
      Represents (store.stored self.socketID) ends ∧ store self.socketID ≠ none)
    (hopen : self'.isOpen) :
    Represents ((endpointStore.after store es).stored self'.socketID) (ends.afterCall m o) := by
  by_cases hm : m.SetsEndpoints
  · cases m with
    | init d t =>
        obtain ⟨r, hrun, rfl⟩ := runs_returning.mp h
        rcases Impl.runs_init hrun with ⟨hv, rfl, rfl, -⟩ | ⟨hv, reply, -, -, -⟩
        · rw [Endpoints.afterCall, if_neg hv]
          exact (hstored hopen).1
        · rw [Endpoints.afterCall, if_pos hv]
          exact represents_empty _
    | close => exact represents_empty _
    | bind stack a port =>
        obtain ⟨r, hrun, rfl⟩ := runs_returning.mp h
        obtain ⟨rfl, ⟨-, rfl, hcode⟩ | ⟨-, s, reply, hs, rfl, rfl⟩⟩ := Impl.runs_bind hrun
        · cases r with
          | ok value => cases hcode
          | error report => exact (hstored hopen).1
        · have hencodes := (encodes_of_toSockaddr hs).2
          have hbound : Endpoint.bound = .connected → port ≠ 0 := fun he ↦ by cases he
          exact Represents.afterSetter (m := .bind stack a port) (hstored hopen) hencodes hbound
            "bind" "zts_bind" rfl fun _ ↦ rfl
    | connect stack a port =>
        obtain ⟨r, hrun, rfl⟩ := runs_returning.mp h
        obtain ⟨rfl, ⟨-, rfl, hcode⟩ | ⟨hport, -, s, reply, hs, rfl, rfl⟩⟩ :=
          Impl.runs_connect hrun
        · cases r with
          | ok value => cases hcode
          | error report => exact (hstored hopen).1
        · have hencodes := (encodes_of_toSockaddr hs).2
          exact Represents.afterSetter (m := .connect stack a port) (hstored hopen) hencodes
            (fun _ ↦ hport) "connect" "zts_connect" rfl fun _ ↦ rfl
    | _ => exact hm.elim
  · obtain ⟨rfl, hstore⟩ := exec_of_not_sets hm h store
    rw [hstore, Endpoints.afterCall_of_not_sets hm]
    exact (hstored hopen).1

/-! ## Whole runs -/

section

variable {store₀ : EndpointStore} {steps : List Step} {s t u : Session EndpointStore} {l : Step}
  {p q : ℕ} {x : Object}

theorem Reaches.libzt_frame (h : Reaches endpointStore store₀ steps t)
    (hl : (sessions endpointStore).Step t l u) (hp : t.world.object? p = some x)
    (hopen : x.impl.isOpen) (hsubject : l.op.subject ≠ some p) :
    u.libzt x.impl.socketID = t.libzt x.impl.socketID := by
  have hreach := h.refines endpointStore_refines
  have hadmits := endpointStore_refines.admitsAll hl.2.1
  rw [hl.2.2]
  refine endpointStore_after_of_not_concerns fun e he hc ↦ ?_
  obtain ⟨q, y, hq, hy, hfd⟩ := (sessions_effect hl).concerns hadmits (Impl.isOpen_iff.mp hopen)
    (hreach.live hp hopen) he hc
  obtain rfl := hreach.place_unique hp hy hopen hfd.symm
  exact hsubject hq

/-- In every reachable state libzt has what the map says of an open Socket. -/
def EndpointsAgree (s : Session EndpointStore) (map : ℕ → Endpoints) : Prop :=
  ∀ p x, s.world.object? p = some x → x.impl.isOpen →
    Represents (s.libzt.stored x.impl.socketID) (map p)

theorem EndpointsAgree.carry {map : ℕ → Endpoints} (hs : EndpointsAgree t map)
    (h : Reaches endpointStore store₀ steps t) (hl : (sessions endpointStore).Step t l u)
    (hopen : x.impl.isOpen) (hq : t.world.object? q = some x) (hsubject : l.op.subject ≠ some q)
    (hmap : nextEndpoints map l p = map q) :
    Represents (u.libzt.stored x.impl.socketID) (nextEndpoints map l p) := by
  have hentry := h.libzt_frame hl hq hopen hsubject
  have hstored : u.libzt.stored x.impl.socketID = t.libzt.stored x.impl.socketID := by
    funext e
    rw [EndpointStore.stored, hentry, EndpointStore.stored]
  rw [hstored, hmap]
  exact hs q x hq hopen

theorem move_carries (hl : (sessions endpointStore).Step t l u)
    (hop : l.op = .moveConstruct p q ∨ l.op = .moveAssign p q) (map : ℕ → Endpoints) :
    u.world.object? p = t.world.object? q ∧ l.op.subject ≠ some q ∧
      nextEndpoints map l p = map q := by
  obtain ⟨op, es, o⟩ := l
  obtain ⟨world, libzt⟩ := u
  have heffect := sessions_effect hl
  rcases hop with hop | hop
  · obtain rfl : op = .moveConstruct p q := hop
    cases heffect with
    | moved _ _ s hq hfree =>
        refine ⟨by simp [World.object?, hq], by simp [Op.subject], by simp [nextEndpoints]⟩
  · obtain rfl : op = .moveAssign p q := hop
    cases heffect with
    | assigned _ _ s es hq hp hdelete =>
        refine ⟨by simp [World.object?, hq], ?_, by simp [nextEndpoints]⟩
        rw [Op.subject]
        split_ifs with hpq
        · simp
        · simpa using hpq

theorem object?_of_notMem (hl : (sessions endpointStore).Step t l u) (hp : p ∉ l.op.sockets) :
    u.world.object? p = t.world.object? p ∧ l.op.subject ≠ some p := by
  have hhandOver : ∀ {q r : ℕ} {s : Socket}, p ≠ q → p ≠ r →
      (t.world.handOver q r s).object? p = t.world.object? p := by
    intro q r s hpq hpr
    rw [World.object?_handOver, if_neg hpq, World.object?_release, if_neg hpr]
  obtain ⟨op, es, o⟩ := l
  obtain ⟨world, libzt⟩ := u
  cases sessions_effect hl with
  | constructed q hfree =>
      have hpq : p ≠ q := fun heq ↦ hp (by simp [Op.sockets, heq])
      exact ⟨World.object?_emplace_ne _ hpq _, by simp [Op.subject]⟩
  | called q m object es impl hq hm =>
      have hpq : p ≠ q := fun heq ↦ hp (by simp [Op.sockets, heq])
      exact ⟨World.object?_setImpl_ne _ hpq _ _, by simpa [Op.subject] using hpq.symm⟩
  | refused q r object reply hq hfree herror => exact ⟨rfl, by simp [Op.subject]⟩
  | accepted q r object reply hq hfree herror =>
      have hpr : p ≠ r := fun heq ↦ hp (by simp [Op.sockets, heq])
      exact ⟨World.object?_emplace_ne _ hpr _, by simp [Op.subject]⟩
  | moved q r s hr hfree =>
      have hpq : p ≠ q := fun heq ↦ hp (by simp [Op.sockets, heq])
      have hpr : p ≠ r := fun heq ↦ hp (by simp [Op.sockets, heq])
      exact ⟨hhandOver hpq hpr, by simp [Op.subject]⟩
  | assigned q r s es hr hq hdelete =>
      have hpq : p ≠ q := fun heq ↦ hp (by simp [Op.sockets, heq])
      have hpr : p ≠ r := fun heq ↦ hp (by simp [Op.sockets, heq])
      refine ⟨hhandOver hpq hpr, ?_⟩
      rw [Op.subject]
      split_ifs
      · simp
      · simpa using hpq.symm
  | destroyed q s es hq hdelete =>
      have hpq : p ≠ q := fun heq ↦ hp (by simp [Op.sockets, heq])
      exact ⟨World.object?_set_ne _ hpq _, by simpa [Op.subject] using hpq.symm⟩

theorem EndpointsAgree.step {map : ℕ → Endpoints} (hs : EndpointsAgree t map)
    (h : Reaches endpointStore store₀ steps t) (hl : (sessions endpointStore).Step t l u) :
    EndpointsAgree u (nextEndpoints map l) := by
  intro p x hp hopen
  by_cases hnamed : p ∉ l.op.sockets
  · obtain ⟨hobject, hsubject⟩ := object?_of_notMem hl hnamed
    rw [hobject] at hp
    exact hs.carry h hl hopen hp hsubject (nextEndpoints_of_notMem map hnamed)
  · have hexec := hl.1
    cases hop : l.op with
    | construct q | destroy q =>
        have hmap : nextEndpoints map l p = .empty := by simp_all [nextEndpoints, Op.sockets]
        rw [hmap]
        exact represents_empty _
    | call q m =>
        obtain rfl : p = q := by simpa [hop, Op.sockets] using hnamed
        rw [hop] at hexec
        obtain ⟨y, impl, hy, hm, hworld⟩ := World.runs_call hexec
        rw [hworld, World.object?_setImpl_self, Option.some.injEq] at hp
        subst hp
        have hmap : nextEndpoints map l p = (map p).afterCall m l.outcome := by
          simp [nextEndpoints, hop]
        rw [hmap, hl.2.2]
        refine Method.exec_represents hm (fun hyopen ↦ ⟨hs p y hy hyopen, ?_⟩) hopen
        exact (h.refines endpointStore_refines).live hy hyopen
    | accept q r =>
        by_cases hpr : p = r
        · have hmap : nextEndpoints map l p = .empty := by simp [nextEndpoints, hop, hpr]
          rw [hmap]
          exact represents_empty _
        · have hmap : nextEndpoints map l p = map p := by simp [nextEndpoints, hop, hpr]
          have hobject : t.world.object? p = some x := by
            rw [hop] at hexec
            obtain ⟨y, -, -, reply, -, ⟨report, -, -, hw⟩ | ⟨-, -, hw⟩⟩ := World.runs_accept hexec
            · rwa [hw] at hp
            · rwa [hw, World.object?_emplace_ne _ hpr] at hp
          exact hs.carry h hl hopen hobject (by simp [hop, Op.subject]) hmap
    | moveConstruct q r | moveAssign q r =>
        have hmove : l.op = .moveConstruct q r ∨ l.op = .moveAssign q r := by simp [hop]
        by_cases hpq : p = q
        · subst hpq
          obtain ⟨hobject, hsubject, hmap⟩ := move_carries hl hmove map
          rw [hobject] at hp
          exact hs.carry h hl hopen hp hsubject hmap
        · obtain rfl : p = r := by simpa [hop, Op.sockets, hpq] using hnamed
          have hmap : nextEndpoints map l p = .empty := by simp [nextEndpoints, hop, hpq]
          rw [hmap]
          exact represents_empty _

theorem Reaches.endpointsAgree (h : Reaches endpointStore store₀ steps t) :
    EndpointsAgree t (endpointsOf steps) := by
  refine LabelledSystem.Run.invariant (fun steps t ↦ EndpointsAgree t (endpointsOf steps)) h ?_ ?_
  · intro p x hp
    simp at hp
  · intro steps s l u hreach hs hl
    have hreach' : Reaches endpointStore store₀ steps s := hreach
    rw [endpointsOf_snoc]
    exact hs.step hreach' hl

/-! ## What the getters answer -/

/-- Called now, the getters of the endpoint `e` succeed, with a valid address of
the family and octets of `a` and with this port, whatever is on the stack. -/
def Session.Answers (s : Session EndpointStore) (p : ℕ) (e : Endpoint) (a : IpAddress)
    (port : UInt16) : Prop :=
  ∀ stack,
    (s.world.exec (.call p (e.getIpAddress stack))).Ensures endpointStore s.libzt
      (fun r _ ↦ ∃ b : IpAddress, r = (.address (.ok b), s.world) ∧ b.isValid ∧
        b.getAddressFamily = a.getAddressFamily ∧ b.octets = a.octets) ∧
    (s.world.exec (.call p (e.getPort stack))).Ensures endpointStore s.libzt
      (fun r _ ↦ r = (.port (.ok port), s.world))

/-- Every reply that libzt may give for a stored address succeeds and decodes
to this endpoint. -/
def Decodes (stored : Option SockaddrStorage) (a : IpAddress) (port : UInt16) : Prop :=
  ∀ (stack : Stack) (reply : AddressReply), Reports stored reply → reply.res = ztsErrOk ∧
    ((toIpAddressAndPort stack.ipAddress reply.addr).1.isValid ∧
      (toIpAddressAndPort stack.ipAddress reply.addr).1.getAddressFamily = a.getAddressFamily ∧
      (toIpAddressAndPort stack.ipAddress reply.addr).1.octets = a.octets) ∧
    (toIpAddressAndPort stack.ipAddress reply.addr).2 = port

theorem decodes_of_encodes {stored : Option SockaddrStorage} {addr : SockaddrStorage}
    {a : IpAddress} {port : UInt16} (hstored : stored = some addr) (h : Encodes addr a port)
    (hport : port ≠ 0) : Decodes stored a port := by
  intro stack reply hreports
  have hnonzero : UInt16.ofNat (load .bigEndian addr.port) ≠ 0 := by
    rwa [h.port, load_bigEndian_port]
  obtain ⟨hok, hsame⟩ := hreports addr hstored hnonzero
  have hencodes := hsame.encodes h
  obtain ⟨hvalid, hfamily, hoctets, hdecoded⟩ :=
    @toIpAddressAndPort_of_encodes _ stack.ipAddress _ _ _ hencodes
  exact ⟨hok, ⟨hvalid, hfamily, hoctets⟩, hdecoded⟩

theorem forall_reports_iff {w w' : World} (hw : w' = w) {f g f' g' : String}
    {stored : Option SockaddrStorage} {a : IpAddress} {port : UInt16} :
    (∀ stack : Stack,
      (∀ r : AddressReply, Reports stored r → ∃ b : IpAddress,
        (Outcome.address (statusResult f g r.toStatus
          (toIpAddressAndPort stack.ipAddress r.addr).1), w') = (.address (.ok b), w) ∧
        b.isValid ∧ b.getAddressFamily = a.getAddressFamily ∧ b.octets = a.octets) ∧
      (∀ r : AddressReply, Reports stored r →
        (Outcome.port (statusResult f' g' r.toStatus
          (toIpAddressAndPort stack.ipAddress r.addr).2), w') = (.port (.ok port), w))) ↔
      Decodes stored a port := by
  subst hw
  simp only [Prod.mk.injEq, Outcome.address.injEq, Outcome.port.injEq, statusResult_eq_ok,
    and_true]
  constructor
  · intro h stack reply hreports
    obtain ⟨haddress, hport⟩ := h stack
    obtain ⟨b, ⟨hok, rfl⟩, hb⟩ := haddress reply hreports
    exact ⟨hok, hb, (hport reply hreports).2⟩
  · intro h stack
    constructor
    · intro reply hreports
      obtain ⟨hok, hb, -⟩ := h stack reply hreports
      exact ⟨_, ⟨hok, rfl⟩, hb⟩
    · intro reply hreports
      obtain ⟨hok, -, hport⟩ := h stack reply hreports
      exact ⟨hok, hport⟩

theorem answers_iff {e : Endpoint} {a : IpAddress} {port : UInt16}
    (hp : t.world.object? p = some x) :
    t.Answers p e a port ↔ Decodes (t.libzt.stored x.impl.socketID e) a port := by
  have hself := World.setImpl_self hp
  unfold Session.Answers
  simp only [World.exec, hp]
  cases e with
  | bound => exact forall_reports_iff hself
  | connected => exact forall_reports_iff hself

/-- In every run, whatever the host's byte order: the getters of an open Socket
answer with the endpoints it was last bound and connected to; a move carries
the answers to the new owner; and an operation changes the answers of no Socket
that it does not name. -/
theorem endpoint_map_refined (h : Reaches endpointStore store₀ steps t) :
    (∀ p x e a port, t.world.object? p = some x → x.impl.isOpen →
      endpointsOf steps p e = some (a, port) → (e = .bound → port ≠ 0) →
        t.Answers p e a port) ∧
    (∀ l u p q x, (sessions endpointStore).Step t l u →
      l.op = .moveConstruct p q ∨ l.op = .moveAssign p q →
      t.world.object? q = some x → x.impl.isOpen →
        u.world.object? p = some x ∧ endpointsOf (steps ++ [l]) p = endpointsOf steps q ∧
          ∀ e a port, u.Answers p e a port ↔ t.Answers q e a port) ∧
    (∀ l u p x, (sessions endpointStore).Step t l u → p ∉ l.op.sockets →
      t.world.object? p = some x → x.impl.isOpen →
        u.world.object? p = some x ∧ endpointsOf (steps ++ [l]) p = endpointsOf steps p ∧
          ∀ e a port, u.Answers p e a port ↔ t.Answers p e a port) := by
  have hanswers : ∀ {l u p q x}, (sessions endpointStore).Step t l u →
      t.world.object? q = some x → u.world.object? p = some x → x.impl.isOpen →
      l.op.subject ≠ some q → ∀ e a port, u.Answers p e a port ↔ t.Answers q e a port := by
    intro l u p q x hl hq hp hopen hsubject e a port
    have hentry := h.libzt_frame hl hq hopen hsubject
    rw [answers_iff hp, answers_iff hq, EndpointStore.stored, hentry, EndpointStore.stored]
  refine ⟨?_, ?_, ?_⟩
  · intro p x e a port hp hopen hend hport
    obtain ⟨addr, hstored, hencodes, hconnected⟩ := h.endpointsAgree p x hp hopen e a port hend
    rw [answers_iff hp]
    refine decodes_of_encodes hstored hencodes ?_
    cases e with
    | bound => exact hport rfl
    | connected => exact hconnected rfl
  · intro l u p q x hl hop hq hopen
    obtain ⟨hobject, hsubject, hmap⟩ := move_carries hl hop (endpointsOf steps)
    rw [hq] at hobject
    rw [endpointsOf_snoc]
    exact ⟨hobject, hmap, hanswers hl hq hobject hopen hsubject⟩
  · intro l u p x hl hnamed hp hopen
    obtain ⟨hobject, hsubject⟩ := object?_of_notMem hl hnamed
    rw [hp] at hobject
    rw [endpointsOf_snoc]
    exact ⟨hobject, nextEndpoints_of_notMem _ hnamed, hanswers hl hp hobject hopen hsubject⟩

end

end

def loopback : IpAddress :=
  .ipv4FromBinaryRepresentationInNetworkOrder ⟨Image.zeros 16, .ipv4, false⟩
    [127, 0, 0, 1].get

def bindAndMove : List (Op × ((c : Call) → c.Reply)) :=
  [(.construct 0, Call.answer 0),
    (.call 0 (.init .internetProtocolIPv4 .stream), Call.answer 3),
    (.call 0 (.bind ⟨Image.zeros _, loopback⟩ loopback 80), Call.answer 0),
    (.moveConstruct 1 0, Call.answer 0)]

theorem endpoint_map_refined_moved :
    ∃ steps t x, Reaches endpointStore (fun _ ↦ none) steps t ∧ t.world.object? 1 = some x ∧
      x.impl.socketID = 3 ∧ t.Answers 1 .bound loopback 80 := by
  have hplay : World.start.play bindAndMove = some (_, _) := rfl
  have hrun : Reaches endpointStore (fun _ ↦ none) _ _ :=
    run_of_play hplay ⟨fun _ ↦ rfl, trivial, trivial⟩
  refine ⟨_, _, ⟨0, ⟨.internetProtocolIPv4, .stream, 3⟩⟩, hrun, rfl, rfl, ?_⟩
  exact (endpoint_map_refined hrun).1 1 _ .bound loopback 80 rfl rfl rfl fun _ ↦ by decide

end Ztcpp
