import Ztcpp.Socket.Isolation

/-!
# Address families

libzt knows each descriptor by the family it was created with.  The family that
a Socket computes from its domain is the one of the descriptor it holds, so
that an address that passes the guards of `bind`, `connect` and `sendTo` is
encoded with the family code of the descriptor.
-/

namespace Ztcpp

open Interaction Ownership

def AddressFamily.ztsFamily [Platform] (family : AddressFamily) : Option ℤ :=
  family.code.map fun code ↦ (code.toNat : ℤ)

def Call.sockaddr? : Call → Option (ℤ × SockaddrStorage)
  | .ztsBsdBind fd addr _ | .ztsBsdConnect fd addr _ | .ztsBsdSendto fd _ _ _ addr _ =>
      some (fd, addr)
  | _ => none

/-- libzt with the family of each open descriptor.  `zts_accept` answers with a
descriptor only for a listener that is open, and it has the listener's family. -/
def familyTable : Service Libzt (ℤ → Option ℤ) where
  Admits table c r :=
    match c.descriptorUse with
    | .opens => 0 ≤ (c.status r).res → table (c.status r).res = none
    | .accepts fd =>
        0 ≤ (c.status r).res → table (c.status r).res = none ∧ (table fd).isSome
    | _ => True
  next table c r :=
    match c, r with
    | .ztsSocket family _ _, (r : Status) => withEntry table r.res (some family)
    | .ztsAccept fd, (r : Status) => withEntry table r.res (table fd)
    | .ztsClose fd, _ => Function.update table fd none
    | _, _ => table

theorem familyTable_refines : familyTable.Refines descriptorTable recorded where
  admits := by
    intro table c r h
    cases c with
    | ztsSocket family type protocol => exact fun hres hmem ↦ hmem (h hres)
    | ztsAccept fd => exact fun hres hmem ↦ hmem (h hres).1
    | _ => trivial
  next := by
    intro table c r h
    cases c with
    | ztsSocket family type protocol =>
        exact recorded_withEntry fun _ ↦ Option.some_ne_none family
    | ztsAccept fd =>
        exact recorded_withEntry fun hres ↦ Option.isSome_iff_ne_none.mp (h hres).2
    | ztsClose fd => exact recorded_update_none table fd
    | _ => rfl

theorem familyTable_next_uses {table : ℤ → Option ℤ} {c : Call} {r : c.Reply} {fd : ℤ}
    (h : c.descriptorUse = .uses fd) : familyTable.next table c r = table := by
  cases c <;> first | rfl | cases h

section

variable [Platform]

theorem Impl.exists_ztsFamily (impl : Impl) :
    ∃ family, impl.getAddressFamily.ztsFamily = some family := by
  unfold getAddressFamily
  split
  · exact ⟨_, rfl⟩
  · exact ⟨_, rfl⟩
  · exact ⟨_, rfl⟩

theorem Impl.ztsFamily_of_validInit {d : SocketDomain} {type t : SocketType} {fd fd' : ℤ}
    (hv : Method.ValidInit d type) :
    (getAddressFamily ⟨d, t, fd⟩).ztsFamily = some (getZTAddressFamily ⟨d, t, fd'⟩) := by
  rcases hv.1 with rfl | rfl
  · rfl
  · rfl

/-- Every open `Impl` computes the family that libzt has for its descriptor. -/
def FamiliesAgree (heap : ℕ → Set Impl) (table : ℤ → Option ℤ) : Prop :=
  ∀ a, ∀ impl ∈ heap a, impl.isOpen →
    table impl.socketID = impl.getAddressFamily.ztsFamily

def Exclusive (heap : ℕ → Set Impl) : Prop :=
  ∀ a b x y, x ∈ heap a → y ∈ heap b → x.isOpen → x.socketID = y.socketID → a = b

omit [Platform] in
theorem mem_update_heap {heap : ℕ → Set Impl} {a b : ℕ} {x y : Impl} :
    y ∈ Function.update heap a {x} b ↔ (b = a ∧ y = x) ∨ (b ≠ a ∧ y ∈ heap b) :=
  mem_update_singleton

theorem FamiliesAgree.ne_new {heap : ℕ → Set Impl} {table : ℤ → Option ℤ} {a : ℕ} {x : Impl}
    {fd : ℤ} (h : FamiliesAgree heap table) (hx : x ∈ heap a) (hopen : x.isOpen)
    (hfd : table fd = none) : x.socketID ≠ fd := by
  rintro rfl
  obtain ⟨family, hfamily⟩ := x.exists_ztsFamily
  rw [h a x hx hopen, hfamily] at hfd
  cases hfd

theorem FamiliesAgree.insert {heap : ℕ → Set Impl} {table : ℤ → Option ℤ} {a : ℕ} {x : Impl}
    {family : Option ℤ} (h : FamiliesAgree heap table)
    (hfree : 0 ≤ x.socketID → table x.socketID = none)
    (hfamily : 0 ≤ x.socketID → family = x.getAddressFamily.ztsFamily) :
    FamiliesAgree (Function.update heap a {x})
      (withEntry table x.socketID family) := by
  unfold withEntry
  intro b y hy hopen
  rcases mem_update_heap.mp hy with ⟨-, rfl⟩ | ⟨-, hy⟩
  · have hres := Impl.isOpen_iff.mp hopen
    rw [if_pos hres, Function.update_self, hfamily hres]
  · have hagree := h b y hy hopen
    split_ifs with hres
    · rw [Function.update_of_ne (h.ne_new hy hopen (hfree hres)), hagree]
    · exact hagree

theorem FamiliesAgree.remove {heap heap' : ℕ → Set Impl} {table : ℤ → Option ℤ} {a : ℕ}
    {x : Impl} (h : FamiliesAgree heap table) (hexclusive : Exclusive heap) (hx : x ∈ heap a)
    (hsub : ∀ b y, y ∈ heap' b → y.isOpen → b ≠ a ∧ y ∈ heap b) :
    FamiliesAgree heap' (Function.update table x.socketID none) := by
  intro b y hy hopen
  obtain ⟨hne, hold⟩ := hsub b y hy hopen
  have hfd : y.socketID ≠ x.socketID :=
    fun heq ↦ hne (hexclusive b a y x hold hx hopen heq)
  rw [Function.update_of_ne hfd]
  exact h b y hold hopen

theorem FamiliesAgree.step {heap heap' : ℕ → Set Impl} {table : ℤ → Option ℤ}
    {es : List ZtsEvent} (h : FamiliesAgree heap table) (hexclusive : Exclusive heap)
    (heffect : World.HeapEffect heap es heap') (hadmits : familyTable.AdmitsAll table es)
    (hnonneg : ∀ fd, table fd ≠ none → 0 ≤ fd) :
    FamiliesAgree heap' (familyTable.after table es) := by
  cases heffect with
  | same => exact h
  | used a x hx e he =>
      rw [Service.after_cons, familyTable_next_uses he]
      exact h
  | constructed a ha =>
      intro b y hy hopen
      rcases mem_update_heap.mp hy with ⟨-, rfl⟩ | ⟨-, hold⟩
      · exact absurd hopen Impl.fresh_not_isOpen
      · exact h b y hold hopen
  | initialized a x hx d t hv reply =>
      refine h.insert (x := ⟨d, t, reply.res⟩) hadmits.1 ?_
      intro _
      exact (Impl.ztsFamily_of_validInit hv).symm
  | refused a x hx reply herror =>
      have hres := Impl.acceptError_neg herror
      change FamiliesAgree heap (withEntry table reply.res _)
      rw [withEntry_of_neg hres]
      exact h
  | accepted a x hx reply b hb =>
      refine h.insert (x := { x with socketID := reply.res }) (fun hres ↦ (hadmits.1 hres).1) ?_
      intro hres
      have hsome := Option.isSome_iff_ne_none.mp (hadmits.1 hres).2
      exact h a x hx (Impl.isOpen_iff.mpr (hnonneg _ hsome))
  | closed a x hx hopen reply =>
      refine h.remove hexclusive hx ?_
      intro b y hy hyopen
      rcases mem_update_heap.mp hy with ⟨-, rfl⟩ | hold
      · rw [Impl.isOpen_iff] at hyopen
        exact absurd Platform.ztsErrSocket_neg (not_lt.mpr hyopen)
      · exact hold
  | deleted a x hx hopen =>
      intro b y hy hyopen
      exact h b y (mem_update_empty.mp hy).2 hyopen
  | deletedOpen a x hx hopen reply =>
      exact h.remove hexclusive hx fun b y hy _ ↦ mem_update_empty.mp hy

/-! ## Addresses handed to libzt -/

theorem Method.exec_sockaddr_none {self self' : Impl} {m : Method} {es : List ZtsEvent}
    {o : Outcome} (h : (exec self m).Runs es (o, self')) (hm : m.endpoint? = none) {e : ZtsEvent}
    (he : e ∈ es) : e.call.sockaddr? = none := by
  have hnil : es = [] → e.call.sockaddr? = none := by
    rintro rfl
    simp at he
  have hone : ∀ e', es = [e'] → e'.call.sockaddr? = none → e.call.sockaddr? = none := by
    rintro e' rfl he'
    rwa [List.mem_singleton.mp he]
  cases m with
  | bind | connect | sendTo => cases hm
  | init d t =>
      obtain ⟨r, hrun, -⟩ := runs_returning.mp h
      rcases Impl.runs_init hrun with ⟨-, hes, -⟩ | ⟨-, reply, hes, -⟩
      · exact hnil hes
      · exact hone _ hes rfl
  | listen n =>
      obtain ⟨r, hrun, -⟩ := runs_returning.mp h
      obtain ⟨-, reply, hes, -⟩ := Impl.runs_listen hrun
      exact hone _ hes rfl
  | send data size =>
      obtain ⟨r, hrun, -⟩ := runs_returning.mp h
      obtain ⟨-, ⟨-, hes, -⟩ | ⟨-, reply, hes, -⟩⟩ := Impl.runs_send hrun
      · exact hnil hes
      · exact hone _ hes rfl
  | receive buffer size =>
      obtain ⟨r, hrun, -⟩ := runs_returning.mp h
      obtain ⟨-, ⟨-, hes, -⟩ | ⟨-, reply, hes, -⟩⟩ := Impl.runs_receive hrun
      · exact hnil hes
      · exact hone _ hes rfl
  | receiveFrom stack buffer size a p =>
      obtain ⟨r, hrun, -⟩ := runs_returning.mp h
      obtain ⟨-, ⟨-, hes, -⟩ | ⟨-, reply, hes, -⟩⟩ := Impl.runs_receiveFrom hrun
      · exact hnil hes
      · exact hone _ hes rfl
  | isOpen => exact hnil h.1
  | close =>
      obtain ⟨r, hrun, -⟩ := runs_returning.mp h
      rcases Impl.runs_close hrun with ⟨-, hes, -⟩ | ⟨-, reply, hes, -⟩
      · exact hnil hes
      · exact hone _ hes rfl
  | pollEvents events time =>
      obtain ⟨-, r, hrun, -⟩ := runs_reading.mp h
      rcases Impl.runs_pollEvents hrun with ⟨-, hes, -⟩ | ⟨-, reply, hes, -⟩
      · exact hnil hes
      · exact hone _ hes rfl
  | getLocalIpAddress stack | getLocalPort stack =>
      obtain ⟨-, r, hrun, -⟩ := runs_reading.mp h
      obtain ⟨reply, hask, -⟩ := Impl.runs_getEndpoint hrun
      exact hone _ (Impl.runs_getsockname hask) rfl
  | getRemoteIpAddress stack | getRemotePort stack =>
      obtain ⟨-, r, hrun, -⟩ := runs_reading.mp h
      obtain ⟨reply, hask, -⟩ := Impl.runs_getEndpoint hrun
      exact hone _ (Impl.runs_getpeername hask) rfl

/-- A socket address that a method hands to libzt is the encoding of its
address argument, which passed the guards. -/
theorem Method.exec_sockaddr {self self' : Impl} {m : Method} {es : List ZtsEvent} {o : Outcome}
    (h : (exec self m).Runs es (o, self')) {e : ZtsEvent} (he : e ∈ es) {fd : ℤ}
    {addr : SockaddrStorage} (haddr : e.call.sockaddr? = some (fd, addr)) :
    fd = self.socketID ∧ ∃ a port, m.endpoint? = some (a, port) ∧ self.Accepts a ∧
      Encodes addr a port := by
  cases m with
  | bind stack a port =>
      obtain ⟨r, hrun, -⟩ := runs_returning.mp h
      obtain ⟨-, ⟨-, rfl, -⟩ | ⟨haccepts, s, reply, hs, rfl, -⟩⟩ := Impl.runs_bind hrun
      · simp at he
      · obtain rfl := List.mem_singleton.mp he
        cases haddr
        exact ⟨rfl, a, port, rfl, haccepts, (encodes_of_toSockaddr hs).2⟩
  | connect stack a port =>
      obtain ⟨r, hrun, -⟩ := runs_returning.mp h
      obtain ⟨-, ⟨-, rfl, -⟩ | ⟨-, haccepts, s, reply, hs, rfl, -⟩⟩ := Impl.runs_connect hrun
      · simp at he
      · obtain rfl := List.mem_singleton.mp he
        cases haddr
        exact ⟨rfl, a, port, rfl, haccepts, (encodes_of_toSockaddr hs).2⟩
  | sendTo stack data size a port =>
      obtain ⟨r, hrun, -⟩ := runs_returning.mp h
      obtain ⟨-, ⟨-, rfl, -⟩ | ⟨haccepts, s, reply, hs, rfl, -⟩⟩ := Impl.runs_sendTo hrun
      · simp at he
      · obtain rfl := List.mem_singleton.mp he
        cases haddr
        exact ⟨rfl, a, port, rfl, haccepts, (encodes_of_toSockaddr hs).2⟩
  | _ =>
      rw [exec_sockaddr_none h rfl he] at haddr
      cases haddr

theorem World.effect_sockaddr {w w' : World} {op : Op} {es : List ZtsEvent}
    (h : w.Effect op es w') {e : ZtsEvent} (he : e ∈ es) (haddr : e.call.sockaddr? ≠ none) :
    ∃ p m, op = .call p m := by
  have hdeletes : ∀ {o : Option Object}, World.Deletes o es → e.call.sockaddr? = none := by
    intro o hdelete
    cases hdelete with
    | none | notOpen => simp at he
    | closes object hopen reply => rw [List.mem_singleton.mp he]; rfl
  cases h with
  | called p m object es impl hp hm => exact ⟨p, m, rfl⟩
  | constructed | moved => simp at he
  | refused p r object reply | accepted p r object reply =>
      rw [List.mem_singleton.mp he] at haddr
      exact absurd rfl haddr
  | assigned p q s es hq hp hdelete | destroyed p s es hp hdelete =>
      exact absurd (hdeletes hdelete) haddr

/-! ## Whole runs -/

section

variable {steps : List Step} {t : Session (ℤ → Option ℤ)}

theorem Reaches.exclusive {opened : Set ℤ} {s : Session (Set ℤ)}
    (h : Reaches descriptorTable opened steps s) : Exclusive s.world.heap := by
  obtain ⟨history, hsound⟩ := h.sound
  intro a b x y hx hy hopen heq
  have hxheld : x.socketID ∈ s.world.held a := ⟨x, hx, Impl.isOpen_iff.mp hopen, rfl⟩
  have hyheld : x.socketID ∈ s.world.held b := ⟨y, hy, Impl.isOpen_iff.mp hopen, heq.symm⟩
  exact hsound.exclusive a b x.socketID hxheld hyheld

omit [Platform] in
theorem familyTable_nonneg {table : ℤ → Option ℤ} (h : ∀ fd, table fd ≠ none → 0 ≤ fd)
    {c : Call} {r : c.Reply} : ∀ fd, familyTable.next table c r fd ≠ none → 0 ≤ fd := by
  have hwith : ∀ {res : ℤ} {family : Option ℤ},
      ∀ fd, withEntry table res family fd ≠ none → 0 ≤ fd := by
    intro res family fd hfd
    unfold withEntry at hfd
    split_ifs at hfd with hres
    · by_cases heq : fd = res
      · exact heq ▸ hres
      · rw [Function.update_of_ne heq] at hfd
        exact h fd hfd
    · exact h fd hfd
  cases c with
  | ztsSocket | ztsAccept => exact hwith
  | ztsClose fd' =>
      intro fd hfd
      change Function.update table fd' none fd ≠ none at hfd
      by_cases heq : fd = fd'
      · rw [heq, Function.update_self] at hfd
        exact absurd rfl hfd
      · rw [Function.update_of_ne heq] at hfd
        exact h fd hfd
  | _ => exact h

theorem Reaches.nonneg (h : Reaches familyTable (fun _ ↦ none) steps t) :
    ∀ fd, t.libzt fd ≠ none → 0 ≤ fd := by
  rw [h.libzt_eq]
  generalize eventsOf steps = es
  induction es using List.reverseRecOn with
  | nil =>
      intro fd hfd
      exact absurd rfl hfd
  | append_singleton es e ih =>
      rw [Service.after_append]
      exact familyTable_nonneg ih

theorem Reaches.familiesAgree (h : Reaches familyTable (fun _ ↦ none) steps t) :
    FamiliesAgree t.world.heap t.libzt := by
  refine LabelledSystem.Run.invariant (fun _ s ↦ FamiliesAgree s.world.heap s.libzt) h ?_ ?_
  · rintro a impl ⟨p, hp⟩
    simp at hp
  · intro steps s l u hreach hs hl
    have hreach' : Reaches familyTable (fun _ ↦ none) steps s := hreach
    have hexclusive := (hreach'.refines familyTable_refines).exclusive
    have heffect := hreach'.owned.heapEffect (sessions_effect hl)
    rw [hl.2.2]
    exact hs.step hexclusive heffect hl.2.1 hreach'.nonneg

/-- In every reachable state the family of an open Socket is the family its
descriptor has in libzt.  So a socket address handed to libzt for an open
descriptor encodes a valid address, with the family code of the descriptor,
and an address that is invalid or of another family is refused without a call. -/
theorem family_agreement (h : Reaches familyTable (fun _ ↦ none) steps t) :
    (∀ p x, t.world.object? p = some x → x.impl.isOpen →
      t.libzt x.impl.socketID ≠ none ∧
        t.libzt x.impl.socketID = x.impl.getAddressFamily.ztsFamily) ∧
    (∀ l u, (sessions familyTable).Step t l u → ∀ e ∈ l.events, ∀ fd addr,
      e.call.sockaddr? = some (fd, addr) → 0 ≤ fd →
        ∃ p m x a port, l.op = .call p m ∧ t.world.object? p = some x ∧ x.impl.socketID = fd ∧
          m.endpoint? = some (a, port) ∧ a.isValid ∧ Encodes addr a port ∧
          t.libzt fd = some (addr.family.toNat : ℤ)) ∧
    (∀ p m x a port, t.world.object? p = some x → m.endpoint? = some (a, port) →
      (¬ a.isValid ∨ a.getAddressFamily ≠ x.impl.getAddressFamily ∨
        (x.impl.isOpen ∧ a.getAddressFamily.ztsFamily ≠ t.libzt x.impl.socketID)) →
      ∃ o : Outcome, o.errorCode? = some .argumentError ∧
        t.world.exec (.call p m) = .ret (o, t.world)) := by
  have hagree : ∀ p x, t.world.object? p = some x → x.impl.isOpen →
      t.libzt x.impl.socketID = x.impl.getAddressFamily.ztsFamily :=
    fun p x hp hopen ↦ h.familiesAgree x.address x.impl ⟨p, hp⟩ hopen
  refine ⟨?_, ?_, ?_⟩
  · intro p x hp hopen
    obtain ⟨family, hfamily⟩ := x.impl.exists_ztsFamily
    refine ⟨?_, hagree p x hp hopen⟩
    rw [hagree p x hp hopen, hfamily]
    exact Option.some_ne_none family
  · intro l u hl e he fd addr haddr hfd
    have hsome : e.call.sockaddr? ≠ none := by
      rw [haddr]
      exact Option.some_ne_none _
    obtain ⟨p, m, hop⟩ := World.effect_sockaddr (sessions_effect hl) he hsome
    have hexec := hl.1
    rw [hop] at hexec
    obtain ⟨x, impl, hp, hm, -⟩ := World.runs_call hexec
    obtain ⟨rfl, a, port, hendpoint, haccepts, hencodes⟩ := Method.exec_sockaddr hm he haddr
    refine ⟨p, m, x, a, port, hop, hp, rfl, hendpoint, haccepts.1, hencodes, ?_⟩
    rw [hagree p x hp (Impl.isOpen_iff.mpr hfd), ← haccepts.2, AddressFamily.ztsFamily,
      hencodes.family]
    rfl
  · intro p m x a port hp hendpoint hbad
    have hrefused : ¬ x.impl.Accepts a := by
      rintro ⟨hvalid, hfamily⟩
      rcases hbad with hinvalid | hother | ⟨hopen, hother⟩
      · exact hinvalid hvalid
      · exact hother hfamily
      · apply hother
        rw [hagree p x hp hopen, hfamily]
    obtain ⟨o, hcode, hexec⟩ := Method.exec_of_not_accepts hendpoint hrefused
    refine ⟨o, hcode, ?_⟩
    simp only [World.exec, hp, hexec, Prog.ret_bind, Prog.pure_eq, World.setImpl_self hp]

end

end

def acceptIPv6 : List (Op × ((c : Call) → c.Reply)) :=
  [(.construct 0, Call.answer 0),
    (.call 0 (.init .internetProtocolIPv6 .stream), Call.answer 3),
    (.accept 0 1, Call.answer 4)]

theorem family_agreement_accepted :
    ∃ steps t x, Reaches familyTable (fun _ ↦ none) steps t ∧
      t.world.object? 1 = some x ∧ x.impl.socketID = 4 ∧
      t.libzt 4 = x.impl.getAddressFamily.ztsFamily ∧ x.impl.getAddressFamily = .ipv6 := by
  have hplay : (World.start.play acceptIPv6).map (fun r ↦ eventsOf r.1) =
      some [⟨.ztsSocket 10 1 10, ⟨3, 0⟩⟩, ⟨.ztsAccept 3, ⟨4, 0⟩⟩] := rfl
  have hadmits : familyTable.AdmitsAll (fun _ ↦ none)
      [⟨.ztsSocket 10 1 10, ⟨3, 0⟩⟩, ⟨.ztsAccept 3, ⟨4, 0⟩⟩] :=
    ⟨fun _ ↦ rfl, fun _ ↦ ⟨rfl, rfl⟩, trivial⟩
  obtain ⟨steps, t, ht, -, hrun⟩ := exists_run_of_play hplay hadmits
  have hobject : t.object? 1 = some ⟨1, ⟨.internetProtocolIPv6, .stream, 4⟩⟩ := by
    cases ht
    rfl
  obtain ⟨-, hagree⟩ := (family_agreement hrun).1 1 _ hobject rfl
  exact ⟨steps, _, _, hrun, hobject, rfl, hagree, rfl⟩

end Ztcpp
