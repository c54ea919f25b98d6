import Ztcpp.Service
import Ztcpp.Socket.Session

/-!
# Reported and actual success

Most operations test for success and report everything else as an error.
`init`, `accept` and `close` test for some errors and report everything else as
success, so that they are right exactly on the codes they name.
-/

namespace Ztcpp

open Interaction

section

variable [Platform]

def Call.Succeeds : Call → ℤ → Prop
  | .ztsSocket .., res | .ztsAccept _, res | .ztsSend .., res | .ztsBsdSendto .., res
  | .ztsRecv .., res | .ztsBsdRecvfrom .., res => 0 ≤ res
  | .ztsBsdPoll .., res => res = 0 ∨ res = 1
  | _, res => res = ztsErrOk

def ZtsEvent.Succeeds (e : ZtsEvent) : Prop := e.call.Succeeds e.res

/-- The operation reports success only when all of its calls succeeded. -/
def NoFalseSuccess {α : Type} (p : Prog Libzt (Result α)) : Prop :=
  ∀ es r, p.Runs es r → r.hasError = false → ∀ e ∈ es, ZtsEvent.Succeeds e

theorem noFalseSuccess_checkedCall {function callee : String} {named : List NamedCode}
    {ask : Prog Libzt Status}
    (h : ∀ es status, ask.Runs es status → status.res = ztsErrOk → ∀ e ∈ es, ZtsEvent.Succeeds e) :
    NoFalseSuccess (checkedCall function callee named ask) := by
  intro es r hrun hr
  obtain ⟨status, front, _, rfl, hask, rfl, rfl⟩ := Prog.runs_bind.mp hrun
  rw [List.append_nil]
  exact h front status hask (hasError_checkedResult.mp hr)

theorem LocalNode.start_success {es : List ZtsEvent} {r : EmptyResult}
    (h : LocalNode.start.Runs es r) (hr : r.hasError = false) :
    ∃ r₁ r₂ : Status, es = [⟨.ztsInitSetEventHandler, r₁⟩, ⟨.ztsNodeStart, r₂⟩] ∧
      r₁.res = ztsErrOk ∧ r₂.res = ztsErrOk := by
  obtain ⟨r₁, rest, rfl, h⟩ := h
  change Prog.Runs (if r₁.res = ztsErrOk then _ else _) rest r at h
  split_ifs at h with hok
  · obtain ⟨r₂, _, rfl, rfl, rfl⟩ := h
    exact ⟨r₁, r₂, rfl, hok, hasError_checkedResult.mp hr⟩
  · obtain ⟨rfl, rfl⟩ := h
    exact absurd (hasError_checkedResult.mp hr) hok

theorem ServiceOp.noFalseSuccess (op : ServiceOp) : NoFalseSuccess op.exec := by
  cases op with
  | start =>
      intro es r h hr e he
      obtain ⟨r₁, r₂, rfl, h₁, h₂⟩ := LocalNode.start_success h hr
      rcases List.mem_pair.mp he with rfl | rfl
      · exact h₁
      · exact h₂
  | _ =>
      refine noFalseSuccess_checkedCall ?_
      rintro _ _ ⟨reply, _, rfl, rfl, rfl⟩ hok e he
      rw [List.mem_singleton.mp he]
      exact hok

theorem Network.getName_noFalseSuccess (aNetworkId : UInt64) (charbuf : List UInt8) :
    NoFalseSuccess (getName aNetworkId charbuf) := by
  intro es r h hr e he
  obtain ⟨reply, rest, rfl, h⟩ := h
  change Prog.Runs (if reply.res = ztsErrOk then if 0 ∈ reply.buf then _ else _ else _) rest r at h
  split_ifs at h with hok hzero
  · obtain ⟨rfl, -⟩ := h
    rw [List.mem_singleton.mp he]
    exact hok
  · exact h.elim
  · obtain ⟨-, rfl⟩ := h
    exact absurd (hasError_checkedResult.mp hr) hok

/-! ## Operations on Sockets -/

/-- The operations whose result reports a status or a descriptor of libzt. -/
def Op.ReportsStatus : Op → Prop
  | .call _ m => match m with
    | .send .. | .sendTo .. | .receive .. | .receiveFrom .. | .isOpen => False
    | _ => True
  | .accept .. => True
  | _ => False

/-- Success is reported only when the call succeeded, and then a Socket that
`init` opened or `accept` returned is open. -/
def TrueSuccess (op : Op) (es : List ZtsEvent) (o : Outcome) (w' : World) : Prop :=
  o.hasError = false →
    (∀ e ∈ es, ZtsEvent.Succeeds e) ∧
    (∀ p d t, op = .call p (.init d t) → ∃ x, w'.object? p = some x ∧ x.impl.isOpen) ∧
    (∀ p r, op = .accept p r → ∃ x, w'.object? r = some x ∧ x.impl.isOpen)

/-- libzt's answer is a success or one of the codes that the function which
made the call names. -/
def ZtsEvent.Named (e : ZtsEvent) : Prop :=
  match e.call with
  | .ztsSocket .. => 0 ≤ e.res ∨ e.res = ztsErrSocket ∨ e.res = ztsErrService
  | .ztsAccept _ =>
      0 ≤ e.res ∨ e.res = ztsErrSocket ∨ e.res = ztsErrService ∨ e.res = ztsErrArg
  | .ztsClose _ => e.res = ztsErrOk ∨ e.res = ztsErrSocket ∨ e.res = ztsErrService
  | _ => True

theorem Impl.hasError_initResult {reply : Status} :
    (initResult reply).hasError = false ↔
      reply.res ≠ ztsErrSocket ∧ reply.res ≠ ztsErrService := by
  unfold initResult
  split_ifs with hsocket hservice
  · simp [hsocket]
  · simp [hservice]
  · simp [emptyResultOK, hsocket, hservice]

theorem Impl.hasError_closeResult {reply : Status} :
    (closeResult reply).hasError = false ↔
      reply.res ≠ ztsErrSocket ∧ reply.res ≠ ztsErrService := by
  unfold closeResult
  split_ifs with hsocket hservice
  · simp [hsocket]
  · simp [hservice]
  · simp [emptyResultOK, hsocket, hservice]

theorem Impl.acceptError_eq_none {reply : Status} :
    acceptError reply = none ↔
      reply.res ≠ ztsErrSocket ∧ reply.res ≠ ztsErrService ∧ reply.res ≠ ztsErrArg := by
  unfold acceptError
  split_ifs with hsocket hservice harg
  · simp [hsocket]
  · simp [hservice]
  · simp [harg]
  · simp [hsocket, hservice, harg]

theorem Impl.hasError_pollResult {reply : PollReply} (h : (pollResult reply).hasError = false) :
    reply.res = 0 ∨ reply.res = 1 := by
  by_contra hne
  have hres : reply.res ≠ 1 ∧ reply.res ≠ 0 := by tauto
  unfold pollResult at h
  rw [if_pos hres] at h
  split_ifs at h with hsocket hservice
  · simp at h
  · simp at h
  · simp at h

variable {self self' : Impl} {es : List ZtsEvent} {o : Outcome} {w w' : World} {op : Op}

theorem Method.noFalseSuccess {m : Method} (hm : (Op.call 0 m).ReportsStatus)
    (hinit : ∀ d t, m ≠ .init d t) (hclose : m ≠ .close)
    (h : (m.exec self).Runs es (o, self')) (ho : o.hasError = false) :
    ∀ e ∈ es, ZtsEvent.Succeeds e := by
  have hnil : es = [] → ∀ e ∈ es, ZtsEvent.Succeeds e := by
    rintro rfl e he
    simp at he
  have hone : ∀ e', es = [e'] → ZtsEvent.Succeeds e' →
      ∀ e ∈ es, ZtsEvent.Succeeds e := by
    rintro e' rfl he' e he
    rwa [List.mem_singleton.mp he]
  cases m with
  | init d t => exact absurd rfl (hinit d t)
  | close => exact absurd rfl hclose
  | bind stack a p =>
      obtain ⟨r, hrun, rfl⟩ := runs_returning.mp h
      rw [Outcome.hasError_eq (r := r) rfl] at ho
      obtain ⟨-, ⟨-, hes, -⟩ | ⟨-, s, reply, -, hes, rfl⟩⟩ := Impl.runs_bind hrun
      · exact hnil hes
      · exact hone _ hes (hasError_statusResult.mp ho)
  | connect stack a p =>
      obtain ⟨r, hrun, rfl⟩ := runs_returning.mp h
      rw [Outcome.hasError_eq (r := r) rfl] at ho
      obtain ⟨-, ⟨-, hes, -⟩ | ⟨-, -, s, reply, -, hes, rfl⟩⟩ := Impl.runs_connect hrun
      · exact hnil hes
      · exact hone _ hes (hasError_statusResult.mp ho)
  | listen n =>
      obtain ⟨r, hrun, rfl⟩ := runs_returning.mp h
      rw [Outcome.hasError_eq (r := r) rfl] at ho
      obtain ⟨-, reply, hes, rfl⟩ := Impl.runs_listen hrun
      exact hone _ hes (hasError_statusResult.mp ho)
  | pollEvents events time =>
      obtain ⟨-, r, hrun, rfl⟩ := runs_reading.mp h
      rw [Outcome.hasError_eq (r := r) rfl] at ho
      rcases Impl.runs_pollEvents hrun with ⟨-, hes, -⟩ | ⟨-, reply, hes, rfl⟩
      · exact hnil hes
      · exact hone _ hes (Impl.hasError_pollResult ho)
  | getLocalIpAddress stack | getLocalPort stack =>
      obtain ⟨-, r, hrun, rfl⟩ := runs_reading.mp h
      rw [Outcome.hasError_eq (r := r) rfl] at ho
      obtain ⟨reply, hask, rfl⟩ := Impl.runs_getEndpoint hrun
      exact hone _ (Impl.runs_getsockname hask) (hasError_statusResult.mp ho)
  | getRemoteIpAddress stack | getRemotePort stack =>
      obtain ⟨-, r, hrun, rfl⟩ := runs_reading.mp h
      rw [Outcome.hasError_eq (r := r) rfl] at ho
      obtain ⟨reply, hask, rfl⟩ := Impl.runs_getEndpoint hrun
      exact hone _ (Impl.runs_getpeername hask) (hasError_statusResult.mp ho)
  | send | sendTo | receive | receiveFrom | isOpen => exact hm.elim

theorem ZtsEvent.named_of_uses {e : ZtsEvent} {fd : ℤ} (h : e.call.descriptorUse = .uses fd) :
    ZtsEvent.Named e := by
  unfold ZtsEvent.Named
  split
  · next hcall => rw [hcall] at h; cases h
  · next hcall => rw [hcall] at h; cases h
  · next hcall => rw [hcall] at h; cases h
  · trivial

theorem Method.Effect.named {m : Method} (hinit : ∀ d t, m ≠ .init d t) (hclose : m ≠ .close)
    (h : Method.Effect self m es self') : ∀ e ∈ es, ZtsEvent.Named e := by
  cases h with
  | opens d t reply hv => exact absurd rfl (hinit d t)
  | closes reply hopen => exact absurd rfl hclose
  | uses m e he =>
      rw [List.forall_mem_singleton]
      exact ZtsEvent.named_of_uses he
  | quiet => simp

theorem init_trueSuccess_iff {p : ℕ} {d : SocketDomain} {t : SocketType}
    (h : (w.exec (.call p (.init d t))).Runs es (o, w')) :
    TrueSuccess (.call p (.init d t)) es o w' ↔ ∀ e ∈ es, ZtsEvent.Named e := by
  obtain ⟨x, impl, hp, hm, rfl⟩ := World.runs_call h
  obtain ⟨r, hrun, rfl⟩ := Method.runs_returning.mp hm
  unfold TrueSuccess
  rw [Outcome.hasError_eq (r := r) rfl]
  rcases Impl.runs_init hrun with ⟨-, rfl, -, hcode⟩ | ⟨-, reply, rfl, rfl, rfl⟩
  · refine iff_of_true ?_ (by simp)
    intro hr
    cases r with
    | ok => simp [Result.errorCode?] at hcode
    | error => simp at hr
  · rw [Impl.hasError_initResult, List.forall_mem_singleton, List.forall_mem_singleton]
    change _ ↔ 0 ≤ reply.res ∨ reply.res = ztsErrSocket ∨ reply.res = ztsErrService
    constructor
    · intro htrue
      by_cases hcodes : reply.res ≠ ztsErrSocket ∧ reply.res ≠ ztsErrService
      · exact .inl (htrue hcodes).1
      · tauto
    · intro hres hcodes
      have hnonneg : 0 ≤ reply.res := by tauto
      refine ⟨hnonneg, ?_, ?_⟩
      · intro p' d' t' hop
        cases hop
        exact ⟨_, World.object?_setImpl_self .., Impl.isOpen_iff.mpr hnonneg⟩
      · intro p' r' hop
        cases hop

theorem close_trueSuccess_iff {p : ℕ} (h : (w.exec (.call p .close)).Runs es (o, w')) :
    TrueSuccess (.call p .close) es o w' ↔ ∀ e ∈ es, ZtsEvent.Named e := by
  obtain ⟨x, impl, hp, hm, rfl⟩ := World.runs_call h
  obtain ⟨r, hrun, rfl⟩ := Method.runs_returning.mp hm
  unfold TrueSuccess
  rw [Outcome.hasError_eq (r := r) rfl]
  rcases Impl.runs_close hrun with ⟨-, rfl, -, -⟩ | ⟨-, reply, rfl, -, rfl⟩
  · refine iff_of_true (fun _ ↦ ⟨by simp, ?_, ?_⟩) (by simp)
    · intro p' d' t' hop
      cases hop
    · intro p' r' hop
      cases hop
  · rw [Impl.hasError_closeResult, List.forall_mem_singleton, List.forall_mem_singleton]
    change _ ↔ reply.res = ztsErrOk ∨ reply.res = ztsErrSocket ∨ reply.res = ztsErrService
    constructor
    · intro htrue
      by_cases hcodes : reply.res ≠ ztsErrSocket ∧ reply.res ≠ ztsErrService
      · exact .inl (htrue hcodes).1
      · tauto
    · intro hres hcodes
      have hok : reply.res = ztsErrOk := by tauto
      refine ⟨hok, ?_, ?_⟩
      · intro p' d' t' hop
        cases hop
      · intro p' r' hop
        cases hop

theorem accept_trueSuccess_iff {p q : ℕ} (h : (w.exec (.accept p q)).Runs es (o, w')) :
    TrueSuccess (.accept p q) es o w' ↔ ∀ e ∈ es, ZtsEvent.Named e := by
  unfold TrueSuccess
  obtain ⟨x, hp, hq, reply, rfl, ⟨report, herror, rfl, rfl⟩ | ⟨herror, rfl, rfl⟩⟩ :=
    World.runs_accept h
  · have hcodes : reply.res = ztsErrSocket ∨ reply.res = ztsErrService ∨
        reply.res = ztsErrArg := by
      by_contra hne
      have hnone := Impl.acceptError_eq_none.mpr (by tauto : reply.res ≠ ztsErrSocket ∧
        reply.res ≠ ztsErrService ∧ reply.res ≠ ztsErrArg)
      rw [hnone] at herror
      cases herror
    refine iff_of_true (fun hr ↦ ?_) ?_
    · cases hr
    · rw [List.forall_mem_singleton]
      exact .inr hcodes
  · have hcodes := Impl.acceptError_eq_none.mp herror
    rw [List.forall_mem_singleton, List.forall_mem_singleton]
    change _ ↔ 0 ≤ reply.res ∨ reply.res = ztsErrSocket ∨ reply.res = ztsErrService ∨
      reply.res = ztsErrArg
    constructor
    · intro htrue
      exact .inl (htrue rfl).1
    · intro hres _
      have hnonneg : 0 ≤ reply.res := by tauto
      refine ⟨hnonneg, ?_, ?_⟩
      · intro p' d' t' hop
        cases hop
      · intro p' q' hop
        cases hop
        exact ⟨_, World.object?_emplace_self .., Impl.isOpen_iff.mpr hnonneg⟩

theorem trueSuccess_iff (hop : op.ReportsStatus) (h : (w.exec op).Runs es (o, w')) :
    TrueSuccess op es o w' ↔ ∀ e ∈ es, ZtsEvent.Named e := by
  cases op with
  | call p m =>
      by_cases hinit : ∃ d t, m = .init d t
      · obtain ⟨d, t, rfl⟩ := hinit
        exact init_trueSuccess_iff h
      by_cases hclose : m = .close
      · subst hclose
        exact close_trueSuccess_iff h
      have hne : ∀ d t, m ≠ .init d t := fun d t heq ↦ hinit ⟨d, t, heq⟩
      obtain ⟨x, impl, hp, hm, rfl⟩ := World.runs_call h
      refine iff_of_true (fun ho ↦ ⟨?_, ?_, ?_⟩) ?_
      · exact Method.noFalseSuccess hop hne hclose hm ho
      · intro p' d t heq
        cases heq
        exact absurd rfl (hne d t)
      · intro p' r heq
        cases heq
      · exact (Method.exec_effect hm).named hne hclose
  | accept p q => exact accept_trueSuccess_iff h
  | construct | moveConstruct | moveAssign | destroy => exact hop.elim

/-- No operation reports a false success, if and only if every answer of
`zts_socket`, `zts_accept` and `zts_close` is a success or a code that `init`,
`accept` and `close` name. -/
theorem no_false_success_iff :
    (∀ service : ServiceOp, NoFalseSuccess service.exec) ∧
    (∀ aNetworkId charbuf, NoFalseSuccess (Network.getName aNetworkId charbuf)) ∧
    (∀ es r, LocalNode.start.Runs es r → r.hasError = false → ∃ r₁ r₂ : Status,
      es = [⟨.ztsInitSetEventHandler, r₁⟩, ⟨.ztsNodeStart, r₂⟩] ∧
        r₁.res = ztsErrOk ∧ r₂.res = ztsErrOk) ∧
    (∀ w op es o w', op.ReportsStatus → (World.exec w op).Runs es (o, w') →
      (TrueSuccess op es o w' ↔ ∀ e ∈ es, ZtsEvent.Named e)) :=
  ⟨ServiceOp.noFalseSuccess, Network.getName_noFalseSuccess, fun _ _ ↦ LocalNode.start_success,
    fun _ _ _ _ _ ↦ trueSuccess_iff⟩

end

theorem no_false_success_opened :
    TrueSuccess (.call 0 (.init .internetProtocolIPv4 .stream)) [⟨.ztsSocket 2 1 2, ⟨3, 0⟩⟩]
      (.empty emptyResultOK) (.opened .internetProtocolIPv4 .stream 3) := by
  have hrun : ((World.start.emplace 0 Impl.fresh).exec
      (.call 0 (.init .internetProtocolIPv4 .stream))).Runs [⟨.ztsSocket 2 1 2, ⟨3, 0⟩⟩]
      (.empty emptyResultOK, .opened .internetProtocolIPv4 .stream 3) := ⟨⟨3, 0⟩, [], rfl, rfl, rfl⟩
  have hop : (Op.call 0 (.init .internetProtocolIPv4 .stream)).ReportsStatus := trivial
  apply (no_false_success_iff.2.2.2 _ _ _ _ _ hop hrun).mpr
  rw [List.forall_mem_singleton]
  exact .inl (by decide)

/-- `init` reports success when `zts_socket` answers -5. -/
theorem init_false_success :
    ¬ ∀ w op es o w', op.ReportsStatus → (World.exec w op).Runs es (o, w') →
      TrueSuccess op es o w' := by
  intro h
  have hrun : ((World.start.emplace 0 Impl.fresh).exec
      (.call 0 (.init .internetProtocolIPv4 .stream))).Runs [⟨.ztsSocket 2 1 2, ⟨-5, 0⟩⟩]
      (.empty emptyResultOK, .opened .internetProtocolIPv4 .stream (-5)) :=
    ⟨⟨-5, 0⟩, [], rfl, rfl, rfl⟩
  have hop : (Op.call 0 (.init .internetProtocolIPv4 .stream)).ReportsStatus := trivial
  have hsucceeds : (0 : ℤ) ≤ -5 := (h _ _ _ _ _ hop hrun rfl).1 _ (List.mem_singleton.mpr rfl)
  exact absurd hsucceeds (by decide)

end Ztcpp
