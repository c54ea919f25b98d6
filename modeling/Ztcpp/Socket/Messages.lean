import Ztcpp.Client
import Ztcpp.Library.Text

/-!
# What an error message tells

An exception that `ZTCPP_THROW_ON_ERROR` throws has only the text of the
report.  It is enough: but for `pollEvents`, the text of an error determines
its code, whether libzt was called, and the status that libzt gave.
-/

namespace Ztcpp

open Interaction

section

variable [Platform]

def ErrorCode.ofRes (res : ℤ) : ErrorCode :=
  if res = ztsErrSocket then .socketError
  else if res = ztsErrService then .serviceError
  else if res = ztsErrArg then .argumentError
  else .genericError

def unknownText (callee : String) (res errno : ℤ) : String :=
  "Unknown error (" ++ callee ++ " returned " ++ toString res ++ ", zts_errno= " ++
    toString errno ++ ")"

/-- The quoted part of a message of `ztsErrorReport`. -/
def failureText (callee : String) (status : Status) : String :=
  if status.res = ztsErrSocket then namedCodeText "ZTS_ERR_SOCKET" status
  else if status.res = ztsErrService then namedCodeText "ZTS_ERR_SERVICE" status
  else if status.res = ztsErrArg then namedCodeText "ZTS_ERR_ARG" status
  else unknownText callee status.res status.errno

theorem ztsErrorReport_eq (function callee : String) (status : Status) :
    ztsErrorReport function callee status =
      ztcppErrorReport (.ofRes status.res) (failureText callee status) function := by
  unfold ztsErrorReport ErrorCode.ofRes failureText
  split_ifs <;> rfl

/-! ## Reading a message -/

omit [Platform] in
theorem ErrorCode.name_injective {code code' : ErrorCode}
    (h : code.name.toList = code'.name.toList) : code = code' := by
  cases code <;> cases code' <;> first | rfl | simp [ErrorCode.name] at h

omit [Platform] in
theorem ErrorCode.space_notMem_name (code : ErrorCode) : ' ' ∉ code.name.toList := by
  cases code <;> simp [ErrorCode.name]

theorem toList_message (code : ErrorCode) (text function : String) :
    (ztcppErrorReport code text function).message.toList =
      "ZTCpp:".toList ++ (code.name.toList ++ ' ' :: ('-' :: ' ' :: '"' :: (text.toList ++
        '"' :: (" in function: " ++ prettyFunction function).toList))) := by
  simp [ztcppErrorReport]

theorem message_inj {code code' : ErrorCode} {text text' function function' : String}
    (h : (ztcppErrorReport code text function).message =
      (ztcppErrorReport code' text' function').message) :
    code = code' ∧ ∃ rest rest', text.toList ++ '"' :: rest = text'.toList ++ '"' :: rest' := by
  have hlist := congrArg String.toList h
  rw [toList_message, toList_message] at hlist
  obtain ⟨hname, hrest⟩ := Text.append_cons_inj code.space_notMem_name code'.space_notMem_name
    (List.append_cancel_left hlist)
  have htext := (List.cons.inj (List.cons.inj (List.cons.inj hrest).2).2).2
  exact ⟨ErrorCode.name_injective hname, _, _, htext⟩

omit [Platform] in
theorem errno_inj {errno errno' : ℤ} {rest rest' : List Char}
    (h : (toString errno).toList ++ ')' :: rest = (toString errno').toList ++ ')' :: rest') :
    errno = errno' := by
  have hnot : ∀ n : ℤ, ')' ∉ (toString n).toList := fun n ↦
    Text.notMem_toString n (by decide) fun d ↦ Nat.digitChar_ne ')' (by decide)
  exact Text.toString_injective (Text.append_cons_inj (hnot errno) (hnot errno') h).1

omit [Platform] in
theorem namedCodeText_inj {name : String} {status status' : Status} {rest rest' : List Char}
    (h : (namedCodeText name status).toList ++ rest =
      (namedCodeText name status').toList ++ rest') :
    status.errno = status'.errno := by
  simp only [namedCodeText, String.toList_append, List.append_assoc] at h
  apply errno_inj
  simpa using h

omit [Platform] in
theorem toList_unknown (callee res errno : String) (rest : List Char) :
    ("Unknown error (" ++ callee ++ " returned " ++ res ++ ", zts_errno= " ++ errno ++
      ")").toList ++ rest = "Unknown error (".toList ++ (callee.toList ++ ' ' ::
        ("returned ".toList ++ (res.toList ++ ',' :: (" zts_errno= ".toList ++
          (errno.toList ++ ')' :: rest))))) := by
  simp

omit [Platform] in
theorem unknownText_inj {callee callee' : String} {res res' errno errno' : ℤ}
    {rest rest' : List Char} (hcallee : ' ' ∉ callee.toList) (hcallee' : ' ' ∉ callee'.toList)
    (h : (unknownText callee res errno).toList ++ rest =
      (unknownText callee' res' errno').toList ++ rest') : res = res' ∧ errno = errno' := by
  have hcomma : ∀ n : ℤ, ',' ∉ (toString n).toList := fun n ↦
    Text.notMem_toString n (by decide) fun d ↦ Nat.digitChar_ne ',' (by decide)
  unfold unknownText at h
  rw [toList_unknown, toList_unknown] at h
  have hreturned := (Text.append_cons_inj hcallee hcallee' (List.append_cancel_left h)).2
  obtain ⟨hres, herrno⟩ := Text.append_cons_inj (hcomma res) (hcomma res')
    (List.append_cancel_left hreturned)
  exact ⟨Text.toString_injective hres, errno_inj (List.append_cancel_left herrno)⟩

theorem ErrorCode.ofRes_eq_generic_iff {res : ℤ} : ErrorCode.ofRes res = .genericError ↔
    res ≠ ztsErrSocket ∧ res ≠ ztsErrService ∧ res ≠ ztsErrArg := by
  unfold ofRes
  split_ifs <;> simp_all

theorem failureText_of_generic {callee : String} {status : Status}
    (h : ErrorCode.ofRes status.res = .genericError) :
    failureText callee status = unknownText callee status.res status.errno := by
  obtain ⟨hsocket, hservice, harg⟩ := ErrorCode.ofRes_eq_generic_iff.mp h
  rw [failureText, if_neg hsocket, if_neg hservice, if_neg harg]

theorem ErrorCode.ofRes_inj {res res' : ℤ} (h : ErrorCode.ofRes res = .ofRes res')
    (hnamed : ErrorCode.ofRes res ≠ .genericError) : res = res' := by
  unfold ofRes at h hnamed
  split_ifs at h hnamed <;> simp_all

/-- Both texts come from a failed call. -/
theorem failureText_inj {callee callee' : String} {status status' : Status}
    {rest rest' : List Char} (hcallee : ' ' ∉ callee.toList) (hcallee' : ' ' ∉ callee'.toList)
    (hcode : ErrorCode.ofRes status.res = .ofRes status'.res)
    (h : (failureText callee status).toList ++ rest =
      (failureText callee' status').toList ++ rest') : status = status' := by
  obtain ⟨res, errno⟩ := status
  obtain ⟨res', errno'⟩ := status'
  by_cases hnamed : ErrorCode.ofRes res = .genericError
  · rw [failureText_of_generic hnamed, failureText_of_generic (hcode ▸ hnamed)] at h
    obtain ⟨hres, herrno⟩ := unknownText_inj hcallee hcallee' h
    exact Status.mk.injEq .. ▸ ⟨hres, herrno⟩
  · obtain rfl := ErrorCode.ofRes_inj hcode hnamed
    have herrno : errno = errno' := by
      unfold failureText at h
      unfold ErrorCode.ofRes at hnamed
      split_ifs at h hnamed
      · exact namedCodeText_inj h
      · exact namedCodeText_inj h
      · exact namedCodeText_inj h
      · exact absurd rfl hnamed
    rw [herrno]

/-! ## How an operation fails -/

/-- The texts for arguments that a method does not pass on. -/
def rejectionTexts : List String :=
  ["aSocketDomain has invalid value", "aSocketType has invalid value",
    "aLocalIpAddress is invalid", "aLocalIpAddress is of wrong address family",
    "0 is not a valid port to connect to", "aRemoteIpAddress is invalid",
    "aRemoteIpAddress is of wrong address family", "aData is null or aDataByteSize == 0",
    "aDestinationBuffer is null or aDestinationBufferByteSize == 0"]

/-- An argument was rejected before any call, or the one call made failed. -/
inductive Failure : List ZtsEvent → ErrorReport → Prop where
  | rejected (text function : String) (h : text ∈ rejectionTexts) :
      Failure [] (ztcppErrorReport .argumentError text function)
  | failed (function callee : String) (e : ZtsEvent) (h : ' ' ∉ callee.toList) :
      Failure [e] (ztsErrorReport function callee (e.call.status e.reply))

section

variable {α : Type} {function callee : String} {status : Status} {report : ErrorReport}

theorem report_of_statusResult {value : α}
    (h : (statusResult function callee status value).report? = some report) :
    report = ztsErrorReport function callee status := by
  unfold statusResult at h
  split_ifs at h
  · cases h
  · exact (Option.some.inj h).symm

theorem report_of_receivedResult
    (h : (receivedResult function callee status).report? = some report) :
    report = ztsErrorReport function callee status := by
  unfold receivedResult at h
  split_ifs at h
  · cases h
  · exact (Option.some.inj h).symm

theorem report_of_sentResult {size : UInt64}
    (h : (sentResult function callee status size).report? = some report) :
    report = ztsErrorReport function callee status := by
  unfold sentResult at h
  split_ifs at h
  · cases h
  · exact (Option.some.inj h).symm

theorem report_of_initResult (h : (Impl.initResult status).report? = some report) :
    report = ztsErrorReport "init" "zts_socket" status := by
  unfold Impl.initResult at h
  unfold ztsErrorReport
  split_ifs at h ⊢
  · exact (Option.some.inj h).symm
  · exact (Option.some.inj h).symm
  · cases h
  · cases h

theorem report_of_closeResult (h : (Impl.closeResult status).report? = some report) :
    report = ztsErrorReport "close" "zts_close" status := by
  unfold Impl.closeResult at h
  unfold ztsErrorReport
  split_ifs at h ⊢
  · exact (Option.some.inj h).symm
  · exact (Option.some.inj h).symm
  · cases h
  · cases h

theorem report_of_acceptError (h : Impl.acceptError status = some report) :
    report = ztsErrorReport "accept" "zts_accept" status := by
  unfold Impl.acceptError at h
  unfold ztsErrorReport
  split_ifs at h ⊢
  · exact (Option.some.inj h).symm
  · exact (Option.some.inj h).symm
  · exact (Option.some.inj h).symm

end

section

variable {self self' : Impl} {m : Method} {es : List ZtsEvent} {o : Outcome}
  {report : ErrorReport}

theorem Failure.of_rejected {α : Type} {r : Result α} {text function : String}
    (hrun : (.ret (.error (ztcppErrorReport .argumentError text function), self) :
      Prog Libzt (Result α × Impl)).Runs es (r, self'))
    (ho : r.report? = some report) (htext : text ∈ rejectionTexts) : Failure es report := by
  obtain ⟨rfl, ⟨⟩⟩ := hrun
  obtain rfl := Option.some.inj ho
  exact .rejected text function htext

theorem Method.exec_failure (h : (m.exec self).Runs es (o, self'))
    (hpoll : ∀ events time, m ≠ .pollEvents events time) (ho : o.report? = some report) :
    Failure es report := by
  cases m with
  | init d t =>
      obtain ⟨r, hrun, rfl⟩ := runs_returning.mp h
      unfold Impl.init at hrun
      split_ifs at hrun
      · exact .of_rejected hrun ho (by simp [rejectionTexts])
      · exact .of_rejected hrun ho (by simp [rejectionTexts])
      · obtain ⟨reply, _, rfl, rfl, ⟨⟩⟩ := hrun
        rw [report_of_initResult ho]
        exact .failed _ _ _ (by simp)
  | bind stack a port =>
      obtain ⟨r, hrun, rfl⟩ := runs_returning.mp h
      unfold Impl.bind at hrun
      split_ifs at hrun
      · exact .of_rejected hrun ho (by simp [rejectionTexts])
      · obtain ⟨s, hs, reply, _, rfl, rfl, ⟨⟩⟩ := Impl.runs_encodeSockaddr.mp hrun
        rw [report_of_statusResult ho]
        exact .failed _ _ _ (by simp)
      · exact .of_rejected hrun ho (by simp [rejectionTexts])
  | connect stack a port =>
      obtain ⟨r, hrun, rfl⟩ := runs_returning.mp h
      unfold Impl.connect at hrun
      split_ifs at hrun
      · exact .of_rejected hrun ho (by simp [rejectionTexts])
      · exact .of_rejected hrun ho (by simp [rejectionTexts])
      · obtain ⟨s, hs, reply, _, rfl, rfl, ⟨⟩⟩ := Impl.runs_encodeSockaddr.mp hrun
        rw [report_of_statusResult ho]
        exact .failed _ _ _ (by simp)
      · exact .of_rejected hrun ho (by simp [rejectionTexts])
  | listen n =>
      obtain ⟨r, hrun, rfl⟩ := runs_returning.mp h
      obtain ⟨-, reply, rfl, rfl⟩ := Impl.runs_listen hrun
      rw [report_of_statusResult ho]
      exact .failed _ _ _ (by simp)
  | send data size =>
      obtain ⟨r, hrun, rfl⟩ := runs_returning.mp h
      unfold Impl.send at hrun
      split_ifs at hrun
      · exact .of_rejected hrun ho (by simp [rejectionTexts])
      · obtain ⟨reply, _, rfl, rfl, ⟨⟩⟩ := hrun
        rw [report_of_sentResult ho]
        exact .failed _ _ _ (by simp)
  | sendTo stack data size a port =>
      obtain ⟨r, hrun, rfl⟩ := runs_returning.mp h
      unfold Impl.sendTo at hrun
      split_ifs at hrun
      · exact .of_rejected hrun ho (by simp [rejectionTexts])
      · exact .of_rejected hrun ho (by simp [rejectionTexts])
      · obtain ⟨s, hs, reply, _, rfl, rfl, ⟨⟩⟩ := Impl.runs_encodeSockaddr.mp hrun
        rw [report_of_sentResult ho]
        exact .failed _ _ _ (by simp)
      · exact .of_rejected hrun ho (by simp [rejectionTexts])
  | receive buffer size =>
      obtain ⟨r, hrun, rfl⟩ := runs_returning.mp h
      unfold Impl.receive at hrun
      split_ifs at hrun
      · obtain ⟨rfl, ⟨⟩⟩ := hrun
        obtain rfl := Option.some.inj ho
        exact .rejected _ _ (by simp [rejectionTexts])
      · obtain ⟨reply, _, rfl, rfl, ⟨⟩⟩ := hrun
        rw [report_of_receivedResult ho]
        exact .failed _ _ _ (by simp)
  | receiveFrom stack buffer size a port =>
      obtain ⟨r, hrun, rfl⟩ := runs_returning.mp h
      unfold Impl.receiveFrom at hrun
      split_ifs at hrun
      · obtain ⟨rfl, ⟨⟩⟩ := hrun
        obtain rfl := Option.some.inj ho
        exact .rejected _ _ (by simp [rejectionTexts])
      · obtain ⟨reply, _, rfl, rfl, ⟨⟩⟩ := hrun
        rw [report_of_receivedResult ho]
        exact .failed _ _ _ (by simp)
  | isOpen =>
      obtain ⟨-, r, -, rfl⟩ := runs_reading.mp h
      cases ho
  | close =>
      obtain ⟨r, hrun, rfl⟩ := runs_returning.mp h
      rcases Impl.runs_close hrun with ⟨-, -, -, rfl⟩ | ⟨-, reply, rfl, -, rfl⟩
      · cases ho
      · rw [report_of_closeResult ho]
        exact .failed _ _ _ (by simp)
  | pollEvents events time => exact absurd rfl (hpoll events time)
  | getLocalIpAddress stack | getLocalPort stack =>
      obtain ⟨-, r, hrun, rfl⟩ := runs_reading.mp h
      obtain ⟨reply, hask, rfl⟩ := Impl.runs_getEndpoint hrun
      rw [report_of_statusResult ho, Impl.runs_getsockname hask]
      refine .failed _ _ ⟨.ztsBsdGetsockname .., reply⟩ ?_
      simp
  | getRemoteIpAddress stack | getRemotePort stack =>
      obtain ⟨-, r, hrun, rfl⟩ := runs_reading.mp h
      obtain ⟨reply, hask, rfl⟩ := Impl.runs_getEndpoint hrun
      rw [report_of_statusResult ho, Impl.runs_getpeername hask]
      refine .failed _ _ ⟨.ztsBsdGetpeername .., reply⟩ ?_
      simp

theorem World.outcome_eq_done {w w' : World} {op : Op} (h : (w.exec op).Runs es (o, w'))
    (hcall : ∀ p m, op ≠ .call p m) (haccept : ∀ p r, op ≠ .accept p r) : o = .done := by
  cases op with
  | construct p =>
      simp only [exec] at h
      split_ifs at h
      · exact h.elim
      · obtain ⟨-, ⟨⟩⟩ := h
        rfl
  | call p m => exact absurd rfl (hcall p m)
  | accept p r => exact absurd rfl (haccept p r)
  | moveConstruct p q =>
      cases hq : w.sockets q with
      | none => simp [exec, hq] at h
      | some s =>
          simp only [exec, hq] at h
          split_ifs at h
          · exact h.elim
          · obtain ⟨-, ⟨⟩⟩ := h
            rfl
  | moveAssign p q =>
      cases hq : w.sockets q with
      | none => simp [exec, hq] at h
      | some s =>
          simp only [exec, hq] at h
          split_ifs at h
          · exact h.elim
          · obtain ⟨_, front, back, -, -, -, ⟨⟩⟩ := Prog.runs_bind.mp h
            rfl
  | destroy p =>
      cases hp : w.sockets p with
      | none => simp [exec, hp] at h
      | some s =>
          simp only [exec, hp] at h
          obtain ⟨_, front, back, -, -, -, ⟨⟩⟩ := Prog.runs_bind.mp h
          rfl

theorem World.exec_failure {w w' : World} {op : Op} (h : (w.exec op).Runs es (o, w'))
    (hpoll : ∀ p events time, op ≠ .call p (.pollEvents events time))
    (ho : o.report? = some report) : Failure es report := by
  cases op with
  | call p m =>
      obtain ⟨x, impl, -, hm, -⟩ := runs_call h
      exact Method.exec_failure hm (fun events time heq ↦ hpoll p events time (heq ▸ rfl)) ho
  | accept p r =>
      obtain ⟨x, -, -, reply, rfl, ⟨error, herror, rfl, -⟩ | ⟨-, rfl, -⟩⟩ := runs_accept h
      · obtain rfl := Option.some.inj ho
        rw [report_of_acceptError herror]
        exact .failed _ _ _ (by simp)
      · cases ho
  | construct p | moveConstruct p q | moveAssign p q | destroy p =>
      rw [World.outcome_eq_done h (by simp) (by simp)] at ho
      cases ho

end

/-! ## What a message determines -/

def ZtsEvent.status (e : ZtsEvent) : Status := e.call.status e.reply

/-- A text for a rejected argument begins like no text for a failed call. -/
theorem failureText_ne_rejection {callee text : String} {status : Status}
    (htext : text ∈ rejectionTexts) {rest rest' : List Char} :
    text.toList ++ rest ≠ (failureText callee status).toList ++ rest' := by
  have hhead : ∀ t ∈ rejectionTexts, t.toList.head? = some 'a' ∨ t.toList.head? = some '0' := by
    simp [rejectionTexts]
  have hfailure : (failureText callee status).toList.head? = some 'Z' ∨
      (failureText callee status).toList.head? = some 'U' := by
    unfold failureText namedCodeText unknownText
    split_ifs <;> simp
  intro h
  have hheads := congrArg List.head? h
  rw [List.head?_append, List.head?_append] at hheads
  rcases hhead text htext with ht | ht <;> rcases hfailure with hf | hf <;>
    simp [ht, hf] at hheads

theorem Failure.eq_of_message {es es' : List ZtsEvent} {report report' : ErrorReport}
    (h : Failure es report) (h' : Failure es' report')
    (hmessage : report.message = report'.message) :
    report = report' ∧ es.map ZtsEvent.status = es'.map ZtsEvent.status := by
  cases h with
  | rejected text function htext =>
      cases h' with
      | rejected text' function' htext' =>
          exact ⟨congrArg _ hmessage, rfl⟩
      | failed function' callee' e' hcallee' =>
          rw [ztsErrorReport_eq] at hmessage
          obtain ⟨-, rest, rest', htexts⟩ := message_inj hmessage
          exact absurd htexts (failureText_ne_rejection htext)
  | failed function callee e hcallee =>
      cases h' with
      | rejected text' function' htext' =>
          rw [ztsErrorReport_eq] at hmessage
          obtain ⟨-, rest, rest', htexts⟩ := message_inj hmessage
          exact absurd htexts.symm (failureText_ne_rejection htext')
      | failed function' callee' e' hcallee' =>
          rw [ztsErrorReport_eq, ztsErrorReport_eq] at hmessage ⊢
          obtain ⟨hcode, rest, rest', htexts⟩ := message_inj hmessage
          have hstatus : e.status = e'.status := failureText_inj hcallee hcallee' hcode htexts
          refine ⟨?_, congrArg (fun s ↦ [s]) hstatus⟩
          rw [← hcode] at hmessage ⊢
          exact congrArg (ErrorReport.mk _) hmessage

/-- The text of an error, which is all that an exception carries, determines
the error code, whether libzt was called, and the status that it gave. -/
theorem message_determines_status {w w' v v' : World} {op op' : Op} {es es' : List ZtsEvent}
    {o o' : Outcome} {report report' : ErrorReport} (h : (w.exec op).Runs es (o, w'))
    (h' : (v.exec op').Runs es' (o', v'))
    (hpoll : ∀ p events time, op ≠ .call p (.pollEvents events time))
    (hpoll' : ∀ p events time, op' ≠ .call p (.pollEvents events time))
    (ho : o.report? = some report) (ho' : o'.report? = some report')
    (hmessage : report.message = report'.message) :
    report = report' ∧ es.map ZtsEvent.status = es'.map ZtsEvent.status :=
  (World.exec_failure h hpoll ho).eq_of_message (World.exec_failure h' hpoll' ho') hmessage

end

/-- The call of `listen(n)` on descriptor 3, which libzt refuses. -/
def refusedListen (n : UInt64) : ZtsEvent :=
  ⟨.ztsBsdListen 3 ((n.toNat : ℤ).bmod (2 ^ 32)), (⟨-2, 11⟩ : Status)⟩

theorem runs_refusedListen (n : UInt64) :
    ((World.opened .internetProtocolIPv4 .stream 3).exec (.call 0 (.listen n))).Runs
      [refusedListen n]
      (.empty (.error (ztsErrorReport "listen" "zts_connect" ⟨-2, 11⟩)),
        (World.opened .internetProtocolIPv4 .stream 3).setImpl 0
          ⟨0, ⟨.internetProtocolIPv4, .stream, 3⟩⟩ ⟨.internetProtocolIPv4, .stream, 3⟩) :=
  ⟨⟨-2, 11⟩, [], rfl, rfl, rfl⟩

theorem message_determines_status_listen :
    [refusedListen 5].map ZtsEvent.status = [refusedListen 7].map ZtsEvent.status := by
  have hpoll : ∀ n p events time, Op.call 0 (.listen n) ≠ .call p (.pollEvents events time) := by
    simp
  exact (message_determines_status (runs_refusedListen 5) (runs_refusedListen 7) (hpoll 5) (hpoll 7)
    rfl rfl rfl).2

end Ztcpp
