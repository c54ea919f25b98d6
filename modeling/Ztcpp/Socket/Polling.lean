import Mathlib.Algebra.Order.Ring.Rat
import Mathlib.Data.Finset.Image
import Mathlib.Data.List.Pairwise
import Ztcpp.Library.Flags
import Ztcpp.Library.Narrowing
import Ztcpp.Library.Timed
import Ztcpp.Socket.Impl

/-!
# Waiting for poll events

libzt's `zts_bsd_poll` waits for the flags of a descriptor with a timeout of
type `int`.  `pollEvents` is to wait in the same way, for the events of its bit
mask and with a timeout of 64 bits.  Instants are counted in milliseconds.
-/

namespace Ztcpp

open Interaction Flags Narrowing Waiting

/-- The enumerators of `PollEventBitmask` with a bit of their own. -/
inductive PollEvent where
  | readyToReceive
  | readyToSend
  | readyToReceivePriorityData
  deriving DecidableEq

inductive PollFlag where
  | pollin
  | pollout
  | pollpri
  | pollerr
  | pollhup
  | pollnval
  deriving DecidableEq

def PollEvent.flag : PollEvent → PollFlag
  | .readyToReceive => .pollin
  | .readyToSend => .pollout
  | .readyToReceivePriorityData => .pollpri

def PollFlag.all : List PollFlag := [.pollin, .pollout, .pollpri, .pollerr, .pollhup, .pollnval]

theorem PollFlag.mem_all (f : PollFlag) : f ∈ all := by
  cases f <;> decide

theorem PollEvent.forall_iff {p : PollEvent → Prop} :
    (∀ e, p e) ↔ p .readyToReceive ∧ p .readyToSend ∧ p .readyToReceivePriorityData := by
  constructor
  · intro h
    exact ⟨h _, h _, h _⟩
  · rintro ⟨hreceive, hsend, hpriority⟩ e
    cases e with
    | readyToReceive => exact hreceive
    | readyToSend => exact hsend
    | readyToReceivePriorityData => exact hpriority

def pollEventCode : Code PollEvent 32 where
  bits
    | .readyToReceive => PollEventBitmask.readyToReceive
    | .readyToSend => PollEventBitmask.readyToSend
    | .readyToReceivePriorityData => PollEventBitmask.readyToReceivePriorityData
  bits_ne_zero := by
    intro e
    cases e <;> decide
  disjoint := by
    intro e f h
    cases e <;> cases f <;> first | decide | exact absurd rfl h

section

variable [Platform]

def PollFlag.bits : PollFlag → BitVec 16
  | .pollin => ztsPollin
  | .pollout => ztsPollout
  | .pollpri => ztsPollpri
  | .pollerr => ztsPollerr
  | .pollhup => ztsPollhup
  | .pollnval => ztsPollnval

def pollFlagCode : Code PollFlag 16 where
  bits := PollFlag.bits
  bits_ne_zero := by
    intro f
    exact Platform.ztsPoll_ne_zero _ (List.mem_map_of_mem (f := PollFlag.bits) f.mem_all)
  disjoint := by
    have hpairs := List.pairwise_map.mp
      (show (PollFlag.all.map PollFlag.bits).Pairwise fun f g ↦ f &&& g = 0 from
        Platform.ztsPoll_disjoint)
    have hsymm : Std.Symm fun f g : PollFlag ↦ f.bits &&& g.bits = 0 :=
      ⟨fun f g h ↦ by rwa [BitVec.and_comm]⟩
    intro f g hne
    exact hpairs.forall f.mem_all g.mem_all hne

/-! ## The flags asked for and reported -/

def errorFlags : Finset PollFlag := {.pollerr, .pollhup, .pollnval}

variable {I : Finset PollEvent} {F : Finset PollFlag}

theorem requestedEvents_encode :
    Impl.requestedEvents (pollEventCode.encode I) =
      pollFlagCode.encode (I.image PollEvent.flag) := by
  have hreceive : pollEventCode.encode I &&& PollEventBitmask.readyToReceive ≠ 0 ↔ _ :=
    pollEventCode.encode_and_bits_ne_zero_iff (f := .readyToReceive)
  have hsend : pollEventCode.encode I &&& PollEventBitmask.readyToSend ≠ 0 ↔ _ :=
    pollEventCode.encode_and_bits_ne_zero_iff (f := .readyToSend)
  have hpriority :
      pollEventCode.encode I &&& PollEventBitmask.readyToReceivePriorityData ≠ 0 ↔ _ :=
    pollEventCode.encode_and_bits_ne_zero_iff (f := .readyToReceivePriorityData)
  apply eq_of_and_eq_zero_iff
  intro x
  rw [pollFlagCode.and_encode_eq_zero_iff, Finset.forall_mem_image, PollEvent.forall_iff]
  simp only [Impl.requestedEvents, and_or_eq_zero_iff, and_ite_eq_zero_iff, hreceive, hsend,
    hpriority]
  simp [pollFlagCode, PollFlag.bits, PollEvent.flag, and_assoc]

omit [Platform] in
theorem PollEvent.flag_mem_image_union_iff {e : PollEvent} :
    e.flag ∈ I.image PollEvent.flag ∪ errorFlags ↔ e ∈ I := by
  have hinjective : Function.Injective PollEvent.flag := by
    intro e f h
    cases e <;> cases f <;> first | rfl | cases h
  have herror : e.flag ∉ errorFlags := by
    cases e <;> decide
  rw [Finset.mem_union, hinjective.mem_finset_image]
  exact or_iff_left herror

theorem reportedEvents_encode (hF : F ⊆ I.image PollEvent.flag ∪ errorFlags) :
    Impl.reportedEvents (pollFlagCode.encode F) =
      pollEventCode.encode (I.filter fun e ↦ e.flag ∈ F) := by
  have hin : pollFlagCode.encode F &&& ztsPollin ≠ 0 ↔ _ :=
    pollFlagCode.encode_and_bits_ne_zero_iff (f := .pollin)
  have hout : pollFlagCode.encode F &&& ztsPollout ≠ 0 ↔ _ :=
    pollFlagCode.encode_and_bits_ne_zero_iff (f := .pollout)
  have hpri : pollFlagCode.encode F &&& ztsPollpri ≠ 0 ↔ _ :=
    pollFlagCode.encode_and_bits_ne_zero_iff (f := .pollpri)
  have hmem : ∀ e, e ∈ I.filter (fun e ↦ e.flag ∈ F) ↔ e.flag ∈ F := by
    intro e
    rw [Finset.mem_filter]
    exact and_iff_right_of_imp fun he ↦ PollEvent.flag_mem_image_union_iff.mp (hF he)
  apply eq_of_and_eq_zero_iff
  intro x
  simp only [pollEventCode.and_encode_eq_zero_iff, hmem]
  rw [PollEvent.forall_iff]
  simp only [Impl.reportedEvents, and_or_eq_zero_iff, and_ite_eq_zero_iff, hin, hout, hpri]
  simp [pollEventCode, PollEvent.flag, and_assoc]

theorem pollResult_encode {reply : PollReply} (hres : reply.res = 1 ∨ reply.res = 0)
    (hrevents : reply.revents = pollFlagCode.encode F) :
    (Disjoint F errorFlags → Impl.pollResult reply =
      if reply.res ≠ 0 then .ok (Impl.reportedEvents reply.revents) else .ok 0) ∧
    (¬ Disjoint F errorFlags → (Impl.pollResult reply).hasError = true) := by
  have hnval : reply.revents &&& ztsPollnval ≠ 0 ↔ .pollnval ∈ F := by
    rw [hrevents]
    exact pollFlagCode.encode_and_bits_ne_zero_iff (f := .pollnval)
  have hhup : reply.revents &&& ztsPollhup ≠ 0 ↔ .pollhup ∈ F := by
    rw [hrevents]
    exact pollFlagCode.encode_and_bits_ne_zero_iff (f := .pollhup)
  have herr : reply.revents &&& ztsPollerr ≠ 0 ↔ .pollerr ∈ F := by
    rw [hrevents]
    exact pollFlagCode.encode_and_bits_ne_zero_iff (f := .pollerr)
  have hdisjoint : Disjoint F errorFlags ↔ .pollerr ∉ F ∧ .pollhup ∉ F ∧ .pollnval ∉ F := by
    simp [errorFlags]
  have hsocket : reply.res ≠ ztsErrSocket := by
    have hneg := Platform.ztsErrSocket_neg
    omega
  have hservice : reply.res ≠ ztsErrService := by
    have hneg := Platform.ztsErrService_neg
    omega
  have hcode : ¬ (reply.res ≠ 1 ∧ reply.res ≠ 0) := by
    rintro ⟨hone, hzero⟩
    exact hres.elim hone hzero
  unfold Impl.pollResult
  rw [if_neg hsocket, if_neg hservice, if_neg hcode, hdisjoint]
  simp only [hnval, hhup, herr]
  by_cases hn : .pollnval ∈ F
  · simp [hn]
  by_cases hh : .pollhup ∈ F
  · simp [hn, hh]
  by_cases he : .pollerr ∈ F
  · simp [hn, hh, he]
  simp [hn, hh, he]

/-- What is reported when the flags `F` are set. -/
structure ReportsEvents (I : Finset PollEvent) (F : Finset PollFlag) (r : Result (BitVec 32)) :
    Prop where
  events : Disjoint F errorFlags → r = .ok (pollEventCode.encode (I.filter fun e ↦ e.flag ∈ F))
  failure : ¬ Disjoint F errorFlags → r.hasError = true

theorem pollResult_reports {reply : PollReply} (hres : reply.res = 1)
    (hrevents : reply.revents = pollFlagCode.encode (F ∩ (I.image PollEvent.flag ∪ errorFlags))) :
    ReportsEvents I F (Impl.pollResult reply) := by
  obtain ⟨hevents, hfailure⟩ := pollResult_encode (.inl hres) hrevents
  have hdisjoint : Disjoint (F ∩ (I.image PollEvent.flag ∪ errorFlags)) errorFlags ↔
      Disjoint F errorFlags := by
    simp only [Finset.disjoint_left, Finset.mem_inter, Finset.mem_union]
    constructor
    · intro h f hf herror
      exact h ⟨hf, .inr herror⟩ herror
    · intro h f hf
      exact h hf.1
  have hfilter : (I.filter fun e ↦ e.flag ∈ F ∩ (I.image PollEvent.flag ∪ errorFlags)) =
      I.filter fun e ↦ e.flag ∈ F := by
    apply Finset.filter_congr
    intro e he
    rw [Finset.mem_inter, PollEvent.flag_mem_image_union_iff]
    exact and_iff_left he
  rw [hdisjoint] at hevents hfailure
  refine ⟨fun h ↦ ?_, hfailure⟩
  rw [hevents h, if_pos (by rw [hres]; decide), hrevents,
    reportedEvents_encode Finset.inter_subset_right, hfilter]

theorem pollResult_timedOut {reply : PollReply} (hres : reply.res = 0)
    (hrevents : reply.revents = 0) : Impl.pollResult reply = .ok 0 := by
  have hevents := (@pollResult_encode _ ∅ _ (.inr hres) hrevents).1
  rw [hevents (Finset.disjoint_empty_left _), if_neg (not_not.mpr hres)]

/-! ## Waiting -/

variable {τ : Type} [Ring τ] [LinearOrder τ]

/-- The instants from `now` on at which a flag asked for or an error flag is set. -/
def instants (schedule : τ → Finset PollFlag) (requested : Finset PollFlag) (now : τ) : Set τ :=
  {s | now ≤ s ∧ (schedule s ∩ (requested ∪ errorFlags)).Nonempty}

/-- `zts_bsd_poll` waits for what the schedule sets on the descriptor `fd`. -/
structure PollFollows (schedule : τ → Finset PollFlag) (fd : ℤ)
    (answer : τ → (c : Libzt.Call) → Option (τ × Libzt.Reply c)) : Prop where
  ready : ∀ now requested timeout s, Fits 31 timeout →
    Waits (instants schedule requested now) now timeout (.ready s) →
    ∃ reply : PollReply,
      answer now (.ztsBsdPoll fd (pollFlagCode.encode requested) 1 timeout) = some (s, reply) ∧
      reply.res = 1 ∧
      reply.revents = pollFlagCode.encode (schedule s ∩ (requested ∪ errorFlags))
  timedOut : ∀ now requested timeout s, Fits 31 timeout →
    Waits (instants schedule requested now) now timeout (.timedOut s) →
    ∃ reply : PollReply,
      answer now (.ztsBsdPoll fd (pollFlagCode.encode requested) 1 timeout) = some (s, reply) ∧
      reply.res = 0 ∧ reply.revents = 0
  forever : ∀ now requested timeout, Fits 31 timeout →
    Waits (instants schedule requested now) now timeout .forever →
    answer now (.ztsBsdPoll fd (pollFlagCode.encode requested) 1 timeout) = none

/-- What `pollEvents` is to do when the wait ends in this way. -/
def EndsWith (I : Finset PollEvent) (schedule : τ → Finset PollFlag) :
    Wait τ → Ending τ (Result (BitVec 32)) → Prop
  | .ready s, o => ∃ r, o = .returned s r ∧ ReportsEvents I (schedule s) r
  | .timedOut s, o => o = .returned s (.ok 0)
  | .forever, o => o = .waiting

/-- The documented contract, for a call at `now` with the timeout `time`. -/
def WaitsAsDocumented (impl : Impl) (schedule : τ → Finset PollFlag)
    (answer : τ → (c : Libzt.Call) → Option (τ × Libzt.Reply c)) (I : Finset PollEvent)
    (time : Int64) (now : τ) : Prop :=
  ∀ w, Waits (instants schedule (I.image PollEvent.flag) now) now time.toInt w →
    EndsWith I schedule w ((impl.pollEvents (pollEventCode.encode I) time).timed answer now)

variable {schedule : τ → Finset PollFlag} {now : τ} {v w : Wait τ} {impl : Impl}
  {answer : τ → (c : Libzt.Call) → Option (τ × Libzt.Reply c)}
  {o : Ending τ (Result (BitVec 32))} {time : Int64}

omit [Platform] [Ring τ] [LinearOrder τ] in
theorem EndsWith.time?_eq (hv : EndsWith I schedule v o) (hw : EndsWith I schedule w o) :
    v.time? = w.time? := by
  cases v with
  | ready s =>
      obtain ⟨r, rfl, -⟩ := hv
      cases w with
      | ready s' =>
          obtain ⟨r', h, -⟩ := hw
          cases h
          rfl
      | timedOut s' =>
          cases hw
          rfl
      | forever => cases hw
  | timedOut s =>
      obtain rfl : o = _ := hv
      cases w with
      | ready s' =>
          obtain ⟨r', h, -⟩ := hw
          cases h
          rfl
      | timedOut s' =>
          cases hw
          rfl
      | forever => cases hw
  | forever =>
      obtain rfl : o = _ := hv
      cases w with
      | ready s' =>
          obtain ⟨r', h, -⟩ := hw
          cases h
      | timedOut s' => cases hw
      | forever => rfl

/-- The code waits with the narrowed timeout. -/
theorem pollEvents_endsWith (hpoll : PollFollows schedule impl.socketID answer) (hI : I.Nonempty)
    (hw : Waits (instants schedule (I.image PollEvent.flag) now) now (narrow 31 time.toInt) w) :
    EndsWith I schedule w ((impl.pollEvents (pollEventCode.encode I) time).timed answer now) := by
  have hfits := fits_narrow 31 time.toInt
  unfold Impl.pollEvents
  rw [if_neg (pollEventCode.encode_ne_zero hI), requestedEvents_encode]
  cases w with
  | ready s =>
      obtain ⟨reply, hanswer, hres, hrevents⟩ := hpoll.ready _ _ _ _ hfits hw
      refine ⟨Impl.pollResult reply, ?_, pollResult_reports hres hrevents⟩
      exact Prog.timed_call_of_some hanswer
  | timedOut s =>
      obtain ⟨reply, hanswer, hres, hrevents⟩ := hpoll.timedOut _ _ _ _ hfits hw
      rw [EndsWith, ← pollResult_timedOut hres hrevents]
      exact Prog.timed_call_of_some hanswer
  | forever => exact Prog.timed_call_of_none (hpoll.forever _ _ _ hfits hw)

/-- `pollEvents` waits as documented exactly when the timeout fits into an
`int`, when it stays negative, or when a flag is set early enough for both. -/
theorem waits_as_documented_iff [IsStrictOrderedRing τ]
    (hpoll : PollFollows schedule impl.socketID answer) (hI : I.Nonempty) :
    WaitsAsDocumented impl schedule answer I time now ↔
      Fits 31 time.toInt ∨ (time.toInt < 0 ∧ narrow 31 time.toInt < 0) ∨
        ∃ s, InTime (instants schedule (I.image PollEvent.flag) now) now time.toInt s ∧
          InTime (instants schedule (I.image PollEvent.flag) now) now (narrow 31 time.toInt) s := by
  rw [← narrow_eq_self_iff, eq_comm, ← exists_waits_both_iff]
  obtain ⟨v, hv⟩ := exists_waits (instants schedule (I.image PollEvent.flag) now) now
    (narrow 31 time.toInt)
  have hcode := pollEvents_endsWith hpoll hI hv
  constructor
  · intro h
    obtain ⟨w, hw⟩ := exists_waits (instants schedule (I.image PollEvent.flag) now) now time.toInt
    obtain rfl := hv.eq_of_time?_eq hw (hcode.time?_eq (h w hw))
    exact ⟨v, hw, hv⟩
  · rintro ⟨u, hu, hu'⟩ w hw
    obtain rfl := hu.unique hw
    obtain rfl := hu'.unique hv
    exact hcode

end

/-- A schedule on which nothing happens, and libzt's answers on it. -/
def idle (_ : ℚ) : Finset PollFlag := ∅

def idleAnswer (now : ℚ) : (c : Libzt.Call) → Option (ℚ × Libzt.Reply c)
  | .ztsBsdPoll _ _ _ timeout =>
      if timeout < 0 then none else some (now + timeout, (⟨⟨0, 0⟩, 0⟩ : PollReply))
  | c => some (now, c.answer 0)

theorem not_inTime_idle {requested : Finset PollFlag} {now s : ℚ} {timeout : ℤ} :
    ¬ InTime (instants idle requested now) now timeout s := by
  rintro ⟨⟨⟨-, hset⟩, -⟩, -⟩
  simp [idle] at hset

theorem idle_follows (fd : ℤ) : PollFollows idle fd idleAnswer where
  ready := by
    intro now requested timeout s _ hw
    cases hw with
    | ready _ hs => exact absurd hs not_inTime_idle
  timedOut := by
    intro now requested timeout s _ hw
    cases hw with
    | timedOut _ hnonneg =>
        exact ⟨_, if_neg (not_lt.mpr hnonneg), rfl, rfl⟩
  forever := by
    intro now requested timeout _ hw
    cases hw with
    | forever _ hneg => exact if_pos hneg

theorem waits_as_documented_idle :
    WaitsAsDocumented Impl.fresh idle idleAnswer {.readyToReceive} 250 0 :=
  (waits_as_documented_iff (idle_follows _) (Finset.singleton_nonempty _)).mpr
    (.inl ⟨by decide, by decide⟩)

/-- A wait of `2 ^ 32` milliseconds, about 50 days, returns at once. -/
theorem long_wait_returns_at_once :
    ¬ ∀ (schedule : ℚ → Finset PollFlag) (impl : Impl) answer,
      PollFollows schedule impl.socketID answer → ∀ I : Finset PollEvent, I.Nonempty →
        ∀ time now, WaitsAsDocumented impl schedule answer I time now := by
  intro h
  have hnonempty : ({.readyToReceive} : Finset PollEvent).Nonempty := Finset.singleton_nonempty _
  have hdocumented := h idle Impl.fresh idleAnswer (idle_follows _) _ hnonempty 4294967296 0 _
    (.timedOut (fun _ ↦ not_inTime_idle) (by decide))
  have hcode : EndsWith {.readyToReceive} idle (.timedOut (0 + (0 : ℤ)))
      ((Impl.fresh.pollEvents (pollEventCode.encode {.readyToReceive}) 4294967296).timed
        idleAnswer 0) :=
    pollEvents_endsWith (idle_follows _) hnonempty (.timedOut (fun _ ↦ not_inTime_idle) (by decide))
  have htime := Option.some.inj (hdocumented.time?_eq hcode)
  rw [add_right_inj] at htime
  exact absurd (Int.cast_injective htime) (by decide)

end Ztcpp
