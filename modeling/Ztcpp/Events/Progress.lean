import Ztcpp.Events.Delivery
import Ztcpp.Library.MutexProgress

/-!
# Calls of the event functions return

`IntermediateEventHandler` calls `GetEventHandler` while it holds the mutex,
and a callback may call any of the functions again.  No schedule goes on for
ever without new calls, of which each costs a bounded number of steps; and none
blocks, as long as each address event that is being delivered has its payload.
-/

namespace Ztcpp

open RecursiveMutex

namespace EventHandling

def EventAction.begins {H : Type} : EventAction H → Bool
  | .call => true
  | _ => false

/-- The step enters a function of the library, from a callback or outside. -/
def Label.isCall {T H : Type} (l : Label T H) : Bool := l.2.begins EventAction.begins

/-- The message that a running `IntermediateEventHandler` is delivering. -/
def Frame.message? {H : Type} : Frame H → Option EventMessage
  | .getLock caller | .getRead caller | .getUnlock caller _ => caller
  | .eventLock data | .eventDispatch data _ => some data
  | _ => none

def Frame.work {H : Type} : Frame H → ℕ
  | .program => 0
  | .setUnlock _ | .getUnlock none _ | .eventUnlock => 1
  | .setAssign _ | .getRead none => 2
  | .setLock _ | .getLock none | .eventDispatch .. => 3
  | .getUnlock (some _) _ => 4
  | .getRead (some _) => 5
  | .getLock (some _) => 6
  | .eventLock _ => 7

/-- The steps that a thread still takes when its callbacks call nothing more:
a callback ends, and its delivery releases the mutex. -/
def Thread.work {H : Type} (th : Thread H) : ℕ := 2 * th.callbacks.length + th.frame.work

def Thread.HasPayload [Platform] {H : Type} (th : Thread H) : Prop :=
  ∀ data, th.frame.message? = some data → ¬ data.LacksAddr

section

variable [Platform] {T H : Type} [DecidableEq T]

theorem exists_dispatch_of_not_lacksAddr (addrs : AddrMemory) {data : EventMessage}
    (h : ¬ data.LacksAddr) : ∃ callback addrs', dispatch addrs data = some (callback, addrs') := by
  by_cases haddress : ∃ code, code.category = .address ∧ ztsEvent code = data.eventCode.toInt
  · obtain ⟨code, hcategory, hcode⟩ := haddress
    obtain ⟨family, hfamily⟩ := ZtsEventCode.category_eq_address_iff.mp hcategory
    obtain ⟨b, hb⟩ := ZtsEventCode.exists_code hfamily
    obtain ⟨p, hp⟩ : ∃ p, data.addr = some p := by
      apply Option.ne_none_iff_exists'.mp
      intro hnull
      exact h ⟨hnull, code, hcategory, hcode⟩
    rw [dispatch_of_address hcode hfamily hb, hp]
    exact ⟨_, _, rfl⟩
  · by_cases hcode : ∃ code, ztsEvent code = data.eventCode.toInt
    · obtain ⟨code, hcode⟩ := hcode
      have hfamily : code.addressFamily? = none := by
        by_contra hfamily
        obtain ⟨family, hfamily⟩ := Option.ne_none_iff_exists'.mp hfamily
        exact haddress ⟨code, ZtsEventCode.category_eq_address_iff.mpr ⟨family, hfamily⟩, hcode⟩
      exact ⟨_, _, dispatch_of_other hcode hfamily⟩
    · exact ⟨_, _, dispatch_of_unknown fun code hc ↦ hcode ⟨code, hc⟩⟩

omit [Platform] in
theorem Thread.eq_rest_iff {th : Thread H} : th.work = 0 ↔ th = ⟨[], .program⟩ := by
  obtain ⟨cs, frame⟩ := th
  constructor
  · intro h
    obtain ⟨hcs, hframe⟩ := Nat.add_eq_zero_iff.mp h
    obtain rfl : cs = [] := by simpa using hcs
    cases frame with
    | program => rfl
    | getLock caller | getRead caller | getUnlock caller => cases caller <;> cases hframe
    | _ => cases hframe
  · intro h
    cases h
    rfl

theorem Local.work_lt {l l' : Thread H} {a : Act (EventAction H)} (h : Local l a l')
    (hcontinues : a.begins EventAction.begins = false) : l'.work < l.work := by
  cases h with
  | setEventHandler | getEventHandler | eventNull | event => cases hcontinues
  | getLock cs caller | getRead cs caller =>
      cases caller <;> simp [Thread.work, Frame.work]
  | beginCallback | endCallback => simp [Thread.work, Frame.work, Nat.mul_add]
  | _ => simp [Thread.work, Frame.work]

theorem Local.work_le {l l' : Thread H} {a : Act (EventAction H)} (h : Local l a l')
    (hbegins : a.begins EventAction.begins = true) : l'.work ≤ l.work + 7 := by
  cases h with
  | setEventHandler | getEventHandler | eventNull | event => simp [Thread.work, Frame.work]
  | _ => cases hbegins

/-- What a thread that is not at rest does next, for every handler. -/
theorem exists_local {l : Thread H} (g : Option H) (hpayload : l.HasPayload) (hwork : l.work ≠ 0) :
    ∃ a l', Local l a l' ∧ a.begins EventAction.begins = false ∧
      ∀ b, a = .other b → ∃ g', Shared b g g' := by
  have hlock : ∀ a : Act (EventAction H), (∀ b, a ≠ .other b) → ∀ b, a = .other b →
      ∃ g', Shared b g g' := fun a ha b hb ↦ absurd hb (ha b)
  have hother : ∀ a : EventAction H, (∃ g', Shared a g g') → ∀ b, Act.other a = .other b →
      ∃ g', Shared b g g' := by
    rintro a h b ⟨⟩
    exact h
  obtain ⟨cs, frame⟩ := l
  cases frame with
  | program =>
      cases cs with
      | nil => exact absurd rfl hwork
      | cons c cs => exact ⟨_, _, .endCallback cs c, rfl, hother _ ⟨g, rfl⟩⟩
  | setLock aHandler => exact ⟨_, _, .setLock cs aHandler, rfl, hlock _ nofun⟩
  | setAssign aHandler => exact ⟨_, _, .setAssign cs aHandler, rfl, hother _ ⟨aHandler, rfl⟩⟩
  | setUnlock aHandler => exact ⟨_, _, .setUnlock cs aHandler, rfl, hlock _ nofun⟩
  | getLock caller => exact ⟨_, _, .getLock cs caller, rfl, hlock _ nofun⟩
  | getRead caller => exact ⟨_, _, .getRead cs caller g, rfl, hother _ ⟨g, rfl, rfl⟩⟩
  | getUnlock caller p =>
      cases caller with
      | none => exact ⟨_, _, .getReturn cs p, rfl, hlock _ nofun⟩
      | some data => exact ⟨_, _, .getReturnTo cs data p, rfl, hlock _ nofun⟩
  | eventLock data => exact ⟨_, _, .eventLock cs data, rfl, hlock _ nofun⟩
  | eventDispatch data p =>
      cases p with
      | none => exact ⟨_, _, .eventSkip cs data, rfl, hother _ ⟨g, rfl⟩⟩
      | some eventHandler =>
          let addrs : AddrMemory := fun _ ↦ ⟨0, Octets.Image.zeros _⟩
          obtain ⟨callback, addrs', hdispatch⟩ :=
            exists_dispatch_of_not_lacksAddr addrs (hpayload data rfl)
          exact ⟨_, _, .beginCallback cs data eventHandler _ _ _ hdispatch, rfl,
            hother _ ⟨g, rfl⟩⟩
  | eventUnlock => exact ⟨_, _, .eventUnlock cs, rfl, hlock _ nofun⟩

theorem finishes : (program H).Finishes Thread.holds EventAction.begins Thread.HasPayload
    Thread.work 7 where
  rest := by
    intro l hrest
    rw [Thread.eq_rest_iff.mp hrest]
    rfl
  decreases := fun _ _ _ h hcontinues ↦ h.work_lt hcontinues
  charged := fun _ _ _ h hbegins ↦ h.work_le hbegins
  enabled := fun _ g hpayload hwork ↦ exists_local g hpayload hwork

def AtRest (s : State T H) : Prop := s.mutex = .free ∧ ∀ t, s.threads t = ⟨[], .program⟩

variable {ls : List (Label T H)} {s : State T H}

theorem Reaches.work_eq_zero (h : Reaches ls s) :
    ∀ t ∉ (ls.map Prod.fst).toFinset, (s.threads t).work = 0 := by
  intro t ht
  rw [threads_eq_of_notMem h (List.mem_toFinset.not.mp ht)]
  rfl

theorem Reaches.atRest (h : Reaches ls s) (hrest : ∀ t, (s.threads t).work = 0) : AtRest s := by
  have hthreads : ∀ t, s.threads t = ⟨[], .program⟩ := fun t ↦ Thread.eq_rest_iff.mp (hrest t)
  refine ⟨RecursiveMutex.Mutex.eq_free_of_depthOf fun t ↦ ?_, hthreads⟩
  rw [congrFun h.agrees t, Function.comp_apply, hthreads]
  rfl

/-- However the threads are scheduled, the calls return, also those that
callbacks make: a run has no more steps than were left at its start and eight
for each new call, and it can always go on without a new call until every
thread is outside the library and the mutex is free. -/
theorem calls_return (h : Reaches ls s) {ks s'} (hrun : (system T H).Run s ks s') :
    ks.length ≤ ∑ t ∈ (ls.map Prod.fst).toFinset, (s.threads t).work +
        8 * ks.countP Label.isCall ∧
      ((∀ t, (s'.threads t).HasPayload) →
        AtRest s' ∨ ∃ l u, (system T H).Step s' l u ∧ l.isCall = false) := by
  have hs' : Reaches (ls ++ ks) s' := LabelledSystem.run_append_iff.mpr ⟨s, h, hrun⟩
  constructor
  · have hle := finishes.length_add_work_le
      (F := ((ls ++ ks).map Prod.fst).toFinset) (fun l hl ↦ ?_) hrun
    · have hsum : ∑ t ∈ ((ls ++ ks).map Prod.fst).toFinset, (s.threads t).work =
          ∑ t ∈ (ls.map Prod.fst).toFinset, (s.threads t).work := by
        refine (Finset.sum_subset ?_ fun t _ ht ↦ h.work_eq_zero t ht).symm
        intro t ht
        rw [List.map_append, List.toFinset_append]
        exact Finset.mem_union_left _ ht
      rw [hsum] at hle
      exact (Nat.le_add_right _ _).trans hle
    · rw [List.mem_toFinset]
      exact List.mem_map_of_mem (List.mem_append_right _ hl)
  · intro hpayload
    by_cases hrest : ∀ t, (s'.threads t).work = 0
    · exact .inl (hs'.atRest hrest)
    · obtain ⟨t, ht⟩ := not_forall.mp hrest
      obtain ⟨l, u, hstep, hcontinues⟩ := finishes.exists_step counts hs'.agrees hpayload ht
      exact .inr ⟨l, u, hstep, hcontinues⟩

end

theorem nodeUpMessage_hasAddr : ¬ nodeUpMessage.LacksAddr := by
  rintro ⟨-, code, hcategory, hcode⟩
  obtain rfl : code = .nodeUp := ztsEvent_injective hcode
  cases hcategory

/-- One of two threads delivers a message: it has begun, and takes the mutex. -/
theorem calls_return_delivery : ∃ (s s' : State Bool ℕ) (ks : List (Label Bool ℕ)),
    (s.threads true).frame = .eventLock nodeUpMessage ∧ (system Bool ℕ).Run s ks s' ∧
    (s'.threads true).frame = .getLock (some nodeUpMessage) ∧
    ks.length ≤ 7 + 8 * ks.countP Label.isCall ∧
      (AtRest s' ∨ ∃ l u, (system Bool ℕ).Step s' l u ∧ l.isCall = false) := by
  have h₀ : Reaches [] (twoThreads .free none ⟨[], .program⟩ ⟨[], .program⟩) := by
    rw [show twoThreads _ _ _ _ = start Bool ℕ by simp [twoThreads, start]]
    exact .nil
  have h₁ := h₀.snoc (step_second (.event [] nodeUpMessage) ⟨rfl, rfl⟩)
  have hrun := LabelledSystem.Run.nil.snoc
    (step_second (m := .free) (g := none) (a := ⟨[], .program⟩) (.eventLock [] nodeUpMessage)
      ⟨rfl, rfl⟩)
  obtain ⟨hlength, hprogress⟩ := calls_return h₁ hrun
  refine ⟨_, _, _, rfl, hrun, rfl, hlength, hprogress ?_⟩
  intro t data hdata
  cases t with
  | false => cases hdata
  | true =>
      cases hdata
      exact nodeUpMessage_hasAddr

end EventHandling

end Ztcpp
