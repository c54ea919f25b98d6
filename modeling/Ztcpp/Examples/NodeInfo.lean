import Ztcpp.Events.AddressReports
import Ztcpp.Events.HandlerState

/-!
# The event handler of the example programs

`ZeroTierEventHandler` keeps a `NodeInfo` about the local node, from which
`main` learns when to go on.  The handler of the client is the one of the
server without `ip4`.
-/

namespace Ztcpp

open EventHandling

structure NodeInfo where
  online : Bool
  networksJoinedCount : Int32
  ip4 : IpAddress

/-- `x += y` on an `int`; when the sum does not fit, nothing is defined. -/
def addInt (x : Int32) (y : ℤ) : Option Int32 :=
  if -2 ^ 31 ≤ x.toInt + y ∧ x.toInt + y < 2 ^ 31 then some (Int32.ofInt (x.toInt + y)) else none

theorem addInt_eq_some_iff {x z : Int32} {y : ℤ} : addInt x y = some z ↔ z.toInt = x.toInt + y := by
  unfold addInt
  rw [Option.ite_none_right_eq_some, Option.some_inj]
  constructor
  · rintro ⟨⟨hmin, hmax⟩, rfl⟩
    exact Int32.toInt_ofInt_of_le hmin hmax
  · intro h
    have hbounds : -2 ^ 31 ≤ x.toInt + y ∧ x.toInt + y < 2 ^ 31 := by
      rw [← h]
      exact ⟨z.le_toInt, z.toInt_lt⟩
    refine ⟨hbounds, Int32.toInt_inj.mp ?_⟩
    rw [Int32.toInt_ofInt_of_le hbounds.1 hbounds.2, h]

theorem addInt_isSome {x : Int32} {y : ℤ} (hmin : -2 ^ 31 ≤ x.toInt + y)
    (hmax : x.toInt + y < 2 ^ 31) : ∃ z, addInt x y = some z :=
  ⟨_, if_pos ⟨hmin, hmax⟩⟩

namespace ZeroTierEventHandler

def onNetworkEvent (aEventCode : ℤ) (nodeInfo : NodeInfo) : Option NodeInfo :=
  if aEventCode = EventCode.networkReadyIPv4.value ∨
      aEventCode = EventCode.networkReadyIPv6.value ∨
      aEventCode = EventCode.networkReadyIPv4IPv6.value then
    (addInt nodeInfo.networksJoinedCount 1).map
      fun count ↦ { nodeInfo with networksJoinedCount := count }
  else if aEventCode = EventCode.networkDown.value then
    (addInt nodeInfo.networksJoinedCount (-1)).map
      fun count ↦ { nodeInfo with networksJoinedCount := count }
  else some nodeInfo

/-- The two conditions are the same, as in the source. -/
def onNodeEvent (aEventCode : ℤ) (nodeInfo : NodeInfo) : NodeInfo :=
  if aEventCode = EventCode.nodeOnline.value then { nodeInfo with online := true }
  else if aEventCode = EventCode.nodeOnline.value then { nodeInfo with online := false }
  else nodeInfo

section

variable [Platform]

def onAddressEvent (stack : IpAddress) (addrs : AddrMemory) (aEventCode : ℤ)
    (aDetails : Option ℕ) (nodeInfo : NodeInfo) : NodeInfo :=
  if aDetails ≠ none ∧ aEventCode = EventCode.addressAddedIPv4.value then
    match AddressDetails.getIpAddress stack addrs aDetails with
    | some a => { nodeInfo with ip4 := a }
    | none => nodeInfo
  else nodeInfo

/-- The callbacks that the handler does more in than print. -/
def update (d : Delivered) (nodeInfo : NodeInfo) : Option NodeInfo :=
  match d.callback with
  | .onEvent .network aEventCode _ => onNetworkEvent aEventCode nodeInfo
  | .onEvent .node aEventCode _ => some (onNodeEvent aEventCode nodeInfo)
  | .onEvent .address aEventCode aDetails =>
      some (onAddressEvent d.stack d.addrs aEventCode aDetails nodeInfo)
  | _ => some nodeInfo

/-- What is left after a callback that found nothing defined. -/
def update? {H : Type} (_ : H) (d : Delivered) (nodeInfo : Option NodeInfo) : Option NodeInfo :=
  nodeInfo.bind (update d)

end

end ZeroTierEventHandler

/-! ## What was delivered -/

namespace EventHandling.Delivered

/-- The callback is on the named class, with the value of an enumerator. -/
def isEvent {class' : DetailClass} (d : Delivered) (aEventCode : EventCode class') : Bool :=
  match d.callback with
  | .onEvent class'' n _ => class'' = class' ∧ n = aEventCode.value
  | _ => false

def isReady (d : Delivered) : Bool :=
  d.isEvent .networkReadyIPv4 || d.isEvent .networkReadyIPv6 || d.isEvent .networkReadyIPv4IPv6

/-- The payload that an `AddedIPv4` event brings. -/
def addedIPv4? (d : Delivered) : Option ℕ :=
  match d.callback with
  | .onEvent .address n details =>
      if n = EventCode.addressAddedIPv4.value then details else none
  | _ => none

end EventHandling.Delivered

section

variable [Platform]

/-- What a `NodeInfo` says after callbacks, told from what they delivered. -/
structure NodeInfo.Reflects (order : List Delivered) (before after : NodeInfo) : Prop where
  networksJoinedCount : after.networksJoinedCount.toInt = before.networksJoinedCount.toInt +
    order.countP Delivered.isReady - order.countP (·.isEvent .networkDown)
  online : after.online = true ↔
    before.online = true ∨ ∃ d ∈ order, d.isEvent .nodeOnline = true
  notAdded : (∀ d ∈ order, d.addedIPv4? = none) → after.ip4 = before.ip4
  added : (∃ d ∈ order, d.addedIPv4? ≠ none) → ∃ d ∈ order, ∃ p, d.addedIPv4? = some p ∧
    AddressDetails.getIpAddress d.stack d.addrs (some p) = some after.ip4

namespace ZeroTierEventHandler

open EventHandling.Delivered

section

variable {n n' : NodeInfo} {aEventCode : ℤ}

omit [Platform]

/-- A network event changes the count only. -/
theorem onNetworkEvent_rest (h : onNetworkEvent aEventCode n = some n') :
    n'.online = n.online ∧ n'.ip4 = n.ip4 := by
  unfold onNetworkEvent at h
  split_ifs at h
  · obtain ⟨count, -, rfl⟩ := Option.map_eq_some_iff.mp h
    exact ⟨rfl, rfl⟩
  · obtain ⟨count, -, rfl⟩ := Option.map_eq_some_iff.mp h
    exact ⟨rfl, rfl⟩
  · cases h
    exact ⟨rfl, rfl⟩

@[simp] theorem onNodeEvent_networksJoinedCount :
    (onNodeEvent aEventCode n).networksJoinedCount = n.networksJoinedCount := by
  unfold onNodeEvent
  split_ifs <;> rfl

@[simp] theorem onNodeEvent_ip4 : (onNodeEvent aEventCode n).ip4 = n.ip4 := by
  unfold onNodeEvent
  split_ifs <;> rfl

/-- The second branch is never taken. -/
theorem onNodeEvent_online : (onNodeEvent aEventCode n).online = true ↔
    n.online = true ∨ aEventCode = EventCode.nodeOnline.value := by
  unfold onNodeEvent
  split_ifs with h
  · exact iff_of_true rfl (.inr h)
  · exact (or_iff_left h).symm

end

section

variable {n : NodeInfo} {aEventCode : ℤ} {stack : IpAddress} {addrs : AddrMemory}
  {details : Option ℕ}

@[simp] theorem onAddressEvent_networksJoinedCount :
    (onAddressEvent stack addrs aEventCode details n).networksJoinedCount =
      n.networksJoinedCount := by
  unfold onAddressEvent
  split_ifs
  · split <;> rfl
  · rfl

@[simp] theorem onAddressEvent_online :
    (onAddressEvent stack addrs aEventCode details n).online = n.online := by
  unfold onAddressEvent
  split_ifs
  · split <;> rfl
  · rfl

end

/-- What a callback adds to the count of networks. -/
def joined (d : Delivered) : ℤ :=
  (if d.isReady then 1 else 0) - if d.isEvent .networkDown then 1 else 0

variable {d : Delivered} {n n' : NodeInfo}

omit [Platform] in
theorem joined_network {d : Delivered} {code : ℤ} {details : Option ℕ}
    (h : d.callback = .onEvent .network code details) :
    joined d = if code = EventCode.networkReadyIPv4.value ∨
        code = EventCode.networkReadyIPv6.value ∨ code = EventCode.networkReadyIPv4IPv6.value then 1
      else if code = EventCode.networkDown.value then -1 else 0 := by
  simp only [joined, isReady, isEvent, h]
  by_cases hready : code = EventCode.networkReadyIPv4.value ∨
      code = EventCode.networkReadyIPv6.value ∨ code = EventCode.networkReadyIPv4IPv6.value
  · have hdown : code ≠ EventCode.networkDown.value := by
      rcases hready with rfl | rfl | rfl <;> decide
    simp [hready, hdown, or_assoc]
  · by_cases hdown : code = EventCode.networkDown.value
    · simp [hdown, EventCode.value]
    · simp [hready, hdown, or_assoc]

omit [Platform] in
theorem joined_of_not_network {d : Delivered}
    (h : ∀ code details, d.callback ≠ .onEvent .network code details) : joined d = 0 := by
  obtain ⟨callback, addrs, stack⟩ := d
  cases callback with
  | onUnknownEvent code => rfl
  | onEvent class' code details =>
      cases class' with
      | network => exact absurd rfl (h code details)
      | _ => simp [joined, isReady, isEvent]

omit [Platform] in
theorem onNetworkEvent_count {code : ℤ} {details : Option ℕ}
    (h : d.callback = .onEvent .network code details) :
    (onNetworkEvent code n).map NodeInfo.networksJoinedCount =
      addInt n.networksJoinedCount (joined d) := by
  rw [joined_network h]
  unfold onNetworkEvent
  split_ifs
  · rw [Option.map_map]
    exact Option.map_id'
  · rw [Option.map_map]
    exact Option.map_id'
  · refine (addInt_eq_some_iff.mpr ?_).symm
    rw [add_zero]

/-- The count of a callback is an addition on an `int`. -/
theorem update_count :
    (update d n).map NodeInfo.networksJoinedCount = addInt n.networksJoinedCount (joined d) := by
  by_cases hnetwork : ∃ code details, d.callback = .onEvent .network code details
  · obtain ⟨code, details, hcallback⟩ := hnetwork
    rw [← onNetworkEvent_count hcallback]
    simp only [update, hcallback]
  · rw [joined_of_not_network fun code details hcallback ↦ hnetwork ⟨code, details, hcallback⟩,
      addInt_eq_some_iff.mpr (add_zero n.networksJoinedCount.toInt).symm]
    obtain ⟨callback, addrs, stack⟩ := d
    cases callback with
    | onUnknownEvent code => rfl
    | onEvent class' code details =>
        cases class' with
        | network => exact absurd ⟨code, details, rfl⟩ hnetwork
        | _ => simp [update]

theorem update_networksJoinedCount (h : update d n = some n') :
    n'.networksJoinedCount.toInt = n.networksJoinedCount.toInt + joined d := by
  have hcount := update_count (d := d) (n := n)
  rw [h] at hcount
  exact addInt_eq_some_iff.mp hcount.symm

/-- A callback has a defined result as long as the count fits. -/
theorem update_isSome (hmin : -2 ^ 31 ≤ n.networksJoinedCount.toInt + joined d)
    (hmax : n.networksJoinedCount.toInt + joined d < 2 ^ 31) : ∃ n', update d n = some n' := by
  obtain ⟨count, hcount⟩ := addInt_isSome hmin hmax
  rw [← update_count] at hcount
  obtain ⟨n', hn', -⟩ := Option.map_eq_some_iff.mp hcount
  exact ⟨n', hn'⟩

theorem update_online (h : update d n = some n') : n'.online = true ↔
    n.online = true ∨ d.isEvent .nodeOnline = true := by
  obtain ⟨callback, addrs, stack⟩ := d
  cases callback with
  | onUnknownEvent code =>
      cases h
      simp [isEvent]
  | onEvent class' code details =>
      cases class' with
      | network =>
          rw [(onNetworkEvent_rest h).1]
          simp [isEvent]
      | node =>
          cases h
          simp [isEvent, onNodeEvent_online]
      | _ =>
          cases h
          simp [isEvent]

theorem update_ip4_of_none (h : update d n = some n') (hnone : d.addedIPv4? = none) :
    n'.ip4 = n.ip4 := by
  obtain ⟨callback, addrs, stack⟩ := d
  cases callback with
  | onUnknownEvent code =>
      cases h
      rfl
  | onEvent class' code details =>
      cases class' with
      | address =>
          cases h
          simp only [addedIPv4?, ite_eq_right_iff] at hnone
          have hskip : ¬ (details ≠ none ∧ code = EventCode.addressAddedIPv4.value) :=
            fun hboth ↦ hboth.1 (hnone hboth.2)
          simp only [onAddressEvent, if_neg hskip]
      | network => exact (onNetworkEvent_rest h).2
      | node =>
          cases h
          exact onNodeEvent_ip4
      | _ =>
          cases h
          rfl

theorem update_ip4_of_some {p : ℕ} (h : update d n = some n') (hsome : d.addedIPv4? = some p) :
    AddressDetails.getIpAddress d.stack d.addrs (some p) = some n'.ip4 := by
  obtain ⟨callback, addrs, stack⟩ := d
  cases callback with
  | onUnknownEvent code => cases hsome
  | onEvent class' code details =>
      cases class' with
      | address =>
          cases h
          simp only [addedIPv4?, Option.ite_none_right_eq_some] at hsome
          obtain ⟨hcode, rfl⟩ := hsome
          simp only [onAddressEvent]
          rw [if_pos ⟨Option.some_ne_none p, hcode⟩]
          rfl
      | _ => cases hsome

theorem foldl_update_none {H : Type} (p : H) (order : List Delivered) :
    order.foldl (fun n d ↦ update? p d n) none = none := by
  induction order with
  | nil => rfl
  | cons d order ih => exact ih

/-- As long as the count fits, nothing undefined happens. -/
theorem foldl_update_isSome {H : Type} (p : H) (order : List Delivered) (n : NodeInfo)
    (hmax : n.networksJoinedCount.toInt + order.countP isReady < 2 ^ 31)
    (hmin : -2 ^ 31 ≤ n.networksJoinedCount.toInt - order.countP (·.isEvent .networkDown)) :
    ∃ n', order.foldl (fun n d ↦ update? p d n) (some n) = some n' := by
  induction order generalizing n with
  | nil => exact ⟨n, rfl⟩
  | cons d order ih =>
      rw [List.countP_cons] at hmax hmin
      push_cast at hmax hmin
      have hjoined : joined d = (if d.isReady then 1 else 0) -
        if d.isEvent .networkDown then 1 else 0 := rfl
      obtain ⟨n₁, hn₁⟩ : ∃ n₁, update d n = some n₁ := by
        apply update_isSome
        · omega
        · omega
      have hcount := update_networksJoinedCount hn₁
      rw [List.foldl_cons, show update? p d (some n) = some n₁ from hn₁]
      apply ih
      · omega
      · omega

end ZeroTierEventHandler

open ZeroTierEventHandler in
theorem NodeInfo.reflects_foldl {H : Type} (p : H) (order : List Delivered) {n n' : NodeInfo}
    (h : order.foldl (fun n d ↦ update? p d n) (some n) = some n') : Reflects order n n' := by
  induction order generalizing n with
  | nil =>
      cases h
      refine ⟨by simp, by simp, fun _ ↦ rfl, ?_⟩
      rintro ⟨d, hd, -⟩
      exact absurd hd List.not_mem_nil
  | cons d order ih =>
      rw [List.foldl_cons] at h
      cases hd : update d n with
      | none =>
          rw [show update? p d (some n) = none from hd, foldl_update_none] at h
          cases h
      | some n₁ =>
          rw [show update? p d (some n) = some n₁ from hd] at h
          obtain ⟨hcount, honline, hnot, hadded⟩ := ih h
          constructor
          · rw [hcount, update_networksJoinedCount hd, List.countP_cons, List.countP_cons, joined]
            split_ifs <;> push_cast <;> omega
          · rw [honline, update_online hd, or_assoc]
            simp
          · intro hnone
            rw [List.forall_mem_cons] at hnone
            rw [hnot hnone.2, update_ip4_of_none hd hnone.1]
          · intro hsome
            by_cases hlater : ∃ e ∈ order, e.addedIPv4? ≠ none
            · obtain ⟨e, he, p, hp, haddr⟩ := hadded hlater
              exact ⟨e, List.mem_cons_of_mem d he, p, hp, haddr⟩
            · have hlater' : ∀ e ∈ order, e.addedIPv4? = none :=
                fun e he ↦ not_not.mp fun hne ↦ hlater ⟨e, he, hne⟩
              have hnone : d.addedIPv4? ≠ none := by
                obtain ⟨e, he, hne⟩ := hsome
                rcases List.mem_cons.mp he with rfl | he
                · exact hne
                · exact absurd (hlater' e he) hne
              obtain ⟨q, hq⟩ := Option.ne_none_iff_exists'.mp hnone
              refine ⟨d, List.mem_cons_self, q, hq, ?_⟩
              rw [hnot hlater']
              exact update_ip4_of_some hd hq

theorem NodeInfo.Reflects.perm {order order' : List Delivered} {before after : NodeInfo}
    (h : Reflects order before after) (hperm : order.Perm order') :
    Reflects order' before after where
  networksJoinedCount := by
    rw [h.networksJoinedCount, hperm.countP_eq, hperm.countP_eq]
  online := by simpa only [hperm.mem_iff] using h.online
  notAdded := by simpa only [hperm.mem_iff] using h.notAdded
  added := by simpa only [hperm.mem_iff] using h.added

/-! ## Where the addresses come from -/

theorem dispatch_eventCode {memory addrs : AddrMemory} {data : EventMessage}
    {class' : DetailClass} {n : ℤ} {details : Option ℕ}
    (h : dispatch memory data = some (.onEvent class' n details, addrs)) :
    n = data.eventCode.toInt := by
  by_cases hcode : ∃ code, ztsEvent code = data.eventCode.toInt
  · obtain ⟨code, hcode⟩ := hcode
    cases hfamily : code.addressFamily? with
    | none =>
        rw [dispatch_of_other hcode hfamily] at h
        cases h
        rfl
    | some family =>
        obtain ⟨b, hb⟩ := ZtsEventCode.exists_code hfamily
        rw [dispatch_of_address hcode hfamily hb] at h
        obtain ⟨addrs', -, hcallback⟩ := Option.map_eq_some_iff.mp h
        cases hcallback
        rfl
  · rw [dispatch_of_unknown fun code hc ↦ hcode ⟨code, hc⟩] at h
    cases h

/-- The payload of an address event reads as the address that libzt put there. -/
theorem dispatch_reportsAddress {memory addrs : AddrMemory} {data : EventMessage}
    {code : ZtsEventCode} {family : AddressFamily} {p : ℕ}
    (hfamily : code.addressFamily? = some family)
    (h : dispatch memory data = some (.onEvent .address (ztsEvent code) (some p), addrs)) :
    ReportsAddress memory addrs p family := by
  obtain ⟨b, hb⟩ := ZtsEventCode.exists_code hfamily
  rw [dispatch_of_address (dispatch_eventCode h) hfamily hb] at h
  obtain ⟨addrs', hset, hcallback⟩ := Option.map_eq_some_iff.mp h
  simp only [Prod.mk.injEq, Callback.onEvent.injEq, true_and] at hcallback
  obtain ⟨⟨-, hp⟩, rfl⟩ := hcallback
  rw [hp, setAddrFamily_some] at hset
  cases hset
  exact reportsAddress_update memory p hb

section

variable {T H S : Type} [DecidableEq T] [DecidableEq H] {f : H → Delivered → S → S}
  {states : H → S} {s : WorkerState T H S} {ls : List (WorkerLabel T H S)}

theorem EventHandling.WorkersReach.dispatched (h : WorkersReach f states ls s) {p : H}
    {d : Delivered} (hd : d ∈ ls.filterMap (begun? p)) :
    ∃ memory data, dispatch memory data = some (d.callback, d.addrs) := by
  refine LabelledSystem.Run.invariant (fun ls (_ : WorkerState T H S) ↦
    ∀ d ∈ ls.filterMap (begun? p), ∃ memory data, dispatch memory data =
      some (d.callback, d.addrs)) h ?_ ?_ d hd
  · intro d hd
    exact absurd hd List.not_mem_nil
  · rintro ls s ⟨t, action⟩ s' - ih ⟨next, hlocal, -, -⟩ d hd
    rw [List.filterMap_append, List.mem_append] at hd
    rcases hd with hd | hd
    · exact ih d hd
    · obtain ⟨l, hl, hbegun⟩ := List.mem_filterMap.mp hd
      obtain rfl := List.mem_singleton.mp hl
      generalize s.threads t = th at hlocal
      cases hlocal with
      | beginCallback cs data q memory e hdispatch =>
          obtain ⟨-, ⟨⟩⟩ := Option.ite_none_right_eq_some.mp hbegun
          exact ⟨memory, data, hdispatch⟩
      | _ => cases hbegun

end

/-- What an `AddedIPv4` event brought, as an address. -/
theorem NodeInfo.Reflects.address {order : List Delivered} {before after : NodeInfo}
    (hcode : ztsEvent .addrAddedIp4 = EventCode.addressAddedIPv4.value)
    (h : Reflects order before after)
    (hdispatched : ∀ d ∈ order, ∃ memory data,
      dispatch memory data = some (d.callback, d.addrs))
    (hadded : ∃ d ∈ order, d.addedIPv4? ≠ none) :
    ∃ d ∈ order, ∃ memory data q,
      dispatch memory data = some (d.callback, d.addrs) ∧ d.addedIPv4? = some q ∧
      after.ip4.isValid ∧ after.ip4.getAddressFamily = .ipv4 ∧
      after.ip4.octets = (memory q).addr.octets .ipv4 := by
  obtain ⟨d, hd, q, hq, haddr⟩ := h.added hadded
  obtain ⟨memory, data, hdispatch⟩ := hdispatched d hd
  refine ⟨d, hd, memory, data, q, hdispatch, hq, ?_⟩
  have hcallback : d.callback = .onEvent .address (ztsEvent .addrAddedIp4) (some q) := by
    rw [hcode]
    revert hq
    unfold Delivered.addedIPv4?
    split
    · rename_i n details hcallback
      rw [Option.ite_none_right_eq_some]
      rintro ⟨rfl, rfl⟩
      exact hcallback
    · exact nofun
  rw [hcallback] at hdispatch
  obtain ⟨a, ha, hvalid⟩ := (dispatch_reportsAddress rfl hdispatch).ipAddress d.stack
  obtain rfl := Option.some.inj (ha.symm.trans haddr)
  exact hvalid

/-- What the example's `NodeInfo` says whenever no callback is in progress,
whatever threads delivered the events: the networks count is the number of
ready events less the number of down events, the node is online for good after
one `Online` event, and the address is one that libzt delivered.  The count is
an `int`: as long as these numbers fit, whatever order the events came in, it
has not overflowed. -/
theorem node_info_reflects {T H : Type} [DecidableEq T] [DecidableEq H]
    (hcode : ztsEvent .addrAddedIp4 = EventCode.addressAddedIPv4.value) {p : H}
    {states : H → Option NodeInfo} {n₀ : NodeInfo} (hstart : states p = some n₀)
    {s : WorkerState T H (Option NodeInfo)} {ls : List (WorkerLabel T H (Option NodeInfo))}
    (h : WorkersReachBy (Quiet p) ZeroTierEventHandler.update? states ls s)
    (hidle : ∀ t, (s.threads t).callbacks = []) :
    (∀ n, s.shared.states p = some n →
      n₀.Reflects (ls.filterMap (begun? p)) n ∧
      ((∃ d ∈ ls.filterMap (begun? p), d.addedIPv4? ≠ none) →
        ∃ d ∈ ls.filterMap (begun? p), ∃ memory data q,
          dispatch memory data = some (d.callback, d.addrs) ∧ d.addedIPv4? = some q ∧
          n.ip4.isValid ∧ n.ip4.getAddressFamily = .ipv4 ∧
          n.ip4.octets = (memory q).addr.octets .ipv4)) ∧
    (n₀.networksJoinedCount.toInt +
        (ls.filterMap (begun? p)).countP Delivered.isReady < 2 ^ 31 →
      -2 ^ 31 ≤ n₀.networksJoinedCount.toInt -
        (ls.filterMap (begun? p)).countP (·.isEvent .networkDown) →
      ∃ n, s.shared.states p = some n) := by
  obtain ⟨ds, hds, hbegun⟩ := begun_perm h.of_restrict p
  have hperm : (ls.filterMap (stored? p)).Perm (ls.filterMap (begun? p)) := by
    rw [hds.idle hidle, List.append_nil] at hbegun
    exact hbegun.symm
  have hfold := states_eq_foldl h.undisturbed
  rw [hstart] at hfold
  constructor
  · intro n hn
    have hreflects : n₀.Reflects (ls.filterMap (begun? p)) n :=
      (NodeInfo.reflects_foldl p _ (hfold.symm.trans hn)).perm hperm
    exact ⟨hreflects, hreflects.address hcode fun d hd ↦
      WorkersReach.dispatched h.of_restrict hd⟩
  · intro hmax hmin
    rw [← hperm.countP_eq] at hmax hmin
    rw [hfold]
    exact ZeroTierEventHandler.foldl_update_isSome p _ n₀ hmax hmin

end

/-- After `NODE_ONLINE` on one thread. -/
theorem node_info_reflects_online : ∃ (ls : List (WorkerLabel Unit ℕ (Option NodeInfo)))
    (s : WorkerState Unit ℕ (Option NodeInfo)) (d : Delivered) (n : NodeInfo),
    ls.filterMap (begun? 7) = [d] ∧ d.isEvent .nodeOnline = true ∧ s.shared.states 7 = some n ∧
      (NodeInfo.mk false 0 (Stack.filled 0).ipAddress).Reflects [d] n := by
  let d : Delivered := { deliveredNodeUp with callback := .onEvent .node 201 (some 1) }
  let data : EventMessage := { nodeUpMessage with eventCode := 201 }
  have hdispatch : dispatch d.addrs data = some (d.callback, d.addrs) := rfl
  let states : ℕ → Option NodeInfo := fun _ ↦ some ⟨false, 0, (Stack.filled 0).ipAddress⟩
  have hstart : states 7 = some ⟨false, 0, (Stack.filled 0).ipAddress⟩ := rfl
  obtain ⟨ls, s, h, hidle, hbegun⟩ :=
    @exists_delivery _ ℕ _ _ ZeroTierEventHandler.update? states 7 _ _ _ hdispatch
  have hquiet := h.restrict_of (P := fun _ ↦ True) trivial fun _ _ _ _ _ hl ↦ ⟨trivial, hl.2⟩
  obtain ⟨hreflects, hdefined⟩ := node_info_reflects rfl hstart hquiet hidle
  rw [hbegun] at hdefined
  obtain ⟨n, hn⟩ := hdefined (by decide) (by decide)
  have hn' := (hreflects n hn).1
  rw [hbegun] at hn'
  exact ⟨ls, s, d, n, hbegun, rfl, hn, hn'⟩

end Ztcpp
