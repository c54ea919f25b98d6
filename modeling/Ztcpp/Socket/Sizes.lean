import Ztcpp.Construction
import Ztcpp.Library.Narrowing
import Ztcpp.Socket.Methods

/-!
# Sizes that meet signed integers

`send` and `sendTo` compare libzt's signed count with the size after a cast to
the count's type, and `listen` passes its `size_t` on as an `int`.
-/

namespace Ztcpp

open Octets Interaction Narrowing

def backlogs (es : List ZtsEvent) : List ℤ :=
  es.filterMap fun e ↦
    match e.call with
    | .ztsBsdListen _ backlog => some backlog
    | _ => none

section

variable [Platform] {size n : UInt64}

/-- What the result of `send` or `sendTo` is to say about libzt's count. -/
structure CountKept (size : UInt64) (es : List ZtsEvent) (r : Result UInt64) : Prop where
  succeeded : ∀ e ∈ es, Fits (ssizeBits - 1) (ZtsEvent.res e) → r.hasError = false →
    0 ≤ ZtsEvent.res e ∧ ZtsEvent.res e = size.toNat
  failed : ∀ e ∈ es, Fits (ssizeBits - 1) (ZtsEvent.res e) → ZtsEvent.res e < 0 →
    r.hasError = true

/-- `send` of a buffer of this size, whatever libzt answers. -/
def SendKept (size : UInt64) : Prop :=
  ∀ (impl : Impl) data es r impl', data.length = size.toNat →
    (impl.send (some data) size).Runs es (r, impl') → CountKept size es r

def SendToKept (size : UInt64) : Prop :=
  ∀ (impl : Impl) stack data a port es r impl', data.length = size.toNat →
    (impl.sendTo stack (some data) size a port).Runs es (r, impl') → CountKept size es r

/-- For all sizes up to `n`: the backlogs that `listen` passes on are not negative
and keep the order of the sizes. -/
def BacklogKept (n : UInt64) : Prop :=
  ∀ m ≤ n, ∀ (impl : Impl) es es' r r' impl' impl'', (impl.listen m).Runs es (r, impl') →
    (impl.listen n).Runs es' (r', impl'') →
      ∀ b ∈ backlogs es, ∀ b' ∈ backlogs es', 0 ≤ b ∧ b ≤ b'

theorem sentResult_hasError_iff {function callee : String} {status : Status} :
    (sentResult function callee status size).hasError = false ↔
      status.res = narrow (ssizeBits - 1) size.toNat := by
  unfold sentResult
  rw [castSsize_eq_narrow]
  split_ifs with h
  · exact iff_of_true rfl h
  · exact iff_of_false (fun htrue ↦ nomatch htrue) h

theorem countKept_of_lt {function callee : String} {e : ZtsEvent} {status : Status}
    (hsize : size.toNat < 2 ^ (ssizeBits - 1)) (hres : ZtsEvent.res e = status.res) :
    CountKept size [e] (sentResult function callee status size) := by
  have hkept : (sentResult function callee status size).hasError = false ↔
      ZtsEvent.res e = size.toNat := by
    rw [sentResult_hasError_iff, narrow_natCast_eq_iff.mpr hsize, hres]
  refine ⟨?_, ?_⟩
  · intro e' he _ hok
    rw [List.mem_singleton.mp he, hkept.mp hok]
    exact ⟨Int.natCast_nonneg _, rfl⟩
  · intro e' he _ hneg
    rw [List.mem_singleton.mp he] at hneg
    by_contra hok
    rw [hkept.mp (Bool.eq_false_iff.mpr hok)] at hneg
    exact absurd hneg (not_lt.mpr (Int.natCast_nonneg _))

theorem countKept_nil (r : Result UInt64) : CountKept size [] r :=
  ⟨fun _ he ↦ absurd he List.not_mem_nil, fun _ he ↦ absurd he List.not_mem_nil⟩

/-- The answer that a size too large turns into is taken for success. -/
theorem lt_of_countKept {function callee : String} {e : ZtsEvent} {status : Status}
    (hres : ZtsEvent.res e = status.res)
    (hstatus : status.res = narrow (ssizeBits - 1) size.toNat)
    (h : CountKept size [e] (sentResult function callee status size)) :
    size.toNat < 2 ^ (ssizeBits - 1) := by
  have hanswer := hres.trans hstatus
  have hfits : Fits (ssizeBits - 1) (ZtsEvent.res e) := by
    rw [hanswer]
    exact fits_narrow _ _
  have hkept := (h.succeeded e (List.mem_singleton.mpr rfl) hfits
    (sentResult_hasError_iff.mpr hstatus)).2
  rw [hanswer] at hkept
  exact narrow_natCast_eq_iff.mp hkept

theorem sendKept_iff : SendKept size ↔ size.toNat < 2 ^ (ssizeBits - 1) := by
  constructor
  · intro h
    by_cases hzero : size = 0
    · rw [hzero]
      exact Nat.two_pow_pos _
    let data := List.replicate size.toNat (0 : UInt8)
    let reply : Status := ⟨narrow (ssizeBits - 1) size.toNat, 0⟩
    have hne : ¬ (some data = none ∨ size = 0) := not_or.mpr ⟨nofun, hzero⟩
    have hrun : (Impl.fresh.send (some data) size).Runs
        [⟨.ztsSend Impl.fresh.socketID data size 0, reply⟩]
        (sentResult "send" "zts_send" reply size, Impl.fresh) := by
      unfold Impl.send
      rw [if_neg hne]
      exact ⟨reply, [], rfl, rfl, rfl⟩
    exact lt_of_countKept rfl rfl (h _ _ _ _ _ List.length_replicate hrun)
  · intro hsize impl data es r impl' _ hrun
    obtain ⟨-, ⟨-, rfl, -⟩ | ⟨-, reply, rfl, rfl⟩⟩ := Impl.runs_send hrun
    · exact countKept_nil r
    · exact countKept_of_lt hsize rfl

theorem sendToKept_iff : SendToKept size ↔ size.toNat < 2 ^ (ssizeBits - 1) := by
  constructor
  · intro h
    by_cases hzero : size = 0
    · rw [hzero]
      exact Nat.two_pow_pos _
    let data := List.replicate size.toNat (0 : UInt8)
    let reply : Status := ⟨narrow (ssizeBits - 1) size.toNat, 0⟩
    let impl : Impl := ⟨.internetProtocolIPv4, .datagram, 0⟩
    let a := ipv4In 0 (Image.zeros 4)
    obtain ⟨s, hs⟩ : ∃ s, toSockaddr (Stack.filled 0).sockaddr a 80 = some s :=
      Option.isSome_iff_exists.mp (toSockaddr_isSome_iff.mpr ⟨rfl, .inl rfl⟩)
    have hvalid : a.isValid = true := rfl
    have hfamily : a.getAddressFamily = impl.getAddressFamily := rfl
    have hne : ¬ (some data = none ∨ size = 0) := not_or.mpr ⟨nofun, hzero⟩
    have hrun : (impl.sendTo (.filled 0) (some data) size a 80).Runs
        [⟨.ztsBsdSendto impl.socketID data size 0 s sizeofSockaddrStorage, reply⟩]
        (sentResult "sendTo" "zts_sendto" reply size, impl) := by
      unfold Impl.sendTo
      rw [if_neg hne, if_neg (not_not.mpr hvalid), if_neg (not_not.mpr hfamily)]
      exact Impl.runs_encodeSockaddr.mpr ⟨s, hs, reply, [], rfl, rfl, rfl⟩
    exact lt_of_countKept rfl rfl (h _ _ _ _ _ _ _ _ List.length_replicate hrun)
  · intro hsize impl stack data a port es r impl' _ hrun
    obtain ⟨-, ⟨-, rfl, -⟩ | ⟨-, s, reply, -, rfl, rfl⟩⟩ := Impl.runs_sendTo hrun
    · exact countKept_nil r
    · exact countKept_of_lt hsize rfl

theorem backlogs_listen {impl impl' : Impl} {es : List ZtsEvent} {r : EmptyResult}
    (h : (impl.listen n).Runs es (r, impl')) : backlogs es = [narrow 31 n.toNat] := by
  obtain ⟨-, reply, rfl, -⟩ := Impl.runs_listen h
  rfl

theorem backlogKept_iff : BacklogKept n ↔ n.toNat < 2 ^ 31 := by
  have hrun : ∀ m : UInt64, ∃ es r, (Impl.fresh.listen m).Runs es (r, Impl.fresh) :=
    fun m ↦ ⟨_, _, ⟨⟨0, 0⟩, [], rfl, rfl, rfl⟩⟩
  constructor
  · intro h
    rw [← narrow_nonneg_iff_forall]
    intro m hm
    have hlt : m < 2 ^ 64 := hm.trans_lt n.toNat_lt
    have hle : UInt64.ofNat m ≤ n := by
      rw [UInt64.le_iff_toNat_le, UInt64.toNat_ofNat_of_lt' hlt]
      exact hm
    obtain ⟨es, r, hm⟩ := hrun (UInt64.ofNat m)
    obtain ⟨es', r', hn⟩ := hrun n
    have hkept := h _ hle _ _ _ _ _ _ _ hm hn
    rw [backlogs_listen hm, backlogs_listen hn] at hkept
    have hnonneg := (hkept _ (List.mem_singleton.mpr rfl) _ (List.mem_singleton.mpr rfl)).1
    rwa [UInt64.toNat_ofNat_of_lt' hlt] at hnonneg
  · intro hn m hm impl es es' r r' impl' impl'' hrun hrun' b hb b' hb'
    rw [UInt64.le_iff_toNat_le] at hm
    rw [backlogs_listen hrun, List.mem_singleton, narrow_natCast_eq_iff.mpr (hm.trans_lt hn)] at hb
    rw [backlogs_listen hrun', List.mem_singleton, narrow_natCast_eq_iff.mpr hn] at hb'
    rw [hb, hb']
    exact ⟨Int.natCast_nonneg _, Int.ofNat_le.mpr hm⟩

/-- Sizes keep their meaning below the first one that its signed type does not
have. -/
theorem sizes_kept_iff :
    (∀ size : UInt64, SendKept size ↔ size.toNat < 2 ^ (ssizeBits - 1)) ∧
      (∀ size : UInt64, SendToKept size ↔ size.toNat < 2 ^ (ssizeBits - 1)) ∧
      ∀ n : UInt64, BacklogKept n ↔ n.toNat < 2 ^ 31 :=
  ⟨fun _ ↦ sendKept_iff, fun _ ↦ sendToKept_iff, fun _ ↦ backlogKept_iff⟩

end

/-- `SIZE_MAX` becomes -1 in all three places. -/
theorem size_max_not_kept :
    ¬ SendKept 0xFFFFFFFFFFFFFFFF ∧ ¬ SendToKept 0xFFFFFFFFFFFFFFFF ∧
      ¬ BacklogKept 0xFFFFFFFFFFFFFFFF := by
  refine ⟨?_, ?_, ?_⟩
  · rw [sendKept_iff]
    decide
  · rw [sendToKept_iff]
    decide
  · rw [backlogKept_iff]
    decide

end Ztcpp
