import Ztcpp.Socket.Session

/-!
# Accounting of a byte stream

libzt takes a prefix of the bytes offered to `zts_send` and answers its length.
`send` reports this length only when it is the whole buffer: a short write
comes back as an error although its bytes are on their way.
-/

namespace Ztcpp

open Interaction

def streams : Service Libzt (ℤ → List UInt8) where
  Admits _ c r :=
    match c, r with
    | .ztsSend _ _ len _, (r : Status) => r.res ≤ len.toNat
    | _, _ => True
  next accepted c r :=
    match c, r with
    | .ztsSend fd buf _ _, (r : Status) =>
        Function.update accepted fd (accepted fd ++ buf.take r.res.toNat)
    | _, _ => accepted

def Op.sentBuffer : Op → List UInt8
  | .call _ (.send (some buffer) _) => buffer
  | _ => []

/-- The operation is a `send` on the Socket at `p` of a non-empty buffer shorter
than `2 ^ 31`, with its size. -/
def Op.Sends (op : Op) (p : ℕ) : Prop :=
  ∃ buffer size, op = .call p (.send (some buffer) size) ∧ buffer.length = size.toNat ∧
    buffer ≠ [] ∧ buffer.length < 2 ^ 31

def Step.reportedBytes (l : Step) : List UInt8 :=
  match l.outcome with
  | .count (.ok size) => l.op.sentBuffer.take size.toNat
  | _ => []

def Step.acceptedBytes (l : Step) : List UInt8 :=
  l.events.flatMap fun e ↦ l.op.sentBuffer.take (ZtsEvent.res e).toNat

/-- libzt accepted some bytes of the buffer but not all. -/
def Step.ShortWrite (l : Step) : Prop :=
  ∃ e ∈ l.events, 0 < ZtsEvent.res e ∧ ZtsEvent.res e < l.op.sentBuffer.length

theorem flatMap_eq_flatMap_iff {α β : Type} {f g : α → List β} {xs : List α}
    (h : ∀ x ∈ xs, (f x).length ≤ (g x).length) :
    xs.flatMap f = xs.flatMap g ↔ ∀ x ∈ xs, f x = g x := by
  have hlength : ∀ ys : List α, (∀ y ∈ ys, (f y).length ≤ (g y).length) →
      (ys.flatMap f).length ≤ (ys.flatMap g).length := by
    intro ys hys
    induction ys with
    | nil => simp
    | cons y ys ih =>
        rw [List.forall_mem_cons] at hys
        simp only [List.flatMap_cons, List.length_append]
        exact Nat.add_le_add hys.1 (ih hys.2)
  induction xs with
  | nil => simp
  | cons x xs ih =>
      rw [List.forall_mem_cons] at h ⊢
      simp only [List.flatMap_cons]
      constructor
      · intro heq
        have htotal := congrArg List.length heq
        simp only [List.length_append] at htotal
        have hrest := hlength xs h.2
        have hhead : (f x).length = (g x).length := by omega
        obtain ⟨hx, hxs⟩ := List.append_inj heq hhead
        exact ⟨hx, (ih h.2).mp hxs⟩
      · rintro ⟨hx, hxs⟩
        rw [hx, (ih h.2).mpr hxs]

/-- `send` reports all bytes or none, so it is right about the bytes taken when
none or all were taken. -/
theorem all_or_none_eq_take_iff {α : Type} {xs : List α} {n : ℤ} (hne : xs ≠ [])
    (hle : n ≤ xs.length) :
    (if n = xs.length then xs else []) = xs.take n.toNat ↔ ¬ (0 < n ∧ n < xs.length) := by
  have hpos : 0 < xs.length := List.length_pos_iff.mpr hne
  constructor
  · rintro heq ⟨hlow, hhigh⟩
    have hlength := congrArg List.length heq
    rw [if_neg (by omega), List.length_take] at hlength
    simp only [List.length_nil] at hlength
    omega
  · intro hwhole
    split_ifs with hall
    · rw [List.take_of_length_le (by omega)]
    · have hnone : n.toNat = 0 := by omega
      rw [hnone, List.take_zero]

theorem length_all_or_none_le {α : Type} (xs : List α) (n : ℤ) :
    (if n = xs.length then xs else []).length ≤ (xs.take n.toNat).length := by
  rw [List.length_take]
  split_ifs with hall
  · omega
  · simp

section

variable [Platform]

theorem castSsize_of_lt {size : UInt64} (h : size.toNat < 2 ^ 31) :
    castSsize size = size.toNat := by
  rw [castSsize_eq_iff]
  rcases Platform.ssizeBits_eq with hbits | hbits
  · rw [hbits]
    exact h
  · rw [hbits]
    omega

variable {s t : Session (ℤ → List UInt8)} {l : Step} {p : ℕ} {x : Object} {steps : List Step}

/-- What one `send` does: libzt's answer decides what is accepted and what is
reported. -/
theorem send_step (hx : s.world.object? p = some x) (hop : l.op.Sends p)
    (hl : (sessions streams).Step s l t) :
    t.world = s.world ∧
      t.libzt = Function.update s.libzt x.impl.socketID
        (s.libzt x.impl.socketID ++ l.acceptedBytes) ∧
      (l.reportedBytes = l.acceptedBytes ↔ ¬ l.ShortWrite) ∧
      l.reportedBytes.length ≤ l.acceptedBytes.length := by
  obtain ⟨buffer, size, hcall, hsize, hne, hlt⟩ := hop
  obtain ⟨hexec, hadmits, hafter⟩ := hl
  rw [hcall] at hexec
  obtain ⟨impl, hm, hworld⟩ := World.runs_call_of_object hx hexec
  obtain ⟨r, hrun, hout⟩ := Method.runs_returning.mp hm
  have hsize0 : ¬ (some buffer = none ∨ size = 0) := by
    rintro (hnone | rfl)
    · cases hnone
    · rw [UInt64.toNat_zero] at hsize
      exact hne (List.length_eq_zero_iff.mp hsize)
  obtain ⟨rfl, ⟨hbad, -⟩ | ⟨-, reply, hevents, rfl⟩⟩ := Impl.runs_send hrun
  · exact absurd hbad hsize0
  have hbuffer : l.op.sentBuffer = buffer := by rw [hcall]; rfl
  rw [hevents] at hadmits hafter
  have hle : reply.res ≤ size.toNat := hadmits.1
  have haccepted : l.acceptedBytes = buffer.take reply.res.toNat := by
    rw [Step.acceptedBytes, hbuffer, hevents]
    simp [ZtsEvent.res, Call.status]
  have hcast := @castSsize_of_lt _ size (by omega)
  have hshort : l.ShortWrite ↔ 0 < reply.res ∧ reply.res < buffer.length := by
    rw [Step.ShortWrite, hbuffer, hevents]
    simp [ZtsEvent.res, Call.status]
  have hreported : l.reportedBytes = if reply.res = buffer.length then buffer else [] := by
    unfold Step.reportedBytes
    rw [hout, hbuffer]
    unfold sentResult
    rw [hcast, ← hsize]
    split_ifs with hall
    · simp [← hsize]
    · rfl
  rw [← hsize] at hle
  refine ⟨?_, ?_, ?_, ?_⟩
  · rw [hworld, World.setImpl_self hx]
  · rw [hafter, haccepted]
    rfl
  · rw [hreported, haccepted, hshort]
    exact all_or_none_eq_take_iff hne hle
  · rw [hreported, haccepted]
    exact length_all_or_none_le buffer reply.res

theorem sends_run (hx : s.world.object? p = some x) (hops : ∀ l ∈ steps, l.op.Sends p)
    (hrun : (sessions streams).Run s steps t) :
    t.world = s.world ∧
      t.libzt x.impl.socketID = s.libzt x.impl.socketID ++ steps.flatMap Step.acceptedBytes ∧
      ∀ l ∈ steps, (l.reportedBytes = l.acceptedBytes ↔ ¬ l.ShortWrite) ∧
        l.reportedBytes.length ≤ l.acceptedBytes.length := by
  induction hrun with
  | nil => simp
  | snoc _ hlast ih =>
      obtain ⟨hops, hop⟩ := List.forall_mem_append.mp hops
      obtain ⟨hworld, haccepted, hsteps⟩ := ih hops
      rw [← hworld] at hx
      obtain ⟨hworld', hlibzt, hstep⟩ := send_step hx (hop _ (List.mem_singleton.mpr rfl)) hlast
      refine ⟨hworld'.trans hworld, ?_, ?_⟩
      · rw [hlibzt, Function.update_self, haccepted]
        simp
      · rw [List.forall_mem_append, List.forall_mem_singleton]
        exact ⟨hsteps, hstep⟩

/-- The bytes accepted over a sequence of `send` calls are the prefixes that
`send` reported, if and only if no call was a short write. -/
theorem stream_accounting_iff (hx : s.world.object? p = some x)
    (hops : ∀ l ∈ steps, l.op.Sends p) (hrun : (sessions streams).Run s steps t) :
    t.libzt x.impl.socketID = s.libzt x.impl.socketID ++ steps.flatMap Step.reportedBytes ↔
      ∀ l ∈ steps, ¬ l.ShortWrite := by
  obtain ⟨-, haccepted, hsteps⟩ := sends_run hx hops hrun
  rw [haccepted, List.append_cancel_left_eq, eq_comm,
    flatMap_eq_flatMap_iff fun l hl ↦ (hsteps l hl).2]
  constructor
  · intro h l hl
    exact (hsteps l hl).1.mp (h l hl)
  · intro h l hl
    exact (hsteps l hl).1.mpr (h l hl)

end

def sendThree (res : ℤ) : Step where
  op := .call 0 (.send (some [1, 2, 3]) 3)
  events := [⟨.ztsSend 3 [1, 2, 3] 3 0, (⟨res, 0⟩ : Status)⟩]
  outcome := .count (sentResult "send" "zts_send" ⟨res, 0⟩ 3)

theorem sendThree_sends (res : ℤ) : (sendThree res).op.Sends 0 :=
  ⟨[1, 2, 3], 3, rfl, rfl, by simp, by simp⟩

theorem sendThree_run {res : ℤ} (h : res ≤ 3) :
    (sessions streams).Run ⟨.opened .internetProtocolIPv4 .stream 3, fun _ ↦ []⟩ [sendThree res]
      ⟨(World.opened .internetProtocolIPv4 .stream 3).setImpl 0
        ⟨0, ⟨.internetProtocolIPv4, .stream, 3⟩⟩ ⟨.internetProtocolIPv4, .stream, 3⟩,
        Function.update (fun _ ↦ []) 3 ([] ++ [1, 2, 3].take res.toNat)⟩ :=
  LabelledSystem.run_singleton_iff.mpr ⟨⟨⟨res, 0⟩, [], rfl, rfl, rfl⟩, ⟨h, trivial⟩, rfl⟩

theorem stream_accounting_whole :
    [1, 2, 3] = [] ++ [sendThree 3].flatMap Step.reportedBytes := by
  have hops : ∀ l ∈ [sendThree 3], l.op.Sends 0 :=
    List.forall_mem_singleton.mpr (sendThree_sends 3)
  have hwhole : ∀ l ∈ [sendThree 3], ¬ l.ShortWrite := by
    simp [sendThree, Step.ShortWrite, ZtsEvent.res, Call.status, Op.sentBuffer]
  exact (stream_accounting_iff (x := ⟨0, ⟨.internetProtocolIPv4, .stream, 3⟩⟩) rfl hops
    (sendThree_run (by decide))).mpr hwhole

/-- One byte of three is accepted, and nothing is reported. -/
theorem short_write_unreported :
    ¬ ∀ (before steps : List Step) (s t : Session (ℤ → List UInt8)) (p : ℕ) (x : Object),
      Reaches streams (fun _ ↦ []) before s → s.world.object? p = some x → x.impl.isOpen →
      x.impl.socketType = .stream → (∀ l ∈ steps, l.op.Sends p) →
      (sessions streams).Run s steps t →
      t.libzt x.impl.socketID =
        s.libzt x.impl.socketID ++ steps.flatMap Step.reportedBytes := by
  intro h
  obtain ⟨before, hreach⟩ : ∃ steps, Reaches streams (fun _ ↦ []) steps
      ⟨.opened .internetProtocolIPv4 .stream 3, fun _ ↦ []⟩ :=
    opened_reached streams (by decide) trivial
  have hops : ∀ l ∈ [sendThree 1], l.op.Sends 0 :=
    List.forall_mem_singleton.mpr (sendThree_sends 1)
  have hbytes : [1] = [] ++ [sendThree 1].flatMap Step.reportedBytes :=
    h before _ _ _ 0 ⟨0, ⟨.internetProtocolIPv4, .stream, 3⟩⟩ hreach rfl rfl rfl hops
      (sendThree_run (by decide))
  cases hbytes

end Ztcpp
