import Mathlib.Data.List.OfFn
import Ztcpp.Codec
import Ztcpp.Socket.Families

/-!
# What libzt is given as an address

Two runs that pass the same address and port, in memory with different contents
elsewhere, are compared byte for byte: in what `ToSockaddr` returns, and in what
`bind`, `connect` and `sendTo` hand to libzt.
-/

namespace Ztcpp

open Octets Interaction

/-- The operations that take an address to libzt. -/
inductive AddressCall where
  | bind
  | connect
  | sendTo (aData : Option (List UInt8)) (aDataByteSize : UInt64)

def AddressCall.method (k : AddressCall) (stack : Stack) (a : IpAddress) (port : UInt16) :
    Method :=
  match k with
  | .bind => .bind stack a port
  | .connect => .connect stack a port
  | .sendTo aData aDataByteSize => .sendTo stack aData aDataByteSize a port

/-- The checks of the operation that do not look at the address. -/
def AddressCall.Refuses (k : AddressCall) (port : UInt16) : Prop :=
  match k with
  | .bind => False
  | .connect => port = 0
  | .sendTo aData aDataByteSize => aData = none ∨ aDataByteSize = 0

def sockaddrsOf (es : List ZtsEvent) : List SockaddrStorage :=
  es.filterMap fun e ↦ e.call.sockaddr?.map Prod.snd

section

variable [Platform] {self self' self'' : Impl} {a a' : IpAddress} {port : UInt16}
  {stack stack' : Stack} {es es' : List ZtsEvent} {o o' : Outcome}

theorem AddressCall.sockaddrs_exec {k : AddressCall}
    (h : (Method.exec self (k.method stack a port)).Runs es (o, self')) :
    ((k.Refuses port ∨ ¬ self.Accepts a) ∧ sockaddrsOf es = []) ∨
      (¬ k.Refuses port ∧ self.Accepts a ∧
        ∃ s, toSockaddr stack.sockaddr a port = some s ∧ sockaddrsOf es = [s]) := by
  cases k with
  | bind =>
      obtain ⟨r, hrun, -⟩ := Method.runs_returning.mp h
      obtain ⟨-, ⟨hrefused, rfl, -⟩ | ⟨haccepts, s, reply, hs, rfl, -⟩⟩ := Impl.runs_bind hrun
      · exact .inl ⟨.inr hrefused, rfl⟩
      · exact .inr ⟨id, haccepts, s, hs, rfl⟩
  | connect =>
      obtain ⟨r, hrun, -⟩ := Method.runs_returning.mp h
      obtain ⟨-, ⟨hrefused, rfl, -⟩ | ⟨hport, haccepts, s, reply, hs, rfl, -⟩⟩ :=
        Impl.runs_connect hrun
      · exact .inl ⟨hrefused, rfl⟩
      · exact .inr ⟨hport, haccepts, s, hs, rfl⟩
  | sendTo data size =>
      obtain ⟨r, hrun, -⟩ := Method.runs_returning.mp h
      by_cases hd : data = none ∨ size = 0
      · rw [Impl.sendTo, if_pos hd] at hrun
        obtain ⟨rfl, -⟩ := hrun
        exact .inl ⟨.inl hd, rfl⟩
      obtain ⟨-, ⟨hrefused, rfl, -⟩ | ⟨haccepts, s, reply, hs, rfl, -⟩⟩ := Impl.runs_sendTo hrun
      · rw [← or_assoc] at hrefused
        exact .inl ⟨.inr (hrefused.resolve_left hd), rfl⟩
      · exact .inr ⟨hd, haccepts, s, hs, rfl⟩

/-- What is handed to libzt depends on the address only through `ToSockaddr`
and the guards. -/
theorem AddressCall.sockaddrs_congr {k : AddressCall}
    (h : (Method.exec self (k.method stack a port)).Runs es (o, self'))
    (h' : (Method.exec self (k.method stack' a' port)).Runs es' (o', self''))
    (haccepts : self.Accepts a ↔ self.Accepts a')
    (heq : toSockaddr stack.sockaddr a port = toSockaddr stack'.sockaddr a' port) :
    sockaddrsOf es = sockaddrsOf es' := by
  rcases sockaddrs_exec h with ⟨hrefused, hnil⟩ | ⟨hk, ha, s, hs, hone⟩
  · rcases sockaddrs_exec h' with ⟨-, hnil'⟩ | ⟨hk, ha', -⟩
    · rw [hnil, hnil']
    · exact absurd hrefused (not_or.mpr ⟨hk, not_not.mpr (haccepts.mpr ha')⟩)
  · rcases sockaddrs_exec h' with ⟨hrefused', -⟩ | ⟨-, -, s', hs', hone'⟩
    · exact absurd hrefused' (not_or.mpr ⟨hk, not_not.mpr (haccepts.mp ha)⟩)
    · rw [hs, hs', Option.some.injEq] at heq
      rw [hone, hone', heq]

theorem toSockaddr_eq_iff {stack stack' : SockaddrStorage} (hv : a.isValid) (hv' : a'.isValid)
    (hnamed : a.getAddressFamily = .ipv4 ∨ a.getAddressFamily = .ipv6)
    (hfamily : a'.getAddressFamily = a.getAddressFamily) (hoctets : a'.octets = a.octets) :
    toSockaddr stack a port = toSockaddr stack' a' port ↔
      a.getAddressFamily = .ipv6 ∨ stack.beyondSockaddrIn = stack'.beyondSockaddrIn := by
  obtain ⟨s, hs⟩ := exists_toSockaddr stack port hv hnamed
  obtain ⟨s', hs'⟩ := exists_toSockaddr stack' port hv' (hfamily ▸ hnamed)
  rw [hs, hs', Option.some.injEq]
  rcases hnamed with h4 | h6
  · have h4' := hfamily.trans h4
    obtain ⟨hin, hbeyond⟩ := isSockaddrIn_of_toSockaddr hs h4
    obtain ⟨hin', hbeyond'⟩ := isSockaddrIn_of_toSockaddr hs' h4'
    rw [IpAddress.octets_of_ipv4 h4', IpAddress.octets_of_ipv4 h4] at hoctets
    rw [List.ofFn_injective hoctets] at hin'
    constructor
    · rintro rfl
      exact .inr (hbeyond.symm.trans hbeyond')
    · rintro (h6 | hstack)
      · rw [h4] at h6
        cases h6
      · have hrest : s.read 16 12 = s'.read 16 12 := hbeyond.trans (hstack.trans hbeyond'.symm)
        have hall : s.read 0 (16 + 12) = s'.read 0 (16 + 12) :=
          Image.read_congr_add _ (hin.read_congr hin') hrest
        rwa [Image.read_zero_self, Image.read_zero_self] at hall
  · have h6' := hfamily.trans h6
    have hin := isSockaddrIn6_of_toSockaddr hs h6
    have hin' := isSockaddrIn6_of_toSockaddr hs' h6'
    rw [IpAddress.octets_of_ipv6 h6', IpAddress.octets_of_ipv6 h6] at hoctets
    have hbuf := List.ofFn_injective hoctets
    rw [IpAddress.getIPv6AddressInNetworkOrder, IpAddress.getIPv6AddressInNetworkOrder,
      Image.read_zero_self, Image.read_zero_self] at hbuf
    rw [hbuf] at hin'
    exact ⟨fun _ ↦ .inl h6, fun _ ↦ hin.unique hin'⟩

/-- `ToSockaddr` and the operations that pass its result on give libzt the same
bytes in both runs. -/
def SameImages (stack stack' : Stack) (a a' : IpAddress) (port : UInt16) : Prop :=
  toSockaddr stack.sockaddr a port = toSockaddr stack'.sockaddr a' port ∧
    ∀ (k : AddressCall) self es o self' es' o' self'',
      (Method.exec self (k.method stack a port)).Runs es (o, self') →
      (Method.exec self (k.method stack' a' port)).Runs es' (o', self'') →
        sockaddrsOf es = sockaddrsOf es'

theorem same_images_iff [Inet] (ha : a.Obtained) (hv : a.isValid) (hv' : a'.isValid)
    (hfamily : a'.getAddressFamily = a.getAddressFamily) (hoctets : a'.octets = a.octets) :
    SameImages stack stack' a a' port ↔
      a.getAddressFamily = .ipv6 ∨
        stack.sockaddr.beyondSockaddrIn = stack'.sockaddr.beyondSockaddrIn := by
  rw [← @toSockaddr_eq_iff _ a a' port _ _ hv hv' (ha.family hv) hfamily hoctets]
  constructor
  · rintro ⟨hsame, -⟩
    exact hsame
  · intro hsame
    refine ⟨hsame, ?_⟩
    intro k self es o self' es' o' self'' h h'
    have haccepts : self.Accepts a ↔ self.Accepts a' := by
      rw [Impl.Accepts, Impl.Accepts, hfamily]
      simp [hv, hv']
    exact k.sockaddrs_congr h h' haccepts hsame

end

/-- The address `::`, made in memory with different contents. -/
theorem same_images_ipv6 :
    SameImages (.filled 0) (.filled 1) (ipv6In 0 (Image.zeros 16)) (ipv6In 1 (Image.zeros 16))
      80 := by
  have hoctets : (ipv6In 1 (Image.zeros 16)).octets = (ipv6In 0 (Image.zeros 16)).octets := by
    rw [ipv6In, ipv6In, IpAddress.octets_ipv6FromBinary, IpAddress.octets_ipv6FromBinary]
  have hvalid : (ipv6In 1 (Image.zeros 16)).isValid := rfl
  exact (same_images_iff (ipv6In_obtained 0 _) rfl hvalid rfl hoctets).mpr (.inl rfl)

/-- For one IPv4 address the image depends on what the stack holds. -/
theorem ipv4_image_depends_on_stack :
    ¬ ∀ (a a' : IpAddress) (port : UInt16) (stack stack' : Stack), a.Obtained → a'.Obtained →
      a.isValid → a'.isValid → a'.getAddressFamily = a.getAddressFamily →
      a'.octets = a.octets → SameImages stack stack' a a' port := by
  intro h
  let a := ipv4In 0 (Image.zeros 4)
  have ha : a.Obtained := ipv4In_obtained 0 _
  have hsame := (h a a 80 (.filled 0) (.filled 1) ha ha rfl rfl rfl rfl).1
  rcases (toSockaddr_eq_iff rfl rfl (.inl rfl) rfl rfl).mp hsame with h6 | hstack
  · cases h6
  · exact absurd (congrFun hstack 0) (by decide)

end Ztcpp
