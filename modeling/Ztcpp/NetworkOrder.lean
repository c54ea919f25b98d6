import Ztcpp.Construction
import Ztcpp.Socket.Families

/-!
# Network byte order

The octets that a construction is to denote, against the bytes it leaves in
`_addressBuf` and those that reach libzt in a socket address.
-/

namespace Ztcpp

open Octets Interaction

/-- What `zts_inet_pton` accepts it writes in network order; `addr4` and `addr6`
are the addresses that texts stand for. -/
structure WritesNetworkOrder [Platform] [Inet] (addr4 : List UInt8 → Option (Image 4))
    (addr6 : List UInt8 → Option (Image 16)) : Prop where
  ipv4 : ∀ src dst, (ztsInetPton ztsAfInet src dst).1 = 1 →
    addr4 src = some ((ztsInetPton ztsAfInet src dst).2.read 0 4)
  ipv6 : ∀ src dst, (ztsInetPton ztsAfInet6 src dst).1 = 1 →
    addr6 src = some ((ztsInetPton ztsAfInet6 src dst).2.read 0 16)

namespace Construction

/-- The family and the octets, most significant first, of the address that a
construction stands for. -/
def denoted [Platform] (addr4 : List UInt8 → Option (Image 4))
    (addr6 : List UInt8 → Option (Image 16)) : Construction → Option (AddressFamily × List UInt8)
  | .default _ => none
  | .ipv4Unspecified _ => some (.ipv4, [0, 0, 0, 0])
  | .ipv6Unspecified _ => some (.ipv6, List.replicate 16 0)
  | .ipv4Loopback _ => some (.ipv4, [127, 0, 0, 1])
  | .ipv6Loopback _ => some (.ipv6, List.replicate 15 0 ++ [1])
  | .ipv4FromString _ aAddress => (addr4 aAddress).map fun b ↦ (.ipv4, List.ofFn b)
  | .ipv6FromString _ aAddress => (addr6 aAddress).map fun b ↦ (.ipv6, List.ofFn b)
  | .ipv4FromStdString _ aAddress =>
      (addr4 (IpAddress.cStr aAddress)).map fun b ↦ (.ipv4, List.ofFn b)
  | .ipv6FromStdString _ aAddress =>
      (addr6 (IpAddress.cStr aAddress)).map fun b ↦ (.ipv6, List.ofFn b)
  | .ipv4FromBinary _ aData => some (.ipv4, List.ofFn aData)
  | .ipv6FromBinary _ aData => some (.ipv6, List.ofFn aData)
  | .decoded _ aSockaddr =>
      if aSockaddr.family = ztsAfInet then some (.ipv4, List.ofFn aSockaddr.sinAddr)
      else if aSockaddr.family = ztsAfInet6 then some (.ipv6, List.ofFn aSockaddr.sin6Addr)
      else none
  | .copied source => source.denoted addr4 addr6

/-- The object was made by `ipv4Loopback`, and copied any number of times. -/
def IsIpv4Loopback : Construction → Prop
  | .ipv4Loopback _ => True
  | .copied source => source.IsIpv4Loopback
  | _ => False

end Construction

section

variable [Platform] {a : IpAddress} {family : AddressFamily} {octets : List UInt8}

/-- The object stands for these octets, in memory and in every socket address
made from it. -/
structure InNetworkOrder (a : IpAddress) (f : AddressFamily) (octets : List UInt8) :
    Prop where
  family : a.getAddressFamily = f
  memory : a.octets = octets
  encoded : ∀ stack port s, toSockaddr stack a port = some s → s.octets f = octets
  handed : ∀ self m es o self' port, (Method.exec self m).Runs es (o, self') →
    m.endpoint? = some (a, port) → ∀ e ∈ es, ∀ fd addr, e.call.sockaddr? = some (fd, addr) →
      addr.octets f = octets

theorem InNetworkOrder.of_octets (hfamily : a.getAddressFamily = family)
    (hoctets : a.octets = octets) : InNetworkOrder a family octets where
  family := hfamily
  memory := hoctets
  encoded stack port s hs := by
    rw [← hfamily, (encodes_of_toSockaddr hs).2.octets, hoctets]
  handed self m es o self' port hrun hendpoint e he fd addr haddr := by
    obtain ⟨-, b, port', hendpoint', -, hencodes⟩ := Method.exec_sockaddr hrun he haddr
    rw [hendpoint] at hendpoint'
    cases hendpoint'
    rw [← hfamily, hencodes.octets, hoctets]

variable [Inet] {addr4 : List UInt8 → Option (Image 4)} {addr6 : List UInt8 → Option (Image 16)}

omit [Platform] [Inet] in
theorem IpAddress.octets_of_write {m : Image 16} {b : Image 4} (hf : a.getAddressFamily = .ipv4)
    (hbuf : a.addressBuf = m.write 0 b) : a.octets = List.ofFn b := by
  rw [octets_of_ipv4 hf, hbuf, Image.read_write]

omit [Platform] [Inet] in
theorem IpAddress.octets_of_buf {b : Image 16} (hf : a.getAddressFamily = .ipv6)
    (hbuf : a.addressBuf = b) : a.octets = List.ofFn b := by
  rw [octets_of_ipv6 hf, getIPv6AddressInNetworkOrder, Image.read_zero_self, hbuf]

theorem IpAddress.octets_ipv4FromString (hpton : WritesNetworkOrder addr4 addr6)
    {stack : IpAddress} {text : List UInt8} (hv : (ipv4FromString stack text).isValid) :
    (addr4 text).map (fun b ↦ (AddressFamily.ipv4, List.ofFn b)) =
      some ((ipv4FromString stack text).getAddressFamily,
        (ipv4FromString stack text).octets) := by
  unfold ipv4FromString at hv ⊢
  rw [hpton.ipv4 text _ (isValid_fromString hv), octets_of_ipv4 (getAddressFamily_fromString ..),
    addressBuf_fromString, getAddressFamily_fromString]
  rfl

theorem IpAddress.octets_ipv6FromString (hpton : WritesNetworkOrder addr4 addr6)
    {stack : IpAddress} {text : List UInt8} (hv : (ipv6FromString stack text).isValid) :
    (addr6 text).map (fun b ↦ (AddressFamily.ipv6, List.ofFn b)) =
      some ((ipv6FromString stack text).getAddressFamily,
        (ipv6FromString stack text).octets) := by
  unfold ipv6FromString at hv ⊢
  rw [hpton.ipv6 text _ (isValid_fromString hv), octets_of_ipv6 (getAddressFamily_fromString ..),
    getIPv6AddressInNetworkOrder, addressBuf_fromString, getAddressFamily_fromString]
  rfl

theorem Construction.octets_build (hpton : WritesNetworkOrder addr4 addr6) {c : Construction}
    (hv : c.build.isValid) (hloopback : ¬ c.IsIpv4Loopback) :
    c.denoted addr4 addr6 = some (c.build.getAddressFamily, c.build.octets) := by
  induction c with
  | default stack => cases hv
  | ipv4Unspecified stack =>
      have hbytes : store byteOrder 4 ztsInaddrAny.toNat = Image.zeros 4 := by
        rw [Inet.ztsInaddrAny_eq]
        exact store_zero ..
      have hbuf : (Construction.ipv4Unspecified stack).build.addressBuf =
          stack.addressBuf.write 0 (Image.zeros 4) := congrArg (Image.write _ 0) hbytes
      rw [IpAddress.octets_of_write rfl hbuf]
      rfl
  | ipv6Unspecified stack =>
      rw [IpAddress.octets_of_buf rfl (Image.write_zero_self ..)]
      rfl
  | ipv4Loopback stack => exact absurd trivial hloopback
  | ipv6Loopback stack =>
      have hbuf : (Construction.ipv6Loopback stack).build.addressBuf =
          (Image.zeros 16).write 15 (Image.byte 1) :=
        congrArg (fun m ↦ Image.write m 15 (Image.byte 1)) (Image.write_zero_self ..)
      rw [IpAddress.octets_of_buf rfl hbuf]
      rfl
  | ipv4FromString | ipv4FromStdString => exact IpAddress.octets_ipv4FromString hpton hv
  | ipv6FromString | ipv6FromStdString => exact IpAddress.octets_ipv6FromString hpton hv
  | ipv4FromBinary stack b => rw [build, IpAddress.octets_ipv4FromBinary]; rfl
  | ipv6FromBinary stack b => rw [build, IpAddress.octets_ipv6FromBinary]; rfl
  | decoded stack s =>
      rcases isValid_toIpAddressAndPort.mp hv with h4 | h6
      · rw [build, toIpAddressAndPort_ipv4 stack h4, IpAddress.octets_ipv4FromBinary, denoted,
          if_pos h4]
        rfl
      · rw [build, toIpAddressAndPort_ipv6 stack h6, IpAddress.octets_ipv6FromBinary, denoted,
          if_neg (h6 ▸ Platform.ztsAf_ne.symm), if_pos h6]
        rfl
  | copied source ih => exact ih hv hloopback

/-- `ipv4Loopback` leaves the integer in the byte order of the host. -/
theorem Construction.octets_of_isIpv4Loopback {c : Construction} (h : c.IsIpv4Loopback) :
    c.denoted addr4 addr6 = some (.ipv4, [127, 0, 0, 1]) ∧
      c.build.getAddressFamily = .ipv4 ∧
      c.build.octets = List.ofFn (store byteOrder 4 0x7f000001) := by
  induction c with
  | ipv4Loopback stack =>
      have hbytes : store byteOrder 4 ztsInaddrLoopback.toNat = store byteOrder 4 0x7f000001 := by
        rw [Inet.ztsInaddrLoopback_eq]
        rfl
      have hbuf : (Construction.ipv4Loopback stack).build.addressBuf =
          stack.addressBuf.write 0 (store byteOrder 4 0x7f000001) :=
        congrArg (Image.write _ 0) hbytes
      exact ⟨rfl, rfl, IpAddress.octets_of_write rfl hbuf⟩
  | copied source ih => exact ih h
  | _ => exact h.elim

theorem network_order_iff (hpton : WritesNetworkOrder addr4 addr6) (c : Construction)
    (hv : c.build.isValid) :
    (∃ f octets, c.denoted addr4 addr6 = some (f, octets) ∧ InNetworkOrder c.build f octets) ↔
      ¬ (c.IsIpv4Loopback ∧ byteOrder = .littleEndian) := by
  by_cases hloopback : c.IsIpv4Loopback
  · obtain ⟨hdenoted, hfamily, hoctets⟩ :=
      @Construction.octets_of_isIpv4Loopback _ _ addr4 addr6 c hloopback
    rw [and_iff_right hloopback]
    constructor
    · rintro ⟨f, octets, hd, horder⟩ hlittle
      rw [hdenoted] at hd
      cases hd
      have hmemory := horder.memory
      rw [hoctets, hlittle] at hmemory
      exact absurd hmemory (by decide)
    · intro hbig
      have horder : byteOrder = .bigEndian := by
        cases h : byteOrder with
        | bigEndian => rfl
        | littleEndian => exact absurd h hbig
      refine ⟨_, _, hdenoted, .of_octets hfamily ?_⟩
      rw [hoctets, horder]
      decide
  · refine ⟨fun _ h ↦ hloopback h.1, fun _ ↦ ?_⟩
    exact ⟨_, _, Construction.octets_build hpton hv hloopback, .of_octets rfl rfl⟩

end

/-- The texts that `lwipInet` accepts. -/
def loopbackText (src : List UInt8) : Option (Image 4) :=
  if src = [49, 50, 55, 46, 48, 46, 48, 46, 49] then some [127, 0, 0, 1].get else none

theorem writesNetworkOrder_lwip : WritesNetworkOrder loopbackText fun _ ↦ none where
  ipv4 src dst h := by
    by_cases hsrc : src = [49, 50, 55, 46, 48, 46, 48, 46, 49]
    · simp [loopbackText, ztsInetPton, hsrc, ztsAfInet]
    · simp [ztsInetPton, hsrc] at h
  ipv6 src dst h := by
    simp [ztsInetPton, ztsAfInet6] at h

def parsedLoopback : Construction :=
  .ipv4FromString (Stack.filled 0).ipAddress [49, 50, 55, 46, 48, 46, 48, 46, 49]

theorem network_order_parsed :
    ∃ f octets, parsedLoopback.denoted loopbackText (fun _ ↦ none) = some (f, octets) ∧
      InNetworkOrder parsedLoopback.build f octets :=
  (network_order_iff writesNetworkOrder_lwip parsedLoopback rfl).mpr fun h ↦ h.1

/-- On a little-endian host the bytes of `ipv4Loopback` are 1, 0, 0, 127. -/
theorem loopback_reversed :
    ¬ ∀ addr4 addr6, WritesNetworkOrder addr4 addr6 → ∀ c : Construction, c.build.isValid →
      ∃ f octets, c.denoted addr4 addr6 = some (f, octets) ∧ InNetworkOrder c.build f octets := by
  intro h
  obtain ⟨f, octets, hdenoted, horder⟩ :=
    h _ _ writesNetworkOrder_lwip (.ipv4Loopback (Stack.filled 0).ipAddress) rfl
  cases hdenoted
  exact absurd horder.memory (by decide)

end Ztcpp
