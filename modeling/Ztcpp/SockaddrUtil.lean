import Ztcpp.IpAddress

/-!
# Socket addresses

`ToSockaddr` fills a local structure and returns the bytes at its address as a
`zts_sockaddr_storage`; `ToIpAddressAndPort` reads one back.  Both work on the
lwIP layouts.  The local structure of the encoder is not initialised, and the
IPv4 one is smaller than the storage that is copied from it, so the encoder
takes the bytes on the stack from the local's address on.
-/

namespace Ztcpp

open Octets

/-- What the locals of one call hold before they are written. -/
structure Stack where
  /-- Bytes from the address of a local socket address on. -/
  sockaddr : SockaddrStorage
  ipAddress : IpAddress

/-- Memory that holds `x` in every byte. -/
def Stack.filled (x : UInt8) : Stack := ⟨fun _ ↦ x, ⟨fun _ ↦ x, .ipv4, false⟩⟩

section

variable [Platform]

/-- `detail::ToSockaddr`; `none` when an assertion fails. -/
def toSockaddr (stack : SockaddrStorage) (aIpAddress : IpAddress) (aPortInHostOrder : UInt16) :
    Option SockaddrStorage :=
  if ¬ aIpAddress.isValid then none else
  match aIpAddress.getAddressFamily with
  | .ipv4 =>
      let result := stack
      let result := result.write offsetFamily (Image.byte ztsAfInet)
      let result := result.write offsetPort
        (store byteOrder 2 (htons byteOrder aPortInHostOrder).toNat)
      let result := result.write offsetSinAddr
        (store byteOrder 4 aIpAddress.getIPv4AddressInNetworkOrder.toNat)
      let result := result.write offsetLen (Image.byte (UInt8.ofNat sizeofSockaddrIn))
      let result := result.write offsetSinZero (Image.zeros 8)
      some result
  | .ipv6 =>
      let result := stack
      let result := result.write offsetFamily (Image.byte ztsAfInet6)
      let result := result.write offsetPort
        (store byteOrder 2 (htons byteOrder aPortInHostOrder).toNat)
      let rawIPv6Addr := aIpAddress.getIPv6AddressInNetworkOrder
      let result := result.write offsetSin6Addr rawIPv6Addr
      let result := result.write offsetLen (Image.byte (UInt8.ofNat sizeofSockaddrStorage))
      let result := result.write offsetSin6Flowinfo (store byteOrder 4 0)
      let result := result.write offsetSin6ScopeId (store byteOrder 4 0)
      some result
  | .unnamed .. => none

/-- `detail::ToIpAddressAndPort`: the values of its two output arguments. -/
def toIpAddressAndPort (stack : IpAddress) (aSockaddr : SockaddrStorage) :
    IpAddress × UInt16 :=
  let addressFamily := aSockaddr.family
  if addressFamily = ztsAfInet then
    (.ipv4FromBinaryRepresentationInNetworkOrder stack aSockaddr.sinAddr,
      ntohs byteOrder (UInt16.ofNat (load byteOrder aSockaddr.port)))
  else if addressFamily = ztsAfInet6 then
    (.ipv6FromBinaryRepresentationInNetworkOrder stack aSockaddr.sin6Addr,
      ntohs byteOrder (UInt16.ofNat (load byteOrder aSockaddr.port)))
  else
    (.construct stack, 0)

theorem toIpAddressAndPort_ipv4 (stack : IpAddress) {s : SockaddrStorage}
    (h : s.family = ztsAfInet) :
    toIpAddressAndPort stack s = (.ipv4FromBinaryRepresentationInNetworkOrder stack s.sinAddr,
      UInt16.ofNat (load .bigEndian s.port)) := by
  simp [toIpAddressAndPort, h, ntohs_load]

theorem toIpAddressAndPort_ipv6 (stack : IpAddress) {s : SockaddrStorage}
    (h : s.family = ztsAfInet6) :
    toIpAddressAndPort stack s = (.ipv6FromBinaryRepresentationInNetworkOrder stack s.sin6Addr,
      UInt16.ofNat (load .bigEndian s.port)) := by
  simp [toIpAddressAndPort, h, Platform.ztsAf_ne.symm, ntohs_load]

theorem toIpAddressAndPort_other (stack : IpAddress) {s : SockaddrStorage}
    (h4 : s.family ≠ ztsAfInet) (h6 : s.family ≠ ztsAfInet6) :
    toIpAddressAndPort stack s = (.construct stack, 0) := by
  simp [toIpAddressAndPort, h4, h6]

def AddressFamily.code : AddressFamily → Option UInt8
  | .ipv4 => some ztsAfInet
  | .ipv6 => some ztsAfInet6
  | .unnamed .. => none

/-- `s` carries this endpoint: family code, port bytes and address bytes. -/
structure Encodes (s : SockaddrStorage) (a : IpAddress) (port : UInt16) : Prop where
  family : a.getAddressFamily.code = some s.family
  port : s.port = store .bigEndian 2 port.toNat
  sinAddr : a.getAddressFamily = .ipv4 → a.octets = List.ofFn s.sinAddr
  sin6Addr : a.getAddressFamily = .ipv6 → a.octets = List.ofFn s.sin6Addr

/-- The address bytes of `s`, read as one of the given family. -/
def SockaddrStorage.octets (s : SockaddrStorage) : AddressFamily → List UInt8
  | .ipv4 => List.ofFn s.sinAddr
  | .ipv6 => List.ofFn s.sin6Addr
  | .unnamed .. => []

theorem Encodes.octets {s : SockaddrStorage} {a : IpAddress} {port : UInt16}
    (h : Encodes s a port) : s.octets a.getAddressFamily = a.octets := by
  cases hf : a.getAddressFamily with
  | ipv4 => exact (h.sinAddr hf).symm
  | ipv6 => exact (h.sin6Addr hf).symm
  | unnamed raw hraw =>
      have hcode := h.family
      rw [hf] at hcode
      cases hcode

theorem toSockaddr_isSome_iff {stack : SockaddrStorage} {a : IpAddress} {port : UInt16} :
    (toSockaddr stack a port).isSome ↔
      a.isValid ∧ (a.getAddressFamily = .ipv4 ∨ a.getAddressFamily = .ipv6) := by
  unfold toSockaddr
  by_cases hv : a.isValid
  · cases hf : a.getAddressFamily <;> simp [hv]
  · simp [hv]

theorem encodes_of_toSockaddr {stack s : SockaddrStorage} {a : IpAddress} {port : UInt16}
    (h : toSockaddr stack a port = some s) : a.isValid ∧ Encodes s a port := by
  have hsome := toSockaddr_isSome_iff.mp (by rw [h]; rfl)
  refine ⟨hsome.1, ?_⟩
  rcases hsome with ⟨hv, hf | hf⟩
  · simp only [toSockaddr, hv, hf, not_true_eq_false, if_false, Option.some.injEq] at h
    subst h
    refine ⟨?_, ?_, fun _ ↦ ?_, fun h6 ↦ by simp [hf] at h6⟩
    · simp (disch := decide) only [hf, AddressFamily.code, SockaddrStorage.family,
        Image.read_write_of_disjoint, Image.read_write, Image.byte]
    · simp (disch := decide) only [SockaddrStorage.port, Image.read_write_of_disjoint,
        Image.read_write, store_htons]
    · simp (disch := decide) only [SockaddrStorage.sinAddr, Image.read_write_of_disjoint,
        Image.read_write, IpAddress.store_getIPv4AddressInNetworkOrder,
        IpAddress.octets_of_ipv4 hf]
  · simp only [toSockaddr, hv, hf, not_true_eq_false, if_false, Option.some.injEq] at h
    subst h
    refine ⟨?_, ?_, fun h4 ↦ by simp [hf] at h4, fun _ ↦ ?_⟩
    · simp (disch := decide) only [hf, AddressFamily.code, SockaddrStorage.family,
        Image.read_write_of_disjoint, Image.read_write, Image.byte]
    · simp (disch := decide) only [SockaddrStorage.port, Image.read_write_of_disjoint,
        Image.read_write, store_htons]
    · simp (disch := decide) only [SockaddrStorage.sin6Addr, Image.read_write_of_disjoint,
        Image.read_write, IpAddress.octets_of_ipv6 hf]

/-- `t` repeats the family, port and address fields of `s`. -/
structure SameEndpoint (s t : SockaddrStorage) : Prop where
  family : t.family = s.family
  port : t.port = s.port
  sinAddr : s.family = ztsAfInet → t.sinAddr = s.sinAddr
  sin6Addr : s.family = ztsAfInet6 → t.sin6Addr = s.sin6Addr

theorem SameEndpoint.encodes {s t : SockaddrStorage} {a : IpAddress} {port : UInt16}
    (hst : SameEndpoint s t) (h : Encodes s a port) : Encodes t a port := by
  have hfamily := h.family
  refine ⟨hst.family ▸ h.family, hst.port ▸ h.port, fun hf ↦ ?_, fun hf ↦ ?_⟩
  · rw [hf, AddressFamily.code, Option.some.injEq] at hfamily
    rw [hst.sinAddr hfamily.symm, h.sinAddr hf]
  · rw [hf, AddressFamily.code, Option.some.injEq] at hfamily
    rw [hst.sin6Addr hfamily.symm, h.sin6Addr hf]

theorem toIpAddressAndPort_of_encodes {stack a : IpAddress} {s : SockaddrStorage}
    {port : UInt16} (h : Encodes s a port) :
    (toIpAddressAndPort stack s).1.isValid ∧
      (toIpAddressAndPort stack s).1.getAddressFamily = a.getAddressFamily ∧
      (toIpAddressAndPort stack s).1.octets = a.octets ∧
      (toIpAddressAndPort stack s).2 = port := by
  have hfamily := h.family
  have hport : ntohs byteOrder (UInt16.ofNat (load byteOrder s.port)) = port := by
    rw [ntohs_load, h.port, load_bigEndian_port]
  cases hf : a.getAddressFamily with
  | ipv4 =>
      rw [hf, AddressFamily.code, Option.some.injEq] at hfamily
      simp [toIpAddressAndPort, ← hfamily, hport, h.sinAddr hf]
  | ipv6 =>
      rw [hf, AddressFamily.code, Option.some.injEq] at hfamily
      simp [toIpAddressAndPort, ← hfamily, Platform.ztsAf_ne.symm, hport, h.sin6Addr hf]
  | unnamed raw hraw => simp [hf, AddressFamily.code] at hfamily

end

end Ztcpp
