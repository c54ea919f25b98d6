import Ztcpp.SockaddrUtil

/-!
# How an address comes about

A `Construction` says which factory made an `IpAddress`, from which input and
in which memory, and how often it was copied since.  Bytes that no code wrote
are those of the memory it was made in, which may hold anything.
-/

namespace Ztcpp

open Octets

inductive Construction where
  | default (stack : IpAddress)
  | ipv4Unspecified (stack : IpAddress)
  | ipv6Unspecified (stack : IpAddress)
  | ipv4Loopback (stack : IpAddress)
  | ipv6Loopback (stack : IpAddress)
  | ipv4FromString (stack : IpAddress) (aAddress : List UInt8)
  | ipv6FromString (stack : IpAddress) (aAddress : List UInt8)
  | ipv4FromStdString (stack : IpAddress) (aAddress : List UInt8)
  | ipv6FromStdString (stack : IpAddress) (aAddress : List UInt8)
  | ipv4FromBinary (stack : IpAddress) (aData : Image 4)
  | ipv6FromBinary (stack : IpAddress) (aData : Image 16)
  /-- The output of `ToIpAddressAndPort`. -/
  | decoded (stack : IpAddress) (aSockaddr : SockaddrStorage)
  /-- A copy, or an object that was assigned to. -/
  | copied (source : Construction)

namespace Construction

variable [Platform] [Inet]

def build : Construction → IpAddress
  | .default stack => .construct stack
  | .ipv4Unspecified stack => .ipv4Unspecified stack
  | .ipv6Unspecified stack => .ipv6Unspecified stack
  | .ipv4Loopback stack => .ipv4Loopback stack
  | .ipv6Loopback stack => .ipv6Loopback stack
  | .ipv4FromString stack aAddress => .ipv4FromString stack aAddress
  | .ipv6FromString stack aAddress => .ipv6FromString stack aAddress
  | .ipv4FromStdString stack aAddress => .ipv4FromStdString stack aAddress
  | .ipv6FromStdString stack aAddress => .ipv6FromStdString stack aAddress
  | .ipv4FromBinary stack aData => .ipv4FromBinaryRepresentationInNetworkOrder stack aData
  | .ipv6FromBinary stack aData => .ipv6FromBinaryRepresentationInNetworkOrder stack aData
  | .decoded stack aSockaddr => (toIpAddressAndPort stack aSockaddr).1
  | .copied source => source.build

end Construction

/-- An object of class `IpAddress` that a program can have. -/
def IpAddress.Obtained [Platform] [Inet] (a : IpAddress) : Prop :=
  ∃ c : Construction, c.build = a

section

variable [Platform] [Inet]

/-! ## What the factories make -/

omit [Platform] in
theorem IpAddress.isValid_fromString {stack : IpAddress} {family : AddressFamily} {af : UInt8}
    {aAddress : List UInt8} (h : (fromString stack family af aAddress).isValid) :
    (ztsInetPton af aAddress stack.addressBuf).1 = 1 := by
  by_contra hfailed
  simp [fromString, hfailed, construct, isValid] at h

omit [Platform] in
@[simp] theorem IpAddress.addressBuf_fromString (stack : IpAddress) (family : AddressFamily)
    (af : UInt8) (aAddress : List UInt8) :
    (fromString stack family af aAddress).addressBuf =
      (ztsInetPton af aAddress stack.addressBuf).2 := by
  by_cases h : (ztsInetPton af aAddress stack.addressBuf).1 = 1
  · simp [fromString, construct, h]
  · simp [fromString, construct, h]

omit [Platform] in
@[simp] theorem IpAddress.getAddressFamily_fromString (stack : IpAddress)
    (family : AddressFamily) (af : UInt8) (aAddress : List UInt8) :
    (fromString stack family af aAddress).getAddressFamily = family := by
  by_cases h : (ztsInetPton af aAddress stack.addressBuf).1 = 1
  · simp [fromString, construct, getAddressFamily, h]
  · simp [fromString, construct, getAddressFamily, h]

omit [Inet] in
theorem isValid_toIpAddressAndPort {stack : IpAddress} {s : SockaddrStorage} :
    (toIpAddressAndPort stack s).1.isValid ↔ s.family = ztsAfInet ∨ s.family = ztsAfInet6 := by
  by_cases h4 : s.family = ztsAfInet
  · simp [toIpAddressAndPort_ipv4 stack h4, h4]
  by_cases h6 : s.family = ztsAfInet6
  · simp [toIpAddressAndPort_ipv6 stack h6, h6]
  simp [toIpAddressAndPort_other stack h4 h6, h4, h6, IpAddress.construct, IpAddress.isValid]

/-- A valid address has one of the two families. -/
theorem IpAddress.Obtained.family {a : IpAddress} (h : a.Obtained) (hv : a.isValid) :
    a.getAddressFamily = .ipv4 ∨ a.getAddressFamily = .ipv6 := by
  obtain ⟨c, rfl⟩ := h
  induction c with
  | default stack => cases hv
  | ipv4Unspecified | ipv4Loopback | ipv4FromBinary => exact .inl rfl
  | ipv6Unspecified | ipv6Loopback | ipv6FromBinary => exact .inr rfl
  | ipv4FromString | ipv4FromStdString => exact .inl (getAddressFamily_fromString ..)
  | ipv6FromString | ipv6FromStdString => exact .inr (getAddressFamily_fromString ..)
  | decoded stack s =>
      rcases isValid_toIpAddressAndPort.mp hv with h4 | h6
      · left
        rw [Construction.build, toIpAddressAndPort_ipv4 stack h4]
        rfl
      · right
        rw [Construction.build, toIpAddressAndPort_ipv6 stack h6]
        rfl
  | copied source ih => exact ih hv

end

/-- The IPv4 address with these octets, made in memory that holds `x`. -/
def ipv4In (x : UInt8) (aData : Image 4) : IpAddress :=
  .ipv4FromBinaryRepresentationInNetworkOrder (Stack.filled x).ipAddress aData

def ipv6In (x : UInt8) (aData : Image 16) : IpAddress :=
  .ipv6FromBinaryRepresentationInNetworkOrder (Stack.filled x).ipAddress aData

theorem ipv4In_obtained [Platform] [Inet] (x : UInt8) (aData : Image 4) :
    (ipv4In x aData).Obtained :=
  ⟨.ipv4FromBinary _ aData, rfl⟩

theorem ipv6In_obtained [Platform] [Inet] (x : UInt8) (aData : Image 16) :
    (ipv6In x aData).Obtained :=
  ⟨.ipv6FromBinary _ aData, rfl⟩

end Ztcpp
