import Ztcpp.Platform

/-!
# IP addresses

The address is kept as the bytes of `_addressBuf` in memory.  The default
constructor leaves the buffer and the family unwritten, so every function that
declares an `IpAddress` takes the indeterminate object it starts from.
-/

namespace Ztcpp

open Octets

/-- `enum class AddressFamily`.  The underlying type is `int`, so an object may
hold a value that no enumerator names. -/
inductive AddressFamily where
  | ipv4
  | ipv6
  | unnamed (raw : ℤ) (h : raw ≠ 0 ∧ raw ≠ 1)
  deriving DecidableEq

def AddressFamily.ofRaw (raw : ℤ) : AddressFamily :=
  if h0 : raw = 0 then .ipv4
  else if h1 : raw = 1 then .ipv6
  else .unnamed raw ⟨h0, h1⟩

structure IpAddress where
  /-- Bytes of `std::uint32_t _addressBuf[4]`. -/
  addressBuf : Image 16
  addressFamily : AddressFamily
  valid : Bool

namespace IpAddress

/-- `IpAddress::IpAddress()`, in memory that held `stack`. -/
def construct (stack : IpAddress) : IpAddress := { stack with valid := false }

def ipv4FromBinaryRepresentationInNetworkOrder (stack : IpAddress) (aData : Image 4) :
    IpAddress :=
  let result := construct stack
  { result with
    addressFamily := .ipv4
    addressBuf := result.addressBuf.write 0 aData
    valid := true }

def ipv6FromBinaryRepresentationInNetworkOrder (stack : IpAddress) (aData : Image 16) :
    IpAddress :=
  let result := construct stack
  { result with
    addressFamily := .ipv6
    addressBuf := result.addressBuf.write 0 aData
    valid := true }

section

variable [Platform] [Inet]

def ipv4Unspecified (stack : IpAddress) : IpAddress :=
  let result := construct stack
  { result with
    addressFamily := .ipv4
    addressBuf := result.addressBuf.write 0 (store byteOrder 4 ztsInaddrAny.toNat)
    valid := true }

def ipv6Unspecified (stack : IpAddress) : IpAddress :=
  let result := construct stack
  { result with
    addressFamily := .ipv6
    addressBuf := result.addressBuf.write 0 (Image.zeros 16)
    valid := true }

/-- `_addressBuf[0] = ZTS_INADDR_LOOPBACK` stores an integer, so the bytes are
in host order. -/
def ipv4Loopback (stack : IpAddress) : IpAddress :=
  let result := construct stack
  { result with
    addressFamily := .ipv4
    addressBuf := result.addressBuf.write 0 (store byteOrder 4 ztsInaddrLoopback.toNat)
    valid := true }

def ipv6Loopback (stack : IpAddress) : IpAddress :=
  let result := construct stack
  let result := { result with
    addressFamily := .ipv6
    addressBuf := result.addressBuf.write 0 (Image.zeros 16) }
  { result with
    addressBuf := result.addressBuf.write 15 (Image.byte 1)
    valid := true }

/-- The common body of the two factories that parse a C string. -/
def fromString (stack : IpAddress) (family : AddressFamily) (af : UInt8) (aAddress : List UInt8) :
    IpAddress :=
  let result := { construct stack with addressFamily := family }
  let pton := ztsInetPton af aAddress result.addressBuf
  let result := { result with addressBuf := pton.2 }
  if pton.1 = 1 then { result with valid := true } else result

def ipv4FromString (stack : IpAddress) (aAddress : List UInt8) : IpAddress :=
  fromString stack .ipv4 ztsAfInet aAddress

def ipv6FromString (stack : IpAddress) (aAddress : List UInt8) : IpAddress :=
  fromString stack .ipv6 ztsAfInet6 aAddress

/-- `std::string::c_str()` as a C string, which ends at the first NUL. -/
def cStr (s : List UInt8) : List UInt8 := s.takeWhile (· ≠ 0)

/-- The overloads for `const std::string&`. -/
def ipv4FromStdString (stack : IpAddress) (aAddress : List UInt8) : IpAddress :=
  ipv4FromString stack (cStr aAddress)

def ipv6FromStdString (stack : IpAddress) (aAddress : List UInt8) : IpAddress :=
  ipv6FromString stack (cStr aAddress)

end

def isValid (a : IpAddress) : Bool := a.valid

def getAddressFamily (a : IpAddress) : AddressFamily := a.addressFamily

def getIPv4AddressInNetworkOrder [Platform] (a : IpAddress) : UInt32 :=
  UInt32.ofNat (load byteOrder (a.addressBuf.read 0 4))

def getIPv6AddressInNetworkOrder (a : IpAddress) : Image 16 := a.addressBuf.read 0 16

/-- `std::memcmp(aLeft, aRight, n) == 0`. -/
def memcmpEq {n : ℕ} (aLeft aRight : Image n) : Bool := decide (∀ i, aLeft i = aRight i)

/-- `operator==`. -/
def operatorEq (aLeft aRight : IpAddress) : Bool :=
  (aLeft.addressFamily = aRight.addressFamily) && memcmpEq aLeft.addressBuf aRight.addressBuf

/-- `operator!=`. -/
def operatorNe (aLeft aRight : IpAddress) : Bool := !operatorEq aLeft aRight

/-- The octets that an address of its family denotes. -/
def octets (a : IpAddress) : List UInt8 :=
  match a.addressFamily with
  | .ipv4 => List.ofFn (a.addressBuf.read 0 4)
  | .ipv6 => List.ofFn a.addressBuf
  | .unnamed .. => []

@[simp] theorem isValid_ipv4FromBinary (stack : IpAddress) (aData : Image 4) :
    (ipv4FromBinaryRepresentationInNetworkOrder stack aData).isValid = true := rfl

@[simp] theorem isValid_ipv6FromBinary (stack : IpAddress) (aData : Image 16) :
    (ipv6FromBinaryRepresentationInNetworkOrder stack aData).isValid = true := rfl

@[simp] theorem getAddressFamily_ipv4FromBinary (stack : IpAddress) (aData : Image 4) :
    (ipv4FromBinaryRepresentationInNetworkOrder stack aData).getAddressFamily = .ipv4 := rfl

@[simp] theorem getAddressFamily_ipv6FromBinary (stack : IpAddress) (aData : Image 16) :
    (ipv6FromBinaryRepresentationInNetworkOrder stack aData).getAddressFamily = .ipv6 := rfl

@[simp] theorem octets_ipv4FromBinary (stack : IpAddress) (aData : Image 4) :
    (ipv4FromBinaryRepresentationInNetworkOrder stack aData).octets = List.ofFn aData := by
  simp only [octets, ipv4FromBinaryRepresentationInNetworkOrder, Image.read_write]

@[simp] theorem octets_ipv6FromBinary (stack : IpAddress) (aData : Image 16) :
    (ipv6FromBinaryRepresentationInNetworkOrder stack aData).octets = List.ofFn aData := by
  have h := Image.read_write (construct stack).addressBuf 0 aData (by decide)
  rw [Image.read_zero_self] at h
  simp only [octets, ipv6FromBinaryRepresentationInNetworkOrder, h]

theorem octets_of_ipv4 {a : IpAddress} (h : a.getAddressFamily = .ipv4) :
    a.octets = List.ofFn (a.addressBuf.read 0 4) := by
  simp only [octets, show a.addressFamily = .ipv4 from h]

theorem octets_of_ipv6 {a : IpAddress} (h : a.getAddressFamily = .ipv6) :
    a.octets = List.ofFn a.getIPv6AddressInNetworkOrder := by
  simp only [octets, show a.addressFamily = .ipv6 from h, getIPv6AddressInNetworkOrder,
    Image.read_zero_self]

theorem store_getIPv4AddressInNetworkOrder [Platform] (a : IpAddress) :
    store byteOrder 4 a.getIPv4AddressInNetworkOrder.toNat = a.addressBuf.read 0 4 := by
  have hlt := load_lt byteOrder (a.addressBuf.read 0 4)
  rw [getIPv4AddressInNetworkOrder, UInt32.toNat_ofNat', Nat.mod_eq_of_lt (by simpa using hlt),
    store_load]

end IpAddress

end Ztcpp
