import Ztcpp.Library.Octets

/-!
# What a build takes from outside the sources

The constants of `ZeroTierSockets.h`, the host's byte order, the width of
`ssize_t` and the compiler's function names are not fixed by the sources of
ZTCpp.  They are the fields of `Platform`, with the documented facts about
them that the code relies on.  Every definition and theorem is for an
arbitrary `Platform`; `lwip` has the values of a current build.
-/

namespace Ztcpp

open Octets

/-- The `ZTS_EVENT_*` codes that `IntermediateEventHandler` lists. -/
inductive ZtsEventCode where
  | nodeUp | nodeOnline | nodeOffline | nodeDown
  | networkNotFound | networkClientTooOld | networkReqConfig | networkOk | networkAccessDenied
  | networkReadyIp4 | networkReadyIp6 | networkReadyIp4Ip6 | networkDown | networkUpdate
  | stackUp | stackDown
  | netifUp | netifDown | netifRemoved | netifLinkUp | netifLinkDown
  | peerDirect | peerRelay | peerUnreachable | peerPathDiscovered | peerPathDead
  | routeAdded | routeRemoved
  | addrAddedIp4 | addrRemovedIp4 | addrAddedIp6 | addrRemovedIp6
  deriving DecidableEq

def ZtsEventCode.all : List ZtsEventCode :=
  [.nodeUp, .nodeOnline, .nodeOffline, .nodeDown,
    .networkNotFound, .networkClientTooOld, .networkReqConfig, .networkOk, .networkAccessDenied,
    .networkReadyIp4, .networkReadyIp6, .networkReadyIp4Ip6, .networkDown, .networkUpdate,
    .stackUp, .stackDown,
    .netifUp, .netifDown, .netifRemoved, .netifLinkUp, .netifLinkDown,
    .peerDirect, .peerRelay, .peerUnreachable, .peerPathDiscovered, .peerPathDead,
    .routeAdded, .routeRemoved,
    .addrAddedIp4, .addrRemovedIp4, .addrAddedIp6, .addrRemovedIp6]

class Platform where
  ztsErrOk : ℤ
  ztsErrSocket : ℤ
  ztsErrService : ℤ
  ztsErrArg : ℤ
  ztsErrOk_eq : ztsErrOk = 0
  ztsErrSocket_neg : ztsErrSocket < 0
  ztsErrService_neg : ztsErrService < 0
  ztsErrArg_neg : ztsErrArg < 0
  ztsErr_nodup : [ztsErrSocket, ztsErrService, ztsErrArg].Nodup
  ztsAfInet : UInt8
  ztsAfInet6 : UInt8
  ztsAf_ne : ztsAfInet ≠ ztsAfInet6
  ztsPfInet : ℤ
  ztsPfInet6 : ℤ
  ztsSockStream : ℤ
  ztsSockDgram : ℤ
  ztsSockRaw : ℤ
  ztsPollin : BitVec 16
  ztsPollout : BitVec 16
  ztsPollpri : BitVec 16
  ztsPollerr : BitVec 16
  ztsPollhup : BitVec 16
  ztsPollnval : BitVec 16
  ztsPoll_ne_zero : ∀ f ∈ [ztsPollin, ztsPollout, ztsPollpri, ztsPollerr, ztsPollhup, ztsPollnval],
    f ≠ 0
  ztsPoll_disjoint :
    [ztsPollin, ztsPollout, ztsPollpri, ztsPollerr, ztsPollhup, ztsPollnval].Pairwise
      fun f g ↦ f &&& g = 0
  /-- Width of `ssize_t`, in which `zts_send` and its relatives report counts. -/
  ssizeBits : ℕ
  ssizeBits_eq : ssizeBits = 32 ∨ ssizeBits = 64
  byteOrder : ByteOrder
  ztsEvent : ZtsEventCode → ℤ
  /-- The labels of a `switch` are distinct. -/
  ztsEvent_nodup : (ZtsEventCode.all.map ztsEvent).Nodup
  prettyFunction : String → String

/-- libzt over lwIP on a 64-bit little-endian host. -/
instance lwip : Platform where
  ztsErrOk := 0
  ztsErrSocket := -1
  ztsErrService := -2
  ztsErrArg := -3
  ztsErrOk_eq := rfl
  ztsErrSocket_neg := by decide
  ztsErrService_neg := by decide
  ztsErrArg_neg := by decide
  ztsErr_nodup := by decide
  ztsAfInet := 2
  ztsAfInet6 := 10
  ztsAf_ne := by decide
  ztsPfInet := 2
  ztsPfInet6 := 10
  ztsSockStream := 1
  ztsSockDgram := 2
  ztsSockRaw := 3
  ztsPollin := 0x001
  ztsPollout := 0x002
  ztsPollpri := 0x020
  ztsPollerr := 0x004
  ztsPollhup := 0x200
  ztsPollnval := 0x008
  ztsPoll_ne_zero := by simp
  ztsPoll_disjoint := by simp
  ssizeBits := 64
  ssizeBits_eq := .inr rfl
  byteOrder := .littleEndian
  ztsEvent
    | .nodeUp => 200 | .nodeOnline => 201 | .nodeOffline => 202 | .nodeDown => 203
    | .networkNotFound => 210 | .networkClientTooOld => 211 | .networkReqConfig => 212
    | .networkOk => 213 | .networkAccessDenied => 214 | .networkReadyIp4 => 215
    | .networkReadyIp6 => 216 | .networkReadyIp4Ip6 => 217 | .networkDown => 218
    | .networkUpdate => 219
    | .stackUp => 220 | .stackDown => 221
    | .netifUp => 230 | .netifDown => 231 | .netifRemoved => 232 | .netifLinkUp => 233
    | .netifLinkDown => 234
    | .peerDirect => 240 | .peerRelay => 241 | .peerUnreachable => 242
    | .peerPathDiscovered => 243 | .peerPathDead => 244
    | .routeAdded => 250 | .routeRemoved => 251
    | .addrAddedIp4 => 260 | .addrRemovedIp4 => 261 | .addrAddedIp6 => 262
    | .addrRemovedIp6 => 263
  ztsEvent_nodup := by decide
  prettyFunction name := name

export Platform (ztsErrOk ztsErrSocket ztsErrService ztsErrArg ztsAfInet ztsAfInet6
  ztsPfInet ztsPfInet6 ztsSockStream ztsSockDgram ztsSockRaw ztsPollin ztsPollout ztsPollpri
  ztsPollerr ztsPollhup ztsPollnval ssizeBits byteOrder ztsEvent prettyFunction)

/-- What the factories of `IpAddress` take from libzt: two constants, and
`zts_inet_pton` as its result and the 16 bytes at `dst` after the call. -/
class Inet where
  ztsInaddrAny : UInt32
  ztsInaddrLoopback : UInt32
  ztsInaddrAny_eq : ztsInaddrAny = 0x00000000
  ztsInaddrLoopback_eq : ztsInaddrLoopback = 0x7f000001
  ztsInetPton : (af : UInt8) → (src : List UInt8) → (dst : Image 16) → ℤ × Image 16

/-- lwIP's constants.  Of the texts that `zts_inet_pton` accepts only one is
here, `127.0.0.1`. -/
instance lwipInet : Inet where
  ztsInaddrAny := 0
  ztsInaddrLoopback := 0x7f000001
  ztsInaddrAny_eq := rfl
  ztsInaddrLoopback_eq := rfl
  ztsInetPton af src dst :=
    if af = 2 ∧ src = [49, 50, 55, 46, 48, 46, 48, 46, 49] then
      (1, dst.write 0 [127, 0, 0, 1].get)
    else (0, dst)

export Inet (ztsInaddrAny ztsInaddrLoopback ztsInetPton)

/-! ## Layouts of lwIP's socket addresses -/

abbrev sizeofSockaddrStorage : ℕ := 28

abbrev sizeofSockaddrIn : ℕ := 16

abbrev SockaddrStorage := Image sizeofSockaddrStorage

/-- Offsets of `sin_len`, `sin_family` and `sin_port`, which the three
`zts_sockaddr_*` structures share. -/
abbrev offsetLen : ℕ := 0

abbrev offsetFamily : ℕ := 1

abbrev offsetPort : ℕ := 2

abbrev offsetSinAddr : ℕ := 4

abbrev offsetSinZero : ℕ := 8

abbrev offsetSin6Flowinfo : ℕ := 4

abbrev offsetSin6Addr : ℕ := 8

abbrev offsetSin6ScopeId : ℕ := 24

def SockaddrStorage.family (s : SockaddrStorage) : UInt8 := s.read offsetFamily 1 (by decide) 0

def SockaddrStorage.len (s : SockaddrStorage) : UInt8 := s.read offsetLen 1 (by decide) 0

def SockaddrStorage.port (s : SockaddrStorage) : Image 2 := s.read offsetPort 2

def SockaddrStorage.sinAddr (s : SockaddrStorage) : Image 4 := s.read offsetSinAddr 4

def SockaddrStorage.sin6Addr (s : SockaddrStorage) : Image 16 := s.read offsetSin6Addr 16

def SockaddrStorage.sinZero (s : SockaddrStorage) : Image 8 := s.read offsetSinZero 8

def SockaddrStorage.sin6Flowinfo (s : SockaddrStorage) : Image 4 := s.read offsetSin6Flowinfo 4

def SockaddrStorage.sin6ScopeId (s : SockaddrStorage) : Image 4 := s.read offsetSin6ScopeId 4

/-- The bytes of a `zts_sockaddr_storage` that a `zts_sockaddr_in` does not have. -/
def SockaddrStorage.beyondSockaddrIn (s : SockaddrStorage) : Image 12 :=
  s.read sizeofSockaddrIn 12

end Ztcpp
