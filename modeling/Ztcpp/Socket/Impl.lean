import Ztcpp.Result
import Ztcpp.SockaddrUtil

/-!
# `Socket::Impl`

The methods of the implementation class, as programs over its three fields
that make calls to libzt.  A local that the source declares without a value
takes it from the argument `stack`.
-/

namespace Ztcpp

open Octets Interaction

/-- `enum class SocketDomain`; an object may hold a value without a name. -/
inductive SocketDomain where
  | internetProtocolIPv4
  | internetProtocolIPv6
  | unnamed (raw : ℤ) (h : ¬ (raw = 0 ∨ raw = 1))
  deriving DecidableEq

def SocketDomain.ofRaw (raw : ℤ) : SocketDomain :=
  if h0 : raw = 0 then .internetProtocolIPv4
  else if h1 : raw = 1 then .internetProtocolIPv6
  else .unnamed raw (not_or.mpr ⟨h0, h1⟩)

inductive SocketType where
  | stream
  | datagram
  | raw
  | unnamed (value : ℤ) (h : value ≠ 0 ∧ value ≠ 1 ∧ value ≠ 2)
  deriving DecidableEq

def SocketType.ofRaw (value : ℤ) : SocketType :=
  if h0 : value = 0 then .stream
  else if h1 : value = 1 then .datagram
  else if h2 : value = 2 then .raw
  else .unnamed value ⟨h0, h1, h2⟩

namespace PollEventBitmask

def readyToReceive : BitVec 32 := 1

def readyToSend : BitVec 32 := 2

def readyToReceivePriorityData : BitVec 32 := 4

end PollEventBitmask

structure Impl where
  socketDomain : SocketDomain
  socketType : SocketType
  socketID : ℤ
  deriving DecidableEq

namespace Impl

variable [Platform]

/-- `Impl() = default`, with the initial values of the fields. -/
def fresh : Impl where
  socketDomain := .ofRaw (-1)
  socketType := .ofRaw (-1)
  socketID := ztsErrSocket

def getAddressFamily (self : Impl) : AddressFamily :=
  match self.socketDomain with
  | .internetProtocolIPv4 => .ipv4
  | .internetProtocolIPv6 => .ipv6
  | .unnamed .. => .ofRaw 0

def getZTAddressFamily (self : Impl) : ℤ :=
  if self.socketDomain = .internetProtocolIPv4 then ztsAfInet.toNat else ztsAfInet6.toNat

def getZTSocketType (self : Impl) : ℤ :=
  if self.socketType = .stream then ztsSockStream
  else if self.socketType = .datagram then ztsSockDgram
  else ztsSockRaw

def getZTProtocolFamily (self : Impl) : ℤ :=
  if self.socketDomain = .internetProtocolIPv4 then ztsPfInet else ztsPfInet6

def isOpen (self : Impl) : Bool := 0 ≤ self.socketID

omit [Platform] in
@[simp] theorem isOpen_iff {self : Impl} : self.isOpen = true ↔ 0 ≤ self.socketID :=
  decide_eq_true_iff

def initResult (reply : Status) : EmptyResult :=
  if reply.res = ztsErrSocket then
    .error (ztcppErrorReport .socketError (namedCodeText "ZTS_ERR_SOCKET" reply) "init")
  else if reply.res = ztsErrService then
    .error (ztcppErrorReport .serviceError (namedCodeText "ZTS_ERR_SERVICE" reply) "init")
  else emptyResultOK

def init (self : Impl) (aSocketDomain : SocketDomain) (aSocketType : SocketType) :
    Prog Libzt (EmptyResult × Impl) := do
  if aSocketDomain ≠ .internetProtocolIPv4 ∧ aSocketDomain ≠ .internetProtocolIPv6 then
    return (.error (ztcppErrorReport .argumentError "aSocketDomain has invalid value" "init"), self)
  if aSocketType ≠ .stream ∧ aSocketType ≠ .datagram ∧ aSocketType ≠ .raw then
    return (.error (ztcppErrorReport .argumentError "aSocketType has invalid value" "init"), self)
  let self := { self with socketDomain := aSocketDomain }
  let self := { self with socketType := aSocketType }
  let reply : Status ← callLibzt (.ztsSocket self.getZTAddressFamily self.getZTSocketType
    self.getZTProtocolFamily)
  let self := { self with socketID := reply.res }
  return (initResult reply, self)

/-- The local copy `sockaddr` of `bind`, `connect` and `sendTo`.  A failed
assertion in `ToSockaddr` stops the process. -/
def encodeSockaddr (stack : Stack) (aIpAddress : IpAddress) (aPort : UInt16) :
    Prog Libzt SockaddrStorage :=
  match toSockaddr stack.sockaddr aIpAddress aPort with
  | some sockaddr => .ret sockaddr
  | none => .crash

def bind (self : Impl) (stack : Stack) (aLocalIpAddress : IpAddress)
    (aLocalPortInHostOrder : UInt16) : Prog Libzt (EmptyResult × Impl) := do
  if ¬ aLocalIpAddress.isValid then
    return (.error (ztcppErrorReport .argumentError "aLocalIpAddress is invalid" "bind"), self)
  if aLocalIpAddress.getAddressFamily ≠ self.getAddressFamily then
    return (.error (ztcppErrorReport .argumentError "aLocalIpAddress is of wrong address family"
      "bind"), self)
  let sockaddr ← encodeSockaddr stack aLocalIpAddress aLocalPortInHostOrder
  let reply : Status ← callLibzt (.ztsBsdBind self.socketID sockaddr sizeofSockaddrStorage)
  return (statusResult "bind" "zts_bind" reply (), self)

def connect (self : Impl) (stack : Stack) (aRemoteIpAddress : IpAddress)
    (aRemotePortInHostOrder : UInt16) : Prog Libzt (EmptyResult × Impl) := do
  if aRemotePortInHostOrder = 0 then
    return (.error (ztcppErrorReport .argumentError "0 is not a valid port to connect to"
      "connect"), self)
  if ¬ aRemoteIpAddress.isValid then
    return (.error (ztcppErrorReport .argumentError "aRemoteIpAddress is invalid" "connect"), self)
  if aRemoteIpAddress.getAddressFamily ≠ self.getAddressFamily then
    return (.error (ztcppErrorReport .argumentError "aRemoteIpAddress is of wrong address family"
      "connect"), self)
  let sockaddr ← encodeSockaddr stack aRemoteIpAddress aRemotePortInHostOrder
  let reply : Status ← callLibzt (.ztsBsdConnect self.socketID sockaddr sizeofSockaddrStorage)
  return (statusResult "connect" "zts_connect" reply (), self)

/-- The `size_t` argument becomes the `int` parameter of `zts_bsd_listen`. -/
def listen (self : Impl) (aMaxQueueSize : UInt64) : Prog Libzt (EmptyResult × Impl) := do
  let reply : Status ← callLibzt
    (.ztsBsdListen self.socketID ((aMaxQueueSize.toNat : ℤ).bmod (2 ^ 32)))
  return (statusResult "listen" "zts_connect" reply (), self)

def send (self : Impl) (aData : Option (List UInt8)) (aDataByteSize : UInt64) :
    Prog Libzt (Result UInt64 × Impl) := do
  if aData = none ∨ aDataByteSize = 0 then
    return (.error (ztcppErrorReport .argumentError "aData is null or aDataByteSize == 0" "send"),
      self)
  let reply : Status ← callLibzt (.ztsSend self.socketID (aData.getD []) aDataByteSize 0)
  return (sentResult "send" "zts_send" reply aDataByteSize, self)

def sendTo (self : Impl) (stack : Stack) (aData : Option (List UInt8)) (aDataByteSize : UInt64)
    (aRemoteIpAddress : IpAddress) (aLocalPortInHostOrder : UInt16) :
    Prog Libzt (Result UInt64 × Impl) := do
  if aData = none ∨ aDataByteSize = 0 then
    return (.error (ztcppErrorReport .argumentError "aData is null or aDataByteSize == 0"
      "sendTo"), self)
  if ¬ aRemoteIpAddress.isValid then
    return (.error (ztcppErrorReport .argumentError "aRemoteIpAddress is invalid" "sendTo"), self)
  if aRemoteIpAddress.getAddressFamily ≠ self.getAddressFamily then
    return (.error (ztcppErrorReport .argumentError "aRemoteIpAddress is of wrong address family"
      "sendTo"), self)
  let sockaddr ← encodeSockaddr stack aRemoteIpAddress aLocalPortInHostOrder
  let reply : Status ← callLibzt (.ztsBsdSendto self.socketID (aData.getD []) aDataByteSize 0
    sockaddr sizeofSockaddrStorage)
  return (sentResult "sendTo" "zts_sendto" reply aDataByteSize, self)

structure Received where
  result : Result UInt64
  destinationBuffer : Option (List UInt8)

def receive (self : Impl) (aDestinationBuffer : Option (List UInt8))
    (aDestinationBufferByteSize : UInt64) : Prog Libzt (Received × Impl) := do
  if aDestinationBuffer = none ∨ aDestinationBufferByteSize = 0 then
    return (⟨.error (ztcppErrorReport .argumentError
      "aDestinationBuffer is null or aDestinationBufferByteSize == 0" "receive"),
      aDestinationBuffer⟩, self)
  let reply : BufferReply ← callLibzt (.ztsRecv self.socketID (aDestinationBuffer.getD [])
    aDestinationBufferByteSize 0)
  return (⟨receivedResult "receive" "zts_recvfrom" reply.toStatus, some reply.buf⟩, self)

structure ReceivedFrom extends Received where
  senderAddress : IpAddress
  senderPort : UInt16

def receiveFrom (self : Impl) (stack : Stack) (aDestinationBuffer : Option (List UInt8))
    (aDestinationBufferByteSize : UInt64) (aSenderAddress : IpAddress) (aSenderPort : UInt16) :
    Prog Libzt (ReceivedFrom × Impl) := do
  if aDestinationBuffer = none ∨ aDestinationBufferByteSize = 0 then
    return (⟨⟨.error (ztcppErrorReport .argumentError
      "aDestinationBuffer is null or aDestinationBufferByteSize == 0" "receiveFrom"),
      aDestinationBuffer⟩, aSenderAddress, aSenderPort⟩, self)
  let reply : BufferAddressReply ← callLibzt (.ztsBsdRecvfrom self.socketID
    (aDestinationBuffer.getD []) aDestinationBufferByteSize 0 stack.sockaddr
    sizeofSockaddrStorage)
  -- the outputs are decoded before the status is looked at
  let sender := toIpAddressAndPort stack.ipAddress reply.addr
  return (⟨⟨receivedResult "receiveFrom" "zts_recvfrom" reply.toStatus, some reply.buf⟩,
    sender.1, sender.2⟩, self)

def closeResult (reply : Status) : EmptyResult :=
  if reply.res = ztsErrSocket then
    .error (ztcppErrorReport .socketError (namedCodeText "ZTS_ERR_SOCKET" reply) "close")
  else if reply.res = ztsErrService then
    .error (ztcppErrorReport .serviceError (namedCodeText "ZTS_ERR_SERVICE" reply) "close")
  else emptyResultOK

def close (self : Impl) : Prog Libzt (EmptyResult × Impl) := do
  if self.isOpen then
    let reply : Status ← callLibzt (.ztsClose self.socketID)
    let self := { self with socketID := ztsErrSocket }
    return (closeResult reply, self)
  return (emptyResultOK, self)

/-- `~Impl`. -/
def destroy (self : Impl) : Prog Libzt Unit := do
  let _ ← self.close

def acceptError (reply : Status) : Option ErrorReport :=
  if reply.res = ztsErrSocket then
    some (ztcppErrorReport .socketError (namedCodeText "ZTS_ERR_SOCKET" reply) "accept")
  else if reply.res = ztsErrService then
    some (ztcppErrorReport .serviceError (namedCodeText "ZTS_ERR_SERVICE" reply) "accept")
  else if reply.res = ztsErrArg then
    some (ztcppErrorReport .argumentError (namedCodeText "ZTS_ERR_ARG" reply) "accept")
  else none

/-- The `Impl` in the result is the one of the accepted `Socket`. -/
def accept (self : Impl) : Prog Libzt (Result Impl × Impl) := do
  let reply : Status ← callLibzt (.ztsAccept self.socketID)
  match acceptError reply with
  | some report => return (.error report, self)
  | none =>
      -- the assignment of a new `Impl` destroys the one the constructor made
      let constructed := fresh
      constructed.destroy
      let socketImpl := self
      let socketImpl := { socketImpl with socketID := reply.res }
      return (.ok socketImpl, self)

def requestedEvents (aInterestedIn : BitVec 32) : BitVec 16 :=
  let events : BitVec 16 := 0
  let events := events |||
    if aInterestedIn &&& PollEventBitmask.readyToReceive ≠ 0 then ztsPollin else 0
  let events := events |||
    if aInterestedIn &&& PollEventBitmask.readyToSend ≠ 0 then ztsPollout else 0
  events |||
    if aInterestedIn &&& PollEventBitmask.readyToReceivePriorityData ≠ 0 then ztsPollpri else 0

def reportedEvents (revents : BitVec 16) : BitVec 32 :=
  let result : BitVec 32 := 0
  let result := result |||
    if revents &&& ztsPollin ≠ 0 then PollEventBitmask.readyToReceive else 0
  let result := result |||
    if revents &&& ztsPollout ≠ 0 then PollEventBitmask.readyToSend else 0
  result ||| if revents &&& ztsPollpri ≠ 0 then PollEventBitmask.readyToReceivePriorityData else 0

def pollResult (reply : PollReply) : Result (BitVec 32) :=
  if reply.res = ztsErrSocket then
    .error (ztcppErrorReport .socketError (namedCodeText "ZTS_ERR_SOCKET" reply.toStatus)
      "pollEvents")
  else if reply.res = ztsErrService then
    .error (ztcppErrorReport .serviceError (namedCodeText "ZTS_ERR_SERVICE" reply.toStatus)
      "pollEvents")
  else if reply.res ≠ 1 ∧ reply.res ≠ 0 then
    .error (ztcppErrorReport .genericError
      (namedCodeText "Unspecified error from zts_poll" reply.toStatus) "pollEvents")
  else if reply.revents &&& ztsPollnval ≠ 0 then
    .error (ztcppErrorReport .socketError
      "zts_poll returned ZTS_POLLNVAL (something wrong with socket descriptor)" "pollEvents")
  else if reply.revents &&& ztsPollhup ≠ 0 then
    .error (ztcppErrorReport .socketError
      "zts_poll returned ZTS_POLLHUP (remote side of the connection hung up)" "pollEvents")
  else if reply.revents &&& ztsPollerr ≠ 0 then
    .error (ztcppErrorReport .socketError "zts_poll returned ZTS_POLLERR" "pollEvents")
  -- 0 means that the socket was not ready for any of the events
  else if reply.res ≠ 0 then .ok (reportedEvents reply.revents)
  else .ok 0

def pollEvents (self : Impl) (aInterestedIn : BitVec 32) (aMaxTimeToWait : Int64) :
    Prog Libzt (Result (BitVec 32)) := do
  if aInterestedIn = 0 then
    return .error (ztcppErrorReport .argumentError "aInterestedIn was 0" "pollEvents")
  let reply : PollReply ← callLibzt (.ztsBsdPoll self.socketID (requestedEvents aInterestedIn) 1
    (aMaxTimeToWait.toInt.bmod (2 ^ 32)))
  return pollResult reply

/-- The shared body of the four endpoint getters: ask libzt for an address,
and on success decode it and keep one part. -/
def getEndpoint {α : Type} (self : Impl) (function callee : String) (stack : Stack)
    (ask : ℤ → SockaddrStorage → Prog Libzt AddressReply) (part : IpAddress × UInt16 → α) :
    Prog Libzt (Result α) := do
  let reply ← ask self.socketID stack.sockaddr
  return statusResult function callee reply.toStatus
    (part (toIpAddressAndPort stack.ipAddress reply.addr))

def ztsBsdGetsockname (fd : ℤ) (addr : SockaddrStorage) : Prog Libzt AddressReply :=
  callLibzt (.ztsBsdGetsockname fd addr sizeofSockaddrStorage)

def ztsBsdGetpeername (fd : ℤ) (addr : SockaddrStorage) : Prog Libzt AddressReply :=
  callLibzt (.ztsBsdGetpeername fd addr sizeofSockaddrStorage)

def getLocalIpAddress (self : Impl) (stack : Stack) : Prog Libzt (Result IpAddress) :=
  self.getEndpoint "getLocalIpAddress" "zts_getsockname" stack ztsBsdGetsockname Prod.fst

def getLocalPort (self : Impl) (stack : Stack) : Prog Libzt (Result UInt16) :=
  self.getEndpoint "getLocalPort" "zts_getsockname" stack ztsBsdGetsockname Prod.snd

/-- The message names `zts_getsockname`, as in the source. -/
def getRemoteIpAddress (self : Impl) (stack : Stack) : Prog Libzt (Result IpAddress) :=
  self.getEndpoint "getRemoteIpAddress" "zts_getsockname" stack ztsBsdGetpeername Prod.fst

def getRemotePort (self : Impl) (stack : Stack) : Prog Libzt (Result UInt16) :=
  self.getEndpoint "getRemotePort" "zts_getpeername" stack ztsBsdGetpeername Prod.snd

end Impl

end Ztcpp
