import Ztcpp.Result

/-!
# The local node: configuration, life cycle and networks

Each function makes one call and turns its status into a result by a chain of
comparisons; `start` makes two calls.  A `std::string` is the list of its bytes.
-/

namespace Ztcpp

open Interaction

/-- The string that a function of C sees at a `char*`. -/
def cString (bytes : List UInt8) : List UInt8 := bytes.takeWhile (· ≠ 0)

variable [Platform]

structure NamedCode where
  code : ℤ
  errorCode : ErrorCode
  text : String

/-- The exits of a function of `Service.cpp`: success on `ZTS_ERR_OK`, the
codes it names in turn, and everything else. -/
def checkedResult {α : Type} (function callee : String) (named : List NamedCode)
    (status : Status) (value : α) : Result α :=
  if status.res = ztsErrOk then .ok value
  else match named.find? fun n ↦ status.res = n.code with
    | some n => .error (ztcppErrorReport n.errorCode n.text function)
    | none => .error (ztcppErrorReport .genericError ("Unknown error (" ++ callee ++ " returned " ++
        toString status.res ++ ")") function)

def checkedCall (function callee : String) (named : List NamedCode)
    (ask : Prog Libzt Status) : Prog Libzt EmptyResult := do
  let res ← ask
  return checkedResult function callee named res ()

namespace Config

def namedCodes (rejected : String) : List NamedCode :=
  [⟨ztsErrService, .serviceError, "ZTS_ERR_SERVICE (Could not configure ZeroTier service)"⟩,
    ⟨ztsErrArg, .argumentError, "ZTS_ERR_ARG (" ++ rejected ++ ")"⟩]

def setIdentityFromStorage (aPath : List UInt8) : Prog Libzt EmptyResult :=
  checkedCall "setIdentityFromStorage" "zts_init_from_storage" (namedCodes "Invalid path")
    (callLibzt (.ztsInitFromStorage (cString aPath)))

def setIdentityFromMemory (aKey : Option (List UInt8)) (aKeyLength : UInt64) :
    Prog Libzt EmptyResult :=
  checkedCall "setIdentityFromMemory" "zts_init_from_memory" (namedCodes "Invalid key")
    (callLibzt (.ztsInitFromMemory aKey aKeyLength))

def setPort (aPort : UInt16) : Prog Libzt EmptyResult :=
  checkedCall "setPort" "zts_init_set_port" (namedCodes "Port rejected")
    (callLibzt (.ztsInitSetPort aPort))

def setRandomPortRange (aStartPort aEndPort : UInt16) : Prog Libzt EmptyResult :=
  checkedCall "setRandomPortRange" "zts_init_set_random_port_range"
    (namedCodes "Port range rejected") (callLibzt (.ztsInitSetRandomPortRange aStartPort aEndPort))

def allowSecondaryPort (aAllowed : Bool) : Prog Libzt EmptyResult :=
  checkedCall "allowSecondaryPort" "zts_init_allow_secondary_port" (namedCodes "Invalid argument")
    (callLibzt (.ztsInitAllowSecondaryPort aAllowed.toNat))

def allowPortMapping (aAllowed : Bool) : Prog Libzt EmptyResult :=
  checkedCall "allowPortMapping" "zts_init_allow_port_mapping" (namedCodes "Invalid argument")
    (callLibzt (.ztsInitAllowPortMapping aAllowed.toNat))

def allowNetworkCaching (aAllowed : Bool) : Prog Libzt EmptyResult :=
  checkedCall "allowNetworkCaching" "zts_init_allow_net_cache" (namedCodes "Invalid argument")
    (callLibzt (.ztsInitAllowNetCache aAllowed.toNat))

def allowPeerCaching (aAllowed : Bool) : Prog Libzt EmptyResult :=
  checkedCall "allowPeerCaching" "zts_init_allow_peer_cache" (namedCodes "Invalid argument")
    (callLibzt (.ztsInitAllowPeerCache aAllowed.toNat))

def allowRootCaching (aAllowed : Bool) : Prog Libzt EmptyResult :=
  checkedCall "allowRootCaching" "zts_init_allow_roots_cache" (namedCodes "Invalid argument")
    (callLibzt (.ztsInitAllowRootsCache aAllowed.toNat))

def allowIdentityCaching (aAllowed : Bool) : Prog Libzt EmptyResult :=
  checkedCall "allowIdentityCaching" "zts_init_allow_id_cache" (namedCodes "Invalid argument")
    (callLibzt (.ztsInitAllowIdCache aAllowed.toNat))

end Config

namespace LocalNode

/-- The second block of `start`, which the first reaches by `goto`. -/
def startNode : Prog Libzt EmptyResult :=
  checkedCall "start" "zts_node_start"
    [⟨ztsErrService, .serviceError,
      "ZTS_ERR_SERVICE (Node encountered a problem while starting)"⟩]
    (callLibzt .ztsNodeStart)

def start : Prog Libzt EmptyResult := do
  let res : Status ← callLibzt .ztsInitSetEventHandler
  if res.res = ztsErrOk then startNode else
    return checkedResult "start" "zts_init_set_event_handler"
      [⟨ztsErrArg, .argumentError, "ZTS_ERR_ARG (Could not set intermediate event handler)"⟩,
        ⟨ztsErrService, .serviceError,
          "ZTS_ERR_SERVICE (Node encountered a problem while setting intermediate event handler)"⟩]
      res ()

def stop : Prog Libzt EmptyResult :=
  checkedCall "stop" "zts_node_stop"
    [⟨ztsErrService, .serviceError,
      "ZTS_ERR_SERVICE (Node encountered a problem while stopping)"⟩]
    (callLibzt .ztsNodeStop)

def freeResources : Prog Libzt EmptyResult :=
  checkedCall "freeResources" "zts_node_free"
    [⟨ztsErrService, .serviceError,
      "ZTS_ERR_SERVICE (Node encountered a problem while freeing resources)"⟩]
    (callLibzt .ztsNodeFree)

end LocalNode

namespace Network

def namedCodes (callee : String) : List NamedCode :=
  [⟨ztsErrService, .serviceError, "ZTS_ERR_SERVICE (Node encountered a problem or is not up)"⟩,
    ⟨ztsErrArg, .argumentError, "ZTS_ERR_ARG (Invalid argument for " ++ callee ++ ")"⟩]

def join (aNetworkId : UInt64) : Prog Libzt EmptyResult :=
  checkedCall "join" "zts_net_join" (namedCodes "zts_net_join")
    (callLibzt (.ztsNetJoin aNetworkId))

def leave (aNetworkId : UInt64) : Prog Libzt EmptyResult :=
  checkedCall "leave" "zts_net_leave" (namedCodes "zts_net_leave")
    (callLibzt (.ztsNetLeave aNetworkId))

/-- `charbuf` holds what was on the stack.  A buffer without a terminating zero
is read past its end. -/
def getName (aNetworkId : UInt64) (charbuf : List UInt8) : Prog Libzt (Result (List UInt8)) := do
  let reply : BufferReply ← callLibzt (.ztsNetGetName aNetworkId charbuf 200)
  if reply.res = ztsErrOk then
    if 0 ∈ reply.buf then return .ok (cString reply.buf) else .crash
  else
    return checkedResult "getName" "zts_net_get_name" (namedCodes "zts_net_get_name")
      reply.toStatus []

end Network

/-- The functions of `Service.hpp` that return an `EmptyResult`. -/
inductive ServiceOp where
  | setIdentityFromStorage (aPath : List UInt8)
  | setIdentityFromMemory (aKey : Option (List UInt8)) (aKeyLength : UInt64)
  | setPort (aPort : UInt16)
  | setRandomPortRange (aStartPort aEndPort : UInt16)
  | allowSecondaryPort (aAllowed : Bool)
  | allowPortMapping (aAllowed : Bool)
  | allowNetworkCaching (aAllowed : Bool)
  | allowPeerCaching (aAllowed : Bool)
  | allowRootCaching (aAllowed : Bool)
  | allowIdentityCaching (aAllowed : Bool)
  | start
  | stop
  | freeResources
  | join (aNetworkId : UInt64)
  | leave (aNetworkId : UInt64)

def ServiceOp.exec : ServiceOp → Prog Libzt EmptyResult
  | setIdentityFromStorage aPath => Config.setIdentityFromStorage aPath
  | setIdentityFromMemory aKey aKeyLength => Config.setIdentityFromMemory aKey aKeyLength
  | setPort aPort => Config.setPort aPort
  | setRandomPortRange aStartPort aEndPort => Config.setRandomPortRange aStartPort aEndPort
  | allowSecondaryPort aAllowed => Config.allowSecondaryPort aAllowed
  | allowPortMapping aAllowed => Config.allowPortMapping aAllowed
  | allowNetworkCaching aAllowed => Config.allowNetworkCaching aAllowed
  | allowPeerCaching aAllowed => Config.allowPeerCaching aAllowed
  | allowRootCaching aAllowed => Config.allowRootCaching aAllowed
  | allowIdentityCaching aAllowed => Config.allowIdentityCaching aAllowed
  | start => LocalNode.start
  | stop => LocalNode.stop
  | freeResources => LocalNode.freeResources
  | join aNetworkId => Network.join aNetworkId
  | leave aNetworkId => Network.leave aNetworkId

@[simp] theorem hasError_checkedResult {α : Type} {function callee : String}
    {named : List NamedCode} {status : Status} {value : α} :
    (checkedResult function callee named status value).hasError = false ↔
      status.res = ztsErrOk := by
  unfold checkedResult
  split_ifs with hok
  · simp [hok]
  · split <;> simp [hok]

end Ztcpp
