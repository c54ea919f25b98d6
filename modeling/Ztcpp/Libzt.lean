import Ztcpp.Library.Interaction
import Ztcpp.Platform

/-!
# The calls ZTCpp makes to libzt

One constructor for each function of `ZeroTierSockets.h` that the modelled
code calls, with the arguments it passes.  A pointer to memory that libzt
reads is the bytes there; memory that libzt may write comes back in the reply.
`zts_errno` is read only right after a call, so its value is part of the reply
to that call.
-/

namespace Ztcpp

open Octets Interaction

inductive Call where
  | ztsSocket (family type protocol : ℤ)
  | ztsBsdBind (fd : ℤ) (addr : SockaddrStorage) (addrlen : ℕ)
  | ztsBsdConnect (fd : ℤ) (addr : SockaddrStorage) (addrlen : ℕ)
  | ztsBsdListen (fd backlog : ℤ)
  | ztsAccept (fd : ℤ)
  | ztsSend (fd : ℤ) (buf : List UInt8) (len : UInt64) (flags : ℤ)
  | ztsBsdSendto (fd : ℤ) (buf : List UInt8) (len : UInt64) (flags : ℤ)
      (addr : SockaddrStorage) (addrlen : ℕ)
  | ztsRecv (fd : ℤ) (buf : List UInt8) (len : UInt64) (flags : ℤ)
  | ztsBsdRecvfrom (fd : ℤ) (buf : List UInt8) (len : UInt64) (flags : ℤ)
      (addr : SockaddrStorage) (addrlen : ℕ)
  | ztsClose (fd : ℤ)
  | ztsBsdPoll (fd : ℤ) (events : BitVec 16) (nfds : ℕ) (timeout : ℤ)
  | ztsBsdGetsockname (fd : ℤ) (addr : SockaddrStorage) (addrlen : ℕ)
  | ztsBsdGetpeername (fd : ℤ) (addr : SockaddrStorage) (addrlen : ℕ)
  | ztsInitFromStorage (path : List UInt8)
  | ztsInitFromMemory (key : Option (List UInt8)) (len : UInt64)
  | ztsInitSetPort (port : UInt16)
  | ztsInitSetRandomPortRange (startPort endPort : UInt16)
  | ztsInitAllowSecondaryPort (allowed : ℕ)
  | ztsInitAllowPortMapping (allowed : ℕ)
  | ztsInitAllowNetCache (allowed : ℕ)
  | ztsInitAllowPeerCache (allowed : ℕ)
  | ztsInitAllowRootsCache (allowed : ℕ)
  | ztsInitAllowIdCache (allowed : ℕ)
  /-- The handler passed is always `detail::IntermediateEventHandler`. -/
  | ztsInitSetEventHandler
  | ztsNodeStart
  | ztsNodeStop
  | ztsNodeFree
  | ztsNetJoin (netId : UInt64)
  | ztsNetLeave (netId : UInt64)
  | ztsNetGetName (netId : UInt64) (buf : List UInt8) (len : ℕ)

structure Status where
  res : ℤ
  errno : ℤ

structure BufferReply extends Status where
  buf : List UInt8

structure AddressReply extends Status where
  addr : SockaddrStorage

structure BufferAddressReply extends Status where
  buf : List UInt8
  addr : SockaddrStorage

structure PollReply extends Status where
  revents : BitVec 16

abbrev Call.Reply : Call → Type
  | .ztsRecv .. | .ztsNetGetName .. => BufferReply
  | .ztsBsdRecvfrom .. => BufferAddressReply
  | .ztsBsdGetsockname .. | .ztsBsdGetpeername .. => AddressReply
  | .ztsBsdPoll .. => PollReply
  | _ => Status

def Call.status : (c : Call) → c.Reply → Status
  | .ztsSocket .., r | .ztsBsdBind .., r | .ztsBsdConnect .., r | .ztsBsdListen .., r
  | .ztsAccept .., r | .ztsSend .., r | .ztsBsdSendto .., r | .ztsClose .., r
  | .ztsInitFromStorage .., r | .ztsInitFromMemory .., r | .ztsInitSetPort .., r
  | .ztsInitSetRandomPortRange .., r | .ztsInitAllowSecondaryPort .., r
  | .ztsInitAllowPortMapping .., r | .ztsInitAllowNetCache .., r | .ztsInitAllowPeerCache .., r
  | .ztsInitAllowRootsCache .., r | .ztsInitAllowIdCache .., r | .ztsInitSetEventHandler, r
  | .ztsNodeStart, r | .ztsNodeStop, r | .ztsNodeFree, r | .ztsNetJoin .., r
  | .ztsNetLeave .., r => r
  | .ztsRecv .., r | .ztsNetGetName .., r => r.toStatus
  | .ztsBsdRecvfrom .., r => r.toStatus
  | .ztsBsdGetsockname .., r | .ztsBsdGetpeername .., r => r.toStatus
  | .ztsBsdPoll .., r => r.toStatus

/-- The reply `res` to any call, with the memory passed left as it was. -/
def Call.answer (res : ℤ) : (c : Call) → c.Reply
  | .ztsSocket .. | .ztsBsdBind .. | .ztsBsdConnect .. | .ztsBsdListen .. | .ztsAccept ..
  | .ztsSend .. | .ztsBsdSendto .. | .ztsClose .. | .ztsInitFromStorage ..
  | .ztsInitFromMemory .. | .ztsInitSetPort .. | .ztsInitSetRandomPortRange ..
  | .ztsInitAllowSecondaryPort .. | .ztsInitAllowPortMapping .. | .ztsInitAllowNetCache ..
  | .ztsInitAllowPeerCache .. | .ztsInitAllowRootsCache .. | .ztsInitAllowIdCache ..
  | .ztsInitSetEventHandler | .ztsNodeStart | .ztsNodeStop | .ztsNodeFree | .ztsNetJoin ..
  | .ztsNetLeave .. => (⟨res, 0⟩ : Status)
  | .ztsRecv _ buf .. => (⟨⟨res, 0⟩, buf⟩ : BufferReply)
  | .ztsNetGetName _ buf _ => (⟨⟨res, 0⟩, buf⟩ : BufferReply)
  | .ztsBsdRecvfrom _ buf _ _ addr _ => (⟨⟨res, 0⟩, buf, addr⟩ : BufferAddressReply)
  | .ztsBsdGetsockname _ addr _ => (⟨⟨res, 0⟩, addr⟩ : AddressReply)
  | .ztsBsdGetpeername _ addr _ => (⟨⟨res, 0⟩, addr⟩ : AddressReply)
  | .ztsBsdPoll .. => (⟨⟨res, 0⟩, 0⟩ : PollReply)

abbrev Libzt : Interface where
  Call := Call
  Reply := Call.Reply

abbrev callLibzt (c : Call) : Prog Libzt c.Reply := Prog.perform (I := Libzt) c

abbrev ZtsEvent := Event Libzt

def ZtsEvent.res (e : ZtsEvent) : ℤ := (e.call.status e.reply).res

inductive DescriptorUse where
  | opens
  | accepts (fd : ℤ)
  | closes (fd : ℤ)
  | uses (fd : ℤ)
  | none
  deriving DecidableEq

def Call.descriptorUse : Call → DescriptorUse
  | .ztsSocket .. => .opens
  | .ztsAccept fd => .accepts fd
  | .ztsClose fd => .closes fd
  | .ztsBsdBind fd .. | .ztsBsdConnect fd .. | .ztsBsdListen fd .. | .ztsSend fd ..
  | .ztsBsdSendto fd .. | .ztsRecv fd .. | .ztsBsdRecvfrom fd .. | .ztsBsdPoll fd ..
  | .ztsBsdGetsockname fd .. | .ztsBsdGetpeername fd .. => .uses fd
  | _ => .none

end Ztcpp
