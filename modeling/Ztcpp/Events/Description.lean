import Ztcpp.Events.AddressReports
import Ztcpp.Library.Text

/-!
# Descriptions of events

The overloads of `EventDescription`, one for each class of details, with the
payload that the details point to; `none` is a null `aDetails`, and for an
event code a value without an enumerator.
-/

namespace Ztcpp

open Octets

/-- `zts_inet_ntop` into a buffer that is large enough, and the roles of
`zts_peer_info_t`. -/
class EventTexts where
  ztsInetNtop : (af : UInt8) → (src : Image 16) → Option String
  ztsPeerRoleLeaf : ℤ
  ztsPeerRoleMoon : ℤ
  ztsPeerRolePlanet : ℤ

export EventTexts (ztsInetNtop ztsPeerRoleLeaf ztsPeerRoleMoon ztsPeerRolePlanet)

/-- `zts_net_info_t`, of which descriptions show the id only. -/
structure NetInfo where
  netId : UInt64

/-- `zts_node_info_t`. -/
structure ZtsNodeInfo where
  nodeId : UInt64

/-- `zts_peer_info_t`. -/
structure PeerInfo where
  peerId : UInt64
  role : ℤ

inductive PeerRole where
  | leaf
  | moon
  | planet
  /-- `static_cast<PeerRole>(-1)`. -/
  | unnamed
  deriving DecidableEq

section

variable [EventTexts]

/-- `PeerDetails::getRole`. -/
def PeerInfo.getRole (info : PeerInfo) : PeerRole :=
  if info.role = ztsPeerRoleLeaf then .leaf
  else if info.role = ztsPeerRoleMoon then .moon
  else if info.role = ztsPeerRolePlanet then .planet
  else .unnamed

/-- The macro `PEER_ROLE_STR`. -/
def PeerRole.text (role : PeerRole) : String :=
  if role = .leaf then "Leaf (Normal node)"
  else if role = .moon then "Moon (Root server / P2P connection orchestrator)"
  else if role = .planet then "Planet (Root server / P2P connection orchestrator)"
  else "<Unknown>"

variable [Platform]

/-- `IpAddress::toString`, which `operator<<` prints. -/
def IpAddress.toString (a : IpAddress) : String :=
  let res := if ¬ a.isValid then none else
    ztsInetNtop (if a.getAddressFamily = .ipv4 then ztsAfInet else ztsAfInet6) a.addressBuf
  match res with
  | some res => res
  | none => "<Invalid IP address>"

/-- A number after `std::hex`. -/
def hexText (n : UInt64) : String := .ofList (Nat.toDigits 16 n.toNat)

namespace EventDescription

/-! ## The parts that depend on the details -/

/-- A line with the data, or the line that replaces it. -/
def lines (label unavailable : String) : Option String → String
  | some data => label ++ data
  | none => unavailable

def addressData (stack : IpAddress) (aDetails : Option AddrInfo) : String :=
  lines "\n    IP address: " "\n    [No data available]" (aDetails.map fun info ↦
    (toIpAddressAndPort stack info.addr).1.toString ++ ("\n    Node ID: " ++ hexText info.netId))

def networkData (aDetails : Option NetInfo) : String :=
  lines "\n    Network ID: " "\n    [No data available]" (aDetails.map fun info ↦
    hexText info.netId)

def nodeData (aDetails : Option ZtsNodeInfo) : String :=
  lines "\n    Node ID: " "\n    [No data available]" (aDetails.map fun info ↦
    hexText info.nodeId)

def peerData (aDetails : Option PeerInfo) : String :=
  lines "\n    Node info: ID=" "\n    [Node details unavailable]" (aDetails.map fun info ↦
    hexText info.peerId ++ (", Role=" ++ info.getRole.text))

/-! ## The texts -/

def className : DetailClass → String
  | .address => "Address event"
  | .network => "Network event"
  | .networkInterface => "Network interface event"
  | .networkStack => "Networking stack event"
  | .node => "Node event"
  | .peer => "Peer event"
  | .route => "Route event"

def codeName {class' : DetailClass} : Option (EventCode class') → String
  | some .addressAddedIPv4 => "AddedIPv4"
  | some .addressRemovedIPv4 => "RemovedIPv4"
  | some .addressAddedIPv6 => "AddedIPv6"
  | some .addressRemovedIPv6 => "RemovedIPv6"
  | some .networkNotFound => "Up"
  | some .networkClientTooOld => "ClientTooOld"
  | some .networkRequestingConfiguration => "RequestingConfiguration"
  | some .networkOK => "OK"
  | some .networkAccessDenied => "AccessDenied"
  | some .networkReadyIPv4 => "ReadyIPv4"
  | some .networkReadyIPv6 => "ReadyIPv6"
  | some .networkReadyIPv4IPv6 => "ReadyIPv4_IPv6"
  | some .networkDown => "Down"
  | some .networkUpdate => "Update"
  | some .networkInterfaceUp => "Up"
  | some .networkInterfaceDown => "Down"
  | some .networkInterfaceRemoved => "Removed"
  | some .networkInterfaceLinkUp => "LinkUp"
  | some .networkInterfaceLinkDown => "LinkDown"
  | some .networkStackUp => "Up"
  | some .networkStackDown => "Down"
  | some .nodeUp => "Up"
  | some .nodeOnline => "Online"
  | some .nodeOffline => "Offline"
  | some .nodeDown => "Down"
  | some .nodeIdentityCollision => "IdentityCollision"
  | some .nodeUnrecoverableError => "UnrecoverableError"
  | some .nodeNormalTermination => "NormalTermination"
  | some .peerDirect => "Direct"
  | some .peerRelay => "Relay"
  | some .peerUnreachable => "Unreachable"
  | some .peerPathDiscovered => "PathDiscovered"
  | some .peerPathDead => "PathDead"
  | some .routeAdded => "Added"
  | some .routeRemoved => "Removed"
  | none => "Unknown"

def constantName {class' : DetailClass} : Option (EventCode class') → String
  | some .addressAddedIPv4 => "ZTS_EVENT_ADDR_ADDED_IP4"
  | some .addressRemovedIPv4 => "ZTS_EVENT_ADDR_REMOVED_IP4"
  | some .addressAddedIPv6 => "ZTS_EVENT_ADDR_ADDED_IP6"
  | some .addressRemovedIPv6 => "ZTS_EVENT_ADDR_REMOVED_IP6"
  | some .networkNotFound => "ZTS_EVENT_NETWORK_NOT_FOUND"
  | some .networkClientTooOld => "ZTS_EVENT_NETWORK_CLIENT_TOO_OLD"
  | some .networkRequestingConfiguration => "ZTS_EVENT_NETWORK_REQ_CONFIG"
  | some .networkOK => "ZTS_EVENT_NETWORK_OK"
  | some .networkAccessDenied => "ZTS_EVENT_NETWORK_ACCESS_DENIED"
  | some .networkReadyIPv4 => "ZTS_EVENT_NETWORK_READY_IP4"
  | some .networkReadyIPv6 => "ZTS_EVENT_NETWORK_READY_IP6"
  | some .networkReadyIPv4IPv6 => "ZTS_EVENT_NETWORK_READY_IP4_IP6"
  | some .networkDown => "ZTS_EVENT_NETWORK_DOWN"
  | some .networkUpdate => "ZTS_EVENT_NETWORK_UPDATE"
  | some .networkInterfaceUp => "ZTS_EVENT_NETIF_UP"
  | some .networkInterfaceDown => "ZTS_EVENT_NETIF_DOWN"
  | some .networkInterfaceRemoved => "ZTS_EVENT_NETIF_REMOVED"
  | some .networkInterfaceLinkUp => "ZTS_EVENT_NETIF_LINK_UP"
  | some .networkInterfaceLinkDown => "ZTS_EVENT_NETIF_LINK_DOWN"
  | some .networkStackUp => "ZTS_EVENT_STACK_UP"
  | some .networkStackDown => "ZTS_EVENT_STACK_DOWN"
  | some .nodeUp => "ZTS_EVENT_NODE_UP"
  | some .nodeOnline => "ZTS_EVENT_NODE_ONLINE"
  | some .nodeOffline => "ZTS_EVENT_NODE_OFFLINE"
  | some .nodeDown => "ZTS_EVENT_NODE_DOWN"
  | some .nodeIdentityCollision => "ZTS_EVENT_NODE_IDENTITY_COLLISION"
  | some .nodeUnrecoverableError => "ZTS_EVENT_NODE_UNRECOVERABLE_ERROR"
  | some .nodeNormalTermination => "ZTS_EVENT_NODE_NORMAL_TERMINATION"
  | some .peerDirect => "ZTS_EVENT_PEER_DIRECT"
  | some .peerRelay => "ZTS_EVENT_PEER_RELAY"
  | some .peerUnreachable => "ZTS_EVENT_PEER_UNREACHABLE"
  | some .peerPathDiscovered => "ZTS_EVENT_PEER_PATH_DISCOVERED"
  | some .peerPathDead => "ZTS_EVENT_PEER_PATH_DEAD"
  | some .routeAdded => "ZTS_EVENT_ROUTE_ADDED"
  | some .routeRemoved => "ZTS_EVENT_ROUTE_REMOVED"
  | none => "?"

/-- The line of a code, as all overloads begin. -/
def title (class' : DetailClass) (aEventCode : Option (EventCode class')) : String :=
  className class' ++ (": " ++ (codeName aEventCode ++ (" (" ++ (constantName aEventCode ++ ")"))))

/-- The text after the details; many codes have none. -/
def comment {class' : DetailClass} : EventCode class' → String
  | .addressAddedIPv4 | .addressAddedIPv6 =>
      "\n    Comment: This is the node's virtual IP address on the specified network."
  | .addressRemovedIPv4 | .addressRemovedIPv6 =>
      "\n    Comment: This IP address of this node has been removed from the specified network."
  | .networkNotFound => "\n    Comment: Are you sure the network ID is correct?"
  | .networkRequestingConfiguration =>
      "\n    Comment: Requesting configuration, please wait a few seconds."
  | .networkAccessDenied =>
      "\n    Comment: Access to virtual network denied. Was the node authorized?"
  | .networkReadyIPv4 =>
      "\n    Comment: Configuration received. IPv4 traffic can now be sent over the network."
  | .networkReadyIPv6 =>
      "\n    Comment: Configuration received. IPv6 traffic can now be sent over the network."
  | .networkReadyIPv4IPv6 =>
      "\n    Comment: Configuration received. " ++
      "IPv4 and IPv6 traffic can now be sent over the network."
  | .networkUpdate => "\n    Comment: Network state has changed."
  | .nodeOffline => "\n    Comment: Check your physical Internet connection, " ++
      "router, firewall, etc. What ports are you blocking?"
  | .peerDirect => "\n    Comment: A direct path is known to this node."
  | .peerRelay => "\n    Comment: No direct path is known to this node."
  | .peerUnreachable => "\n    Comment: This node has become unreachable."
  | .peerPathDiscovered => "\n    Comment: A new direct path to this node was discovered."
  | .peerPathDead => "\n    Comment: A direct path to this node has died."
  | _ => ""

/-! ## The overloads -/

/-- `stack` is what the local `IpAddress` of `getIpAddress` holds.  The text for
`RemovedIPv6` has a second title. -/
def address (stack : IpAddress) (aEventCode : Option (EventCode .address))
    (aDetails : Option AddrInfo) : String :=
  match aEventCode with
  | some .addressRemovedIPv6 => title _ aEventCode ++ (title _ (some .addressRemovedIPv4) ++
      (addressData stack aDetails ++ comment .addressRemovedIPv6))
  | some code => title _ aEventCode ++ (addressData stack aDetails ++ comment code)
  | none => title _ aEventCode

def network (aEventCode : Option (EventCode .network)) (aDetails : Option NetInfo) : String :=
  match aEventCode with
  | some code => title _ aEventCode ++ (networkData aDetails ++ comment code)
  | none => title _ aEventCode

def networkInterface (aEventCode : Option (EventCode .networkInterface)) : String :=
  title _ aEventCode

def networkStack (aEventCode : Option (EventCode .networkStack)) : String := title _ aEventCode

/-- Only `Online` shows the details. -/
def node (aEventCode : Option (EventCode .node)) (aDetails : Option ZtsNodeInfo) : String :=
  match aEventCode with
  | some .nodeOnline => title _ aEventCode ++ nodeData aDetails
  | some code => title _ aEventCode ++ comment code
  | none => title _ aEventCode

def peer (aEventCode : Option (EventCode .peer)) (aDetails : Option PeerInfo) : String :=
  match aEventCode with
  | some code => title _ aEventCode ++ (peerData aDetails ++ comment code)
  | none => title _ aEventCode

def route (aEventCode : Option (EventCode .route)) : String := title _ aEventCode

end EventDescription

/-- The payload that details of a class point to, where a description reads it. -/
def Details : DetailClass → Type
  | .address => AddrInfo
  | .network => NetInfo
  | .node => ZtsNodeInfo
  | .peer => PeerInfo
  | .networkInterface | .networkStack | .route => Unit

/-- The overload that the class of the code selects. -/
def eventDescription (stack : IpAddress) : (class' : DetailClass) →
    Option (EventCode class') → Option (Details class') → String
  | .address, aEventCode, aDetails => EventDescription.address stack aEventCode aDetails
  | .network, aEventCode, aDetails => EventDescription.network aEventCode aDetails
  | .networkInterface, aEventCode, _ => EventDescription.networkInterface aEventCode
  | .networkStack, aEventCode, _ => EventDescription.networkStack aEventCode
  | .node, aEventCode, aDetails => EventDescription.node aEventCode aDetails
  | .peer, aEventCode, aDetails => EventDescription.peer aEventCode aDetails
  | .route, aEventCode, _ => EventDescription.route aEventCode

/-! ## What a description tells -/

/-- What a description shows of details: the text of the IP address and the
network, the network or the node, or the peer and its role. -/
def Content : DetailClass → Type
  | .address => String × UInt64
  | .network | .node => UInt64
  | .peer => UInt64 × PeerRole
  | .networkInterface | .networkStack | .route => Unit

def content (stack : IpAddress) : {class' : DetailClass} → Details class' → Content class'
  | .address, info => ((toIpAddressAndPort stack info.addr).1.toString, info.netId)
  | .network, info => info.netId
  | .node, info => info.nodeId
  | .peer, info => (info.peerId, info.getRole)
  | .networkInterface, _ | .networkStack, _ | .route, _ => ()

def showsDetails : {class' : DetailClass} → Option (EventCode class') → Bool
  | .address, some _ | .network, some _ | .peer, some _ | .node, some .nodeOnline => true
  | _, _ => false

/-- The class, the code if it has a name, and what the code has shown of the
details, if there are any. -/
structure Told where
  class' : DetailClass
  aEventCode : Option (EventCode class')
  content : Option (Content class')

def told (stack : IpAddress) {class' : DetailClass} (aEventCode : Option (EventCode class'))
    (aDetails : Option (Details class')) : Told where
  class' := class'
  aEventCode := aEventCode
  content := if showsDetails aEventCode then aDetails.map (content stack) else none

end

/-! ## Reading the parts back -/

theorem toList_hexText (n : UInt64) : (hexText n).toList = Nat.toDigits 16 n.toNat :=
  String.toList_ofList

theorem hexText_inj {m n : UInt64} : hexText m = hexText n ↔ m = n := by
  constructor
  · intro h
    have hdigits := congrArg String.toList h
    rw [toList_hexText, toList_hexText] at hdigits
    apply UInt64.toNat_inj.mp
    exact Text.toDigits_injective (by decide) (by decide) hdigits
  · exact congrArg hexText

theorem notMem_hexText (n : UInt64) {c : Char} (hc : ∀ d, Nat.digitChar d ≠ c) :
    c ∉ (hexText n).toList := by
  rw [toList_hexText]
  exact Text.notMem_toDigits (by decide) hc

theorem PeerRole.text_injective : Function.Injective PeerRole.text := by
  intro r r' h
  cases r <;> cases r' <;> first | rfl | simp [PeerRole.text] at h

namespace EventDescription

section

variable {α β γ : Type} {label unavailable : String} {s : α → String} {s' : β → String}
  {c : α → γ} {c' : β → γ} {d : Option α} {d' : Option β}

theorem lines_eq_iff (hlabel : ∀ data, label ++ data ≠ unavailable)
    (h : ∀ info info', s info = s' info' ↔ c info = c' info') :
    lines label unavailable (d.map s) = lines label unavailable (d'.map s') ↔
      d.map c = d'.map c' := by
  cases d with
  | none =>
      cases d' with
      | none => exact iff_of_true rfl rfl
      | some info' => exact iff_of_false (hlabel (s' info')).symm nofun
  | some info =>
      cases d' with
      | none => exact iff_of_false (hlabel (s info)) nofun
      | some info' =>
          rw [Option.map_some, Option.map_some, Option.map_some, Option.map_some, Option.some_inj,
            ← h info info']
          exact String.append_right_inj label

/-- The sixth character tells a line with data from the line that replaces it. -/
theorem label_ne (c : Char) (hlabel : label.toList[5]? = some c)
    (hunavailable : unavailable.toList[5]? ≠ some c) (data : String) :
    label ++ data ≠ unavailable := by
  rintro rfl
  apply hunavailable
  obtain ⟨hlength, -⟩ := List.getElem?_eq_some_iff.mp hlabel
  rw [String.toList_append, List.getElem?_append_left hlength]
  exact hlabel

end

theorem networkData_eq_iff {d d' : Option NetInfo} :
    networkData d = networkData d' ↔ d.map NetInfo.netId = d'.map NetInfo.netId :=
  lines_eq_iff (label_ne 'N' (by simp) (by simp)) fun _ _ ↦ hexText_inj

theorem nodeData_eq_iff {d d' : Option ZtsNodeInfo} :
    nodeData d = nodeData d' ↔ d.map ZtsNodeInfo.nodeId = d'.map ZtsNodeInfo.nodeId :=
  lines_eq_iff (label_ne 'N' (by simp) (by simp)) fun _ _ ↦ hexText_inj

/-! ## Classes and codes are read back -/

theorem className_injective : Function.Injective className := by
  intro c c' h
  cases c <;> cases c' <;> first | rfl | simp [className] at h

theorem codeName_injective {class' : DetailClass} :
    Function.Injective (codeName : Option (EventCode class') → String) := by
  intro code code' h
  cases code with
  | none =>
      cases code' with
      | none => rfl
      | some code' => cases code' <;> simp [codeName] at h
  | some code =>
      cases code' with
      | none => cases code <;> simp [codeName] at h
      | some code' => cases code <;> cases code' <;> first | rfl | simp [codeName] at h

theorem colon_notMem_className (c : DetailClass) : ':' ∉ (className c).toList := by
  cases c <;> simp [className]

theorem space_notMem_codeName {class' : DetailClass} (code : Option (EventCode class')) :
    ' ' ∉ (codeName code).toList := by
  cases code with
  | none => simp [codeName]
  | some code => cases code <;> simp [codeName]

theorem title_append_inj {class' class'' : DetailClass} {code : Option (EventCode class')}
    {code' : Option (EventCode class'')} {rest rest' : String}
    (h : title _ code ++ rest = title _ code' ++ rest') :
    (⟨class', code⟩ : Σ c, Option (EventCode c)) = ⟨class'', code'⟩ := by
  simp only [title, String.append_assoc] at h
  obtain ⟨hclass, hrest⟩ := (Text.append_label_inj (by simp) (colon_notMem_className _)
    (colon_notMem_className _)).mp h
  obtain rfl := className_injective hclass
  obtain ⟨hcode, -⟩ := (Text.append_label_inj (by simp) (space_notMem_codeName code)
    (space_notMem_codeName code')).mp hrest
  rw [codeName_injective hcode]

/-! ## Details are read back -/

variable [EventTexts]

theorem peerData_eq_iff {d d' : Option PeerInfo} : peerData d = peerData d' ↔
    d.map (fun info ↦ (info.peerId, info.getRole)) =
      d'.map fun info ↦ (info.peerId, info.getRole) := by
  apply lines_eq_iff (label_ne 'N' (by simp) (by simp))
  intro info info'
  have hcomma : ∀ n, ',' ∉ (hexText n).toList := fun n ↦
    notMem_hexText n fun d ↦ Nat.digitChar_ne ',' (by decide)
  rw [Text.append_label_inj (by simp) (hcomma _) (hcomma _), hexText_inj, Prod.mk.injEq,
    PeerRole.text_injective.eq_iff]

theorem IpAddress.notMem_toString [Platform]
    (hntop : ∀ af src text, ztsInetNtop af src = some text → '\n' ∉ text.toList)
    (a : IpAddress) : '\n' ∉ a.toString.toList := by
  unfold IpAddress.toString
  dsimp only
  split
  next text htext =>
    split at htext
    · cases htext
    · exact hntop _ _ _ htext
  next => simp

theorem addressData_eq_iff [Platform] {stack stack' : IpAddress} {d d' : Option AddrInfo}
    (hntop : ∀ af src text, ztsInetNtop af src = some text → '\n' ∉ text.toList) :
    addressData stack d = addressData stack' d' ↔
    d.map (fun info ↦ ((toIpAddressAndPort stack info.addr).1.toString, info.netId)) =
      d'.map fun info ↦ ((toIpAddressAndPort stack' info.addr).1.toString, info.netId) := by
  apply lines_eq_iff (label_ne 'I' (by simp) (by simp))
  intro info info'
  rw [Text.append_label_inj (by simp) (IpAddress.notMem_toString hntop _)
    (IpAddress.notMem_toString hntop _), hexText_inj, Prod.mk.injEq]

/-! ## The text in parts -/

variable [Platform]

/-- The lines that depend on the details. -/
def detailText (stack : IpAddress) : (class' : DetailClass) → Option (EventCode class') →
    Option (Details class') → String
  | .address, some _, aDetails => addressData stack aDetails
  | .network, some _, aDetails => networkData aDetails
  | .node, some .nodeOnline, aDetails => nodeData aDetails
  | .peer, some _, aDetails => peerData aDetails
  | _, _, _ => ""

theorem exists_around (class' : DetailClass) (aEventCode : Option (EventCode class')) :
    ∃ before after, ∀ stack aDetails, eventDescription stack class' aEventCode aDetails =
      title _ aEventCode ++ (before ++ (detailText stack class' aEventCode aDetails ++ after)) := by
  have hplain : ∀ front : String, front = front ++ ("" ++ ("" ++ "")) := by simp
  have hcomment : ∀ front after : String, front ++ after = front ++ ("" ++ ("" ++ after)) := by simp
  have hback : ∀ front data after : String,
      front ++ (data ++ after) = front ++ ("" ++ (data ++ after)) := by simp
  cases aEventCode with
  | none =>
      refine ⟨"", "", fun stack aDetails ↦ ?_⟩
      cases class' <;> exact hplain _
  | some code =>
      cases class' with
      | address =>
          cases code with
          | addressRemovedIPv6 =>
              exact ⟨title _ (some .addressRemovedIPv4), comment .addressRemovedIPv6,
                fun _ _ ↦ rfl⟩
          | _ => exact ⟨"", _, fun stack aDetails ↦ hback _ _ _⟩
      | network => exact ⟨"", comment code, fun stack aDetails ↦ hback _ _ _⟩
      | networkInterface => exact ⟨"", "", fun stack aDetails ↦ hplain _⟩
      | networkStack => exact ⟨"", "", fun stack aDetails ↦ hplain _⟩
      | node =>
          cases code with
          | nodeOnline =>
              refine ⟨"", "", fun stack aDetails ↦ ?_⟩
              rw [String.empty_append, String.append_empty]
              rfl
          | _ => exact ⟨"", _, fun stack aDetails ↦ hcomment _ _⟩
      | peer => exact ⟨"", comment code, fun stack aDetails ↦ hback _ _ _⟩
      | route => exact ⟨"", "", fun stack aDetails ↦ hplain _⟩

theorem detailText_eq_iff {stack stack' : IpAddress} {class' : DetailClass}
    {aEventCode : Option (EventCode class')} {aDetails aDetails' : Option (Details class')}
    (hntop : ∀ af src text, ztsInetNtop af src = some text → '\n' ∉ text.toList) :
    detailText stack class' aEventCode aDetails = detailText stack' class' aEventCode aDetails' ↔
      (told stack aEventCode aDetails).content = (told stack' aEventCode aDetails').content := by
  cases aEventCode with
  | none => cases class' <;> exact iff_of_true rfl rfl
  | some code =>
      cases class' with
      | address => exact addressData_eq_iff hntop
      | network => exact networkData_eq_iff
      | networkInterface => exact iff_of_true rfl rfl
      | networkStack => exact iff_of_true rfl rfl
      | node => cases code <;> first | exact nodeData_eq_iff | exact iff_of_true rfl rfl
      | peer => exact peerData_eq_iff
      | route => exact iff_of_true rfl rfl

end EventDescription

/-- A description says neither more nor less than what is told: the class, the
code unless it has no name, and the details that the code shows. -/
theorem description_eq_iff [EventTexts] [Platform] {stack stack' : IpAddress}
    {class' class'' : DetailClass} {aEventCode : Option (EventCode class')}
    {aEventCode' : Option (EventCode class'')} {aDetails : Option (Details class')}
    {aDetails' : Option (Details class'')}
    (hntop : ∀ af src text, ztsInetNtop af src = some text → '\n' ∉ text.toList) :
    eventDescription stack class' aEventCode aDetails =
        eventDescription stack' class'' aEventCode' aDetails' ↔
      told stack aEventCode aDetails = told stack' aEventCode' aDetails' := by
  obtain ⟨before, after, htext⟩ := EventDescription.exists_around class' aEventCode
  obtain ⟨before', after', htext'⟩ := EventDescription.exists_around class'' aEventCode'
  constructor
  · intro h
    have hevent := EventDescription.title_append_inj
      ((htext stack aDetails).symm.trans (h.trans (htext' stack' aDetails')))
    cases hevent
    rw [htext, htext, String.append_right_inj, String.append_right_inj,
      String.append_left_inj] at h
    have hcontent := (EventDescription.detailText_eq_iff hntop).mp h
    exact congrArg (Told.mk class' aEventCode) hcontent
  · intro h
    obtain ⟨rfl, hcode, hcontent⟩ := Told.mk.inj h
    obtain rfl := eq_of_heq hcode
    have hdetails : EventDescription.detailText stack class' aEventCode aDetails =
        EventDescription.detailText stack' class' aEventCode aDetails' :=
      (EventDescription.detailText_eq_iff hntop).mpr (eq_of_heq hcontent)
    rw [htext, htext, hdetails]

/-- Of `zts_inet_ntop`, only the texts of IPv4 addresses are here. -/
instance lwipTexts : EventTexts where
  ztsInetNtop af src :=
    if af = 2 then
      some ((src 0).toNat.repr ++ "." ++ (src 1).toNat.repr ++ "." ++ (src 2).toNat.repr ++ "." ++
        (src 3).toNat.repr)
    else none
  ztsPeerRoleLeaf := 0
  ztsPeerRoleMoon := 1
  ztsPeerRolePlanet := 2

theorem newline_notMem_lwipTexts (af : UInt8) (src : Image 16) (text : String)
    (h : ztsInetNtop af src = some text) : '\n' ∉ text.toList := by
  have hdigits : ∀ n : ℕ, '\n' ∉ n.repr.toList := by
    intro n
    rw [Nat.toList_repr]
    exact Text.notMem_toDigits (by decide) fun d ↦ Nat.digitChar_ne '\n' (by decide)
  obtain ⟨-, htext⟩ := Option.ite_none_right_eq_some.mp h
  rw [← Option.some_inj.mp htext]
  simp [hdigits, -Nat.toList_repr]

def unwrittenAddress : IpAddress := ⟨Image.zeros _, .ipv4, false⟩

/-- The details of an address `0.0.0.0` on a network. -/
def unspecifiedOn (netId : UInt64) : AddrInfo := AddrInfo.withFamily ⟨netId, Image.zeros _⟩ 2

theorem description_eq_iff_networks :
    eventDescription unwrittenAddress .address (some .addressAddedIPv4)
        (some (unspecifiedOn 1)) ≠
      eventDescription unwrittenAddress .address (some .addressAddedIPv4)
        (some (unspecifiedOn 2)) := by
  intro h
  have htold := (description_eq_iff newline_notMem_lwipTexts).mp h
  have hcontent := eq_of_heq (Told.mk.inj htold).2.2
  have hnetId : (unspecifiedOn 1).netId = (unspecifiedOn 2).netId :=
    (Prod.mk.inj (Option.some_inj.mp hcontent)).2
  exact absurd hnetId (by decide)

end Ztcpp
