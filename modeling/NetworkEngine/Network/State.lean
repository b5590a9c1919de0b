import NetworkEngine.Network.Cidr

/-!
# State — what the Engine knows of the host's network

`network_state`: interfaces, addresses, routes, neighbors and gateways, as last read from the
operating system.  A `NetworkState` is a snapshot behind a lock; here it is the snapshot.
-/

namespace NetworkEngine

open Rust

namespace NetworkState

/-! ## 1. Interfaces -/

inductive InterfaceKind where
  | unknown
  | ethernet
  | wifi
  | loopback
  | tunnel
  | virtual
  | other
  deriving DecidableEq, Repr

inductive InterfaceState where
  | unknown
  | down
  | up
  | dormant
  | testing
  deriving DecidableEq, Repr

def InterfaceState.isOperational : InterfaceState → Bool
  | up | dormant => true
  | unknown | down | testing => false

structure InterfaceInfo where
  id : UInt64
  name : String
  description : String
  kind : InterfaceKind
  state : InterfaceState
  mtu : UInt32
  macAddress : Option (Vector UInt8 6)
  ifIndex : Option UInt32
  luid : Option UInt64
  deriving DecidableEq, Repr

def InterfaceInfo.new (id : UInt64) (name : String) : InterfaceInfo :=
  ⟨id, name, "", .unknown, .unknown, 1500, none, none, none⟩

def InterfaceInfo.withMtu (i : InterfaceInfo) (mtu : UInt32) : Option InterfaceInfo :=
  if mtu = 0 then none else some { i with mtu }

def InterfaceInfo.isOperational (i : InterfaceInfo) : Bool := i.state.isOperational

/-! ## 2. Addresses -/

inductive AddressScope where
  | unknown
  | host
  | link
  | site
  | global
  deriving DecidableEq, Repr

def AddressScope.fromIp : IpAddr → AddressScope
  | .v4 ip =>
    if ip.a = 127 then .host
    else if ip.a = 169 ∧ ip.b = 254 then .link
    else if ip.a = 10 ∨ (ip.a = 172 ∧ ip.b &&& 0xf0 = 16) ∨ (ip.a = 192 ∧ ip.b = 168) then .site
    else .global
  | .v6 ip =>
    let segment := Bytes.be16 (ip.octets.get 0) (ip.octets.get 1)
    if ip.octets.toList = List.replicate 15 0 ++ [1] then .host
    else if segment &&& 0xffc0 = 0xfe80 then .link
    else if segment &&& 0xfe00 = 0xfc00 then .site
    else .global

inductive AddressState where
  | unknown
  | tentative
  | preferred
  | deprecated
  | invalid
  deriving DecidableEq, Repr

structure AddressInfo where
  interfaceId : UInt64
  address : IpAddr
  prefixLength : UInt8
  scope : AddressScope
  state : AddressState
  dnsEligible : Bool
  defaultRouteEligible : Bool
  deriving DecidableEq, Repr

namespace AddressInfo

def new (interfaceId : UInt64) (address : IpAddr) (prefixLength : UInt8) : Option AddressInfo :=
  if address.maxPrefix < prefixLength then none
  else some ⟨interfaceId, address, prefixLength, .fromIp address, .preferred, true, true⟩

def contains {ε : Type} (i : AddressInfo) (ip : IpAddr) : Checked ε Bool :=
  inFamily
    (fun network candidate => matchesUnder network.toU32 candidate.toU32 i.prefixLength)
    (fun network candidate => matchesUnder network.toU128 candidate.toU128 i.prefixLength)
    i.address ip

theorem contains_eq {ε : Type} {i : AddressInfo} (h : i.prefixLength ≤ i.address.maxPrefix)
    (ip : IpAddr) :
    (i.contains ip : Checked ε Bool) = .ok (i.address.Covers i.prefixLength.toNat ip) :=
  inFamily_eq h (fun _ _ hle => matchesUnder_eq _ _ hle) (fun _ _ hle => matchesUnder_eq _ _ hle)

end AddressInfo

/-! ## 3. Routes -/

inductive RouteProtocol where
  | unknown
  | other
  | localRoute
  | static
  | dhcp
  | routerAdvertisement
  | netMgmt
  deriving DecidableEq, Repr

inductive RouteType where
  | unknown
  | other
  | unicast
  | localRoute
  | broadcast
  | multicast
  | blackhole
  | unreachable
  | prohibit
  deriving DecidableEq, Repr

def RouteType.isForwarding (t : RouteType) : Bool := t = .unicast

structure RouteInfo where
  id : UInt64
  destination : IpAddr
  prefixLength : UInt8
  gateway : Option IpAddr
  interfaceId : UInt64
  metric : UInt32
  protocol : RouteProtocol
  routeType : RouteType
  enabled : Bool
  deriving DecidableEq, Repr

namespace RouteInfo

def new (id : UInt64) (destination : IpAddr) (prefixLength : UInt8) (interfaceId : UInt64) :
    Option RouteInfo :=
  if destination.maxPrefix < prefixLength then none
  else some ⟨id, destination, prefixLength, none, interfaceId, 0, .unknown, .unicast, true⟩

def withGateway (r : RouteInfo) (gateway : IpAddr) : Option RouteInfo :=
  if gateway.isIpv4 ≠ r.destination.isIpv4 then none else some { r with gateway := some gateway }

def isUsable (r : RouteInfo) : Bool := r.enabled && r.routeType.isForwarding

def contains {ε : Type} (r : RouteInfo) (ip : IpAddr) : Checked ε Bool :=
  if r.destination.isIpv4 ≠ ip.isIpv4 then pure false
  else
    inFamily
      (fun network candidate => matchesUnder network.toU32 candidate.toU32 r.prefixLength)
      (fun network candidate => matchesUnder network.toU128 candidate.toU128 r.prefixLength)
      r.destination ip

theorem contains_eq {ε : Type} {r : RouteInfo} (h : r.prefixLength ≤ r.destination.maxPrefix)
    (ip : IpAddr) :
    (r.contains ip : Checked ε Bool) = .ok (r.destination.Covers r.prefixLength.toNat ip) := by
  unfold contains
  by_cases hother : r.destination.isIpv4 ≠ ip.isIpv4
  · have hnone : ¬ r.destination.Covers r.prefixLength.toNat ip := fun hcovers => hother hcovers.1
    rw [if_pos hother]
    exact congrArg Except.ok (decide_eq_false hnone).symm
  · rw [if_neg hother]
    exact inFamily_eq h (fun _ _ hle => matchesUnder_eq _ _ hle)
      (fun _ _ hle => matchesUnder_eq _ _ hle)

end RouteInfo

/-! ## 4. Neighbors and gateways -/

inductive NeighborState where
  | unknown
  | reachable
  | stale
  | delay
  | probe
  | failed
  | incomplete
  | permanent
  | unreachable
  deriving DecidableEq, Repr

def NeighborState.isFailed : NeighborState → Bool
  | failed | unreachable => true
  | unknown | reachable | stale | delay | probe | incomplete | permanent => false

structure NeighborInfo where
  interfaceId : UInt64
  ipAddress : IpAddr
  macAddress : Option (Vector UInt8 6)
  state : NeighborState
  isRouter : Bool
  deriving DecidableEq, Repr

def NeighborInfo.new (interfaceId : UInt64) (ipAddress : IpAddr) : NeighborInfo :=
  ⟨interfaceId, ipAddress, none, .unknown, false⟩

def NeighborInfo.isUsable (n : NeighborInfo) : Bool := n.macAddress.isSome && !n.state.isFailed

inductive GatewayType where
  | unknown
  | default
  | static
  | dhcp
  | routerAdvertisement
  | onLink
  deriving DecidableEq, Repr

structure GatewayInfo where
  interfaceId : UInt64
  address : IpAddr
  gatewayType : GatewayType
  metric : UInt32
  reachable : Bool
  enabled : Bool
  deriving DecidableEq, Repr

def GatewayInfo.new (interfaceId : UInt64) (address : IpAddr) : GatewayInfo :=
  ⟨interfaceId, address, .unknown, 0, false, true⟩

/-! ## 5. The snapshot -/

structure DnsConfiguration where
  servers : List IpAddr
  searchDomains : List String
  enabled : Bool
  deriving DecidableEq, Repr

def DnsConfiguration.new : DnsConfiguration := ⟨[], [], true⟩

structure NetworkStateSnapshot where
  interfaces : List InterfaceInfo
  addresses : List AddressInfo
  routes : List RouteInfo
  neighbors : List NeighborInfo
  gateways : List GatewayInfo
  dns : DnsConfiguration
  generation : UInt64
  deriving DecidableEq, Repr

namespace NetworkStateSnapshot

def new : NetworkStateSnapshot := ⟨[], [], [], [], [], .new, 0⟩

def findInterface (s : NetworkStateSnapshot) (id : UInt64) : Option InterfaceInfo :=
  s.interfaces.find? (·.id = id)

def findNeighbor (s : NetworkStateSnapshot) (address : IpAddr) : Option NeighborInfo :=
  s.neighbors.find? (·.ipAddress = address)

def nextGeneration (s : NetworkStateSnapshot) : NetworkStateSnapshot :=
  { s with generation := saturatingAdd64 s.generation 1 }

def setInterfaces (interfaces : List InterfaceInfo) (s : NetworkStateSnapshot) :
    NetworkStateSnapshot :=
  { s with interfaces }.nextGeneration

def setAddresses (addresses : List AddressInfo) (s : NetworkStateSnapshot) :
    NetworkStateSnapshot :=
  { s with addresses }.nextGeneration

def setRoutes (routes : List RouteInfo) (s : NetworkStateSnapshot) : NetworkStateSnapshot :=
  { s with routes }.nextGeneration

def setNeighbors (neighbors : List NeighborInfo) (s : NetworkStateSnapshot) :
    NetworkStateSnapshot :=
  { s with neighbors }.nextGeneration

def setGateways (gateways : List GatewayInfo) (s : NetworkStateSnapshot) : NetworkStateSnapshot :=
  { s with gateways }.nextGeneration

end NetworkStateSnapshot

end NetworkState

/-- `NetworkState`, by what its lock protects. -/
abbrev NetworkState := NetworkState.NetworkStateSnapshot

namespace NetworkState

def interface (s : NetworkState) (id : UInt64) : Option InterfaceInfo := s.findInterface id

def neighbor (s : NetworkState) (address : IpAddr) : Option NeighborInfo := s.findNeighbor address

end NetworkState

end NetworkEngine
