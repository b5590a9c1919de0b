import NetworkEngine.Lib.Checked

/-!
# Observation — addresses, packets and packet observations

`network_core::{packet, timestamp, observation}` and the `std::net` addresses.  A packet owns its
authoritative bytes; an observation wraps a packet with its provenance and never changes it.
-/

namespace NetworkEngine

open Rust

/-! ## 1. Addresses -/

structure Ipv4Addr where
  a : UInt8
  b : UInt8
  c : UInt8
  d : UInt8
  deriving DecidableEq, Repr

structure Ipv6Addr where
  octets : Vector UInt8 16
  deriving DecidableEq, Repr

inductive IpAddr where
  | v4 (addr : Ipv4Addr)
  | v6 (addr : Ipv6Addr)
  deriving DecidableEq, Repr

/-- `<[u8; 16]>::try_from(slice)`. -/
def Ipv6Addr.tryFrom (s : Bytes) : Option Ipv6Addr :=
  if h : s.toList.toArray.size = 16 then some ⟨⟨s.toList.toArray, h⟩⟩ else none

/-! ## 2. Observations -/

/-- `ObservationId(u64)`. -/
abbrev ObservationId := UInt64

inductive BackendSource where
  | wfp
  | windivert
  | npcap
  | iphelper
  | etw
  | unknown
  deriving DecidableEq, Repr

/-- Its `{:?}`. -/
def BackendSource.debug : BackendSource → String
  | wfp => "Wfp"
  | windivert => "WinDivert"
  | npcap => "Npcap"
  | iphelper => "IpHelper"
  | etw => "Etw"
  | unknown => "Unknown"

inductive Direction where
  | inbound
  | outbound
  | unknown
  deriving DecidableEq, Repr

structure Timestamp where
  nanos : UInt64
  deriving DecidableEq, Repr

structure Packet where
  rawBytes : Bytes
  deriving DecidableEq, Repr

def Packet.len (p : Packet) : Nat := p.rawBytes.len

def Packet.isEmpty (p : Packet) : Bool := p.rawBytes.isEmpty

/-- Opaque context the producing backend needs to complete a later action on the packet. -/
structure NativeCaptureContext where
  backend : BackendSource
  bytes : Bytes
  deriving DecidableEq, Repr

structure PacketObservation where
  observationId : ObservationId
  backendSource : BackendSource
  captureTimestamp : Timestamp
  ingestionTimestamp : Timestamp
  direction : Direction
  interfaceIdentity : String
  packetLength : Nat
  packet : Packet
  nativeMetadata : List (String × String)
  nativeContext : Option NativeCaptureContext
  provenance : List String
  deriving DecidableEq, Repr

namespace PacketObservation

/-- `PacketObservation::new`. -/
def new (observationId : ObservationId) (backendSource : BackendSource)
    (captureTimestamp ingestionTimestamp : Timestamp) (direction : Direction)
    (interfaceIdentity : String) (packet : Packet) : PacketObservation where
  observationId := observationId
  backendSource := backendSource
  captureTimestamp := captureTimestamp
  ingestionTimestamp := ingestionTimestamp
  direction := direction
  interfaceIdentity := interfaceIdentity
  packetLength := packet.len
  packet := packet
  nativeMetadata := []
  nativeContext := none
  provenance := []

def withNativeMetadata (o : PacketObservation) (key value : String) : PacketObservation :=
  { o with nativeMetadata := o.nativeMetadata ++ [(key, value)] }

def withNativeContext (o : PacketObservation) (context : NativeCaptureContext) :
    PacketObservation :=
  { o with nativeContext := some context }

def withProvenance (o : PacketObservation) (entry : String) : PacketObservation :=
  { o with provenance := o.provenance ++ [entry] }

end PacketObservation

end NetworkEngine
