import NetworkEngine.Capture.WinDivert
import NetworkEngine.Core.Statistics
import NetworkEngine.Parser.Datagram

/-!
# Processing — from an observation to its flow

`correlation::{identity, dedup, matcher}` and `process_observation_shared`.  The hash of an
observation, the clock and the metadata queue belong to the environment of a call.  The metadata
store and the work items sent to the resolver are only ever written here and are left out.
-/

namespace NetworkEngine

open Rust

/-! ## 1. Deduplication -/

/-- The state of `DedupFilter`; `order` lists the retained ids, the oldest first. -/
structure DedupFilter where
  ids : Finset UInt64
  order : List UInt64
  maxSize : Nat
  deriving DecidableEq

namespace DedupFilter

def new (maxSize : Nat) : DedupFilter := ⟨∅, [], maxSize⟩

/-- `while order.len() > max_size`: the oldest ids leave the window. -/
def expire (maxSize : Nat) (ids : Finset UInt64) : List UInt64 → DedupFilter
  | [] => ⟨ids, [], maxSize⟩
  | oldest :: order =>
    if maxSize < order.length + 1 then expire maxSize (ids.erase oldest) order
    else ⟨ids, oldest :: order, maxSize⟩

def isDuplicate (id : UInt64) (f : DedupFilter) : Bool × DedupFilter :=
  if f.maxSize = 0 then (false, f)
  else if id ∈ f.ids then (true, f)
  else (false, expire f.maxSize (insert id f.ids) (f.order ++ [id]))

end DedupFilter

/-! ## 2. The matcher -/

namespace NetworkCore

inductive Protocol where
  | tcp
  | udp
  | icmp
  | icmpV6
  | other (value : UInt8)
  deriving DecidableEq, Repr

def Protocol.toIpProtocol : Protocol → UInt8
  | icmp => 1
  | tcp => 6
  | udp => 17
  | icmpV6 => 58
  | other p => p

/-- `network_core::FlowKey`. -/
structure FlowKey where
  srcIp : IpAddr
  dstIp : IpAddr
  srcPort : UInt16
  dstPort : UInt16
  protocol : Protocol
  deriving DecidableEq, Repr

end NetworkCore

namespace ObservationMatcher

/-- `to_flow_key` behind its parse: ports are never made up for TCP and UDP. -/
def ofParsed (parsed : ParsedPacket) : Option NetworkCore.FlowKey := do
  let srcIp ← parsed.sourceIp
  let dstIp ← parsed.destinationIp
  match parsed.transport with
  | .tcp => return ⟨srcIp, dstIp, ← parsed.sourcePort, ← parsed.destinationPort, .tcp⟩
  | .udp => return ⟨srcIp, dstIp, ← parsed.sourcePort, ← parsed.destinationPort, .udp⟩
  | .icmp => return ⟨srcIp, dstIp, 0, 0, .icmp⟩
  | .icmpv6 => return ⟨srcIp, dstIp, 0, 0, .icmpV6⟩
  | .unknown => none

def toFlowKey (obs : PacketObservation) : Option NetworkCore.FlowKey :=
  (ParsedPacket.parse obs).toOption.bind ofParsed

end ObservationMatcher

def toFlowEngineKey (key : NetworkCore.FlowKey) : FlowKey :=
  ⟨key.srcIp, key.dstIp, key.srcPort, key.dstPort, key.protocol.toIpProtocol⟩

/-! ## 3. Processing an observation -/

/-- What `WorkerPool::enqueue` answers. -/
inductive EnqueueOutcome where
  | ok
  | full
  | disconnected
  deriving DecidableEq, Repr

def EnqueueOutcome.count (statistics : EngineStatistics) : EnqueueOutcome → EngineStatistics
  | ok => statistics
  | full => statistics.recordQueueSaturation
  | disconnected => statistics.recordError

structure ProcessingShared where
  flowTable : FlowTable
  dedup : DedupFilter
  statistics : EngineStatistics

/-- What one call takes from its environment. -/
structure ProcessingEnv where
  clock : FlowClock
  /-- The answer to the `i`-th lookup the call enqueues. -/
  enqueue : Nat → EnqueueOutcome

/-- The bytes `ObservationIdentity::from_observation` feeds to the hasher. -/
structure IdentityInput where
  captureNanos : UInt64
  packetLength : Nat
  bytes : Bytes
  deriving DecidableEq, Repr

section Processing

variable (hash : IdentityInput → UInt64)

/-- `ObservationIdentity::from_observation(..).source_hash`. -/
def sourceHash (o : PacketObservation) : UInt64 :=
  hash ⟨o.captureTimestamp.nanos, o.packetLength, o.packet.rawBytes⟩

/-- `let _ = table.record_packet(..)`: a refusal leaves the table as it is. -/
def recordFlow (clock : FlowClock) (o : PacketObservation) (table : FlowTable) : FlowTable :=
  match ObservationMatcher.toFlowKey o with
  | none => table
  | some key =>
    match table.recordPacket (toFlowEngineKey key) o.packetLength
        (.fromNetworkDirection o.direction) none clock with
    | .ok (_, table') => table'
    | .error _ => table

/-- The reverse lookups of a parsed packet, with what each adds to the statistics. -/
def enqueueLookups (env : ProcessingEnv) (parsed : Option ParsedPacket)
    (statistics : EngineStatistics) : EngineStatistics :=
  match parsed with
  | none => statistics
  | some parsed =>
    let addresses := [parsed.sourceIp, parsed.destinationIp].reduceOption
    addresses.zipIdx.foldl (fun statistics a => (env.enqueue a.2).count statistics) statistics

/-- `process_observation_shared`, which returns `Ok(())` whenever no mutex is poisoned. -/
def processObservationShared (env : ProcessingEnv) (o : PacketObservation)
    (s : ProcessingShared) : ProcessingShared :=
  let parsed := (ParsedPacket.parse o).toOption
  let statistics := if parsed.isNone then s.statistics.recordError else s.statistics
  let (duplicate, dedup) := s.dedup.isDuplicate (sourceHash hash o)
  let flowTable := if duplicate then s.flowTable else recordFlow env.clock o s.flowTable
  let statistics := enqueueLookups env parsed statistics
  { flowTable, dedup
    statistics := statistics.recordPacketProcessed (UInt64.ofNat o.packetLength) }

end Processing

/-! ## 4. Packets of the network layer

A driver at the network layer delivers packets that start at the IP header, and the matcher reads
every observation as an Ethernet frame.  So a packet reaches its flow only when its bytes happen
to spell a frame that carries a datagram of the same flow. -/

namespace ObservationMatcher

theorem ofParsed_shift (k : Nat) (r : ParsedPacket) : ofParsed (r.shift k) = ofParsed r := rfl

theorem sourceIp_of_ofParsed {r : ParsedPacket} {key : NetworkCore.FlowKey}
    (h : ofParsed r = some key) : r.sourceIp ≠ none := by
  intro hnone
  rw [ofParsed, hnone] at h
  nomatch h

/-- The flow of a packet read from its IP header on. -/
def networkLayerKey (p : Bytes) : Option FlowKey :=
  ((ParsedPacket.parseBytes .windivert p .ip).toOption.bind ofParsed).map toFlowEngineKey

/-- `p` spells an Ethernet frame, with at most four VLAN tags, around a datagram of flow `key`. -/
def SpellsFrame (p : Bytes) (key : FlowKey) : Prop :=
  ∃ destination source tags etherType q,
    p.toList = Frame.header destination source tags etherType ++ Bytes.toList q ∧
    tags.length ≤ 4 ∧ ParsedPacket.Carries etherType q ∧ networkLayerKey q = some key

theorem toFlowKey_iff {o : PacketObservation} (hsource : o.backendSource = .windivert)
    (key : FlowKey) :
    (toFlowKey o).map toFlowEngineKey = some key ↔ SpellsFrame o.packet.rawBytes key := by
  rw [toFlowKey, ParsedPacket.parse, hsource]
  constructor
  · intro h
    obtain ⟨coreKey, hcore, hkey⟩ := Option.map_eq_some_iff.mp h
    obtain ⟨r, hr, hof⟩ := Option.bind_eq_some_iff.mp hcore
    have hparse := toOption_eq_some hr
    obtain ⟨destination, source, tags, etherType, q, r', hraw, htags, hcarries, hq, rfl⟩ :=
      ParsedPacket.parseBytes_ethernet_sound hparse (sourceIp_of_ofParsed hof)
    rw [ofParsed_shift] at hof
    refine ⟨destination, source, tags, etherType, q, hraw, htags, hcarries, ?_⟩
    rw [networkLayerKey, hq]
    exact Option.map_eq_some_iff.mpr ⟨coreKey, hof, hkey⟩
  · rintro ⟨destination, source, tags, etherType, q, hraw, htags, hcarries, hkey⟩
    rw [ParsedPacket.parseBytes_ethernet_carries .windivert hraw hcarries htags]
    rw [networkLayerKey] at hkey
    cases hq : ParsedPacket.parseBytes .windivert q .ip with
    | error e =>
      rw [hq] at hkey
      nomatch hkey
    | ok r =>
      rw [hq] at hkey
      exact hkey

end ObservationMatcher

open ObservationMatcher in
/-- A packet of an admitted flow that is not a duplicate is counted once under the derived key. -/
theorem processObservationShared_counts (hash : IdentityInput → UInt64) (env : ProcessingEnv)
    {o : PacketObservation} {s : ProcessingShared} {key : FlowKey}
    (hkey : (toFlowKey o).map toFlowEngineKey = some key)
    (hnew : (s.dedup.isDuplicate (sourceHash hash o)).1 = false) (hroom : s.flowTable.Admits key) :
    (processObservationShared hash env o s).flowTable.packetsOf key =
      some (saturatingAdd64 ((s.flowTable.packetsOf key).getD 0) 1) := by
  obtain ⟨coreKey, hcore, rfl⟩ := Option.map_eq_some_iff.mp hkey
  obtain ⟨table, hrecord, hcount⟩ := FlowTable.recordPacket_counts hroom o.packetLength
    (.fromNetworkDirection o.direction) none env.clock
  simp only [processObservationShared, hnew, recordFlow, hcore, hrecord, Bool.false_eq_true,
    if_false]
  exact hcount

/-- The observation that either capture path builds from a datagram the driver delivered. -/
def windivertObservation (d : Datagram) (address : WinDivertAddress) (id : ObservationId)
    (captured ingested : Timestamp) : PacketObservation :=
  (InterceptedPacket.fromNative d.toBytes address).toObservation id captured ingested

/-- `process_observation_shared` derives the flow of the datagram and counts one packet for it. -/
def ReachesFlow (hash : IdentityInput → UInt64) (env : ProcessingEnv) (d : Datagram)
    (o : PacketObservation) (s : ProcessingShared) : Prop :=
  (ObservationMatcher.toFlowKey o).map toFlowEngineKey = some d.fiveTuple ∧
    (processObservationShared hash env o s).flowTable.packetsOf d.fiveTuple =
      some (saturatingAdd64 ((s.flowTable.packetsOf d.fiveTuple).getD 0) 1)

/-- A TCP or UDP packet that WinDivert delivers at the network layer reaches its flow exactly when
its own bytes, taken for an Ethernet frame, carry a datagram of that very flow. -/
theorem windivert_reachesFlow_iff (hash : IdentityInput → UInt64) (env : ProcessingEnv)
    (d : Datagram) (address : WinDivertAddress) (id : ObservationId)
    (captured ingested : Timestamp) (s : ProcessingShared)
    (hnew : (s.dedup.isDuplicate
      (sourceHash hash (windivertObservation d address id captured ingested))).1 = false)
    (hroom : s.flowTable.Admits d.fiveTuple) :
    ReachesFlow hash env d (windivertObservation d address id captured ingested) s ↔
      ObservationMatcher.SpellsFrame d.toBytes d.fiveTuple := by
  have hiff := ObservationMatcher.toFlowKey_iff
    (show (windivertObservation d address id captured ingested).backendSource = .windivert from rfl)
    d.fiveTuple
  constructor
  · exact fun h => hiff.mp h.1
  · intro h
    have hkey := hiff.mpr h
    exact ⟨hkey, processObservationShared_counts hash env hkey hnew hroom⟩

/-- An empty UDP packet from 10.0.0.1:53 to 10.0.0.2:4660. -/
def plainPacket : Datagram := .ipv4 {
  service := 0
  identification := 0
  dontFragment := false
  moreFragments := false
  ttl := 64
  checksum := 0
  source := ⟨10, 0, 0, 1⟩
  destination := ⟨10, 0, 0, 2⟩
  options := []
  segment := .udp ⟨53, 4660, 8, 0, [], by decide⟩
  options_words := rfl
  options_length := by decide
  total_lt := by decide
  complete := fun _ => rfl }

/-- A UDP packet from 8.0.69.0:16384 to 1.0.0.1:16401 that spells a frame around a datagram of the
same flow: the source address is an ethertype and the start of the inner header. -/
def spellingPacket : Datagram := .ipv4 {
  service := 0
  identification := 0
  dontFragment := false
  moreFragments := false
  ttl := 64
  checksum := 0
  source := ⟨8, 0, 69, 0⟩
  destination := ⟨1, 0, 0, 1⟩
  options := []
  segment := .udp ⟨0x4000, 0x4011, 250, 0x0800,
    [69, 0, 1, 0, 0, 1, 0x40, 0, 0x40, 0x11, 0, 236, 0, 0] ++ List.replicate 228 0,
    by decide +kernel⟩
  options_words := rfl
  options_length := by decide
  total_lt := by decide +kernel
  complete := fun _ => by
    simp only [Segment.Complete]
    decide +kernel }

def zeroAddress : WinDivertAddress :=
  ⟨Vector.replicate 8 0, 0, 0, Vector.replicate 64 0⟩

/-- The state of a fresh engine. -/
def ProcessingShared.new (maxFlows : Nat) : ProcessingShared :=
  ⟨.withDefaults maxFlows, .new 65536, .new⟩

theorem windivert_plain_misses_flow :
    let o := windivertObservation plainPacket zeroAddress 1 ⟨0⟩ ⟨0⟩
    let s := ProcessingShared.new 16
    (s.dedup.isDuplicate (sourceHash (·.captureNanos) o)).1 = false ∧
      s.flowTable.Admits plainPacket.fiveTuple ∧
      ¬ ReachesFlow (·.captureNanos) ⟨⟨0, 0⟩, fun _ => .ok⟩ plainPacket o s := by
  refine ⟨by decide, .inr (.inr (by decide)), fun h => ?_⟩
  have hnone : ObservationMatcher.toFlowKey
      (windivertObservation plainPacket zeroAddress 1 ⟨0⟩ ⟨0⟩) = none := by decide +kernel
  rw [ReachesFlow, hnone] at h
  nomatch h.1

theorem windivert_spelling_reaches_flow :
    ReachesFlow (·.captureNanos) ⟨⟨0, 0⟩, fun _ => .ok⟩ spellingPacket
      (windivertObservation spellingPacket zeroAddress 1 ⟨0⟩ ⟨0⟩) (.new 16) := by
  refine (windivert_reachesFlow_iff _ _ spellingPacket zeroAddress 1 ⟨0⟩ ⟨0⟩ (.new 16) (by decide)
    (.inr (.inr (by decide)))).mpr ?_
  let q : Bytes := ⟨spellingPacket.toBytes.toList.drop 14, by decide +kernel⟩
  refine ⟨#v[69, 0, 1, 14, 0, 0], #v[0, 0, 64, 17, 0, 0], [], 0x0800, q, ?_, by decide, ?_, ?_⟩
  · decide +kernel
  · exact ⟨69, _, rfl, .inl ⟨by decide, rfl⟩⟩
  · decide +kernel

end NetworkEngine
