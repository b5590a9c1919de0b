import NetworkEngine.Core.Error
import NetworkEngine.Core.Observation
import NetworkEngine.Lib.Op
import NetworkEngine.Lib.Table

/-!
# FlowTable — flows, their counters and the flow table

`flow_engine::{key, counters, flow, flow_table}`.  A flow is stored under the key of its first
packet and found under that key or its reverse.  The clock readings a call makes are its inputs.
-/

namespace NetworkEngine

open Rust

/-! ## 1. Keys and counters -/

structure FlowKey where
  sourceIp : IpAddr
  destinationIp : IpAddr
  sourcePort : UInt16
  destinationPort : UInt16
  protocol : UInt8
  deriving DecidableEq, Repr

def FlowKey.reverse (k : FlowKey) : FlowKey :=
  ⟨k.destinationIp, k.sourceIp, k.destinationPort, k.sourcePort, k.protocol⟩

structure FlowCounters where
  packets : UInt64
  bytes : UInt64
  firstSeenNs : UInt64
  lastSeenNs : UInt64
  deriving DecidableEq, Repr

namespace FlowCounters

def new : FlowCounters := ⟨0, 0, 0, 0⟩

/-- A first-seen time of zero stands for none. -/
def record (bytes timestampNs : UInt64) (c : FlowCounters) : FlowCounters where
  packets := saturatingAdd64 c.packets 1
  bytes := saturatingAdd64 c.bytes bytes
  firstSeenNs :=
    if c.firstSeenNs ≠ 0 ∧ c.firstSeenNs ≤ timestampNs then c.firstSeenNs else timestampNs
  lastSeenNs := if timestampNs ≤ c.lastSeenNs then c.lastSeenNs else timestampNs

end FlowCounters

/-! ## 2. Flows -/

inductive FlowDirection where
  | forward
  | reverse
  | unknown
  deriving DecidableEq, Repr

def FlowDirection.fromNetworkDirection : Direction → FlowDirection
  | .inbound => .reverse
  | .outbound => .forward
  | .unknown => .unknown

inductive FlowState where
  | new
  | active
  | closed
  | expired
  deriving DecidableEq, Repr

structure Flow where
  key : FlowKey
  counters : FlowCounters
  packets : UInt64
  bytes : UInt64
  forwardPackets : UInt64
  forwardBytes : UInt64
  reversePackets : UInt64
  reverseBytes : UInt64
  firstSeenNs : UInt64
  lastSeenNs : UInt64
  lastForwardSeenNs : UInt64
  lastReverseSeenNs : UInt64
  state : FlowState
  deriving DecidableEq, Repr

namespace Flow

/-- `Flow::new` at clock reading `now`. -/
def new (key : FlowKey) (now : UInt64) : Flow where
  key := key
  counters := .new
  packets := 0
  bytes := 0
  forwardPackets := 0
  forwardBytes := 0
  reversePackets := 0
  reverseBytes := 0
  firstSeenNs := now
  lastSeenNs := now
  lastForwardSeenNs := 0
  lastReverseSeenNs := 0
  state := .new

/-- `bytes as u64` keeps every `usize` of a 64-bit target. -/
def recordPacket (bytes : Nat) (direction : FlowDirection) (timestampNs : Option UInt64)
    (now : UInt64) (f : Flow) : Flow :=
  -- The clock is read only for a packet that carries no time of its own.
  let timestamp := timestampNs.getD now
  let bytes64 := UInt64.ofNat bytes
  let counters := f.counters.record bytes64 timestamp
  let f := { f with
    counters
    packets := counters.packets
    bytes := counters.bytes
    firstSeenNs := counters.firstSeenNs
    lastSeenNs := counters.lastSeenNs }
  let f := match direction with
    | .forward => { f with
        forwardPackets := saturatingAdd64 f.forwardPackets 1
        forwardBytes := saturatingAdd64 f.forwardBytes bytes64
        lastForwardSeenNs := max f.lastForwardSeenNs timestamp }
    | .reverse => { f with
        reversePackets := saturatingAdd64 f.reversePackets 1
        reverseBytes := saturatingAdd64 f.reverseBytes bytes64
        lastReverseSeenNs := max f.lastReverseSeenNs timestamp }
    | .unknown => f
  -- A closed or expired flow counts further packets and keeps its state.
  if f.state = .new then { f with state := .active } else f

/-- How long the flow has been idle at clock reading `now`, in nanoseconds. -/
def idleFor (f : Flow) (now : UInt64) : Nat :=
  if now ≤ f.lastSeenNs then 0 else (saturatingSub64 now f.lastSeenNs).toNat

def isIdle (f : Flow) (now : UInt64) (timeout : Nat) : Bool := timeout ≤ f.idleFor now

def close (f : Flow) : Flow := { f with state := .closed }

/-- A packet of either direction is one packet of the canonical counter. -/
theorem recordPacket_packets (bytes : Nat) (direction : FlowDirection)
    (timestampNs : Option UInt64) (now : UInt64) (f : Flow) :
    (f.recordPacket bytes direction timestampNs now).counters.packets =
      saturatingAdd64 f.counters.packets 1 := by
  unfold recordPacket
  cases direction <;> dsimp only <;> split <;> rfl

end Flow

/-! ## 3. The table -/

structure FlowTable where
  flows : Table FlowKey Flow
  maxEntries : Nat
  /-- Nanoseconds. -/
  idleTimeout : Nat
  totalCreated : UInt64
  totalRemoved : UInt64
  totalExpired : UInt64
  deriving DecidableEq

/-- The clock readings of one `record_packet`: of a new flow, and of the packet. -/
structure FlowClock where
  created : UInt64
  recorded : UInt64
  deriving DecidableEq, Repr

namespace FlowTable

/-- What every constructor returns. -/
def empty (maxEntries idleTimeout : Nat) : FlowTable := ⟨∅, maxEntries, idleTimeout, 0, 0, 0⟩

def new (maxEntries idleTimeout : Nat) : EngineResult FlowTable :=
  if maxEntries = 0 then .error .invalidArgument
  else if idleTimeout = 0 then .error .invalidArgument
  else .ok (empty maxEntries idleTimeout)

/-- `FlowTable::with_defaults(max_entries).unwrap_or_default()`. -/
def withDefaults (maxEntries : Nat) : FlowTable :=
  ⟨∅, if maxEntries = 0 then 100000 else maxEntries, 300 * 10 ^ 9, 0, 0, 0⟩

def len (t : FlowTable) : Nat := t.flows.keys.card

def get (t : FlowTable) (key : FlowKey) : Option Flow :=
  t.flows.lookup key <|> t.flows.lookup key.reverse

/-- The key the flow of `key` is stored under once the call has made room for it. -/
def getOrCreate (key : FlowKey) (now : UInt64) (t : FlowTable) :
    EngineResult (FlowKey × FlowTable) :=
  -- An existing conversation is served by a full table too, in either direction.
  if key ∈ t.flows then .ok (key, t)
  else if key.reverse ∈ t.flows then .ok (key.reverse, t)
  else if t.maxEntries ≤ t.len then .error .resourceExhausted
  else .ok (key, { t with
    flows := t.flows.insert key (.new key now)
    totalCreated := saturatingAdd64 t.totalCreated 1 })

/-- Changes the flow stored under `key`. -/
def modify (t : FlowTable) (key : FlowKey) (f : Flow → Flow) : FlowTable :=
  match t.flows.lookup key with
  | some flow => { t with flows := t.flows.insert key (f flow) }
  | none => t

def recordPacket (key : FlowKey) (bytes : Nat) (direction : FlowDirection)
    (timestampNs : Option UInt64) (clock : FlowClock) (t : FlowTable) :
    EngineResult (Unit × FlowTable) := do
  let (slot, t) ← t.getOrCreate key clock.created
  return ((), t.modify slot (·.recordPacket bytes direction timestampNs clock.recorded))

/-- `Ok(false)` for a conversation the table already has. -/
def insert (flow : Flow) (t : FlowTable) : EngineResult (Bool × FlowTable) :=
  -- The duplicate is noticed before the bound: a full table answers `Ok(false)` for it.
  if flow.key ∈ t.flows ∨ flow.key.reverse ∈ t.flows then .ok (false, t)
  else if t.maxEntries ≤ t.len then .error .resourceExhausted
  else .ok (true, { t with
    flows := t.flows.insert flow.key flow
    totalCreated := saturatingAdd64 t.totalCreated 1 })

/-- The key the flow of `key` is stored under, if there is one. -/
def slot (t : FlowTable) (key : FlowKey) : Option FlowKey :=
  if key ∈ t.flows then some key
  else if key.reverse ∈ t.flows then some key.reverse
  else none

def update (key : FlowKey) (bytes : Nat) (direction : FlowDirection)
    (timestampNs : Option UInt64) (now : UInt64) (t : FlowTable) : Bool × FlowTable :=
  match t.slot key with
  | some slot => (true, t.modify slot (·.recordPacket bytes direction timestampNs now))
  | none => (false, t)

def remove (key : FlowKey) (t : FlowTable) : Option Flow × FlowTable :=
  let slot := if key ∈ t.flows then key else key.reverse
  match t.flows.lookup slot with
  | some flow => (some flow, { t with
      flows := t.flows.erase slot
      totalRemoved := saturatingAdd64 t.totalRemoved 1 })
  | none => (none, t)

def close (key : FlowKey) (t : FlowTable) : Bool × FlowTable :=
  match t.slot key with
  | some slot => (true, t.modify slot (·.close))
  | none => (false, t)

/-- The body of the expiry loop. -/
def expireKey (t : FlowTable) (key : FlowKey) : FlowTable :=
  match t.flows.lookup key with
  | some _ => { t with
      flows := t.flows.erase key
      totalRemoved := saturatingAdd64 t.totalRemoved 1
      totalExpired := saturatingAdd64 t.totalExpired 1 }
  | none => t

theorem expireKey_of_mem {t : FlowTable} {key : FlowKey} (h : key ∈ t.flows) :
    t.expireKey key = { t with
      flows := t.flows.erase key
      totalRemoved := saturatingAdd64 t.totalRemoved 1
      totalExpired := saturatingAdd64 t.totalExpired 1 } := by
  rcases Finmap.mem_iff.mp h with ⟨flow, hflow⟩
  unfold expireKey
  rw [hflow]

theorem expireKey_of_notMem {t : FlowTable} {key : FlowKey} (h : key ∉ t.flows) :
    t.expireKey key = t := by
  unfold expireKey
  rw [Finmap.lookup_eq_none.mpr h]

theorem flows_expireKey (t : FlowTable) (key : FlowKey) :
    (t.expireKey key).flows = t.flows.erase key := by
  by_cases h : key ∈ t.flows
  · rw [expireKey_of_mem h]
  · rw [expireKey_of_notMem h]
    -- Nothing is stored under the key, and erasing it changes no lookup.
    apply Finmap.ext_lookup
    intro key'
    rw [Table.lookup_erase]
    split
    · rename_i heq
      rw [heq, Finmap.lookup_eq_none.mpr h]
    · rfl

instance : RightCommutative expireKey where
  right_comm t a b := by
    by_cases hab : a = b
    · rw [hab]
    have hb : b ∈ (t.expireKey a).flows ↔ b ∈ t.flows := by
      rw [flows_expireKey, Finmap.mem_erase]
      exact ⟨fun h => h.2, fun h => ⟨Ne.symm hab, h⟩⟩
    have ha : a ∈ (t.expireKey b).flows ↔ a ∈ t.flows := by
      rw [flows_expireKey, Finmap.mem_erase]
      exact ⟨fun h => h.2, fun h => ⟨hab, h⟩⟩
    by_cases hina : a ∈ t.flows
    · by_cases hinb : b ∈ t.flows
      · rw [expireKey_of_mem (hb.mpr hinb), expireKey_of_mem (ha.mpr hina), expireKey_of_mem hina,
          expireKey_of_mem hinb]
        simp only [Table.erase_comm _ a b]
      · rw [expireKey_of_notMem hinb, expireKey_of_notMem (fun h => hinb (hb.mp h))]
    · rw [expireKey_of_notMem hina, expireKey_of_notMem (fun h => hina (ha.mp h))]

def expireIdle (now : UInt64) (t : FlowTable) : Nat × FlowTable :=
  let expired := t.flows.keysWhere (·.isIdle now t.idleTimeout)
  (expired.card, Table.forEach expireKey t expired)

/-- `now` is the reading of the table's own clock. -/
def expireIdleNow (now : UInt64) (t : FlowTable) : Nat × FlowTable := t.expireIdle now

def clear (t : FlowTable) : Nat × FlowTable :=
  (t.len, { t with
    flows := ∅
    totalRemoved := saturatingAdd64 t.totalRemoved (UInt64.ofNat t.len) })

/-- The packets recorded for the conversation of `key`. -/
def packetsOf (t : FlowTable) (key : FlowKey) : Option UInt64 :=
  (t.get key).map (·.counters.packets)

/-- The table holds the conversation of `key` or has room for it. -/
def Admits (t : FlowTable) (key : FlowKey) : Prop :=
  key ∈ t.flows ∨ key.reverse ∈ t.flows ∨ t.len < t.maxEntries

theorem get_modify_slot {t : FlowTable} {key : FlowKey} {flow : Flow} (f : Flow → Flow)
    (h : t.flows.lookup key = some flow) : (t.modify key f).get key = some (f flow) := by
  simp only [get, modify, h, Table.lookup_insert, if_true]
  rfl

theorem get_modify_reverse {t : FlowTable} {key : FlowKey} {flow : Flow} (f : Flow → Flow)
    (hkey : key ∉ t.flows) (h : t.flows.lookup key.reverse = some flow) :
    (t.modify key.reverse f).get key = some (f flow) := by
  -- A key that is its own reverse would be stored under itself.
  have hne : key ≠ key.reverse := by
    intro heq
    exact hkey (heq ▸ Finmap.mem_of_lookup_eq_some h)
  have hnone := Finmap.lookup_eq_none.mpr hkey
  simp only [get, modify, h, Table.lookup_insert, if_neg hne, hnone, if_true]
  rfl

/-- A packet of a conversation the table admits is counted once. -/
theorem recordPacket_counts {t : FlowTable} {key : FlowKey} (h : t.Admits key) (bytes : Nat)
    (direction : FlowDirection) (timestampNs : Option UInt64) (clock : FlowClock) :
    ∃ t', recordPacket key bytes direction timestampNs clock t = .ok ((), t') ∧
      t'.packetsOf key = some (saturatingAdd64 ((t.packetsOf key).getD 0) 1) := by
  -- The three ways of `get_or_create`: found as it is, found reversed, and new.
  unfold recordPacket getOrCreate
  by_cases hkey : key ∈ t.flows
  · obtain ⟨flow, hflow⟩ := Finmap.mem_iff.mp hkey
    refine ⟨_, by rw [if_pos hkey]; rfl, ?_⟩
    rw [packetsOf, get_modify_slot _ hflow]
    simp only [Option.map_some, Flow.recordPacket_packets, packetsOf, get, hflow]
    rfl
  have hnone := Finmap.lookup_eq_none.mpr hkey
  by_cases hreverse : key.reverse ∈ t.flows
  · obtain ⟨flow, hflow⟩ := Finmap.mem_iff.mp hreverse
    refine ⟨_, by rw [if_neg hkey, if_pos hreverse]; rfl, ?_⟩
    rw [packetsOf, get_modify_reverse _ hkey hflow]
    simp only [Option.map_some, Flow.recordPacket_packets, packetsOf, get, hnone, hflow]
    rfl
  · have hroom : ¬ t.maxEntries ≤ t.len := by
      obtain hin | hin | hlt := h
      · exact absurd hin hkey
      · exact absurd hin hreverse
      · omega
    have hreverse' := Finmap.lookup_eq_none.mpr hreverse
    refine ⟨_, by rw [if_neg hkey, if_neg hreverse, if_neg hroom]; rfl, ?_⟩
    rw [packetsOf, get_modify_slot _ (Finmap.lookup_insert _)]
    simp only [Option.map_some, Flow.recordPacket_packets, packetsOf, get, hnone, hreverse']
    rfl

end FlowTable

end NetworkEngine
