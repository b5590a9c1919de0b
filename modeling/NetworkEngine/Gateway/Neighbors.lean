import NetworkEngine.Core.Observation
import NetworkEngine.Lib.Table
import NetworkEngine.Lib.Transition

/-!
# Neighbors — the gateway's neighbor cache

`gateway_capability::neighbor`.  An entry may have a second it expires at; it is usable before
that, in two of its states.  Every call takes the second its clock shows.
-/

namespace NetworkEngine

open Rust Transition

/-! ## 1. Entries -/

inductive NeighborState where
  | reachable
  | stale
  | delay
  | probe
  | failed
  deriving DecidableEq, Repr

def NeighborState.isUsable : NeighborState → Bool
  | .reachable | .stale => true
  | .delay | .probe | .failed => false

structure NeighborKey where
  address : IpAddr
  interfaceId : UInt32
  deriving DecidableEq, Repr

structure NeighborEntry where
  key : NeighborKey
  linkLayerAddress : Option (Vector UInt8 6)
  state : NeighborState
  createdAt : UInt64
  lastUpdated : UInt64
  expiresAt : Option UInt64
  deriving DecidableEq, Repr

namespace NeighborEntry

/-- `NeighborEntry::new` at clock reading `now`. -/
def new (address : IpAddr) (interfaceId : UInt32) (linkLayerAddress : Option (Vector UInt8 6))
    (state : NeighborState) (ttlSecs : Option UInt64) (now : UInt64) : NeighborEntry :=
  ⟨⟨address, interfaceId⟩, linkLayerAddress, state, now, now, ttlSecs.map (saturatingAdd64 now)⟩

def isExpired (e : NeighborEntry) (now : UInt64) : Bool :=
  match e.expiresAt with
  | some expiresAt => expiresAt ≤ now
  | none => false

def isUsable (e : NeighborEntry) (now : UInt64) : Bool := !e.isExpired now && e.state.isUsable

def setState (e : NeighborEntry) (state : NeighborState) (now : UInt64) : NeighborEntry :=
  { e with state := state, lastUpdated := now }

theorem isExpired_of_isUsable {e : NeighborEntry} {now : UInt64} (h : e.isUsable now = true) :
    e.isExpired now = false := by
  have hand := Bool.and_eq_true_iff.mp h
  simpa using hand.1

end NeighborEntry

inductive NeighborError where
  | capacityExceeded
  | invalidInterface
  | alreadyExists
  | notFound
  deriving DecidableEq, Repr

/-! ## 2. The cache -/

structure NeighborCache where
  entries : Table NeighborKey NeighborEntry
  maxEntries : Nat
  deriving DecidableEq

namespace NeighborCache

def new (maxEntries : Nat) : NeighborCache := ⟨∅, maxEntries⟩

def len (c : NeighborCache) : Nat := c.entries.keys.card

def removeExpired (now : UInt64) (c : NeighborCache) : Nat × NeighborCache :=
  ((c.entries.keysWhere (·.isExpired now)).card,
    { c with entries := c.entries.discard (·.isExpired now) })

/-- `insert` and `upsert` differ in what they do with a key that is there. -/
def put (replace : Bool) (entry : NeighborEntry) (now : UInt64) (c : NeighborCache) :
    Except NeighborError Unit × NeighborCache :=
  if entry.key.interfaceId = 0 then (.error .invalidInterface, c)
  else
    let c := (c.removeExpired now).2
    if entry.key ∈ c.entries then
      if replace then (.ok (), { c with entries := c.entries.insert entry.key entry })
      else (.error .alreadyExists, c)
    else if c.maxEntries ≤ c.len then (.error .capacityExceeded, c)
    else (.ok (), { c with entries := c.entries.insert entry.key entry })

def insert : NeighborEntry → UInt64 → NeighborCache → Except NeighborError Unit × NeighborCache :=
  put false

def upsert : NeighborEntry → UInt64 → NeighborCache → Except NeighborError Unit × NeighborCache :=
  put true

def get (c : NeighborCache) (address : IpAddr) (interfaceId : UInt32) : Option NeighborEntry :=
  c.entries.lookup ⟨address, interfaceId⟩

def lookup (c : NeighborCache) (address : IpAddr) (interfaceId : UInt32) (now : UInt64) :
    Option NeighborEntry := do
  let entry ← c.get address interfaceId
  if entry.isUsable now then some entry else none

def resolve (c : NeighborCache) (address : IpAddr) (interfaceId : UInt32) (now : UInt64) :
    Except NeighborError (Vector UInt8 6) :=
  match c.lookup address interfaceId now with
  | none => .error .notFound
  | some entry =>
    match entry.linkLayerAddress with
    | none => .error .notFound
    | some address => .ok address

def setState (address : IpAddr) (interfaceId : UInt32) (state : NeighborState) (now : UInt64)
    (c : NeighborCache) : Except NeighborError Unit × NeighborCache :=
  match c.get address interfaceId with
  | none => (.error .notFound, c)
  | some entry =>
    (.ok (), { c with
      entries := c.entries.insert ⟨address, interfaceId⟩ (entry.setState state now) })

def remove (address : IpAddr) (interfaceId : UInt32) (c : NeighborCache) :
    Option NeighborEntry × NeighborCache :=
  (c.get address interfaceId, { c with entries := c.entries.erase ⟨address, interfaceId⟩ })

def clear (c : NeighborCache) : NeighborCache := { c with entries := ∅ }

/-- One call on the cache. -/
inductive Operation where
  | insert (entry : NeighborEntry)
  | upsert (entry : NeighborEntry)
  | setState (address : IpAddr) (interfaceId : UInt32) (state : NeighborState)
  | remove (address : IpAddr) (interfaceId : UInt32)
  | removeExpired
  | clear
  deriving DecidableEq, Repr

def perform (c : NeighborCache) (now : UInt64) : Operation → NeighborCache
  | .insert entry => (c.insert entry now).2
  | .upsert entry => (c.upsert entry now).2
  | .setState address interfaceId state => (c.setState address interfaceId state now).2
  | .remove address interfaceId => (c.remove address interfaceId).2
  | .removeExpired => (c.removeExpired now).2
  | .clear => c.clear

variable {c : NeighborCache} {address : IpAddr} {interfaceId : UInt32} {now : UInt64}

/-- A lookup serves an entry that is stored and usable. -/
theorem lookup_eq_some {e : NeighborEntry} :
    c.lookup address interfaceId now = some e ↔
      c.get address interfaceId = some e ∧ e.isUsable now = true := by
  unfold lookup
  cases hentry : c.get address interfaceId with
  | none => exact iff_of_false (fun h => nomatch h) (fun h => nomatch h.1)
  | some e₀ =>
    show (if e₀.isUsable now then some e₀ else none) = some e ↔ _
    cases husable : e₀.isUsable now with
    | true =>
      constructor
      · intro h
        exact ⟨h, Option.some.inj h ▸ husable⟩
      · exact fun h => h.1
    | false =>
      refine iff_of_false (fun h => nomatch h) (fun h => ?_)
      rw [← Option.some.inj h.1, husable] at h
      exact nomatch h.2

/-- An address is resolved from an entry that has not expired. -/
theorem resolve_ok {mac : Vector UInt8 6} (h : c.resolve address interfaceId now = .ok mac) :
    ∃ e, c.lookup address interfaceId now = some e ∧ e.linkLayerAddress = some mac := by
  unfold resolve at h
  split at h
  · exact nomatch h
  · rename_i entry hentry
    refine ⟨entry, hentry, ?_⟩
    split at h
    · exact nomatch h
    · rename_i hmac
      rw [hmac, Except.ok.inj h]

end NeighborCache

end NetworkEngine
