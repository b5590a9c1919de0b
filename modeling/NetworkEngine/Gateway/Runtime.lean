import NetworkEngine.Gateway.Connections
import NetworkEngine.Gateway.Nat
import NetworkEngine.Gateway.Neighbors

/-!
# Runtime — the gateway's three tables with a lifetime

`gateway_capability::GatewayRuntime`, with the tables whose entries expire.  Each table is driven
by its own calls; a holder of a mutable reference to an entry may also change it at will.
-/

namespace NetworkEngine

open Rust Transition

structure GatewayLimits where
  maxConnections : Nat
  maxNatEntries : Nat
  maxNeighbors : Nat
  maxRoutes : Nat
  maxForwardingEntries : Nat
  deriving DecidableEq, Repr

def GatewayLimits.default : GatewayLimits := ⟨65536, 65536, 65536, 16384, 16384⟩

/-- Without the routing and forwarding tables and the two processors. -/
structure GatewayRuntime where
  connections : ConnectionStateTable
  nat : NatTable
  neighbors : NeighborCache
  deriving DecidableEq

namespace GatewayRuntime

def withLimits (limits : GatewayLimits) : GatewayRuntime where
  connections := .new limits.maxConnections
  nat := .new limits.maxNatEntries
  neighbors := .new limits.maxNeighbors

/-- The tables are purged one after the other, each at its own clock reading. -/
def cleanupExpired (connectionsAt natAt neighborsAt : UInt64) (g : GatewayRuntime) :
    (Nat × Nat × Nat) × GatewayRuntime :=
  let connections := g.connections.removeExpired connectionsAt
  let nat := g.nat.removeExpired natAt
  let neighbors := g.neighbors.removeExpired neighborsAt
  ((connections.1, nat.1, neighbors.1), ⟨connections.2, nat.2, neighbors.2⟩)

def clearState (g : GatewayRuntime) : GatewayRuntime :=
  ⟨g.connections.clear, g.nat.clear, g.neighbors.clear⟩

/-! ## 1. Operations -/

inductive Operation where
  | connection (call : ConnectionStateTable.Call)
  | connectionMut (key : ConnectionKey) (change : ConnectionEntry → ConnectionEntry)
  | nat (call : NatTable.Call)
  | natMut (id : UInt64) (change : NatEntry → NatEntry)
  | neighbor (operation : NeighborCache.Operation) (now : UInt64)
  | neighborMut (address : IpAddr) (interfaceId : UInt32) (change : NeighborEntry → NeighborEntry)
  | cleanupExpired (connectionsAt natAt neighborsAt : UInt64)
  | clearState

def step (g : GatewayRuntime) : Operation → GatewayRuntime
  -- `connectionMut`, `natMut` and `neighborMut` are what a caller does through `get_mut`.
  | .connection call => { g with connections := g.connections.step call }
  | .connectionMut key change =>
    match g.connections.entries.lookup key with
    | none => g
    | some e => { g with connections := { g.connections with
        entries := g.connections.entries.insert key (change e) } }
  | .nat call => { g with nat := g.nat.step call }
  | .natMut id change =>
    match g.nat.entries.lookup id with
    | none => g
    | some e => { g with nat := { g.nat with entries := g.nat.entries.insert id (change e) } }
  | .neighbor operation now => { g with neighbors := g.neighbors.perform now operation }
  | .neighborMut address interfaceId change =>
    match g.neighbors.get address interfaceId with
    | none => g
    | some e => { g with neighbors := { g.neighbors with
        entries := g.neighbors.entries.insert ⟨address, interfaceId⟩ (change e) } }
  | .cleanupExpired connectionsAt natAt neighborsAt =>
    (g.cleanupExpired connectionsAt natAt neighborsAt).2
  | .clearState => g.clearState

/-! ## 2. Lookups -/

/-- The lookups of the packet path. -/
inductive Query where
  | nat (tuple : NatTuple) (direction : NatLookupDirection)
  | natOriginal (tuple : NatTuple)
  | natTranslated (tuple : NatTuple)
  | connection (key : ConnectionKey)
  | connectionReverse (key : ConnectionKey)
  | neighbor (address : IpAddr) (interfaceId : UInt32)
  | resolve (address : IpAddr) (interfaceId : UInt32)
  deriving DecidableEq, Repr

/-- What the query returns at clock reading `now` comes from no entry that has expired. -/
def ServesLive (g : GatewayRuntime) (now : UInt64) : Query → Prop
  | .nat tuple direction => ∀ e, g.nat.lookup tuple direction = some e → e.isExpired now = false
  | .natOriginal tuple => ∀ e, g.nat.lookupOriginal tuple = some e → e.isExpired now = false
  | .natTranslated tuple => ∀ e, g.nat.lookupTranslated tuple = some e → e.isExpired now = false
  | .connection key => ∀ e, g.connections.lookup key now = some e → e.isExpired now = false
  | .connectionReverse key =>
    ∀ e, g.connections.lookupReverse key now = some e → e.isExpired now = false
  | .neighbor address interfaceId =>
    ∀ e, g.neighbors.lookup address interfaceId now = some e → e.isExpired now = false
  | .resolve address interfaceId =>
    ∀ mac, g.neighbors.resolve address interfaceId now = .ok mac →
      ∃ e, g.neighbors.get address interfaceId = some e ∧ e.isExpired now = false ∧
        e.linkLayerAddress = some mac

/-- The id that the index of a translation query has for its tuple. -/
def filedId (g : GatewayRuntime) : Query → Option UInt64
  | .nat tuple .original | .natOriginal tuple => g.nat.originalIndex.lookup tuple
  | .nat tuple .translated | .natTranslated tuple => g.nat.translatedIndex.lookup tuple
  | .connection _ | .connectionReverse _ | .neighbor _ _ | .resolve _ _ => none

theorem isExpired_eq_false {e : NatEntry} {now : UInt64} :
    e.isExpired now = false ↔ now.toNat - e.lastSeen.toNat < e.timeoutSecs.toNat := by
  rw [NatEntry.isExpired, decide_eq_false_iff_not, UInt64.le_iff_toNat_le, toNat_saturatingSub64]
  exact Nat.not_le

-- Both translation lookups go through an index and check nothing else.
theorem filed_live_iff (entries : Table UInt64 NatEntry) (filed : Option UInt64) (now : UInt64) :
    (∀ e, (filed >>= fun id => entries.lookup id) = some e → e.isExpired now = false) ↔
      ∀ id e, filed = some id → entries.lookup id = some e → e.isExpired now = false := by
  constructor
  · intro h id e hid he
    apply h e
    rw [hid]
    exact he
  · intro h e he
    rcases Option.bind_eq_some_iff.mp he with ⟨id, hid, hentry⟩
    exact h id e hid hentry

theorem lookup_connection_live (t : ConnectionStateTable) (key : ConnectionKey) (now : UInt64) :
    ∀ e, t.lookup key now = some e → e.isExpired now = false := by
  intro e he
  unfold ConnectionStateTable.lookup at he
  rcases Option.bind_eq_some_iff.mp he with ⟨entry, -, hentry⟩
  split at hentry
  · exact nomatch hentry
  · rename_i hlive
    rw [← Option.some.inj hentry]
    exact Bool.eq_false_of_not_eq_true hlive

/-- Connections and neighbors are served while they live, and mappings as they are filed. -/
theorem servesLive_iff (g : GatewayRuntime) (now : UInt64) (query : Query) :
    g.ServesLive now query ↔
      ∀ id e, g.filedId query = some id → g.nat.entries.lookup id = some e →
        e.isExpired now = false := by
  cases query with
  -- Translations are served as they are found, in either direction.
  | nat tuple direction =>
    cases direction with
    | original => exact filed_live_iff _ _ _
    | translated => exact filed_live_iff _ _ _
  | natOriginal tuple => exact filed_live_iff _ _ _
  | natTranslated tuple => exact filed_live_iff _ _ _
  -- The other two tables look at the lifetime before they answer.
  | connection key =>
    exact iff_of_true (lookup_connection_live g.connections key now) fun _ _ hid => nomatch hid
  | connectionReverse key =>
    exact iff_of_true (lookup_connection_live g.connections key.reverse now)
      fun _ _ hid => nomatch hid
  | neighbor address interfaceId =>
    refine iff_of_true (fun e he => ?_) fun _ _ hid => nomatch hid
    exact NeighborEntry.isExpired_of_isUsable (NeighborCache.lookup_eq_some.mp he).2
  | resolve address interfaceId =>
    refine iff_of_true (fun mac hmac => ?_) fun _ _ hid => nomatch hid
    rcases NeighborCache.resolve_ok hmac with ⟨e, he, haddress⟩
    have hlookup := NeighborCache.lookup_eq_some.mp he
    exact ⟨e, hlookup.1, NeighborEntry.isExpired_of_isUsable hlookup.2, haddress⟩

/-! ## 3. Sights of a mapping -/

/-- When a mapping was seen, and how long it lives from then on. -/
structure Sight where
  seen : UInt64
  timeoutSecs : UInt64
  deriving DecidableEq, Repr

def Sight.of (e : NatEntry) : Sight := ⟨e.lastSeen, e.timeoutSecs⟩

/-- The operation inserts the mapping `id`, touches it, or changes it through `get_mut`. -/
def sight (id : UInt64) (g : GatewayRuntime) : Operation → Option Sight
  | .nat (.insert original translated timeoutSecs clock) =>
    if (g.nat.insert original translated timeoutSecs clock).1 = .ok id then
      some ⟨clock.created, timeoutSecs⟩
    else none
  | .nat (.touch id' now) =>
    if id' = id then (g.nat.entries.lookup id).map fun e => .of (e.touch now) else none
  | .natMut id' change =>
    if id' = id then (g.nat.entries.lookup id).map fun e => .of (change e) else none
  | _ => none

/-- What the table knows of the sights of a mapping. -/
def known (id : UInt64) (g : GatewayRuntime) : Option Sight := (g.nat.entries.lookup id).map .of

variable {g : GatewayRuntime} {id : UInt64} {b : Sight}

theorem known_purged {now : UInt64} (h : ((g.nat.purged now).entries.lookup id).map Sight.of = some b) :
    known id g = some b := by
  obtain ⟨e, he, rfl⟩ := Option.map_eq_some_iff.mp h
  exact Option.map_eq_some_iff.mpr ⟨e, (NatTable.lookup_purged.mp he).1, rfl⟩

/-- The change of one mapping is a sight of it and of no other. -/
theorem known_changed {id' : UInt64} {e : NatEntry} (he : g.nat.entries.lookup id' = some e)
    (change : NatEntry → NatEntry)
    (h : ((g.nat.entries.insert id' (change e)).lookup id).map Sight.of = some b) :
    let made := if id' = id then (g.nat.entries.lookup id).map fun e => Sight.of (change e) else none
    made = some b ∨ made = none ∧ known id g = some b := by
  rw [Table.lookup_insert] at h
  by_cases hid : id = id'
  · rw [if_pos hid] at h
    dsimp only
    rw [if_pos hid.symm, hid, he]
    exact .inl h
  · rw [if_neg hid] at h
    dsimp only
    rw [if_neg (Ne.symm hid)]
    exact .inr ⟨rfl, h⟩

/-- After a step the table knows the sight that the step makes, or what it knew before. -/
theorem known_step (g : GatewayRuntime) (operation : Operation)
    (h : known id (g.step operation) = some b) :
    sight id g operation = some b ∨ sight id g operation = none ∧ known id g = some b := by
  cases operation with
  | nat call =>
    cases call with
    | insert original translated timeoutSecs clock =>
      rcases hinsert : g.nat.insert original translated timeoutSecs clock with ⟨r, t⟩
      have hknown : (t.entries.lookup id).map Sight.of = some b := by
        rw [← h, known, step, NatTable.step, hinsert]
      have hsight : sight id g (.nat (.insert original translated timeoutSecs clock)) =
          if r = .ok id then some ⟨clock.created, timeoutSecs⟩ else none := by
        rw [sight, hinsert]
      rw [hsight]
      rcases NatTable.insert_cases hinsert with ⟨err, rfl, rfl | rfl⟩ | ⟨rfl, -, -, -, -, rfl⟩
      · exact .inr ⟨if_neg nofun, hknown⟩
      · exact .inr ⟨if_neg nofun, known_purged hknown⟩
      · -- The new mapping is seen under the next id; the others are left by the purge.
        rw [NatTable.withEntry] at hknown
        dsimp only at hknown
        rw [Table.lookup_insert, (NatTable.purged_frame _ _).2] at hknown
        by_cases hid : id = g.nat.nextId
        · rw [if_pos hid] at hknown
          rw [if_pos (congrArg Except.ok hid.symm)]
          exact .inl hknown
        · rw [if_neg hid] at hknown
          rw [if_neg fun heq => hid (Except.ok.inj heq).symm]
          exact .inr ⟨rfl, known_purged hknown⟩
    | touch id' now =>
      have hknown : ((g.nat.touch id' now).2.entries.lookup id).map Sight.of = some b := h
      rw [NatTable.touch] at hknown
      cases he : g.nat.entries.lookup id' with
      | none =>
        rw [he] at hknown
        refine .inr ⟨?_, hknown⟩
        rw [sight]
        split
        · rename_i hid
          rw [← hid, he]
          rfl
        · rfl
      | some e =>
        rw [he] at hknown
        exact known_changed he (·.touch now) hknown
    | remove id' =>
      refine .inr ⟨rfl, ?_⟩
      have hknown : ((g.nat.removeId id').entries.lookup id).map Sight.of = some b := h
      rw [NatTable.lookup_removeId] at hknown
      split at hknown
      · cases hknown
      · exact hknown
    | removeExpired now => exact .inr ⟨rfl, known_purged h⟩
    | clear => cases h
  | natMut id' change =>
    rw [known, step] at h
    cases he : g.nat.entries.lookup id' with
    | none =>
      rw [he] at h
      refine .inr ⟨?_, h⟩
      rw [sight]
      split
      · rename_i hid
        rw [← hid, he]
        rfl
      · rfl
    | some e =>
      rw [he] at h
      exact known_changed he change h
  | connectionMut key change =>
    refine .inr ⟨rfl, ?_⟩
    rw [known, step] at h
    split at h <;> exact h
  | neighborMut address interfaceId change =>
    refine .inr ⟨rfl, ?_⟩
    rw [known, step] at h
    split at h <;> exact h
  | cleanupExpired connectionsAt natAt neighborsAt => exact .inr ⟨rfl, known_purged h⟩
  | clearState => cases h
  | connection call | neighbor operation now => exact .inr ⟨rfl, h⟩

/-- The mapping that the index files for the query, if it is stored, was last inserted, touched or
changed in a sight less than its timeout ago. -/
def SeenWithin (limits : GatewayLimits) (operations : List Operation) (now : UInt64)
    (query : Query) : Prop :=
  let g := run step (withLimits limits) operations
  ∀ id, g.filedId query = some id → id ∈ g.nat.entries →
    ∀ last, latest step (sight id) (withLimits limits) operations = some last →
      now.toNat - last.seen.toNat < last.timeoutSecs.toNat

/-- After every run the lookups of connections and neighbors serve nothing expired, and a lookup of
a translation does so exactly when the run has seen its mapping within the timeout. -/
theorem run_servesLive_iff (limits : GatewayLimits) (operations : List Operation) (now : UInt64)
    (query : Query) :
    (run step (withLimits limits) operations).ServesLive now query ↔
      SeenWithin limits operations now query := by
  have hlatest {id : UInt64} {e : NatEntry}
      (he : (run step (withLimits limits) operations).nat.entries.lookup id = some e) :
      latest step (sight id) (withLimits limits) operations = some (.of e) :=
    latest_of_read (fun g operation b h => known_step g operation h) rfl operations
      (Option.map_eq_some_iff.mpr ⟨e, he, rfl⟩)
  rw [servesLive_iff]
  constructor
  · intro h id hid hin last hlast
    obtain ⟨e, he⟩ := Finmap.mem_iff.mp hin
    rw [hlatest he] at hlast
    rw [← Option.some.inj hlast]
    exact isExpired_eq_false.mp (h id e hid he)
  · intro h id e hid he
    exact isExpired_eq_false.mpr (h id hid (Finmap.mem_of_lookup_eq_some he) _ (hlatest he))

/-- A mapping with a timeout of one minute is still served after an hour. -/
theorem stale_mapping_served :
    ¬ (run step (withLimits .default)
        [.nat (.insert NatTable.clientTuple NatTable.publicTuple 60 ⟨0, 0⟩)]).ServesLive 3600
      (.natOriginal NatTable.clientTuple) := by
  intro h
  exact absurd (h (.new 1 NatTable.clientTuple NatTable.publicTuple 60 0) (by decide)) (by decide)

end GatewayRuntime

end NetworkEngine
