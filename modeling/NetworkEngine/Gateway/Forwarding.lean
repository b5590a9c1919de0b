import NetworkEngine.Lib.Ranking
import NetworkEngine.Lib.Transition
import NetworkEngine.Network.State

/-!
# Forwarding — the forwarding table

`gateway_capability::forwarding`.  A lookup takes the longest prefix among the enabled entries that
match, and of several of that length the one `max_by_key` returns, which is the last.
-/

namespace NetworkEngine

open Rust Prefix Ranking Transition

/-! ## 1. Entries -/

/-- An entry with a prefix that `new` accepts.  The fields of the source are public: an entry that is
written out with a longer prefix is left out. -/
structure ForwardingEntry where
  destination : IpAddr
  prefixLen : UInt8
  interfaceId : UInt32
  nextHop : Option IpAddr
  enabled : Bool
  fits : ¬ destination.maxPrefix < prefixLen
  deriving DecidableEq, Repr

namespace ForwardingEntry

def new (destination : IpAddr) (prefixLen : UInt8) (interfaceId : UInt32)
    (nextHop : Option IpAddr) : Option ForwardingEntry :=
  if h : destination.maxPrefix < prefixLen then none
  else some ⟨destination, prefixLen, interfaceId, nextHop, true, h⟩

def withEnabled (e : ForwardingEntry) (enabled : Bool) : ForwardingEntry := { e with enabled }

def «matches» {ε : Type} (e : ForwardingEntry) (address : IpAddr) : Checked ε Bool :=
  inFamily
    (fun network address => matchesUnlessZero network.toU32 address.toU32 e.prefixLen)
    (fun network address => matchesUnlessZero network.toU128 address.toU128 e.prefixLen)
    e.destination address

/-- The entry is enabled, and its network covers the address. -/
def Serves (e : ForwardingEntry) (address : IpAddr) : Prop :=
  e.enabled = true ∧ e.destination.Covers e.prefixLen.toNat address

instance (e : ForwardingEntry) (address : IpAddr) : Decidable (e.Serves address) :=
  inferInstanceAs (Decidable (_ ∧ _))

theorem prefixLen_le (e : ForwardingEntry) : e.prefixLen ≤ e.destination.maxPrefix :=
  UInt8.not_lt.mp e.fits

theorem matches_eq {ε : Type} (e : ForwardingEntry) (address : IpAddr) :
    (e.matches address : Checked ε Bool) =
      .ok (e.destination.Covers e.prefixLen.toNat address) :=
  inFamily_eq e.prefixLen_le (fun _ _ hle => matchesUnlessZero_eq _ _ hle)
    (fun _ _ hle => matchesUnlessZero_eq _ _ hle)

end ForwardingEntry

inductive ForwardingError where
  | invalidDestination
  | noRoute
  | interfaceUnavailable
  | neighborUnresolved
  deriving DecidableEq, Repr

structure ForwardingDecision where
  interfaceId : UInt32
  nextHop : IpAddr
  deriving DecidableEq, Repr

/-! ## 2. The table -/

structure ForwardingTable where
  entries : List ForwardingEntry
  deriving DecidableEq, Repr

/-- `u32::try_from(value)`. -/
def tryU32 (value : UInt64) : Option UInt32 :=
  if value.toNat < 2 ^ 32 then some value.toUInt32 else none

namespace ForwardingTable

def new : ForwardingTable := ⟨[]⟩

def add (entry : ForwardingEntry) (t : ForwardingTable) : ForwardingTable :=
  ⟨t.entries ++ [entry]⟩

/-- The key by which `remove` and `set_enabled` look for entries. -/
def Same (destination : IpAddr) (prefixLen : UInt8) (interfaceId : UInt32) (e : ForwardingEntry) :
    Bool :=
  e.destination = destination ∧ e.prefixLen = prefixLen ∧ e.interfaceId = interfaceId

def remove (destination : IpAddr) (prefixLen : UInt8) (interfaceId : UInt32)
    (t : ForwardingTable) : Bool × ForwardingTable :=
  let entries := t.entries.filter (!Same destination prefixLen interfaceId ·)
  (entries.length ≠ t.entries.length, ⟨entries⟩)

def clear (_ : ForwardingTable) : ForwardingTable := ⟨[]⟩

/-- The first entry that is looked for changes. -/
def setEnabled (destination : IpAddr) (prefixLen : UInt8) (interfaceId : UInt32) (enabled : Bool)
    (t : ForwardingTable) : Bool × ForwardingTable :=
  match t.entries.findIdx? (Same destination prefixLen interfaceId) with
  | none => (false, t)
  | some i => (true, ⟨t.entries.modify i (·.withEnabled enabled)⟩)

def entryFromRoute (route : NetworkState.RouteInfo) (interfaceId : UInt32) :
    Option ForwardingEntry :=
  (ForwardingEntry.new route.destination route.prefixLength interfaceId route.gateway).map
    (·.withEnabled route.enabled)

/-- The interface of a route that `sync_from_network_state` does not pass over. -/
def routeInterface (s : NetworkState) (route : NetworkState.RouteInfo) : Option UInt32 :=
  if ¬ route.isUsable then none
  else
    match tryU32 route.interfaceId with
    | none => none
    | some interfaceId =>
      if interfaceId = 0 then none
      else if (s.findInterface route.interfaceId).any (·.isOperational) then some interfaceId
      else none

def syncFromNetworkState (s : NetworkState) (_ : ForwardingTable) : Nat × ForwardingTable :=
  let entries := s.routes.filterMap fun route =>
    (routeInterface s route).bind (entryFromRoute route)
  (entries.length, ⟨entries⟩)

def lookup {ε : Type} (t : ForwardingTable) (destination : IpAddr) :
    Checked ε (Option ForwardingEntry) := do
  let found ← filterChecked
    (fun entry => if entry.enabled then entry.matches destination else pure false) t.entries
  return maxBy (compareOn (·.prefixLen)) found

def resolve (t : ForwardingTable) (destination : IpAddr) :
    Checked ForwardingError ForwardingDecision := do
  let entry ← orFail (← t.lookup destination) .noRoute
  return ⟨entry.interfaceId, entry.nextHop.getD destination⟩

def resolveWithNetworkState (t : ForwardingTable) (destination : IpAddr) (s : NetworkState) :
    Checked ForwardingError ForwardingDecision := do
  let decision ← t.resolve destination
  let interface ← orFail (s.interface decision.interfaceId.toUInt64) .interfaceUnavailable
  rejectIf (¬ interface.isOperational) .interfaceUnavailable
  let neighbor ← orFail (s.neighbor decision.nextHop) .neighborUnresolved
  rejectIf (¬ neighbor.isUsable) .neighborUnresolved
  return decision

/-! ## 3. Lookups -/

/-- The entry serves the address, and none that does has a longer prefix. -/
def Longest (t : ForwardingTable) (address : IpAddr) (e : ForwardingEntry) : Prop :=
  e.Serves address ∧ ∀ e' ∈ t.entries, e'.Serves address → e'.prefixLen ≤ e.prefixLen

instance (t : ForwardingTable) (address : IpAddr) (e : ForwardingEntry) :
    Decidable (t.Longest address e) :=
  inferInstanceAs (Decidable (_ ∧ _))

/-- The longest matches, in the order of the table. -/
def longest (t : ForwardingTable) (address : IpAddr) : List ForwardingEntry :=
  t.entries.filter (t.Longest address ·)

variable {t : ForwardingTable} {d : IpAddr} {e : ForwardingEntry}

theorem greatest_serving (t : ForwardingTable) (d : IpAddr) :
    greatest (compareOn (·.prefixLen)) (t.entries.filter (·.Serves d)) = t.longest d := by
  unfold greatest longest
  rw [List.filter_filter]
  apply List.filter_congr
  intro e _
  rw [Bool.eq_iff_iff]
  simp only [Bool.and_eq_true, List.all_eq_true, List.mem_filter, decide_eq_true_eq]
  constructor
  · intro h
    refine ⟨h.2, fun e' he' hserves => ?_⟩
    have hle := h.1 e' ⟨he', hserves⟩
    exact Std.isLE_compare.mp hle
  · intro h
    refine ⟨fun e' he' => ?_, h.1⟩
    exact Std.isLE_compare.mpr (h.2 e' he'.1 he'.2)

/-- A lookup finds the last of the longest matches. -/
theorem lookup_eq {ε : Type} (t : ForwardingTable) (d : IpAddr) :
    (t.lookup d : Checked ε (Option ForwardingEntry)) = .ok (t.longest d).getLast? := by
  rw [lookup, filterChecked_guarded fun e => e.matches_eq d]
  show Except.ok (maxBy _ (t.entries.filter (·.Serves d))) = _
  rw [maxBy_eq_getLast?, greatest_serving]

theorem longest_eq_nil_iff : t.longest d = [] ↔ ∀ e ∈ t.entries, ¬ e.Serves d := by
  rw [← greatest_serving, greatest_eq_nil_iff, List.filter_eq_nil_iff]
  simp only [decide_eq_true_eq]

theorem resolve_eq (t : ForwardingTable) (d : IpAddr) :
    t.resolve d =
      match (t.longest d).getLast? with
      | none => fail .noRoute
      | some e => .ok ⟨e.interfaceId, e.nextHop.getD d⟩ := by
  rw [resolve, lookup_eq]
  cases (t.longest d).getLast? with
  | none => rfl
  | some e => rfl

/-! ## 4. The first of the longest matches -/

inductive Edit where
  | add (entry : ForwardingEntry)
  | remove (destination : IpAddr) (prefixLen : UInt8) (interfaceId : UInt32)
  | setEnabled (destination : IpAddr) (prefixLen : UInt8) (interfaceId : UInt32) (enabled : Bool)
  | clear
  | sync (s : NetworkState)
  deriving DecidableEq, Repr

def step (t : ForwardingTable) : Edit → ForwardingTable
  | .add entry => t.add entry
  | .remove destination prefixLen interfaceId => (t.remove destination prefixLen interfaceId).2
  | .setEnabled destination prefixLen interfaceId enabled =>
    (t.setEnabled destination prefixLen interfaceId enabled).2
  | .clear => t.clear
  | .sync s => (t.syncFromNetworkState s).2

/-- The lookup finds nothing when nothing matches, and otherwise the longest match that has been
configured first. -/
def FirstWins (t : ForwardingTable) (d : IpAddr) : Prop :=
  ∃ result, (t.lookup d : Checked ForwardingError (Option ForwardingEntry)) = .ok result ∧
    (result = none ↔ ∀ e ∈ t.entries, ¬ e.Serves d) ∧
    ∀ e, result = some e → ∃ i : Nat, t.entries[i]? = some e ∧ t.Longest d e ∧
      ∀ j, j < i → ∀ e' : ForwardingEntry, t.entries[j]? = some e' → e'.Serves d →
        e'.prefixLen < e.prefixLen

theorem first_longest_iff {i : Nat} (hi : t.entries[i]? = some e) (h : t.Longest d e) :
    (∀ j, j < i → ∀ e' : ForwardingEntry, t.entries[j]? = some e' → e'.Serves d →
      e'.prefixLen < e.prefixLen) ↔
      ∀ j, j < i → ∀ e', t.entries[j]? = some e' → ¬ t.Longest d e' := by
  have hmem : e ∈ t.entries := List.mem_of_getElem? hi
  constructor
  · intro hfirst j hj e' he' hlongest
    exact UInt8.not_lt.mpr (hlongest.2 e hmem h.1) (hfirst j hj e' he' hlongest.1)
  · intro hfirst j hj e' he' hserves
    rw [← UInt8.not_le]
    intro hle
    refine hfirst j hj e' he' ⟨hserves, fun e'' he'' hserves'' => ?_⟩
    exact UInt8.le_trans (h.2 e'' he'' hserves'') hle

theorem firstWins_iff (t : ForwardingTable) (d : IpAddr) :
    FirstWins t d ↔ (t.longest d).head? = (t.longest d).getLast? := by
  have hhead : (t.longest d).head? = t.entries.find? (t.Longest d ·) := List.head?_filter
  constructor
  · rintro ⟨result, hlookup, -, hsome⟩
    rw [lookup_eq] at hlookup
    obtain rfl : (t.longest d).getLast? = result := Except.ok.inj hlookup
    cases hlast : (t.longest d).getLast? with
    | none => rw [List.getLast?_eq_none_iff.mp hlast, List.head?_nil]
    | some e =>
      obtain ⟨i, hi, hlongest, hfirst⟩ := hsome e hlast
      rw [first_longest_iff hi hlongest] at hfirst
      obtain ⟨hlt, hget⟩ := List.getElem?_eq_some_iff.mp hi
      rw [hhead, List.find?_eq_some_iff_getElem]
      refine ⟨decide_eq_true hlongest, i, hlt, hget, fun j hj => ?_⟩
      have hnot := hfirst j hj _ (List.getElem?_eq_getElem (hj.trans hlt))
      simpa using hnot
  · intro hsame
    refine ⟨(t.longest d).head?, by rw [lookup_eq, hsame], ?_, fun e he => ?_⟩
    · rw [List.head?_eq_none_iff, longest_eq_nil_iff]
    · rw [hhead, List.find?_eq_some_iff_getElem] at he
      obtain ⟨hlongest, i, hlt, hget, hfirst⟩ := he
      have hi : t.entries[i]? = some e := List.getElem?_eq_some_iff.mpr ⟨hlt, hget⟩
      have hlongest := of_decide_eq_true hlongest
      refine ⟨i, hi, hlongest, (first_longest_iff hi hlongest).mpr fun j hj e' he' => ?_⟩
      obtain ⟨hjlt, hjget⟩ := List.getElem?_eq_some_iff.mp he'
      have hnot := hfirst j hj
      rw [hjget] at hnot
      simpa using hnot

/-- After any edits, the first of the longest matches wins exactly when it is also the last of
them. -/
theorem first_wins_run_iff (edits : List Edit) (d : IpAddr) :
    FirstWins (run step new edits) d ↔
      ((run step new edits).longest d).head? = ((run step new edits).longest d).getLast? :=
  firstWins_iff _ d

/-- Two default routes, over interface 1 and then over interface 2. -/
def twoDefaults : List Edit := [
  .add ⟨.v4 ⟨0, 0, 0, 0⟩, 0, 1, some (.v4 ⟨192, 168, 1, 1⟩), true, by decide⟩,
  .add ⟨.v4 ⟨0, 0, 0, 0⟩, 0, 2, some (.v4 ⟨10, 0, 0, 1⟩), true, by decide⟩]

/-- The second one wins. -/
theorem second_default_wins :
    ¬ FirstWins (run step new twoDefaults) (.v4 ⟨8, 8, 8, 8⟩) ∧
      (run step new twoDefaults).resolve (.v4 ⟨8, 8, 8, 8⟩) = .ok ⟨2, .v4 ⟨10, 0, 0, 1⟩⟩ := by
  constructor
  · rw [firstWins_iff]
    decide
  · decide

/-! ## 5. Deliverable decisions -/

/-- Some neighbor at the next hop, on the interface of the decision, can be reached. -/
def HasNeighbor (s : NetworkState) (decision : ForwardingDecision) : Prop :=
  ∃ n ∈ s.neighbors, n.ipAddress = decision.nextHop ∧
    n.interfaceId = decision.interfaceId.toUInt64 ∧ n.isUsable = true

/-- The interface of the decision is there and operational. -/
def HasInterface (s : NetworkState) (decision : ForwardingDecision) : Prop :=
  ∃ i, s.interface decision.interfaceId.toUInt64 = some i ∧ i.isOperational = true

/-- The first record with the address of the next hop, on any interface, is usable. -/
def FirstRecordUsable (s : NetworkState) (decision : ForwardingDecision) : Prop :=
  ∃ n, s.neighbors.find? (·.ipAddress = decision.nextHop) = some n ∧ n.isUsable = true

/-- A decision is returned when it can be delivered. -/
def Deliverable (t : ForwardingTable) (d : IpAddr) (s : NetworkState) : Prop :=
  ∀ decision, t.resolveWithNetworkState d s = .ok decision ↔
    t.resolve d = .ok decision ∧ HasInterface s decision ∧ HasNeighbor s decision

theorem resolveWithNetworkState_eq_ok {s : NetworkState} {decision : ForwardingDecision} :
    t.resolveWithNetworkState d s = .ok decision ↔
      t.resolve d = .ok decision ∧ HasInterface s decision ∧ FirstRecordUsable s decision := by
  unfold resolveWithNetworkState
  constructor
  · intro h
    obtain ⟨decision', hresolve, h⟩ := bind_eq_ok h
    obtain ⟨i, hi, h⟩ := bind_eq_ok h
    obtain ⟨_, hoperational, h⟩ := bind_eq_ok h
    obtain ⟨n, hn, h⟩ := bind_eq_ok h
    obtain ⟨_, husable, h⟩ := bind_eq_ok h
    obtain rfl : decision' = decision := Except.ok.inj h
    exact ⟨hresolve, ⟨i, orFail_eq_ok hi, not_not.mp (rejectIf_eq_ok hoperational)⟩,
      ⟨n, orFail_eq_ok hn, not_not.mp (rejectIf_eq_ok husable)⟩⟩
  · rintro ⟨hresolve, ⟨i, hi, hoperational⟩, ⟨n, hn, husable⟩⟩
    have hreturns : Returns (t.resolveWithNetworkState d s) (· = decision) :=
      .bind (.read hresolve (.bind (.orFail hi (.bind (.rejectIf (not_not.mpr hoperational)
        (.bind (.orFail hn (.bind (.rejectIf (not_not.mpr husable) (.pure rfl))))))))))
    obtain ⟨decision', heq, rfl⟩ := hreturns
    exact heq

/-- A resolved decision on an operational interface is returned when the first record of its next
hop is usable.  It can be delivered when a usable record of the next hop is on the interface. -/
theorem deliverable_iff (t : ForwardingTable) (d : IpAddr) (s : NetworkState) :
    Deliverable t d s ↔
      ∀ decision, t.resolve d = .ok decision → HasInterface s decision →
        (FirstRecordUsable s decision ↔ HasNeighbor s decision) := by
  unfold Deliverable
  refine forall_congr' fun decision => ?_
  rw [resolveWithNetworkState_eq_ok]
  constructor
  · intro h hresolve hinterface
    constructor
    · exact fun hfirst => (h.mp ⟨hresolve, hinterface, hfirst⟩).2.2
    · exact fun hneighbor => (h.mpr ⟨hresolve, hinterface, hneighbor⟩).2.2
  · intro h
    constructor
    · exact fun hall => ⟨hall.1, hall.2.1, (h hall.1 hall.2.1).mp hall.2.2⟩
    · exact fun hall => ⟨hall.1, hall.2.1, (h hall.1 hall.2.1).mpr hall.2.2⟩

def linkLocalRouter : IpAddr := .v6 ⟨#v[254, 128, 0, 0, 0, 0, 0, 0, 0, 0, 0, 0, 0, 0, 0, 1]⟩

/-- A default route by `fe80::1` over interface 2. -/
def linkLocalDefault : ForwardingTable :=
  ⟨[⟨.v6 ⟨Vector.replicate 16 0⟩, 0, 2, some linkLocalRouter, true, by decide⟩]⟩

/-- Routers of one link-local address on two operational links, of which that on the first is
unreachable. -/
def twoLinks : NetworkState :=
  { NetworkState.NetworkStateSnapshot.new with
    interfaces := [⟨1, "eth0", "", .ethernet, .up, 1500, none, none, none⟩,
      ⟨2, "eth1", "", .ethernet, .up, 1500, none, none, none⟩]
    neighbors := [⟨1, linkLocalRouter, some #v[2, 0, 0, 0, 0, 1], .unreachable, true⟩,
      ⟨2, linkLocalRouter, some #v[2, 0, 0, 0, 0, 2], .reachable, true⟩] }

/-- The way to `2001:db8::7` is there, and is not found. -/
theorem neighbor_on_other_link :
    let d : IpAddr := .v6 ⟨#v[32, 1, 13, 184, 0, 0, 0, 0, 0, 0, 0, 0, 0, 0, 0, 7]⟩
    linkLocalDefault.resolveWithNetworkState d twoLinks = fail .neighborUnresolved ∧
      ¬ Deliverable linkLocalDefault d twoLinks := by
  intro d
  have hrefused : linkLocalDefault.resolveWithNetworkState d twoLinks =
      fail .neighborUnresolved := by decide +kernel
  refine ⟨hrefused, fun h => ?_⟩
  have hreturned := (h ⟨2, linkLocalRouter⟩).mpr ⟨by decide +kernel, ⟨_, rfl, rfl⟩,
    ⟨_, List.mem_cons_of_mem _ List.mem_cons_self, rfl, rfl, rfl⟩⟩
  rw [hrefused] at hreturned
  cases hreturned

end ForwardingTable

end NetworkEngine
