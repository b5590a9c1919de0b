import Mathlib.Data.List.Pairwise
import NetworkEngine.Gateway.Forwarding
import NetworkEngine.Gateway.Routing

/-!
# RouteAgreement — the two route lookups of the gateway

The forwarding table is rebuilt from the routes of the network state, without their metrics; the
routing table keeps them.  Of the longest matches the one takes the route that is listed last, the
other the route with the least metric.
-/

namespace NetworkEngine

open Rust Ranking

namespace RoutingTable

open RoutingEntry NetworkState ForwardingTable

/-! ## 1. The usable routes -/

/-- The routing entry of a route that the forwarding table takes. -/
def routingEntry (s : NetworkState) (route : RouteInfo) : Option RoutingEntry :=
  (routeInterface s route).bind fun interfaceId =>
    RoutingEntry.new route.destination route.prefixLength route.gateway interfaceId route.metric

/-- The usable routes of the network state, in their order, with their metrics. -/
def usableRoutes (s : NetworkState) : List RoutingEntry := s.routes.filterMap (routingEntry s)

/-- The networks of two routes have an address in common. -/
def Overlap (r r' : RouteInfo) : Prop :=
  ∃ a, r.destination.Covers r.prefixLength.toNat a ∧ r'.destination.Covers r'.prefixLength.toNat a

/-- Routes that overlap differ in prefix length or metric. -/
def Distinct (s : NetworkState) : Prop :=
  s.routes.Pairwise fun r r' =>
    Overlap r r' → (r.prefixLength, r.metric) ≠ (r'.prefixLength, r'.metric)

/-- The decision of the forwarding table, rebuilt from the network state, is the one that the best
route of the routing table makes. -/
def Agrees (s : NetworkState) (t : RoutingTable) (d : IpAddr) : Prop :=
  (ForwardingTable.new.syncFromNetworkState s).2.resolve d = do
    let entry ← orFail (← t.best d) .noRoute
    return ⟨entry.interfaceId, entry.nextHop.getD d⟩

/-- Where a route leads. -/
def leads (d : IpAddr) (e : RoutingEntry) : ForwardingDecision :=
  ⟨e.interfaceId, e.nextHop.getD d⟩

/-- The longest matches among the usable routes, in their order. -/
def longestRoutes (s : NetworkState) (d : IpAddr) : List RoutingEntry :=
  (usableRoutes s).filter fun e =>
    e.Serves d ∧ ∀ e' ∈ usableRoutes s, e'.Serves d → e'.prefixLen ≤ e.prefixLen

/-- The longest match that is listed last leads where one with the least metric leads. -/
def LastIsCheapest (s : NetworkState) (d : IpAddr) : Prop :=
  ∀ last ∈ (longestRoutes s d).getLast?, ∀ cheapest ∈ longestRoutes s d,
    (∀ e ∈ longestRoutes s d, cheapest.metric ≤ e.metric) → leads d last = leads d cheapest

/-! ## 2. One list, with and without metrics -/

variable {s : NetworkState} {d : IpAddr} {t : RoutingTable} {e e' : RoutingEntry}

def toForwarding (e : RoutingEntry) : ForwardingEntry :=
  ⟨e.destination, e.prefixLen, e.interfaceId, e.nextHop, e.enabled,
    UInt8.not_lt.mpr e.prefixLen_le⟩

theorem entryFromRoute_eq {route : RouteInfo} (h : route.enabled = true) (interfaceId : UInt32) :
    entryFromRoute route interfaceId =
      (RoutingEntry.new route.destination route.prefixLength route.gateway interfaceId
        route.metric).map toForwarding := by
  unfold entryFromRoute ForwardingEntry.new RoutingEntry.new
  by_cases hlong : route.destination.maxPrefix < route.prefixLength
  · rw [dif_pos hlong, dif_pos hlong]
    rfl
  · rw [dif_neg hlong, dif_neg hlong, Option.map_some, Option.map_some, h]
    rfl

theorem enabled_of_routeInterface {route : RouteInfo} {interfaceId : UInt32}
    (h : routeInterface s route = some interfaceId) : route.enabled = true := by
  unfold routeInterface at h
  by_cases husable : route.isUsable = true
  · exact (Bool.and_eq_true_iff.mp husable).1
  · rw [if_pos husable] at h
    cases h

/-- The forwarding table has the usable routes without their metrics. -/
theorem sync_entries (s : NetworkState) :
    (ForwardingTable.new.syncFromNetworkState s).2.entries = (usableRoutes s).map toForwarding := by
  show s.routes.filterMap _ = _
  rw [usableRoutes, List.map_filterMap]
  apply List.filterMap_congr
  intro route _
  unfold routingEntry
  cases hinterface : routeInterface s route with
  | none => rfl
  | some interfaceId => exact entryFromRoute_eq (enabled_of_routeInterface hinterface) interfaceId

theorem longest_sync (s : NetworkState) (d : IpAddr) :
    (ForwardingTable.new.syncFromNetworkState s).2.longest d =
      (longestRoutes s d).map toForwarding := by
  unfold ForwardingTable.longest longestRoutes
  rw [sync_entries, List.filter_map]
  refine congrArg (List.map toForwarding) (List.filter_congr fun e _ => ?_)
  apply decide_eq_decide.mpr
  unfold ForwardingTable.Longest
  rw [sync_entries, List.forall_mem_map]
  exact Iff.rfl

theorem resolve_sync (s : NetworkState) (d : IpAddr) :
    (ForwardingTable.new.syncFromNetworkState s).2.resolve d =
      match (longestRoutes s d).getLast? with
      | none => fail .noRoute
      | some e => .ok (leads d e) := by
  rw [ForwardingTable.resolve_eq, longest_sync, List.getLast?_map]
  cases (longestRoutes s d).getLast? with
  | none => rfl
  | some e => rfl

/-! ## 3. The cheapest of the longest matches -/

theorem mem_longestRoutes :
    e ∈ longestRoutes s d ↔ e ∈ usableRoutes s ∧ e.Serves d ∧
      ∀ e' ∈ usableRoutes s, e'.Serves d → e'.prefixLen ≤ e.prefixLen := by
  rw [longestRoutes, List.mem_filter, decide_eq_true_iff]

/-- The best routes of a table are the cheapest of the longest matches. -/
theorem best_iff_cheapest (h : t.entries.Perm (usableRoutes s)) :
    Best t d e ↔ e ∈ longestRoutes s d ∧ ∀ e' ∈ longestRoutes s d, e.metric ≤ e'.metric := by
  unfold Best
  rw [mem_longestRoutes, h.mem_iff]
  constructor
  · rintro ⟨hmem, hserves, hbest⟩
    refine ⟨⟨hmem, hserves, fun e' he' hserves' => (hbest e' (h.mem_iff.mpr he') hserves').1⟩,
      fun e' he' => ?_⟩
    obtain ⟨hmem', hserves', hlongest'⟩ := mem_longestRoutes.mp he'
    have hboth := hbest e' (h.mem_iff.mpr hmem') hserves'
    exact hboth.2 (UInt8.le_antisymm hboth.1 (hlongest' e hmem hserves))
  · rintro ⟨⟨hmem, hserves, hlongest⟩, hcheapest⟩
    refine ⟨hmem, hserves, fun e' he' hserves' => ?_⟩
    have hmem' := h.mem_iff.mp he'
    refine ⟨hlongest e' hmem' hserves', fun heq => hcheapest e' ?_⟩
    exact mem_longestRoutes.mpr ⟨hmem', hserves', heq ▸ hlongest⟩

/-- An entry of the list of usable routes has the network and the metric of its route. -/
theorem routingEntry_eq_some {route : RouteInfo} (h : routingEntry s route = some e) :
    e.destination = route.destination ∧ e.prefixLen = route.prefixLength ∧
      e.metric = route.metric := by
  obtain ⟨interfaceId, -, hnew⟩ := Option.bind_eq_some_iff.mp h
  unfold RoutingEntry.new at hnew
  split at hnew
  · cases hnew
  · obtain rfl := Option.some.inj hnew
    exact ⟨rfl, rfl, rfl⟩

/-- Where overlapping routes are distinct, no two of the longest matches have one metric. -/
theorem eq_of_metric (h : Distinct s) (he : e ∈ longestRoutes s d) (he' : e' ∈ longestRoutes s d)
    (hmetric : e.metric = e'.metric) : e = e' := by
  have hpairs : (usableRoutes s).Pairwise fun a b =>
      a.Serves d → b.Serves d → a.rank ≠ b.rank := by
    apply List.Pairwise.filterMap _ _ h
    intro r r' hdistinct a ha b hb hserves hserves'
    obtain ⟨hdest, hlen, hm⟩ := routingEntry_eq_some ha
    obtain ⟨hdest', hlen', hm'⟩ := routingEntry_eq_some hb
    have hoverlap : Overlap r r' :=
      ⟨d, by rw [← hdest, ← hlen]; exact hserves.2, by rw [← hdest', ← hlen']; exact hserves'.2⟩
    rw [rank, rank, hlen, hm, hlen', hm']
    exact hdistinct hoverlap
  rw [mem_longestRoutes] at he he'
  have hlen : e.prefixLen = e'.prefixLen :=
    UInt8.le_antisymm (he'.2.2 e he.1 he.2.1) (he.2.2 e' he'.1 he'.2.1)
  have hrank : e.rank = e'.rank := by rw [rank, rank, hlen, hmetric]
  by_contra hne
  have : Std.Symm fun a b : RoutingEntry => a.Serves d → b.Serves d → a.rank ≠ b.rank :=
    ⟨fun a b hab hb ha => (hab ha hb).symm⟩
  exact hpairs.forall he.1 he'.1 hne he.2.1 he'.2.1 hrank

/-! ## 4. Agreement -/

/-- Where overlapping routes are distinct, the two tables decide alike for a destination exactly
when the last listed of the longest matches leads where the cheapest of them leads. -/
theorem agrees_iff (s : NetworkState) (t : RoutingTable) (d : IpAddr) (hdistinct : Distinct s)
    (hsame : t.entries.Perm (usableRoutes s)) : Agrees s t d ↔ LastIsCheapest s d := by
  unfold Agrees LastIsCheapest
  rw [resolve_sync, best_eq]
  cases hbest : (greatest preference (t.serving d)).getLast? with
  | none =>
    -- Nothing serves the destination.
    rw [List.getLast?_eq_none_iff, greatest_eq_nil_iff, serving, List.filter_eq_nil_iff] at hbest
    have hnil : longestRoutes s d = [] := by
      rw [List.eq_nil_iff_forall_not_mem]
      intro e he
      obtain ⟨hmem, hserves, -⟩ := mem_longestRoutes.mp he
      exact hbest e (hsame.mem_iff.mpr hmem) (decide_eq_true hserves)
    rw [hnil]
    apply iff_of_true rfl
    intro last hlast
    cases hlast
  | some best =>
    obtain ⟨hmem, hcheapest⟩ :=
      (best_iff_cheapest hsame).mp (mem_greatest_iff.mp (List.mem_of_getLast? hbest))
    cases hlast : (longestRoutes s d).getLast? with
    | none =>
      rw [List.getLast?_eq_none_iff.mp hlast] at hmem
      exact absurd hmem List.not_mem_nil
    | some last =>
      show Except.ok (leads d last) = Except.ok (leads d best) ↔ _
      constructor
      · intro h last' hlast' cheapest hcheap hleast
        obtain rfl : last = last' := Option.some.inj hlast'
        have hmetric : best.metric = cheapest.metric :=
          UInt32.le_antisymm (hcheapest cheapest hcheap) (hleast best hmem)
        rw [← eq_of_metric hdistinct hmem hcheap hmetric]
        exact Except.ok.inj h
      · intro h
        exact congrArg Except.ok (h last rfl best hmem hcheapest)

/-- Default routes by two routers, the cheaper one first; both interfaces are up. -/
def multiHomed : NetworkState :=
  { NetworkStateSnapshot.new with
    interfaces := [⟨1, "eth0", "", .ethernet, .up, 1500, none, none, none⟩,
      ⟨2, "wlan0", "", .wifi, .up, 1500, none, none, none⟩]
    routes := [
      ⟨1, .v4 ⟨0, 0, 0, 0⟩, 0, some (.v4 ⟨192, 168, 1, 1⟩), 1, 25, .netMgmt, .unicast, true⟩,
      ⟨2, .v4 ⟨0, 0, 0, 0⟩, 0, some (.v4 ⟨10, 0, 0, 1⟩), 2, 50, .netMgmt, .unicast, true⟩] }

theorem distinct_multiHomed : Distinct multiHomed := by
  unfold Distinct
  refine List.pairwise_pair.mpr fun _ => ?_
  decide

theorem agrees_iff_multiHomed :
    Agrees multiHomed ⟨usableRoutes multiHomed⟩ (.v4 ⟨8, 8, 8, 8⟩) ↔
      LastIsCheapest multiHomed (.v4 ⟨8, 8, 8, 8⟩) :=
  agrees_iff _ _ _ distinct_multiHomed (List.Perm.refl _)

/-- The packet leaves by the router with the higher metric. -/
theorem dearer_default_wins :
    Distinct multiHomed ∧
      (ForwardingTable.new.syncFromNetworkState multiHomed).2.resolve (.v4 ⟨8, 8, 8, 8⟩) =
        .ok ⟨2, .v4 ⟨10, 0, 0, 1⟩⟩ ∧
      ¬ Agrees multiHomed ⟨usableRoutes multiHomed⟩ (.v4 ⟨8, 8, 8, 8⟩) :=
  ⟨distinct_multiHomed, by decide, by unfold Agrees; decide⟩

end RoutingTable

end NetworkEngine
