import NetworkEngine.Backend.IpHelperTables
import NetworkEngine.Lib.Ranking
import NetworkEngine.Network.Cidr

/-!
# IpHelperLookup — the route that the table of the IP Helper finds

`backend_iphelper::routes`.  `lookup` takes the longest matching prefix and, of equally long ones,
the least metric.  It sees what `insert` has kept: of the routes to one destination over one
interface the last to arrive, whatever their next hops and metrics.
-/

namespace NetworkEngine

open Rust Keyed Ranking

namespace IpHelper

/-! ## 1. Routes -/

def ipv4Matches {ε : Type} (network target : Ipv4Addr) (prefixLength : UInt8) : Checked ε Bool :=
  matchesUnlessZero network.toU32 target.toU32 prefixLength

def ipv6Matches {ε : Type} (network target : Ipv6Addr) (prefixLength : UInt8) : Checked ε Bool :=
  matchesUnlessZero network.toU128 target.toU128 prefixLength

namespace RouteInfo

def «matches» {ε : Type} (route : RouteInfo) (address : IpAddr) : Checked ε Bool :=
  inFamily (fun network target => ipv4Matches network target route.prefixLength)
    (fun network target => ipv6Matches network target route.prefixLength) route.destination address

/-- What `insert` accepts. -/
def Valid (route : RouteInfo) : Prop :=
  route.interfaceIndex ≠ 0 ∧ route.prefixLength ≤ maxPrefix route.destination

instance (route : RouteInfo) : Decidable route.Valid := inferInstanceAs (Decidable (_ ∧ _))

def Covers (route : RouteInfo) (address : IpAddr) : Prop :=
  route.destination.Covers route.prefixLength.toNat address

instance (route : RouteInfo) (address : IpAddr) : Decidable (route.Covers address) :=
  inferInstanceAs (Decidable (route.destination.Covers _ _))

/-- The comparison of `lookup`. -/
def preference : RouteInfo → RouteInfo → Ordering :=
  compareLex (compareOn (·.prefixLength)) fun a b => compareOn (·.metric) b a

/-- What `preference` compares. -/
def rank (route : RouteInfo) : UInt8 × UInt32 := (route.prefixLength, route.metric)

instance : Std.TransCmp preference := inferInstanceAs (Std.TransCmp (compareLex _ _))

theorem matches_eq {ε : Type} {route : RouteInfo} (h : route.Valid) (address : IpAddr) :
    (route.matches address : Checked ε Bool) = .ok (route.Covers address) := by
  have hle : route.prefixLength ≤ route.destination.maxPrefix := by
    have hvalid := h.2
    cases hdestination : route.destination <;> rw [hdestination] at hvalid <;> exact hvalid
  exact inFamily_eq hle (fun _ _ hle => matchesUnlessZero_eq _ _ hle)
    (fun _ _ hle => matchesUnlessZero_eq _ _ hle)

/-- Routes of one key are to one network. -/
theorem covers_of_key {r r' : RouteInfo} {d : IpAddr} (hkey : r'.key = r.key) :
    r'.Covers d ↔ r.Covers d := by
  simp only [key, Prod.mk.injEq] at hkey
  rw [Covers, Covers, hkey.1, hkey.2.1]

theorem prefixLength_of_key {r r' : RouteInfo} (hkey : r'.key = r.key) :
    r'.prefixLength = r.prefixLength := by
  simp only [key, Prod.mk.injEq] at hkey
  exact hkey.2.1

theorem rank_eq {a b : RouteInfo} (h : preference a b = .eq) : a.rank = b.rank := by
  obtain ⟨hbits, hmetric⟩ := eq_of_lex h
  rw [rank, rank, hbits, hmetric]

end RouteInfo

open RouteInfo

/-! ## 2. The table -/

def RouteTable.lookup (table : RouteTable) (destination : IpAddr) :
    Checked RouteTableError RouteInfo := do
  let found ← filterChecked (·.matches destination) table
  orFail (maxBy preference found) .routeNotFound

/-- `insert`, route by route. -/
def RouteTable.insertAll (routes : List RouteInfo) : Op RouteTable RouteTableError Unit :=
  routes.forM fun route table => table.insert route

/-- The table that the routes make of an empty one. -/
def RouteTable.ofRoutes (routes : List RouteInfo) : RouteTable :=
  (exec (RouteTable.insertAll routes) []).2

/-- The route matches; no route that does has a longer prefix, and none of the same prefix length a
lower metric. -/
def Best (routes : List RouteInfo) (d : IpAddr) (r : RouteInfo) : Prop :=
  r ∈ routes ∧ r.Covers d ∧ ∀ r' ∈ routes, r'.Covers d →
    r'.prefixLength ≤ r.prefixLength ∧ (r'.prefixLength = r.prefixLength → r.metric ≤ r'.metric)

instance (routes : List RouteInfo) (d : IpAddr) (r : RouteInfo) : Decidable (Best routes d r) :=
  inferInstanceAs (Decidable (_ ∧ _))

/-- What a lookup among the routes should answer: that none matches, or a best one. -/
def Answers (routes : List RouteInfo) (d : IpAddr)
    (result : Checked RouteTableError RouteInfo) : Prop :=
  (result = fail .routeNotFound ↔ ∀ r ∈ routes, ¬ r.Covers d) ∧
    ((∃ r ∈ routes, r.Covers d) → ∃ r, result = .ok r ∧ Best routes d r)

/-- The routes make an answer of one prefix length and metric, in whatever order they arrive. -/
def OrderFree (routes : List RouteInfo) (d : IpAddr) : Prop :=
  ∀ routes', routes'.Perm routes →
    rank <$> (RouteTable.ofRoutes routes').lookup d = rank <$> (RouteTable.ofRoutes routes).lookup d

/-- No route matches, or a best one is the last to arrive of its key. -/
def BestArrivesLast (routes : List RouteInfo) (d : IpAddr) : Prop :=
  (∀ r ∈ routes, ¬ r.Covers d) ∨ ∃ r, Best routes d r ∧ last RouteInfo.key r.key routes = some r

/-- No route matches, or a best one shares its key with routes of its own metric only. -/
def BestUnrivalled (routes : List RouteInfo) (d : IpAddr) : Prop :=
  (∀ r ∈ routes, ¬ r.Covers d) ∨
    ∃ r, Best routes d r ∧ ∀ r' ∈ routes, r'.key = r.key → r'.metric = r.metric

/-! ## 3. What the table holds -/

variable {routes routes' : List RouteInfo} {d : IpAddr} {r r' : RouteInfo}

theorem insert_of_valid (h : r.Valid) (table : RouteTable) :
    table.insert r = (.ok (), put RouteInfo.key replace r table) := by
  unfold RouteTable.insert
  rw [if_neg h.1, if_neg (UInt8.not_lt.mpr h.2)]
  refine congrArg (Prod.mk _) (replaceOrPush_eq_put (fun b => ?_) table)
  simp only [RouteInfo.key, Prod.mk.injEq]

/-- Valid routes are all accepted. -/
theorem exec_insertAll (hvalid : ∀ r ∈ routes, r.Valid) (table : RouteTable) :
    exec (RouteTable.insertAll routes) table = (.ok (), puts RouteInfo.key replace routes table) := by
  induction routes generalizing table with
  | nil => rfl
  | cons r routes ih =>
    have hinsert : exec (fun table : RouteTable => table.insert r) table =
        (.ok (), put RouteInfo.key replace r table) :=
      insert_of_valid (hvalid r List.mem_cons_self) table
    have hrest := ih (fun r' hr' => hvalid r' (List.mem_cons_of_mem r hr'))
      (put RouteInfo.key replace r table)
    show exec ((fun table : RouteTable => table.insert r) >>= fun _ => RouteTable.insertAll routes)
      table = _
    rw [exec_bind_ok hinsert, hrest]
    rfl

theorem mem_ofRoutes (hvalid : ∀ r ∈ routes, r.Valid) :
    r ∈ RouteTable.ofRoutes routes ↔ last RouteInfo.key r.key routes = some r := by
  have hm := merging_replace RouteInfo.key
  have hnodup := nodup_puts hm routes (l := []) List.nodup_nil
  have hfind := find_eq_some_iff (k := r.key) (a := r) hnodup
  rw [RouteTable.ofRoutes, exec_insertAll hvalid]
  rw [and_iff_left rfl] at hfind
  rw [← hfind]
  cases hlast : last RouteInfo.key r.key routes with
  | none =>
    rw [find_puts_of_none hm hlast]
    exact Iff.rfl
  | some a =>
    obtain ⟨b, hput, -⟩ := find_puts_of_last hm (l := []) hlast
    rw [hput]
    exact Iff.rfl

theorem mem_of_ofRoutes (hvalid : ∀ r ∈ routes, r.Valid) (h : r ∈ RouteTable.ofRoutes routes) :
    r ∈ routes :=
  mem_of_last ((mem_ofRoutes hvalid).mp h)

/-- What the table has for the network of a route. -/
theorem exists_kept (hvalid : ∀ r ∈ routes, r.Valid) (h : r ∈ routes) :
    ∃ r' ∈ RouteTable.ofRoutes routes, r'.key = r.key := by
  obtain ⟨r', hlast⟩ := exists_last RouteInfo.key (List.mem_map_of_mem h)
  have hkey : r'.key = r.key := key_of_last hlast
  rw [← hkey] at hlast
  exact ⟨r', (mem_ofRoutes hvalid).mpr hlast, hkey⟩

/-! ## 4. What the lookup finds -/

theorem best_iff_greatest :
    Best routes d r ↔ r ∈ greatest preference (routes.filter (·.Covers d)) := by
  unfold preference
  rw [mem_greatest_lex, List.mem_filter, decide_eq_true_iff, and_assoc]
  refine and_congr_right fun _ => and_congr_right fun _ => forall_congr' fun r' => ?_
  rw [List.mem_filter, decide_eq_true_iff, and_imp]

/-- The lookup answers with the last of the best routes of the table. -/
theorem lookup_eq {table : RouteTable} (hvalid : ∀ r ∈ table, r.Valid) (d : IpAddr) :
    table.lookup d =
      orFail (greatest preference (table.filter (·.Covers d))).getLast? .routeNotFound := by
  have hfilter : (filterChecked (·.matches d) table : Checked RouteTableError _) =
      .ok (table.filter (·.Covers d)) := filterChecked_eq fun r hr => matches_eq (hvalid r hr) d
  rw [RouteTable.lookup, hfilter, ← maxBy_eq_getLast?]
  rfl

theorem valid_ofRoutes (hvalid : ∀ r ∈ routes, r.Valid) : ∀ r ∈ RouteTable.ofRoutes routes, r.Valid :=
  fun r hr => hvalid r (mem_of_ofRoutes hvalid hr)

/-- Where no route matches there is no answer. -/
theorem lookup_of_none (hvalid : ∀ r ∈ routes, r.Valid) (hnone : ∀ r ∈ routes, ¬ r.Covers d) :
    (RouteTable.ofRoutes routes).lookup d = fail .routeNotFound := by
  have hfilter : (RouteTable.ofRoutes routes).filter (·.Covers d) = [] := by
    rw [List.filter_eq_nil_iff]
    intro r hr
    rw [decide_eq_true_iff]
    exact hnone r (mem_of_ofRoutes hvalid hr)
  rw [lookup_eq (valid_ofRoutes hvalid), hfilter]
  rfl

/-- Where a route matches the answer is best in the table. -/
theorem lookup_of_covers (hvalid : ∀ r ∈ routes, r.Valid) (h : r ∈ routes) (hcovers : r.Covers d) :
    ∃ found, (RouteTable.ofRoutes routes).lookup d = .ok found ∧
      Best (RouteTable.ofRoutes routes) d found := by
  obtain ⟨kept, hkept, hkey⟩ := exists_kept hvalid h
  have hkeptCovers : kept.Covers d := (covers_of_key hkey).mpr hcovers
  rw [lookup_eq (valid_ofRoutes hvalid)]
  cases hlast : (greatest preference
      ((RouteTable.ofRoutes routes).filter (·.Covers d))).getLast? with
  | none =>
    rw [List.getLast?_eq_none_iff, greatest_eq_nil_iff, List.filter_eq_nil_iff] at hlast
    exact absurd (decide_eq_true hkeptCovers) (hlast kept hkept)
  | some found =>
    have hmem := List.mem_of_getLast? hlast
    exact ⟨found, rfl, best_iff_greatest.mpr hmem⟩

/-- What is best in the table is best among all routes when a best route is in the table. -/
theorem best_of_kept (hvalid : ∀ r ∈ routes, r.Valid) (h : Best (RouteTable.ofRoutes routes) d r) :
    Best routes d r ↔ ∃ r' ∈ RouteTable.ofRoutes routes, Best routes d r' := by
  have hsub : ∀ b ∈ (RouteTable.ofRoutes routes).filter (·.Covers d),
      b ∈ routes.filter (·.Covers d) := by
    intro b hb
    rw [List.mem_filter] at hb ⊢
    exact ⟨mem_of_ofRoutes hvalid hb.1, hb.2⟩
  have hgreatest := mem_greatest_of_subset hsub (best_iff_greatest.mp h)
  rw [best_iff_greatest, hgreatest]
  constructor
  · intro hexists
    obtain ⟨b, hb, hbest⟩ := hexists
    exact ⟨b, (List.mem_filter.mp hb).1, best_iff_greatest.mpr hbest⟩
  · intro hexists
    obtain ⟨b, hb, hbest⟩ := hexists
    exact ⟨b, List.mem_filter.mpr ⟨hb, decide_eq_true hbest.2.1⟩, best_iff_greatest.mp hbest⟩

/-- The lookup answers for all routes exactly when a best one is the last of its key. -/
theorem answers_iff_last (hvalid : ∀ r ∈ routes, r.Valid) :
    Answers routes d ((RouteTable.ofRoutes routes).lookup d) ↔ BestArrivesLast routes d := by
  by_cases hnone : ∀ r ∈ routes, ¬ r.Covers d
  · have hlookup := lookup_of_none hvalid hnone
    refine iff_of_true ⟨iff_of_true hlookup hnone, fun hsome => ?_⟩ (.inl hnone)
    obtain ⟨r, hr, hcovers⟩ := hsome
    exact absurd hcovers (hnone r hr)
  · have hsome : ∃ r ∈ routes, r.Covers d := by
      simpa only [not_forall, not_not, exists_prop] using hnone
    obtain ⟨r, hr, hcovers⟩ := hsome
    obtain ⟨found, hlookup, hbest⟩ := lookup_of_covers hvalid hr hcovers
    have hkept := best_of_kept hvalid hbest
    simp only [mem_ofRoutes hvalid, and_comm] at hkept
    unfold Answers BestArrivesLast
    rw [hlookup, or_iff_right hnone, ← hkept]
    constructor
    · intro h
      obtain ⟨found', hok, hbest'⟩ := h.2 ⟨r, hr, hcovers⟩
      rw [Except.ok.inj hok]
      exact hbest'
    · intro hall
      refine ⟨iff_of_false (fun hfail => ?_) hnone, fun _ => ⟨found, rfl, hall⟩⟩
      cases hfail

/-! ## 5. Every order of arrival -/

theorem Best.perm (h : Best routes d r) (hperm : routes'.Perm routes) : Best routes' d r :=
  ⟨hperm.mem_iff.mpr h.1, h.2.1, fun r' hr' => h.2.2 r' (hperm.mem_iff.mp hr')⟩

/-- A matching route that ranks as a best one is best. -/
theorem Best.of_rank (h : Best routes d r) (hmem : r' ∈ routes) (hcovers : r'.Covers d)
    (hrank : r'.rank = r.rank) : Best routes d r' := by
  obtain ⟨hbits, hmetric⟩ := Prod.mk.inj hrank
  refine ⟨hmem, hcovers, ?_⟩
  rw [hbits, hmetric]
  exact h.2.2

/-- A route of the key and of the metric of a best one is best. -/
theorem Best.of_key (h : Best routes d r) (hmem : r' ∈ routes) (hkey : r'.key = r.key)
    (hmetric : r'.metric = r.metric) : Best routes d r' := by
  apply h.of_rank hmem ((covers_of_key hkey).mpr h.2.1)
  rw [rank, rank, prefixLength_of_key hkey, hmetric]

theorem Best.rank_eq (h : Best routes d r) (h' : Best routes d r') : r.rank = r'.rank := by
  have hties := greatest_ties (fun _ => Iff.rfl) (best_iff_greatest.mp h) (best_iff_greatest.mp h')
  exact RouteInfo.rank_eq hties

theorem BestUnrivalled.arrivesLast (h : BestUnrivalled routes d) (hperm : routes'.Perm routes) :
    BestArrivesLast routes' d := by
  cases h with
  | inl hnone => exact .inl fun r hr => hnone r (hperm.mem_iff.mp hr)
  | inr hbest =>
    obtain ⟨r, hbest, hmetric⟩ := hbest
    have hmem : r.key ∈ routes'.map RouteInfo.key := List.mem_map_of_mem (hperm.mem_iff.mpr hbest.1)
    obtain ⟨r', hlast⟩ := exists_last RouteInfo.key hmem
    have hkey : r'.key = r.key := key_of_last hlast
    have hr' : r' ∈ routes := hperm.mem_iff.mp (mem_of_last hlast)
    have hbest' := hbest.of_key hr' hkey (hmetric r' hr' hkey)
    rw [← hkey] at hlast
    exact .inr ⟨r', hbest'.perm hperm, hlast⟩

/-- The last of its key has the highest metric of its key when routes arrive by their metrics. -/
theorem metric_le_of_last (hsorted : routes.Pairwise fun a b => a.metric ≤ b.metric)
    (hlast : last RouteInfo.key r.key routes = some r) (hmem : r' ∈ routes)
    (hkey : r'.key = r.key) : r'.metric ≤ r.metric := by
  induction routes using List.reverseRecOn with
  | nil => cases hmem
  | append_singleton routes a ih =>
    rw [List.pairwise_append] at hsorted
    rw [last_concat] at hlast
    by_cases ha : a.key = r.key
    · rw [if_pos ha] at hlast
      obtain rfl := Option.some.inj hlast
      rcases List.mem_append.mp hmem with hmem | hmem
      · exact hsorted.2.2 r' hmem a List.mem_cons_self
      · rw [List.mem_singleton.mp hmem]
        exact UInt32.le_refl _
    · rw [if_neg ha] at hlast
      rcases List.mem_append.mp hmem with hmem | hmem
      · exact ih hsorted.1 hlast hmem
      · rw [List.mem_singleton.mp hmem] at hkey
        exact absurd hkey ha

/-- Some order has of each key the worst route last. -/
theorem bestUnrivalled_of_orders (h : ∀ routes', routes'.Perm routes → BestArrivesLast routes' d) :
    BestUnrivalled routes d := by
  have hperm : (sortBy (compareOn RouteInfo.metric) routes).Perm routes := sortBy_perm
  have hsorted : Sorted (compareOn RouteInfo.metric) (sortBy (compareOn RouteInfo.metric) routes) :=
    sorted_sortBy
  cases h _ hperm with
  | inl hnone => exact .inl fun r hr => hnone r (hperm.mem_iff.mpr hr)
  | inr hbest =>
    obtain ⟨r, hbest, hlast⟩ := hbest
    have hall := hbest.perm hperm.symm
    refine .inr ⟨r, hall, fun r' hr' hkey => ?_⟩
    have hle := metric_le_of_last (hsorted.imp Std.isLE_compare.mp) hlast (hperm.mem_iff.mpr hr') hkey
    have hge := (hall.2.2 r' hr' ((covers_of_key hkey).mpr hall.2.1)).2 (prefixLength_of_key hkey)
    exact UInt32.le_antisymm hle hge

/-- Correct answers to one question agree in prefix length and metric. -/
theorem Answers.rank_eq {result result' : Checked RouteTableError RouteInfo}
    (h : Answers routes d result) (h' : Answers routes d result') :
    rank <$> result = rank <$> result' := by
  by_cases hsome : ∃ r ∈ routes, r.Covers d
  · obtain ⟨r, rfl, hbest⟩ := h.2 hsome
    obtain ⟨r', rfl, hbest'⟩ := h'.2 hsome
    exact congrArg Except.ok (hbest.rank_eq hbest')
  · have hnone : ∀ r ∈ routes, ¬ r.Covers d := fun r hr hcovers => hsome ⟨r, hr, hcovers⟩
    rw [h.1.mpr hnone, h'.1.mpr hnone]

/-- What is a correct answer does not depend on the order of arrival. -/
theorem answers_perm {result : Checked RouteTableError RouteInfo} (hperm : routes'.Perm routes) :
    Answers routes' d result ↔ Answers routes d result := by
  have hbest (r : RouteInfo) : Best routes' d r ↔ Best routes d r :=
    ⟨fun h => h.perm hperm.symm, fun h => h.perm hperm⟩
  simp only [Answers, hperm.mem_iff, hbest]

/-- The answer of another order is correct when it ranks as a correct one. -/
theorem Answers.of_rank (hvalid : ∀ r ∈ routes, r.Valid) {result : Checked RouteTableError RouteInfo}
    (h : Answers routes d result)
    (hrank : rank <$> (RouteTable.ofRoutes routes).lookup d = rank <$> result) :
    Answers routes d ((RouteTable.ofRoutes routes).lookup d) := by
  by_cases hsome : ∃ r ∈ routes, r.Covers d
  · obtain ⟨r, rfl, hbest⟩ := h.2 hsome
    obtain ⟨r', hr', hcovers⟩ := hsome
    obtain ⟨found, hlookup, hfound⟩ := lookup_of_covers hvalid hr' hcovers
    rw [hlookup] at hrank ⊢
    have hmem := mem_of_ofRoutes hvalid hfound.1
    have hall := hbest.of_rank hmem hfound.2.1 (Except.ok.inj hrank)
    have hsome : ¬ ∀ r ∈ routes, ¬ r.Covers d := fun hnone => hnone r' hr' hcovers
    refine ⟨iff_of_false (fun hfail => ?_) hsome, fun _ => ⟨found, rfl, hall⟩⟩
    cases hfail
  · have hnone : ∀ r ∈ routes, ¬ r.Covers d := fun r hr hcovers => hsome ⟨r, hr, hcovers⟩
    exact ⟨iff_of_true (lookup_of_none hvalid hnone) hnone, fun h => absurd h hsome⟩

/-- Valid routes are all accepted.  The lookup answers for all of them exactly when a best one is
the last to arrive of its key; it does so in every order of arrival, and hence independently of it,
exactly when a best one shares its key with routes of its own metric only. -/
theorem lookup_answers_iff (routes : List RouteInfo) (hvalid : ∀ r ∈ routes, r.Valid)
    (d : IpAddr) :
    exec (RouteTable.insertAll routes) [] = (.ok (), RouteTable.ofRoutes routes) ∧
      (Answers routes d ((RouteTable.ofRoutes routes).lookup d) ↔ BestArrivesLast routes d) ∧
      (Answers routes d ((RouteTable.ofRoutes routes).lookup d) ∧ OrderFree routes d ↔
        BestUnrivalled routes d) := by
  have hvalidPerm {routes' : List RouteInfo} (hperm : routes'.Perm routes) :
      ∀ r ∈ routes', r.Valid := fun r hr => hvalid r (hperm.mem_iff.mp hr)
  refine ⟨?_, answers_iff_last hvalid, ?_⟩
  · rw [RouteTable.ofRoutes, exec_insertAll hvalid]
  constructor
  · intro h
    apply bestUnrivalled_of_orders
    intro routes' hperm
    rw [← answers_iff_last (hvalidPerm hperm)]
    exact ((answers_perm hperm).mpr h.1).of_rank (hvalidPerm hperm) (h.2 routes' hperm)
  · intro h
    have hanswers {routes' : List RouteInfo} (hperm : routes'.Perm routes) :
        Answers routes d ((RouteTable.ofRoutes routes').lookup d) := by
      rw [← answers_perm hperm, answers_iff_last (hvalidPerm hperm)]
      exact h.arrivesLast hperm
    exact ⟨hanswers (.refl _), fun routes' hperm => (hanswers hperm).rank_eq (hanswers (.refl _))⟩

/-- The default routes of two gateways on one interface, the cheaper one first. -/
def twoGateways : List RouteInfo :=
  [⟨.v4 ⟨0, 0, 0, 0⟩, 0, some (.v4 ⟨192, 168, 1, 1⟩), 1, 10, .indirect, .unknown 0⟩,
    ⟨.v4 ⟨0, 0, 0, 0⟩, 0, some (.v4 ⟨192, 168, 1, 2⟩), 1, 50, .indirect, .unknown 0⟩]

/-- The other way round the cheaper one is found. -/
theorem lookup_answers_iff_twoGateways :
    Answers twoGateways.reverse (.v4 ⟨8, 8, 8, 8⟩)
      ((RouteTable.ofRoutes twoGateways.reverse).lookup (.v4 ⟨8, 8, 8, 8⟩)) := by
  have hiff := (lookup_answers_iff twoGateways.reverse (by decide) (.v4 ⟨8, 8, 8, 8⟩)).2.1
  exact hiff.mpr (.inr ⟨twoGateways.get ⟨0, by decide⟩, by decide, by decide⟩)

/-- The cheaper one first, the one of metric 50 is found. -/
theorem cheaper_gateway_displaced :
    (∀ r ∈ twoGateways, r.Valid) ∧
      ¬ Answers twoGateways (.v4 ⟨8, 8, 8, 8⟩)
        ((RouteTable.ofRoutes twoGateways).lookup (.v4 ⟨8, 8, 8, 8⟩)) := by
  refine ⟨by decide, fun h => ?_⟩
  have hfound : (RouteTable.ofRoutes twoGateways).lookup (.v4 ⟨8, 8, 8, 8⟩) =
      .ok (twoGateways.get ⟨1, by decide⟩) := by decide
  obtain ⟨r, hok, hbest⟩ := h.2 (by decide)
  rw [hfound] at hok
  obtain rfl := Except.ok.inj hok
  exact absurd hbest (by decide)

end IpHelper

end NetworkEngine
