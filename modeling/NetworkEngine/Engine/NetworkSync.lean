import Mathlib.Data.List.Forall2
import NetworkEngine.Backend.IpHelperTables
import NetworkEngine.Core.Error
import NetworkEngine.Gateway.Forwarding

/-!
# NetworkSync — from the tables of Windows to the forwarding table

`ffi::init::synchronize_network_state` copies the tables of the IP Helper backend into the network
state, from which the forwarding table is filled.  Windows gives an on-link route the unspecified
address for a next hop.  On its way the next hop is read from the row of the route, becomes the
gateway of a route of the network state and then the next hop of a forwarding entry.
-/

namespace NetworkEngine

open Rust Keyed

namespace NetworkSync

/-! ## 1. Interfaces and neighbors -/

def interfaceKind : IpHelper.InterfaceType → NetworkState.InterfaceKind
  | .ethernet => .ethernet
  | .wifi => .wifi
  | .loopback => .loopback
  | .tunnel => .tunnel
  | .unknown => .unknown

def interfaceState : IpHelper.InterfaceOperationalState → NetworkState.InterfaceState
  | .up => .up
  | .down => .down
  | .testing => .testing
  | .unknown => .unknown

def syncInterface (source : IpHelper.InterfaceInfo) : NetworkState.InterfaceInfo :=
  let info := { NetworkState.InterfaceInfo.new source.index.toUInt64 source.name with
    description := source.description
    kind := interfaceKind source.interfaceType
    state := interfaceState source.operationalState
    ifIndex := some source.index
    macAddress := source.macAddress }
  if source.mtu ≠ 0 then (info.withMtu source.mtu).getD info else info

def syncAddresses (source : IpHelper.InterfaceInfo) : List NetworkState.AddressInfo :=
  source.addresses.filterMap fun address =>
    NetworkState.AddressInfo.new source.index.toUInt64 address.address address.prefixLength

def neighborState : IpHelper.NeighborState → NetworkState.NeighborState
  | .reachable => .reachable
  | .stale => .stale
  | .permanent => .permanent
  | .probe => .probe
  | .delay => .delay
  | .incomplete => .incomplete
  | .unreachable => .unreachable
  | .unknown => .unknown

def syncNeighbor (source : IpHelper.NeighborInfo) : NetworkState.NeighborInfo :=
  { NetworkState.NeighborInfo.new source.key.interfaceIndex.toUInt64 source.key.address with
    state := neighborState source.state
    macAddress := source.macAddress }

/-! ## 2. Routes and gateways -/

def routeProtocol : IpHelper.RouteProtocol → NetworkState.RouteProtocol
  | .localRoute => .localRoute
  | .netMgmt => .netMgmt
  | .other | .icmp => .other
  | .unknown _ => .unknown
  | _ => .other

def routeType : IpHelper.RouteType → NetworkState.RouteType
  | .direct | .indirect => .unicast
  | .invalid => .unreachable
  | .other => .unknown

def gatewayType : IpHelper.RouteProtocol → NetworkState.GatewayType
  | .localRoute => .onLink
  | .netMgmt => .static
  | .other | .icmp => .default
  | .unknown _ => .unknown
  | _ => .unknown

/-- The gateway that a default route with a next hop adds. -/
def syncGateway (source : IpHelper.RouteInfo) : Option NetworkState.GatewayInfo :=
  if source.prefixLength = 0 then
    source.nextHop.map fun gateway =>
      { NetworkState.GatewayInfo.new source.interfaceIndex.toUInt64 gateway with
        gatewayType := gatewayType source.protocol
        metric := source.metric
        reachable := true }
  else
    none

/-- `route.with_gateway(gateway)` when the source has a next hop. -/
def setNextHop (route : NetworkState.RouteInfo) (nextHop : Option IpAddr) :
    EngineResult NetworkState.RouteInfo :=
  match nextHop with
  | none => .ok route
  | some gateway =>
    match route.withGateway gateway with
    | none => .error (.withMessage .backendInitFailed "IP Helper route gateway family mismatch")
    | some route => .ok route

/-- A round of the loop over the routes; a route that `RouteInfo::new` rejects is passed over. -/
def syncRoute (id : Nat) (source : IpHelper.RouteInfo) :
    EngineResult (Option (NetworkState.RouteInfo × Option NetworkState.GatewayInfo)) :=
  match NetworkState.RouteInfo.new (UInt64.ofNat id + 1) source.destination source.prefixLength
      source.interfaceIndex.toUInt64 with
  | none => .ok none
  | some route => do
    let route ← setNextHop route source.nextHop
    return some ({ route with
      metric := source.metric
      protocol := routeProtocol source.protocol
      routeType := routeType source.routeType }, syncGateway source)

/-- The loop over the routes, from the number `id` on. -/
def syncRoutes (id : Nat) : List IpHelper.RouteInfo →
    EngineResult (List NetworkState.RouteInfo × List NetworkState.GatewayInfo)
  | [] => .ok ([], [])
  | source :: rest => do
    let made ← syncRoute id source
    let (routes, gateways) ← syncRoutes (id + 1) rest
    match made with
    | none => return (routes, gateways)
    | some (route, gateway) => return (route :: routes, gateway.toList ++ gateways)

/-! ## 3. `synchronize_network_state` -/

/-- The tables of the IP Helper backend; a table behind a poisoned lock cannot be read. -/
structure IpHelperBackend where
  interfaces : Option (List IpHelper.InterfaceInfo)
  routes : Option IpHelper.RouteTable
  neighbors : Option IpHelper.NeighborTable

def readTable {α : Type} (table : Option α) (message : String) : EngineResult α :=
  match table with
  | none => .error (.withMessage .backendInitFailed message)
  | some table => .ok table

/-- Nothing is written before everything has been read. -/
def synchronizeNetworkState (iphelper : IpHelperBackend) : Op NetworkState EngineError Unit := do
  let interfaces ← ofResult (readTable iphelper.interfaces "IP Helper interface query failed")
  let routes ← ofResult (readTable iphelper.routes "IP Helper route query failed")
  let (stateRoutes, gateways) ← ofResult (syncRoutes 0 routes)
  let neighbors ← ofResult (readTable iphelper.neighbors "IP Helper neighbor query failed")
  modifyState (·.setInterfaces (interfaces.map syncInterface))
  modifyState (·.setAddresses (interfaces.flatMap syncAddresses))
  modifyState (·.setRoutes stateRoutes)
  modifyState (·.setNeighbors (neighbors.map syncNeighbor))
  modifyState (·.setGateways gateways)

/-! ## 4. The table of the backend -/

/-- What fills the table of the backend: a query, as Windows answers it, or an insertion. -/
inductive Filling where
  | fetch (t : IpHelper.WindowsTable 104)
  | insert (route : IpHelper.RouteInfo)

def Filling.fill (table : IpHelper.RouteTable) : Filling → Option IpHelper.RouteTable
  | .fetch t => (IpHelper.fetchRoutes 0 (some t.memory) table).map Prod.snd
  | .insert route => some (table.insert route).2

def filled (fillings : List Filling) : Option IpHelper.RouteTable :=
  fillings.foldlM Filling.fill []

/-- What `RouteTable::insert` asks for. -/
def Valid (r : IpHelper.RouteInfo) : Prop :=
  r.interfaceIndex ≠ 0 ∧ r.prefixLength ≤ r.destination.maxPrefix

instance (r : IpHelper.RouteInfo) : Decidable (Valid r) := inferInstanceAs (Decidable (_ ∧ _))

/-- A route as the code reads it, and the next hop that the OS has for it. -/
structure OsRoute where
  read : IpHelper.RouteInfo
  nextHop : Option IpAddr
  deriving DecidableEq, Repr

def OsRoute.key (o : OsRoute) : IpAddr × UInt8 × UInt32 := o.read.key

/-- The next hop is at the offset Windows documents, whatever offset the code reads it from.  An
insertion can be rejected. -/
def Filling.osRoutes : Filling → List OsRoute
  | .fetch t => t.rows.filterMap fun row =>
    (IpHelper.codeRoute row).info.map fun read => ⟨read, (IpHelper.windowsRoute row).nextHop⟩
  | .insert route => if Valid route then [⟨route, route.nextHop⟩] else []

/-- The routes that the table holds: of those of one destination, prefix length and interface the
last one, in the place of the first. -/
def listed (fillings : List Filling) : List OsRoute :=
  puts OsRoute.key IpHelper.replace (fillings.flatMap Filling.osRoutes) []

theorem maxPrefix_eq (ip : IpAddr) : IpHelper.maxPrefix ip = ip.maxPrefix := by
  cases ip <;> rfl

/-- A valid route is put in, another one is rejected. -/
theorem insert_eq (table : IpHelper.RouteTable) (route : IpHelper.RouteInfo) :
    table.insert route = if Valid route then
      (.ok (), put IpHelper.RouteInfo.key IpHelper.replace route table)
    else
      (.error (if route.interfaceIndex = 0 then .invalidInterface else .invalidPrefix), table) := by
  unfold IpHelper.RouteTable.insert
  rw [maxPrefix_eq]
  by_cases hzero : route.interfaceIndex = 0
  · rw [if_pos hzero, if_neg fun hvalid => hvalid.1 hzero, if_pos hzero]
  · rw [if_neg hzero, if_neg hzero]
    by_cases hlong : route.destination.maxPrefix < route.prefixLength
    · rw [if_pos hlong, if_neg fun hvalid => UInt8.not_lt.mpr hvalid.2 hlong]
    · rw [if_neg hlong, if_pos ⟨hzero, UInt8.not_lt.mp hlong⟩]
      refine congrArg (Prod.mk _) (IpHelper.replaceOrPush_eq_put (fun b => ?_) table)
      simp only [IpHelper.RouteInfo.key, Prod.mk.injEq]

/-- What is made of a row is valid. -/
theorem valid_info {row : IpHelper.RouteRow} {r : IpHelper.RouteInfo} (h : row.info = some r) :
    Valid r := by
  -- The insertion of such a route always succeeds.
  by_contra hinvalid
  have hinsert := row.insert_info h []
  rw [insert_eq, if_neg hinvalid] at hinsert
  cases hinsert

theorem valid_osRoutes {filling : Filling} {o : OsRoute} (h : o ∈ filling.osRoutes) :
    Valid o.read := by
  cases filling with
  | fetch t =>
    obtain ⟨row, -, hmade⟩ := List.mem_filterMap.mp h
    obtain ⟨read, hinfo, rfl⟩ := Option.map_eq_some_iff.mp hmade
    exact valid_info hinfo
  | insert route =>
    rw [Filling.osRoutes] at h
    by_cases hvalid : Valid route
    · rw [if_pos hvalid, List.mem_singleton] at h
      rw [h]
      exact hvalid
    · rw [if_neg hvalid] at h
      cases h

/-- A filling puts in the routes as they are read. -/
theorem fill_eq (table : IpHelper.RouteTable) (filling : Filling) :
    filling.fill table = some (puts IpHelper.RouteInfo.key IpHelper.replace
      (filling.osRoutes.map OsRoute.read) table) := by
  cases filling with
  | fetch t =>
    have hread : (Filling.fetch t).osRoutes.map OsRoute.read =
        (t.rows.map IpHelper.codeRoute).filterMap IpHelper.RouteRow.info := by
      rw [Filling.osRoutes, List.map_filterMap, List.filterMap_map]
      have hrow (row : Vector UInt8 104) : ((IpHelper.codeRoute row).info.map fun read =>
          (⟨read, (IpHelper.windowsRoute row).nextHop⟩ : OsRoute)).map OsRoute.read =
            (IpHelper.codeRoute row).info := by
        rw [Option.map_map]
        exact Option.map_id'
      simp only [hrow, Function.comp_def]
    rw [Filling.fill, IpHelper.fetchRoutes_of_seen (IpHelper.seenRoutes_memory t),
      IpHelper.foldl_addSeen, hread]
    rfl
  | insert route =>
    rw [Filling.fill, insert_eq, Filling.osRoutes]
    split_ifs <;> rfl

/-- The table holds the listed routes as they were read. -/
theorem filled_eq (fillings : List Filling) :
    filled fillings = some ((listed fillings).map OsRoute.read) := by
  have hrun (table : IpHelper.RouteTable) : fillings.foldlM Filling.fill table =
      some (puts IpHelper.RouteInfo.key IpHelper.replace
        ((fillings.flatMap Filling.osRoutes).map OsRoute.read) table) := by
    induction fillings generalizing table with
    | nil => rfl
    | cons filling fillings ih =>
      rw [List.foldlM_cons, fill_eq, List.flatMap_cons, List.map_append, puts_append]
      exact ih _
  have hread : (listed fillings).map OsRoute.read = puts IpHelper.RouteInfo.key IpHelper.replace
      ((fillings.flatMap Filling.osRoutes).map OsRoute.read) [] :=
    map_puts (fun _ => rfl) (fun _ _ => rfl) _ []
  rw [filled, hrun, hread]

/-- The table holds valid routes, one for a key. -/
structure WellFormed (table : IpHelper.RouteTable) : Prop where
  distinct : (table.map IpHelper.RouteInfo.key).Nodup
  valid : ∀ r ∈ table, Valid r

theorem wellFormed_listed (fillings : List Filling) :
    WellFormed ((listed fillings).map OsRoute.read) := by
  constructor
  · have hdistinct := nodup_puts (IpHelper.merging_replace OsRoute.key)
      (fillings.flatMap Filling.osRoutes) (l := []) List.nodup_nil
    rw [List.map_map]
    exact hdistinct
  · have hvalid : ∀ o ∈ fillings.flatMap Filling.osRoutes, Valid o.read := by
      intro o ho
      obtain ⟨filling, -, hroute⟩ := List.mem_flatMap.mp ho
      exact valid_osRoutes hroute
    rw [List.forall_mem_map, listed]
    exact forall_mem_puts (fun _ _ _ hnew => hnew) hvalid (List.forall_mem_nil _)

/-! ## 5. What is written -/

/-- The route of the network state with the number `id`. -/
def stateRoute (id : Nat) (r : IpHelper.RouteInfo) : NetworkState.RouteInfo :=
  ⟨UInt64.ofNat id + 1, r.destination, r.prefixLength, r.nextHop, r.interfaceIndex.toUInt64,
    r.metric, routeProtocol r.protocol, routeType r.routeType, true⟩

theorem setNextHop_eq_ok {route made : NetworkState.RouteInfo} {nextHop : Option IpAddr}
    (hnone : route.gateway = none) (h : setNextHop route nextHop = .ok made) :
    made = { route with gateway := nextHop } := by
  cases nextHop with
  | none =>
    obtain rfl := Except.ok.inj h
    rw [← hnone]
  | some gateway =>
    unfold setNextHop NetworkState.RouteInfo.withGateway at h
    by_cases hfamily : gateway.isIpv4 ≠ route.destination.isIpv4
    · simp only [if_pos hfamily] at h
      cases h
    · simp only [if_neg hfamily] at h
      exact (Except.ok.inj h).symm

theorem syncRoute_eq_ok {id : Nat} {r : IpHelper.RouteInfo} (hvalid : Valid r)
    {made : Option (NetworkState.RouteInfo × Option NetworkState.GatewayInfo)}
    (h : syncRoute id r = .ok made) : made = some (stateRoute id r, syncGateway r) := by
  have hnew : NetworkState.RouteInfo.new (UInt64.ofNat id + 1) r.destination r.prefixLength
      r.interfaceIndex.toUInt64 = some _ := if_neg (UInt8.not_lt.mpr hvalid.2)
  unfold syncRoute at h
  rw [hnew] at h
  obtain ⟨route, hroute, hmade⟩ := bind_eq_ok h
  obtain rfl := setNextHop_eq_ok rfl hroute
  exact (Except.ok.inj hmade).symm

theorem syncRoutes_eq_ok {table : IpHelper.RouteTable} (hvalid : ∀ r ∈ table, Valid r) {id : Nat}
    {routes : List NetworkState.RouteInfo} {gateways : List NetworkState.GatewayInfo}
    (h : syncRoutes id table = .ok (routes, gateways)) :
    List.Forall₂ (fun r route => ∃ id, route = stateRoute id r) table routes ∧
      gateways = table.filterMap syncGateway := by
  induction table generalizing id routes gateways with
  | nil =>
    obtain ⟨rfl, rfl⟩ := Prod.mk.inj (Except.ok.inj h)
    exact ⟨.nil, rfl⟩
  | cons r table ih =>
    rw [syncRoutes] at h
    obtain ⟨made, hmade, h⟩ := bind_eq_ok h
    obtain ⟨rest, hrest, h⟩ := bind_eq_ok h
    obtain rfl := syncRoute_eq_ok (hvalid r List.mem_cons_self) hmade
    obtain ⟨rfl, rfl⟩ := Prod.mk.inj (Except.ok.inj h)
    obtain ⟨hroutes, hgateways⟩ := ih (fun r hr => hvalid r (List.mem_cons_of_mem _ hr)) hrest
    refine ⟨.cons ⟨id, rfl⟩ hroutes, ?_⟩
    rw [hgateways, List.filterMap_cons]
    cases syncGateway r <;> rfl

section Synced

variable {interfaces : List IpHelper.InterfaceInfo} {table : IpHelper.RouteTable}
  {neighbors : IpHelper.NeighborTable} {prior s : NetworkState}

/-- What the network state has of interfaces, routes and gateways after a success. -/
structure Synced (interfaces : List IpHelper.InterfaceInfo) (table : IpHelper.RouteTable)
    (s : NetworkState) : Prop where
  interfaces : s.interfaces = interfaces.map syncInterface
  routes : List.Forall₂ (fun r route => ∃ id, route = stateRoute id r) table s.routes
  gateways : s.gateways = table.filterMap syncGateway

theorem synced (htable : WellFormed table)
    (h : exec (synchronizeNetworkState ⟨some interfaces, some table, some neighbors⟩) prior =
      (.ok (), s)) : Synced interfaces table s := by
  unfold synchronizeNetworkState readTable at h
  cases hroutes : syncRoutes 0 table with
  | error e =>
    simp only [exec_bind, exec_ofResult, hroutes] at h
    cases h
  | ok made =>
    simp only [exec_bind, exec_ofResult, exec_modifyState, hroutes] at h
    obtain ⟨hforall, hgateways⟩ := syncRoutes_eq_ok htable.valid hroutes
    obtain rfl := (Prod.mk.inj h).2
    exact ⟨rfl, hforall, hgateways⟩

/-! ## 6. What is forwarded -/

theorem id_syncInterface (i : IpHelper.InterfaceInfo) :
    (syncInterface i).id = i.index.toUInt64 := by
  unfold syncInterface NetworkState.InterfaceInfo.withMtu
  split_ifs <;> rfl

theorem isOperational_syncInterface (i : IpHelper.InterfaceInfo) :
    (syncInterface i).isOperational = decide (i.operationalState = .up) := by
  have hstate : (syncInterface i).state = interfaceState i.operationalState := by
    unfold syncInterface NetworkState.InterfaceInfo.withMtu
    split_ifs <;> rfl
  rw [NetworkState.InterfaceInfo.isOperational, hstate]
  cases i.operationalState <;> rfl

theorem toUInt64_inj {v w : UInt32} : v.toUInt64 = w.toUInt64 ↔ v = w := by
  rw [← UInt64.toNat_inj, UInt32.toNat_toUInt64, UInt32.toNat_toUInt64, UInt32.toNat_inj]

theorem tryU32_toUInt64 (w : UInt32) : tryU32 w.toUInt64 = some w := by
  unfold tryU32
  rw [UInt32.toNat_toUInt64, if_pos w.toNat_lt, UInt32.toUInt32_toUInt64]

/-- The route is of a type that is forwarded, and its interface is up. -/
def Forwardable (interfaces : List IpHelper.InterfaceInfo) (r : IpHelper.RouteInfo) : Prop :=
  (r.routeType = .direct ∨ r.routeType = .indirect) ∧
    ((interfaces.find? (·.index = r.interfaceIndex)).any (·.operationalState = .up)) = true

instance (interfaces : List IpHelper.InterfaceInfo) (r : IpHelper.RouteInfo) :
    Decidable (Forwardable interfaces r) := inferInstanceAs (Decidable (_ ∧ _))

theorem findInterface_synced (h : Synced interfaces table s) (index : UInt32) :
    (s.findInterface index.toUInt64).any (·.isOperational) =
      (interfaces.find? (·.index = index)).any (·.operationalState = .up) := by
  unfold NetworkState.NetworkStateSnapshot.findInterface
  rw [h.interfaces, List.find?_map]
  have hsame : ((fun i => decide (i.id = index.toUInt64)) ∘ syncInterface) =
      fun i => decide (i.index = index) := by
    funext i
    rw [Function.comp_apply, id_syncInterface, decide_eq_decide]
    exact toUInt64_inj
  rw [hsame]
  cases interfaces.find? (·.index = index) with
  | none => rfl
  | some i => exact isOperational_syncInterface i

theorem routeInterface_synced (h : Synced interfaces table s) {r : IpHelper.RouteInfo}
    (hvalid : Valid r) (id : Nat) :
    ForwardingTable.routeInterface s (stateRoute id r) =
      if Forwardable interfaces r then some r.interfaceIndex else none := by
  have husable : (stateRoute id r).isUsable =
      decide (r.routeType = .direct ∨ r.routeType = .indirect) := by
    unfold stateRoute NetworkState.RouteInfo.isUsable
    cases r.routeType <;> rfl
  have hup := findInterface_synced h r.interfaceIndex
  unfold ForwardingTable.routeInterface
  rw [husable]
  by_cases htype : r.routeType = .direct ∨ r.routeType = .indirect
  · rw [decide_eq_true htype, if_neg (not_not.mpr rfl)]
    rw [show (stateRoute id r).interfaceId = r.interfaceIndex.toUInt64 from rfl]
    rw [tryU32_toUInt64, hup]
    simp only [if_neg hvalid.1, Forwardable, and_iff_right htype]
  · rw [decide_eq_false htype, if_pos Bool.false_ne_true]
    exact (if_neg fun hforward => htype hforward.1).symm

/-- The forwarding entry of a route. -/
structure Represents (r : IpHelper.RouteInfo) (e : ForwardingEntry) : Prop where
  destination : e.destination = r.destination
  prefixLen : e.prefixLen = r.prefixLength
  interfaceId : e.interfaceId = r.interfaceIndex
  nextHop : e.nextHop = r.nextHop
  enabled : e.enabled = true

theorem entryFromRoute_stateRoute {r : IpHelper.RouteInfo} (hvalid : Valid r) (id : Nat) :
    ∃ e, ForwardingTable.entryFromRoute (stateRoute id r) r.interfaceIndex = some e ∧
      Represents r e := by
  have hfits : ¬ r.destination.maxPrefix < r.prefixLength := UInt8.not_lt.mpr hvalid.2
  have hnew : ForwardingEntry.new r.destination r.prefixLength r.interfaceIndex r.nextHop =
      some ⟨r.destination, r.prefixLength, r.interfaceIndex, r.nextHop, true, hfits⟩ :=
    dif_neg hfits
  exact ⟨_, congrArg (Option.map _) hnew, rfl, rfl, rfl, rfl, rfl⟩

/-- The forwarding table has an entry for each forwardable route, in the order of the table. -/
theorem entries_synced (htable : WellFormed table) (h : Synced interfaces table s)
    (t : ForwardingTable) :
    List.Forall₂ Represents (table.filter (Forwardable interfaces ·))
      (t.syncFromNetworkState s).2.entries := by
  have hlists {sources : List IpHelper.RouteInfo} {routes : List NetworkState.RouteInfo}
      (hforall : List.Forall₂ (fun r route => ∃ id, route = stateRoute id r) sources routes)
      (hvalid : ∀ r ∈ sources, Valid r) :
      List.Forall₂ Represents (sources.filter (Forwardable interfaces ·))
        (routes.filterMap fun route => (ForwardingTable.routeInterface s route).bind
          (ForwardingTable.entryFromRoute route)) := by
    induction hforall with
    | nil => exact .nil
    | @cons r route sources routes hroute _ ih =>
      obtain ⟨id, rfl⟩ := hroute
      have hr := hvalid r List.mem_cons_self
      have hrest := ih fun r' hr' => hvalid r' (List.mem_cons_of_mem r hr')
      rw [List.filter_cons, List.filterMap_cons, routeInterface_synced h hr]
      by_cases hforward : Forwardable interfaces r
      · obtain ⟨e, he, hrepresents⟩ := entryFromRoute_stateRoute hr id
        rw [if_pos (decide_eq_true hforward), if_pos hforward, Option.bind_some, he]
        exact .cons hrepresents hrest
      · rw [if_neg (by simpa using hforward), if_neg hforward]
        exact hrest
  exact hlists h.routes htable.valid

/-! ## 7. The route of a destination -/

/-- The route can take a packet to the destination. -/
def Reaches (interfaces : List IpHelper.InterfaceInfo) (d : IpAddr) (r : IpHelper.RouteInfo) :
    Prop :=
  Forwardable interfaces r ∧ r.destination.Covers r.prefixLength.toNat d

instance (interfaces : List IpHelper.InterfaceInfo) (d : IpAddr) (r : IpHelper.RouteInfo) :
    Decidable (Reaches interfaces d r) := inferInstanceAs (Decidable (_ ∧ _))

/-- Of the routes with the longest prefix the one that is listed last. -/
def chosen (interfaces : List IpHelper.InterfaceInfo) (table : IpHelper.RouteTable) (d : IpAddr) :
    Option IpHelper.RouteInfo :=
  (table.filter fun r => Reaches interfaces d r ∧
    ∀ r' ∈ table, Reaches interfaces d r' → r'.prefixLength ≤ r.prefixLength).getLast?

theorem represents_reaches {r : IpHelper.RouteInfo} {e : ForwardingEntry} (h : Represents r e)
    (d : IpAddr) : r.destination.Covers r.prefixLength.toNat d ↔ e.Serves d := by
  unfold ForwardingEntry.Serves
  rw [h.destination, h.prefixLen, and_iff_right h.enabled]

/-- A statement about all routes is one about all entries. -/
theorem forall_represented {sources : List IpHelper.RouteInfo} {entries : List ForwardingEntry}
    (h : List.Forall₂ Represents sources entries) {p : IpHelper.RouteInfo → Prop}
    {q : ForwardingEntry → Prop} (hpq : ∀ r e, Represents r e → (p r ↔ q e)) :
    (∀ r ∈ sources, p r) ↔ ∀ e ∈ entries, q e := by
  induction h with
  | nil => exact iff_of_true nofun nofun
  | cons hrepresents _ ih =>
    rw [List.forall_mem_cons, List.forall_mem_cons, hpq _ _ hrepresents, ih]

theorem represents_getLast? {sources : List IpHelper.RouteInfo} {entries : List ForwardingEntry}
    (h : List.Forall₂ Represents sources entries) :
    (sources.getLast? = none ∧ entries.getLast? = none) ∨
      ∃ r e, sources.getLast? = some r ∧ entries.getLast? = some e ∧ Represents r e := by
  have hreverse := List.rel_reverse h
  rw [List.getLast?_eq_head?_reverse, List.getLast?_eq_head?_reverse]
  generalize sources.reverse = sources' at hreverse ⊢
  generalize entries.reverse = entries' at hreverse ⊢
  cases hreverse with
  | nil => exact .inl ⟨rfl, rfl⟩
  | cons hrepresents _ => exact .inr ⟨_, _, rfl, rfl, hrepresents⟩

/-- A lookup finds the entry of the route. -/
theorem lookup_synced (htable : WellFormed table) (h : Synced interfaces table s)
    (t : ForwardingTable) (d : IpAddr) :
    (chosen interfaces table d = none ∧
      ((t.syncFromNetworkState s).2.longest d).getLast? = none) ∨
    ∃ r e, chosen interfaces table d = some r ∧
      ((t.syncFromNetworkState s).2.longest d).getLast? = some e ∧ Represents r e := by
  have hentries := entries_synced htable h t
  have hlongest (r : IpHelper.RouteInfo) (e : ForwardingEntry) (hrepresents : Represents r e) :
      (r.destination.Covers r.prefixLength.toNat d ∧
        ∀ r' ∈ table, Reaches interfaces d r' → r'.prefixLength ≤ r.prefixLength) ↔
      (t.syncFromNetworkState s).2.Longest d e := by
    refine and_congr (represents_reaches hrepresents d) ?_
    rw [← forall_represented hentries (p := fun r' =>
      r'.destination.Covers r'.prefixLength.toNat d → r'.prefixLength ≤ r.prefixLength)]
    · simp only [List.mem_filter, decide_eq_true_eq, Reaches, and_imp]
    · intro r' e' hrepresents'
      rw [represents_reaches hrepresents' d, hrepresents'.prefixLen, hrepresents.prefixLen]
  have hchosen : chosen interfaces table d = ((table.filter (Forwardable interfaces ·)).filter
      fun r => r.destination.Covers r.prefixLength.toNat d ∧
        ∀ r' ∈ table, Reaches interfaces d r' → r'.prefixLength ≤ r.prefixLength).getLast? := by
    unfold chosen
    rw [List.filter_filter]
    refine congrArg _ (List.filter_congr fun r _ => ?_)
    rw [Bool.eq_iff_iff, Bool.and_eq_true, decide_eq_true_eq, decide_eq_true_eq, decide_eq_true_eq,
      Reaches, and_comm (b := Forwardable interfaces r), and_assoc]
  rw [hchosen]
  refine represents_getLast? (List.rel_filter (fun r e hrepresents => ?_) hentries)
  simpa only [decide_eq_true_eq] using hlongest r e hrepresents

/-! ## 8. Next hops -/

/-- A destination by an on-link route is its own next hop, one by a router has the router for its
next hop, and the unspecified address is no gateway. -/
def OnLinkForwarded (fillings : List Filling) (t : ForwardingTable) (s : NetworkState) : Prop :=
  let synced := (t.syncFromNetworkState s).2
  (∀ d e o hop, (synced.lookup d : Checked ForwardingError (Option ForwardingEntry)) =
      .ok (some e) → o ∈ listed fillings → o.key = (e.destination, e.prefixLen, e.interfaceId) →
    o.nextHop = some hop →
      synced.resolve d = .ok ⟨e.interfaceId, if hop.isUnspecified then d else hop⟩) ∧
  ∀ g ∈ s.gateways, g.address.isUnspecified = false

/-- What is read for the next hop serves the destination.  Nothing is read for an on-link route, or
for a router that is itself the destination; or the router is read, and for an on-link route the
destination. -/
def Conveys (read : Option IpAddr) (hop d : IpAddr) : Prop :=
  match read with
  | none => hop.isUnspecified = true ∨ d = hop
  | some gateway => if hop.isUnspecified then gateway = d else gateway = hop

/-- The next hop of the route that a destination takes is conveyed, and no default route is read
with an unspecified next hop. -/
def AllConveyed (interfaces : List IpHelper.InterfaceInfo) (fillings : List Filling) : Prop :=
  (∀ o ∈ listed fillings, ∀ d hop,
    chosen interfaces ((listed fillings).map OsRoute.read) d = some o.read →
      o.nextHop = some hop → Conveys o.read.nextHop hop d) ∧
  ∀ o ∈ listed fillings, o.read.prefixLength = 0 → ∀ hop, o.read.nextHop = some hop →
    hop.isUnspecified = false

theorem conveys_iff (read : Option IpAddr) (hop d : IpAddr) :
    Conveys read hop d ↔ read.getD d = if hop.isUnspecified then d else hop := by
  cases read with
  | none =>
    by_cases hunspecified : hop.isUnspecified = true
    · rw [if_pos hunspecified]
      exact iff_of_true (.inl hunspecified) rfl
    · rw [if_neg hunspecified]
      exact or_iff_right hunspecified
  | some gateway =>
    by_cases hunspecified : hop.isUnspecified = true
    · rw [Conveys, if_pos hunspecified, if_pos hunspecified]
      rfl
    · rw [Conveys, if_neg hunspecified, if_neg hunspecified]
      rfl

theorem mem_of_chosen {d : IpAddr} {r : IpHelper.RouteInfo}
    (h : chosen interfaces table d = some r) : r ∈ table :=
  (List.mem_filter.mp (List.mem_of_getLast? h)).1

theorem key_of_represents {r : IpHelper.RouteInfo} {e : ForwardingEntry} (h : Represents r e) :
    r.key = (e.destination, e.prefixLen, e.interfaceId) := by
  rw [h.destination, h.prefixLen, h.interfaceId]
  rfl

/-- The gateways are the next hops of the default routes. -/
theorem gateways_specified_iff (h : Synced interfaces table s) :
    (∀ g ∈ s.gateways, g.address.isUnspecified = false) ↔
      ∀ r ∈ table, r.prefixLength = 0 → ∀ hop, r.nextHop = some hop →
        hop.isUnspecified = false := by
  rw [h.gateways]
  constructor
  · intro hall r hr hzero hop hhop
    have hmade : syncGateway r = r.nextHop.map _ := if_pos hzero
    rw [hhop, Option.map_some] at hmade
    exact hall _ (List.mem_filterMap.mpr ⟨r, hr, hmade⟩)
  · intro hall g hg
    obtain ⟨r, hr, hmade⟩ := List.mem_filterMap.mp hg
    unfold syncGateway at hmade
    by_cases hzero : r.prefixLength = 0
    · rw [if_pos hzero] at hmade
      obtain ⟨hop, hhop, rfl⟩ := Option.map_eq_some_iff.mp hmade
      exact hall r hr hzero hop hhop
    · rw [if_neg hzero] at hmade
      cases hmade

/-- The decision takes what was read for the next hop of the chosen route. -/
theorem next_hops_iff {os : List OsRoute} (htable : WellFormed (os.map OsRoute.read))
    (h : Synced interfaces (os.map OsRoute.read) s) (t : ForwardingTable) :
    (∀ d e o hop, ((t.syncFromNetworkState s).2.lookup d :
        Checked ForwardingError (Option ForwardingEntry)) = .ok (some e) → o ∈ os →
      o.key = (e.destination, e.prefixLen, e.interfaceId) → o.nextHop = some hop →
        (t.syncFromNetworkState s).2.resolve d =
          .ok ⟨e.interfaceId, if hop.isUnspecified then d else hop⟩) ↔
      ∀ o ∈ os, ∀ d hop, chosen interfaces (os.map OsRoute.read) d = some o.read →
        o.nextHop = some hop → Conveys o.read.nextHop hop d := by
  have hresolve {d : IpAddr} {e : ForwardingEntry}
      (hlast : ((t.syncFromNetworkState s).2.longest d).getLast? = some e) :
      (t.syncFromNetworkState s).2.resolve d = .ok ⟨e.interfaceId, e.nextHop.getD d⟩ := by
    rw [ForwardingTable.resolve_eq, hlast]
  constructor
  · intro hall o ho d hop hchosen hhop
    obtain ⟨hnone, -⟩ | ⟨r, e, hchosen', hlast, hrepresents⟩ := lookup_synced htable h t d
    · rw [hnone] at hchosen
      cases hchosen
    · obtain rfl := Option.some.inj (hchosen'.symm.trans hchosen)
      have hdecision := hall d e o hop (by rw [ForwardingTable.lookup_eq, hlast]) ho
        (key_of_represents hrepresents) hhop
      rw [hresolve hlast, hrepresents.nextHop] at hdecision
      exact (conveys_iff _ _ _).mpr (ForwardingDecision.mk.inj (Except.ok.inj hdecision)).2
  · intro hall d e o hop hlookup ho hkey hhop
    rw [ForwardingTable.lookup_eq] at hlookup
    have hlast := Except.ok.inj hlookup
    obtain ⟨-, hnone⟩ | ⟨r, e', hchosen, hlast', hrepresents⟩ := lookup_synced htable h t d
    · rw [hnone] at hlast
      cases hlast
    · obtain rfl := Option.some.inj (hlast'.symm.trans hlast)
      -- No two listed routes have one key, so that the entry is that of the route it is judged by.
      obtain rfl : o.read = r := List.inj_on_of_nodup_map htable.distinct
        (List.mem_map_of_mem ho) (mem_of_chosen hchosen)
        (hkey.trans (key_of_represents hrepresents).symm)
      have hconveys := hall o ho d hop hchosen hhop
      rw [hresolve hlast, hrepresents.nextHop, (conveys_iff _ _ _).mp hconveys]

/-- After a synchronization, however the table of the backend was filled, the next hops of the OS
are followed exactly when they are conveyed. -/
theorem on_link_iff (fillings : List Filling) (table : IpHelper.RouteTable)
    (interfaces : List IpHelper.InterfaceInfo) (neighbors : IpHelper.NeighborTable)
    (prior s : NetworkState) (t : ForwardingTable) (hfilled : filled fillings = some table)
    (h : exec (synchronizeNetworkState ⟨some interfaces, some table, some neighbors⟩) prior =
      (.ok (), s)) :
    OnLinkForwarded fillings t s ↔ AllConveyed interfaces fillings := by
  have hwellFormed := wellFormed_listed fillings
  obtain rfl : (listed fillings).map OsRoute.read = table :=
    Option.some.inj ((filled_eq fillings).symm.trans hfilled)
  have hsynced := synced hwellFormed h
  refine and_congr (next_hops_iff hwellFormed hsynced t) ?_
  rw [gateways_specified_iff hsynced, List.forall_mem_map]

end Synced

/-- The table that a query fills with the default route by 192.168.1.1. -/
def byRouter : List Filling := [.fetch IpHelper.defaultRoute]

/-- An Ethernet interface with 192.168.1.0/24 and a dial-up connection with the default route, both
on-link: Windows writes 0.0.0.0 for their next hops. -/
def onLinkRoutes : List Filling := [
  .insert ⟨.v4 ⟨192, 168, 1, 0⟩, 24, some (.v4 ⟨0, 0, 0, 0⟩), 7, 281, .indirect, .localRoute⟩,
  .insert ⟨.v4 ⟨0, 0, 0, 0⟩, 0, some (.v4 ⟨0, 0, 0, 0⟩), 9, 26, .indirect, .netMgmt⟩]

def twoLinks : List IpHelper.InterfaceInfo := [
  ⟨7, "Ethernet", "", .ethernet, .up, 1500, none, []⟩,
  ⟨9, "Broadband Connection", "", .unknown, .up, 1480, none, []⟩]

/-- The network state after the synchronization. -/
def syncedLinks (fillings : List Filling) : NetworkState :=
  (exec (synchronizeNetworkState ⟨some twoLinks, filled fillings, some []⟩) .new).2

theorem on_link_iff_router :
    OnLinkForwarded byRouter .new (syncedLinks byRouter) ↔ AllConveyed twoLinks byRouter := by
  refine on_link_iff byRouter _ twoLinks [] .new _ .new (filled_eq byRouter) (Prod.ext ?_ ?_)
  · decide +kernel
  · rw [syncedLinks, filled_eq]

/-- Behind a router packets for 8.8.8.8 are sent to 8.8.8.8.  With on-link routes put in as Windows
has them a packet for 192.168.1.20 is sent to 0.0.0.0, and 0.0.0.0 is a gateway. -/
theorem next_hops_lost :
    ((ForwardingTable.new.syncFromNetworkState (syncedLinks byRouter)).2.resolve
        (.v4 ⟨8, 8, 8, 8⟩) = .ok ⟨7, .v4 ⟨8, 8, 8, 8⟩⟩ ∧
      ¬ OnLinkForwarded byRouter .new (syncedLinks byRouter)) ∧
    (ForwardingTable.new.syncFromNetworkState (syncedLinks onLinkRoutes)).2.resolve
        (.v4 ⟨192, 168, 1, 20⟩) = .ok ⟨7, .v4 ⟨0, 0, 0, 0⟩⟩ ∧
      (syncedLinks onLinkRoutes).gateways.map (·.address) = [.v4 ⟨0, 0, 0, 0⟩] ∧
      ¬ OnLinkForwarded onLinkRoutes .new (syncedLinks onLinkRoutes) := by
  have hrouted : (ForwardingTable.new.syncFromNetworkState (syncedLinks byRouter)).2.resolve
      (.v4 ⟨8, 8, 8, 8⟩) = .ok ⟨7, .v4 ⟨8, 8, 8, 8⟩⟩ := by decide +kernel
  have hgateways : (syncedLinks onLinkRoutes).gateways.map (·.address) = [.v4 ⟨0, 0, 0, 0⟩] := by
    decide +kernel
  refine ⟨⟨hrouted, fun h => ?_⟩, by decide +kernel, hgateways, fun h => ?_⟩
  · have hrouter := h.1 (.v4 ⟨8, 8, 8, 8⟩) ⟨.v4 ⟨0, 0, 0, 0⟩, 0, 7, none, true, by decide⟩
      ⟨⟨.v4 ⟨0, 0, 0, 0⟩, 0, none, 7, 4294967295, .indirect, .unknown 25⟩,
        some (.v4 ⟨192, 168, 1, 1⟩)⟩ (.v4 ⟨192, 168, 1, 1⟩)
      (by decide +kernel) (by decide +kernel) rfl rfl
    rw [hrouted] at hrouter
    exact absurd hrouter (by decide)
  · obtain ⟨gateway, hgateway, haddress⟩ := List.mem_map.mp
      (hgateways.symm ▸ List.mem_cons_self :
        IpAddr.v4 ⟨0, 0, 0, 0⟩ ∈ (syncedLinks onLinkRoutes).gateways.map _)
    have hspecified := h.2 gateway hgateway
    rw [haddress] at hspecified
    cases hspecified

end NetworkSync

end NetworkEngine
