import NetworkEngine.Backend.IpHelperConnections
import NetworkEngine.Core.Metadata
import NetworkEngine.Lib.Keyed

/-!
# IpHelperTables — reading the tables of Windows again

`backend_iphelper::{routes, neighbors, connections, interfaces}`: what `refresh_all` makes of the
tables the engine holds.  The rows are those that the structs of the code show.  Routes and
interfaces are put into an emptied table; neighbors and connections are put into the old one, which
is rid at the end of what was not delivered.
-/

namespace NetworkEngine

open Rust Keyed

namespace IpHelper

/-- `SystemTime`, in ticks. -/
abbrev SystemTime := Nat

/-- What a native query answers; a null table has no rows. -/
structure Reply (ρ : Type) where
  ret : UInt32
  rows : List ρ

/-- `SystemError(ret as i32)` when a query fails. -/
def Reply.failed {ρ ε : Type} (systemError : Int32 → ε) (reply : Reply ρ) : Option ε :=
  if reply.ret ≠ 0 then some (systemError reply.ret.toInt32) else none

/-- A query that failed, or a loop over the rows it answered. -/
def forReply {ρ σ ε : Type} (failure : Option ε) (rows : List ρ) (body : ρ → Op σ ε Unit) :
    Op σ ε Unit :=
  match failure with
  | some e => throw e
  | none => rows.forM body

/-! ## 1. Routes -/

/-- What `insert` compares. -/
def RouteInfo.key (route : RouteInfo) : IpAddr × UInt8 × UInt32 :=
  (route.destination, route.prefixLength, route.interfaceIndex)

/-- `RouteTable::fetch_routes` on the rows. -/
def fetchRouteRows (reply : Reply RouteRow) : Op RouteTable RouteTableError Unit :=
  forReply (reply.failed .systemError) reply.rows fun row =>
    match row.info with
    | none => pure ()
    | some info => fun table => table.insert info

def RouteTable.refreshAll (v4 v6 : Reply RouteRow) : Op RouteTable RouteTableError Unit := do
  modifyState fun _ => []
  fetchRouteRows v4
  fetchRouteRows v6

/-! ## 2. Neighbors -/

structure NeighborEntry extends NeighborInfo where
  updatedAt : SystemTime
  deriving DecidableEq, Repr

def insertNeighbor (neighbor : NeighborEntry) : Op (List NeighborEntry) NeighborTableError Unit :=
  fun table =>
    if neighbor.key.interfaceIndex = 0 then
      (.error .invalidInterface, table)
    else
      (.ok (), replaceOrPush (fun entry => entry.key = neighbor.key) neighbor table)

/-- `NeighborTable::fetch_ipnet` on the rows, each with the time at which its turn comes. -/
def fetchNeighborRows (reply : Reply (NeighborRow × SystemTime)) :
    Op (List NeighborEntry × List NeighborKey) NeighborTableError Unit :=
  forReply (reply.failed .systemError) reply.rows fun r =>
    match r.1.info with
    | none => pure ()
    | some info => do
      zoom Prod.fst (fun s table => (table, s.2)) (insertNeighbor ⟨info, r.2⟩)
      modifyState fun s => (s.1, s.2.insert info.key)

def NeighborTable.refreshAll (v4 v6 : Reply (NeighborRow × SystemTime)) :
    Op (List NeighborEntry) NeighborTableError Unit :=
  withKeys do
    fetchNeighborRows v4
    fetchNeighborRows v6
    modifyState fun s => (s.1.filter (·.key ∈ s.2), s.2)

/-! ## 3. Connections -/

structure ConnectionInfo where
  key : ConnectionKey
  state : ConnectionState
  processId : Option UInt32
  ownerModule : Option String
  createdAt : SystemTime
  updatedAt : SystemTime
  deriving DecidableEq, Repr

def ConnectionInfo.new (key : ConnectionKey) (state : ConnectionState) (now : SystemTime) :
    ConnectionInfo :=
  ⟨key, state, none, none, now, now⟩

def ConnectionInfo.setProcessId (info : ConnectionInfo) (processId : UInt32) (now : SystemTime) :
    ConnectionInfo :=
  { info with processId := some processId, updatedAt := now }

inductive ConnectionTableError where
  | invalidPort
  | connectionNotFound
  | systemError (code : Int32)
  deriving DecidableEq, Repr

/-- An entry that is replaced leaves the time of its creation. -/
def keepCreated (existing connection : ConnectionInfo) : ConnectionInfo :=
  { connection with createdAt := existing.createdAt }

def insertConnection (connection : ConnectionInfo) :
    Op (List ConnectionInfo) ConnectionTableError Unit := fun table =>
  if connection.key.localPort = 0 then
    (.error .invalidPort, table)
  else
    (.ok (), put ConnectionInfo.key keepCreated connection table)

/-- A row, and the two times that are read when its turn comes. -/
structure ConnectionTurn (ρ : Type) where
  row : ρ
  created : SystemTime
  touched : SystemTime

/-- A query for the size of a table and one for the table. -/
structure ConnectionReply (ρ : Type) where
  sizeRet : UInt32
  reply : Reply (ConnectionTurn ρ)

def errorInsufficientBuffer : UInt32 := 122

def ConnectionReply.failed {ρ : Type} (r : ConnectionReply ρ) : Option ConnectionTableError :=
  if r.sizeRet ≠ 0 ∧ r.sizeRet ≠ errorInsufficientBuffer then
    some (.systemError r.sizeRet.toInt32)
  else
    r.reply.failed .systemError

section Fetch

variable {ρ : Type} (key : ρ → Option ConnectionKey) (state : ρ → ConnectionState)
  (owningPid : ρ → UInt32)

def ConnectionTurn.info (turn : ConnectionTurn ρ) : Option ConnectionInfo :=
  (key turn.row).map fun key =>
    (ConnectionInfo.new key (state turn.row) turn.created).setProcessId (owningPid turn.row)
      turn.touched

/-- What the four functions do that fetch connections. -/
def fetchConnections (r : ConnectionReply ρ) :
    Op (List ConnectionInfo × List ConnectionKey) ConnectionTableError Unit :=
  forReply r.failed r.reply.rows fun turn =>
    match turn.info key state owningPid with
    | none => pure ()
    | some info => do
      modifyState fun s => (s.1, s.2.insert info.key)
      zoom Prod.fst (fun s table => (table, s.2)) (insertConnection info)

end Fetch

def fetchTcpV4 : ConnectionReply TcpRow →
    Op (List ConnectionInfo × List ConnectionKey) ConnectionTableError Unit :=
  fetchConnections TcpRow.key (fun row => mapTcpState row.dwState) TcpRow.dwOwningPid

def fetchTcpV6 : ConnectionReply Tcp6Row →
    Op (List ConnectionInfo × List ConnectionKey) ConnectionTableError Unit :=
  fetchConnections Tcp6Row.key (fun row => mapTcpState row.dwState) Tcp6Row.dwOwningPid

def fetchUdpV4 : ConnectionReply UdpRow →
    Op (List ConnectionInfo × List ConnectionKey) ConnectionTableError Unit :=
  fetchConnections UdpRow.key (fun _ => .established) UdpRow.dwOwningPid

def fetchUdpV6 : ConnectionReply Udp6Row →
    Op (List ConnectionInfo × List ConnectionKey) ConnectionTableError Unit :=
  fetchConnections Udp6Row.key (fun _ => .established) Udp6Row.dwOwningPid

/-- The answers to the queries of one refresh of the connections. -/
structure ConnectionReplies where
  tcpV4 : ConnectionReply TcpRow
  tcpV6 : ConnectionReply Tcp6Row
  udpV4 : ConnectionReply UdpRow
  udpV6 : ConnectionReply Udp6Row

def ConnectionTable.refreshAll (r : ConnectionReplies) :
    Op (List ConnectionInfo) ConnectionTableError Unit :=
  withKeys do
    fetchTcpV4 r.tcpV4
    fetchTcpV6 r.tcpV6
    fetchUdpV4 r.udpV4
    fetchUdpV6 r.udpV6
    modifyState fun s => (s.1.filter (·.key ∈ s.2), s.2)

/-! ## 4. Interfaces -/

inductive InterfaceType where
  | ethernet
  | wifi
  | loopback
  | tunnel
  | unknown
  deriving DecidableEq, Repr

inductive InterfaceOperationalState where
  | up
  | down
  | testing
  | unknown
  deriving DecidableEq, Repr

def mapOperStatus (status : UInt32) : InterfaceOperationalState :=
  match status.toNat with
  | 1 => .up
  | 2 => .down
  | 3 => .testing
  | _ => .unknown

def mapIfType (ifType : UInt32) : InterfaceType :=
  match ifType.toNat with
  | 6 => .ethernet
  | 71 => .wifi
  | 24 => .loopback
  | 131 => .tunnel
  | _ => .unknown

structure InterfaceAddress where
  address : IpAddr
  prefixLength : UInt8
  deriving DecidableEq, Repr

def InterfaceAddress.new (address : IpAddr) (prefixLength : UInt8) : Option InterfaceAddress :=
  if maxPrefix address < prefixLength then none else some ⟨address, prefixLength⟩

structure InterfaceInfo where
  index : UInt32
  name : String
  description : String
  interfaceType : InterfaceType
  operationalState : InterfaceOperationalState
  mtu : UInt32
  macAddress : Option (Vector UInt8 6)
  addresses : List InterfaceAddress
  deriving DecidableEq, Repr

def InterfaceInfo.new (index : UInt32) (name : String) : Option InterfaceInfo :=
  if index = 0 then none
  else if (trim name).isEmpty then none
  else some ⟨index, name, "", .unknown, .unknown, 0, none, []⟩

def InterfaceInfo.addAddress (info : InterfaceInfo) (address : InterfaceAddress) : InterfaceInfo :=
  if address ∈ info.addresses then info
  else { info with addresses := info.addresses ++ [address] }

inductive InterfaceQueryError where
  | invalidInterfaceIndex
  | interfaceNotFound
  | systemError (code : Int32)
  deriving DecidableEq, Repr

/-- An `IP_ADAPTER_ADDRESSES_LH`.  Of a wide string there is what `os_string_from_wide` makes of it,
an error when it is not UTF-16; of an address what `parse_sockaddr` makes of it. -/
structure Adapter where
  ifIndex : UInt32
  adapterName : Option String
  friendlyName : Option (Option String)
  description : Option (Option String)
  physicalAddress : Vector UInt8 8
  physicalAddressLength : UInt32
  mtu : UInt32
  ifType : UInt32
  operStatus : UInt32
  unicast : List (Option IpAddr × UInt8)
  deriving DecidableEq, Repr

namespace Adapter

def name (adapter : Adapter) : String :=
  match adapter.friendlyName, adapter.adapterName with
  | some friendly, _ => friendly.getD "Unknown"
  | none, some name => name
  | none, none => "Unknown"

/-- A round of the loop over the unicast addresses. -/
def addUnicast (info : InterfaceInfo) (unicast : Option IpAddr × UInt8) : InterfaceInfo :=
  match unicast.1.bind fun address => InterfaceAddress.new address unicast.2 with
  | none => info
  | some address => info.addAddress address

/-- What the loop of `parse_adapters` makes of an adapter. -/
def info (adapter : Adapter) : Option InterfaceInfo := do
  let info ← InterfaceInfo.new adapter.ifIndex adapter.name
  let info := { info with
    description := (adapter.description.bind id).getD ""
    mtu := adapter.mtu
    operationalState := mapOperStatus adapter.operStatus
    interfaceType := mapIfType adapter.ifType
    macAddress :=
      if 6 ≤ adapter.physicalAddressLength then
        some (Vector.ofFn fun i => adapter.physicalAddress[i.val])
      else none }
  return adapter.unicast.foldl addUnicast info

end Adapter

def insertInterface (interface : InterfaceInfo) :
    Op (List InterfaceInfo) InterfaceQueryError Unit := fun table =>
  if interface.index = 0 then
    (.error .invalidInterfaceIndex, table)
  else
    (.ok (), replaceOrPush (fun entry => entry.index = interface.index) interface table)

def parseAdapters (adapters : List Adapter) : Op (List InterfaceInfo) InterfaceQueryError Unit := do
  modifyState fun _ => []
  adapters.forM fun adapter =>
    match adapter.info with
    | none => pure ()
    | some info => insertInterface info

def errorBufferOverflow : UInt32 := 111

/-- The call of `GetAdaptersAddresses` that counts, with `retries` left after call `n`. -/
def lastCall (calls : Nat → Reply Adapter) : Nat → Nat → Reply Adapter
  | n, 0 => calls n
  | n, retries + 1 =>
    if (calls n).ret = errorBufferOverflow then lastCall calls (n + 1) retries else calls n

def InterfaceTable.refreshAll (calls : Nat → Reply Adapter) :
    Op (List InterfaceInfo) InterfaceQueryError Unit := do
  let reply := lastCall calls 0 3
  match reply.failed .systemError with
  | some e => throw e
  | none => parseAdapters reply.rows

/-! ## 5. What a refresh delivers -/

section Events

variable {ρ α ε : Type}

/-- The failure of a query, or what it delivers. -/
def replyEvents (failure : Option ε) (delivered : List (Except ε α)) : List (Except ε α) :=
  match failure with
  | some e => [.error e]
  | none => delivered

theorem delivers_forReply {σ τ : Type} {table : σ → τ} {step : σ → α → σ} {info : ρ → Option α}
    {check : α → Except ε α} {body : ρ → Op σ ε Unit}
    (h : ∀ row, Delivers table step (body row) ((info row).toList.map check))
    (failure : Option ε) (rows : List ρ) :
    Delivers table step (forReply failure rows body)
      (replyEvents failure ((rows.filterMap info).map check)) := by
  cases failure with
  | some e => exact .error fun _ => ⟨rfl, rfl⟩
  | none =>
    rw [List.filterMap_eq_flatMap_toList, List.map_flatMap]
    exact .forM h rows

end Events

/-- A new entry takes the place of the old one. -/
def replace {α : Type} (_ new : α) : α := new

theorem merging_replace {α κ : Type} (key : α → κ) : Merging key replace :=
  ⟨fun _ _ _ => rfl, fun _ _ _ => rfl, fun _ => rfl⟩

theorem replaceOrPush_eq_put {α κ : Type} [DecidableEq κ] {key : α → κ} {same : α → Bool} {a : α}
    (h : ∀ b, same b = decide (key b = key a)) (l : List α) :
    replaceOrPush same a l = put key replace a l := by
  induction l with
  | nil => rfl
  | cons b rest ih =>
    simp only [replaceOrPush, put, h, decide_eq_true_eq, ih]
    rfl

/-! ### Routes -/

def routeEvents (v4 v6 : Reply RouteRow) : List (Except RouteTableError RouteInfo) :=
  replyEvents (v4.failed .systemError) ((v4.rows.filterMap RouteRow.info).map .ok) ++
    replyEvents (v6.failed .systemError) ((v6.rows.filterMap RouteRow.info).map .ok)

theorem RouteRow.insert_info {row : RouteRow} {info : RouteInfo} (h : row.info = some info)
    (table : RouteTable) : table.insert info = (.ok (), put RouteInfo.key replace info table) := by
  obtain ⟨destIp, -, hrest⟩ := Option.bind_eq_some_iff.mp h
  obtain ⟨made, hnew, hinfo⟩ := Option.bind_eq_some_iff.mp hrest
  obtain rfl := Option.some.inj hinfo
  have hok := RouteInfo.new_insert hnew (.fromU32 row.protocol) table
  unfold RouteTable.insert at hok ⊢
  split_ifs at hok ⊢
  refine congrArg (Prod.mk _) (replaceOrPush_eq_put (fun b => ?_) table)
  simp only [RouteInfo.key, Prod.mk.injEq]

theorem delivers_fetchRouteRows (reply : Reply RouteRow) :
    Delivers id (fun t a => put RouteInfo.key replace a t) (fetchRouteRows reply)
      (replyEvents (reply.failed .systemError) ((reply.rows.filterMap RouteRow.info).map .ok)) := by
  apply delivers_forReply
  intro row
  cases hinfo : row.info with
  | none => exact .pure
  | some info => exact .ok fun table => RouteRow.insert_info hinfo table

theorem exec_refreshRoutes (v4 v6 : Reply RouteRow) (t : RouteTable) :
    exec (RouteTable.refreshAll v4 v6) t =
      rebuild RouteInfo.key replace (routeEvents v4 v6) := by
  have h := (delivers_fetchRouteRows v4).bind (delivers_fetchRouteRows v6)
  exact Prod.ext (h.result []) (h.left [])

theorem foldl_addSeen (rows : List RouteRow) (table : RouteTable) :
    rows.foldl RouteTable.addSeen table =
      puts RouteInfo.key replace (rows.filterMap RouteRow.info) table := by
  induction rows generalizing table with
  | nil => rfl
  | cons row rows ih =>
    rw [List.foldl_cons, List.filterMap_cons, ih, RouteTable.addSeen]
    cases hinfo : row.info with
    | none => rfl
    | some info => exact congrArg (puts _ _ _) (congrArg Prod.snd (row.insert_info hinfo table))

/-- `fetch_routes` on the memory is the loop over the rows that the structs show in it. -/
theorem fetchRoutes_rows {memory : List UInt8} {rows : List RouteRow}
    (h : seenRoutes memory = some rows) (ret : UInt32) (table : RouteTable) :
    fetchRoutes ret (some memory) table = some (exec (fetchRouteRows ⟨ret, rows⟩) table) := by
  have hdelivers := delivers_fetchRouteRows ⟨ret, rows⟩
  by_cases hret : ret = 0
  · have hnone : (Reply.mk ret rows).failed RouteTableError.systemError = none :=
      if_neg (not_not.mpr hret)
    rw [hnone] at hdelivers
    rw [hret, fetchRoutes_of_seen h, foldl_addSeen, ← hret]
    refine congrArg some (Prod.ext ?_ ?_)
    · exact (verdict_oks _).symm.trans (hdelivers.result table).symm
    · exact (congrArg (puts _ _ · table) (accepted_oks _).symm).trans (hdelivers.left table).symm
  · have hsome : (Reply.mk ret rows).failed RouteTableError.systemError =
        some (.systemError ret.toInt32) := if_pos hret
    rw [fetchRoutes, if_pos hret, fetchRouteRows, hsome]
    rfl

/-! ### Neighbors -/

/-- What `insert` compares. -/
def neighborKey (entry : NeighborEntry) : NeighborKey := entry.key

def NeighborEntry.ofRow (r : NeighborRow × SystemTime) : Option NeighborEntry :=
  r.1.info.map fun info => ⟨info, r.2⟩

def neighborEvents (v4 v6 : Reply (NeighborRow × SystemTime)) :
    List (Except NeighborTableError NeighborEntry) :=
  replyEvents (v4.failed .systemError) ((v4.rows.filterMap NeighborEntry.ofRow).map .ok) ++
    replyEvents (v6.failed .systemError) ((v6.rows.filterMap NeighborEntry.ofRow).map .ok)

theorem NeighborRow.interfaceIndex_info {row : NeighborRow} {info : NeighborInfo}
    (h : row.info = some info) : info.key.interfaceIndex ≠ 0 := by
  obtain ⟨addr, -, hinfo⟩ := Option.bind_eq_some_iff.mp h
  obtain ⟨key, hkey, rfl⟩ := Option.map_eq_some_iff.mp hinfo
  unfold NeighborKey.new at hkey
  by_cases hzero : row.interfaceIndex = 0
  · rw [if_pos hzero] at hkey
    cases hkey
  · rw [if_neg hzero] at hkey
    obtain rfl := Option.some.inj hkey
    exact hzero

theorem insertNeighbor_eq (neighbor : NeighborEntry) (h : neighbor.key.interfaceIndex ≠ 0)
    (table : List NeighborEntry) :
    exec (insertNeighbor neighbor) table =
      (.ok (), put neighborKey replace neighbor table) := by
  show (if _ then _ else _) = _
  rw [if_neg h]
  exact congrArg (Prod.mk _) (replaceOrPush_eq_put (fun _ => rfl) table)

theorem delivers_fetchNeighborRows (reply : Reply (NeighborRow × SystemTime)) :
    Delivers Prod.fst (collect neighborKey replace)
      (fetchNeighborRows reply)
      (replyEvents (reply.failed .systemError)
        ((reply.rows.filterMap NeighborEntry.ofRow).map .ok)) := by
  apply delivers_forReply
  intro r
  unfold NeighborEntry.ofRow
  cases hinfo : r.1.info with
  | none => exact .pure
  | some info =>
    refine .ok fun s => ?_
    have hinsert := insertNeighbor_eq ⟨info, r.2⟩
      (NeighborRow.interfaceIndex_info hinfo) s.1
    rw [exec_bind, exec_zoom, hinsert]
    rfl

theorem exec_refreshNeighbors (v4 v6 : Reply (NeighborRow × SystemTime)) (t : List NeighborEntry) :
    exec (NeighborTable.refreshAll v4 v6) t =
      refill neighborKey replace (neighborEvents v4 v6) t := by
  have h := (delivers_fetchNeighborRows v4).bind (delivers_fetchNeighborRows v6)
  rw [NeighborTable.refreshAll, ← bind_assoc]
  exact exec_withKeys_retain h t

/-- The rows of the memory, looped over without their times, make the same table. -/
def untimed (s : List NeighborEntry × List NeighborKey) : NeighborTable × List NeighborKey :=
  (s.1.map NeighborEntry.toNeighborInfo, s.2)

theorem map_put_entry (entry : NeighborEntry) (l : List NeighborEntry) :
    (put neighborKey replace entry l).map NeighborEntry.toNeighborInfo =
      replaceOrPush (fun b => b.key = entry.key) entry.toNeighborInfo
        (l.map NeighborEntry.toNeighborInfo) := by
  have hput : (put neighborKey replace entry l).map NeighborEntry.toNeighborInfo =
      put NeighborInfo.key replace entry.toNeighborInfo (l.map NeighborEntry.toNeighborInfo) :=
    map_put (fun _ => rfl) (fun _ _ => rfl) entry l
  rw [hput]
  exact (replaceOrPush_eq_put (fun _ => rfl) _).symm

theorem untimed_collect {row : NeighborRow} {info : NeighborInfo} (h : row.info = some info)
    (time : SystemTime) (s : List NeighborEntry × List NeighborKey) :
    untimed (collect neighborKey replace s ⟨info, time⟩) =
      NeighborTable.addSeen (untimed s) row := by
  have hinsert : (untimed s).1.insert info =
      (.ok (), replaceOrPush (fun b => b.key = info.key) info (untimed s).1) :=
    if_neg (NeighborRow.interfaceIndex_info h)
  rw [NeighborTable.addSeen, h]
  show _ = (addNeighbor info (untimed s)).2
  rw [addNeighbor, hinsert]
  exact Prod.ext (map_put_entry ⟨info, time⟩ s.1) rfl

/-- `fetch_ipnet` on the memory is the loop over the rows that the structs show in it. -/
theorem fetchIpnet_rows {memory : List UInt8} {turns : List (NeighborRow × SystemTime)}
    (h : seenNeighbors memory = some (turns.map Prod.fst)) (ret : UInt32)
    (s : List NeighborEntry × List NeighborKey) :
    fetchIpnet ret (some memory) (untimed s) =
      some ((exec (fetchNeighborRows ⟨ret, turns⟩) s).1,
        untimed (exec (fetchNeighborRows ⟨ret, turns⟩) s).2) := by
  have hdelivers := delivers_fetchNeighborRows ⟨ret, turns⟩
  by_cases hret : ret = 0
  · have hnone : (Reply.mk ret turns).failed NeighborTableError.systemError = none :=
      if_neg (not_not.mpr hret)
    rw [hnone] at hdelivers
    rw [hdelivers.result, hdelivers.state s (verdict_oks _), hret, fetchIpnet_of_seen h]
    refine congrArg some (Prod.ext (verdict_oks _).symm ?_)
    rw [show replyEvents none _ = (turns.filterMap NeighborEntry.ofRow).map _ from rfl,
      accepted_oks]
    clear h hdelivers hnone
    induction turns generalizing s with
    | nil => rfl
    | cons turn turns ih =>
      rw [List.map_cons, List.foldl_cons, List.filterMap_cons]
      unfold NeighborEntry.ofRow
      cases hinfo : turn.1.info with
      | none =>
        rw [NeighborTable.addSeen, hinfo]
        exact ih s
      | some info =>
        rw [← untimed_collect hinfo turn.2]
        exact ih _
  · have hsome : (Reply.mk ret turns).failed NeighborTableError.systemError =
        some (.systemError ret.toInt32) := if_pos hret
    rw [fetchIpnet, if_pos hret, fetchNeighborRows, hsome]
    rfl

/-! ### Connections -/

/-- What a row delivers; the table rejects the port 0. -/
def checkPort (info : ConnectionInfo) : Except ConnectionTableError ConnectionInfo :=
  if info.key.localPort = 0 then .error .invalidPort else .ok info

section Connections

variable {ρ : Type} {key : ρ → Option ConnectionKey} {state : ρ → ConnectionState}
  {owningPid : ρ → UInt32}

theorem merging_keepCreated : Merging ConnectionInfo.key keepCreated :=
  ⟨fun _ _ _ => rfl, fun _ _ _ => rfl, fun _ => rfl⟩

variable (key state owningPid) in
/-- What the queries for one of the four tables deliver. -/
def fetchEvents (r : ConnectionReply ρ) : List (Except ConnectionTableError ConnectionInfo) :=
  replyEvents r.failed ((r.reply.rows.filterMap (·.info key state owningPid)).map checkPort)

theorem delivers_fetchConnections (r : ConnectionReply ρ) :
    Delivers Prod.fst (collect ConnectionInfo.key keepCreated)
      (fetchConnections key state owningPid r) (fetchEvents key state owningPid r) := by
  apply delivers_forReply
  intro turn
  cases turn.info key state owningPid with
  | none => exact .pure
  | some info =>
    show Delivers _ _ _ [checkPort info]
    have hexec (s : List ConnectionInfo × List ConnectionKey) :
        exec (do
          modifyState fun s => (s.1, s.2.insert info.key)
          zoom Prod.fst (fun s table => (table, s.2)) (insertConnection info)) s =
        ((exec (insertConnection info) s.1).1,
          (exec (insertConnection info) s.1).2, s.2.insert info.key) := rfl
    by_cases hport : info.key.localPort = 0
    · have hinsert (table : List ConnectionInfo) :
          exec (insertConnection info) table = (.error .invalidPort, table) := if_pos hport
      rw [checkPort, if_pos hport]
      refine .error fun s => ?_
      rw [hexec, hinsert]
      exact ⟨rfl, rfl⟩
    · have hinsert (table : List ConnectionInfo) :
          exec (insertConnection info) table =
            (.ok (), put ConnectionInfo.key keepCreated info table) := if_neg hport
      rw [checkPort, if_neg hport]
      refine .ok fun s => ?_
      rw [hexec, hinsert]
      rfl

end Connections

/-- What the queries of a refresh deliver. -/
def connectionEvents (r : ConnectionReplies) : List (Except ConnectionTableError ConnectionInfo) :=
  fetchEvents TcpRow.key (fun row => mapTcpState row.dwState) TcpRow.dwOwningPid r.tcpV4 ++
    (fetchEvents Tcp6Row.key (fun row => mapTcpState row.dwState) Tcp6Row.dwOwningPid r.tcpV6 ++
      (fetchEvents UdpRow.key (fun _ => .established) UdpRow.dwOwningPid r.udpV4 ++
        fetchEvents Udp6Row.key (fun _ => .established) Udp6Row.dwOwningPid r.udpV6))

theorem exec_refreshConnections (r : ConnectionReplies) (t : List ConnectionInfo) :
    exec (ConnectionTable.refreshAll r) t =
      refill ConnectionInfo.key keepCreated (connectionEvents r) t := by
  have h : Delivers Prod.fst (collect ConnectionInfo.key keepCreated)
      (fetchTcpV4 r.tcpV4 >>= fun _ => fetchTcpV6 r.tcpV6 >>= fun _ => fetchUdpV4 r.udpV4 >>=
        fun _ => fetchUdpV6 r.udpV6)
      (connectionEvents r) :=
    (delivers_fetchConnections r.tcpV4).bind
      ((delivers_fetchConnections r.tcpV6).bind
        ((delivers_fetchConnections r.udpV4).bind (delivers_fetchConnections r.udpV6)))
  rw [← exec_withKeys_retain h]
  simp only [bind_assoc]
  rfl

/-! ### Interfaces -/

theorem Adapter.index_addUnicast (info : InterfaceInfo) (unicast : Option IpAddr × UInt8) :
    (addUnicast info unicast).index = info.index := by
  unfold addUnicast InterfaceInfo.addAddress
  split
  · rfl
  · split_ifs <;> rfl

theorem Adapter.index_foldl (unicasts : List (Option IpAddr × UInt8)) (info : InterfaceInfo) :
    (unicasts.foldl addUnicast info).index = info.index := by
  induction unicasts generalizing info with
  | nil => rfl
  | cons unicast rest ih => exact (ih _).trans (index_addUnicast info unicast)

theorem Adapter.index_info {adapter : Adapter} {info : InterfaceInfo} (h : adapter.info = some info) :
    info.index ≠ 0 := by
  obtain ⟨made, hnew, hinfo⟩ := Option.bind_eq_some_iff.mp h
  obtain rfl := Option.some.inj hinfo
  rw [index_foldl]
  unfold InterfaceInfo.new at hnew
  by_cases hzero : adapter.ifIndex = 0
  · rw [if_pos hzero] at hnew
    cases hnew
  · rw [if_neg hzero] at hnew
    split_ifs at hnew
    obtain rfl := Option.some.inj hnew
    exact hzero

def interfaceEvents (adapters : List Adapter) : List (Except InterfaceQueryError InterfaceInfo) :=
  (adapters.filterMap Adapter.info).map .ok

theorem exec_parseAdapters (adapters : List Adapter) (t : List InterfaceInfo) :
    exec (parseAdapters adapters) t =
      rebuild InterfaceInfo.index replace (interfaceEvents adapters) := by
  have h : Delivers id (fun t a => put InterfaceInfo.index replace a t)
      (adapters.forM fun adapter =>
        match adapter.info with
        | none => pure ()
        | some info => insertInterface info)
      (interfaceEvents adapters) := by
    rw [interfaceEvents, List.filterMap_eq_flatMap_toList, List.map_flatMap]
    apply Delivers.forM
    intro adapter
    cases hinfo : adapter.info with
    | none => exact .pure
    | some info =>
      refine .ok fun table => (if_neg (Adapter.index_info hinfo)).trans ?_
      exact congrArg (Prod.mk _) (replaceOrPush_eq_put (fun _ => rfl) table)
  exact Prod.ext (h.result []) (h.left [])

theorem exec_refreshInterfaces_ok {calls : Nat → Reply Adapter}
    (h : (lastCall calls 0 3).ret = 0) (t : List InterfaceInfo) :
    exec (InterfaceTable.refreshAll calls) t =
      rebuild InterfaceInfo.index replace (interfaceEvents (lastCall calls 0 3).rows) := by
  have hnone : (lastCall calls 0 3).failed InterfaceQueryError.systemError = none :=
    if_neg (not_not.mpr h)
  rw [InterfaceTable.refreshAll, hnone]
  exact exec_parseAdapters _ t

theorem exec_refreshInterfaces_error {calls : Nat → Reply Adapter}
    (h : (lastCall calls 0 3).ret ≠ 0) (t : List InterfaceInfo) :
    exec (InterfaceTable.refreshAll calls) t =
      (.error (.systemError (lastCall calls 0 3).ret.toInt32), t) := by
  have hsome : (lastCall calls 0 3).failed InterfaceQueryError.systemError =
      some (.systemError (lastCall calls 0 3).ret.toInt32) := if_pos h
  rw [InterfaceTable.refreshAll, hsome]
  rfl

/-! ## 6. Atomic refreshes -/

/-- Of an answer that is not broken off all is accepted. -/
theorem accepted_reply {α ε : Type} {check : α → Except ε α} {failure : Option ε} {infos : List α}
    (hcheck : ∀ a b, check a = .ok b → b = a)
    (h : verdict (replyEvents failure (infos.map check)) = .ok ()) :
    accepted (replyEvents failure (infos.map check)) = infos := by
  cases failure with
  | some e => cases h
  | none => exact accepted_map hcheck h

theorem ok_eq {α ε : Type} (a b : α) (h : (.ok a : Except ε α) = .ok b) : b = a :=
  (Except.ok.inj h).symm

theorem checkPort_eq (a b : ConnectionInfo) (h : checkPort a = .ok b) : b = a := by
  unfold checkPort at h
  split_ifs at h
  exact ok_eq a b h

/-- What the rows say of the routes. -/
def routeInfos (v4 v6 : Reply RouteRow) : List RouteInfo :=
  v4.rows.filterMap RouteRow.info ++ v6.rows.filterMap RouteRow.info

def neighborInfos (v4 v6 : Reply (NeighborRow × SystemTime)) : List NeighborInfo :=
  v4.rows.filterMap (·.1.info) ++ v6.rows.filterMap (·.1.info)

/-- A connection without its times. -/
structure ConnectionDescription where
  key : ConnectionKey
  state : ConnectionState
  processId : Option UInt32
  ownerModule : Option String
  deriving DecidableEq, Repr

def ConnectionInfo.description (info : ConnectionInfo) : ConnectionDescription :=
  ⟨info.key, info.state, info.processId, info.ownerModule⟩

/-- The entries that the queries of a refresh would make if none of them failed. -/
def connectionInfos (r : ConnectionReplies) : List ConnectionInfo :=
  r.tcpV4.reply.rows.filterMap (·.info TcpRow.key (fun row => mapTcpState row.dwState)
      TcpRow.dwOwningPid) ++
    (r.tcpV6.reply.rows.filterMap (·.info Tcp6Row.key (fun row => mapTcpState row.dwState)
        Tcp6Row.dwOwningPid) ++
      (r.udpV4.reply.rows.filterMap (·.info UdpRow.key (fun _ => .established) UdpRow.dwOwningPid) ++
        r.udpV6.reply.rows.filterMap (·.info Udp6Row.key (fun _ => .established)
          Udp6Row.dwOwningPid)))

def interfaceInfos (calls : Nat → Reply Adapter) : List InterfaceInfo :=
  (lastCall calls 0 3).rows.filterMap Adapter.info

/-- Rows of one key say the same. -/
def Agree {δ κ : Type} (key : δ → κ) (infos : List δ) : Prop := Set.InjOn key {d | d ∈ infos}

theorem describing_id {α κ : Type} (key : α → κ) : Describing key replace id key :=
  ⟨fun _ => rfl, fun _ _ => rfl⟩

theorem describing_neighbors :
    Describing neighborKey replace NeighborEntry.toNeighborInfo NeighborInfo.key :=
  ⟨fun _ => rfl, fun _ _ => rfl⟩

theorem describing_connections :
    Describing ConnectionInfo.key keepCreated ConnectionInfo.description ConnectionDescription.key :=
  ⟨fun _ => rfl, fun _ _ => rfl⟩

theorem routes_atomic_iff (v4 v6 : Reply RouteRow) (t : RouteTable) :
    Atomic id (routeInfos v4 v6) t (exec (RouteTable.refreshAll v4 v6) t) ↔
      (verdict (routeEvents v4 v6) = .ok () → Agree RouteInfo.key (routeInfos v4 v6)) ∧
        ∀ e, verdict (routeEvents v4 v6) = .error e →
          t = puts RouteInfo.key replace (accepted (routeEvents v4 v6)) [] := by
  rw [exec_refreshRoutes]
  apply rebuild_atomic_iff (merging_replace RouteInfo.key) (describing_id RouteInfo.key)
  intro hok
  obtain ⟨h4, h6, happend⟩ := parts_of_ok hok
  rw [List.map_id]
  exact happend.trans (congrArg₂ _ (accepted_reply ok_eq h4) (accepted_reply ok_eq h6))

theorem neighbors_atomic_iff (v4 v6 : Reply (NeighborRow × SystemTime)) (t : KeyedTable neighborKey) :
    Atomic NeighborEntry.toNeighborInfo (neighborInfos v4 v6) t.1
        (exec (NeighborTable.refreshAll v4 v6) t.1) ↔
      (verdict (neighborEvents v4 v6) = .ok () → Agree NeighborInfo.key (neighborInfos v4 v6)) ∧
        ∀ e, verdict (neighborEvents v4 v6) = .error e →
          ∀ k a, last neighborKey k (accepted (neighborEvents v4 v6)) = some a → a ∈ t.1 := by
  have hheld (k : NeighborKey) (a : NeighborEntry)
      (hlast : last neighborKey k (accepted (neighborEvents v4 v6)) = some a) :
      (∃ b ∈ t.1, neighborKey b = k ∧ replace b a = b) ↔ a ∈ t.1 := by
    constructor
    · intro h
      obtain ⟨b, hb, -, heq⟩ := h
      rw [show a = b from heq]
      exact hb
    · exact fun ha => ⟨a, ha, key_of_last hlast, rfl⟩
  rw [exec_refreshNeighbors]
  refine Iff.trans (refill_atomic_iff (merging_replace neighborKey) describing_neighbors t.2
    fun hok => ?_) (and_congr_right' (forall₂_congr fun e _ => forall₃_congr hheld))
  obtain ⟨h4, h6, happend⟩ := parts_of_ok hok
  have hall : accepted (neighborEvents v4 v6) =
      v4.rows.filterMap NeighborEntry.ofRow ++ v6.rows.filterMap NeighborEntry.ofRow :=
    happend.trans (congrArg₂ _ (accepted_reply ok_eq h4) (accepted_reply ok_eq h6))
  have hinfo (rows : List (NeighborRow × SystemTime)) :
      (rows.filterMap NeighborEntry.ofRow).map NeighborEntry.toNeighborInfo =
        rows.filterMap (·.1.info) := by
    rw [List.map_filterMap]
    apply List.filterMap_congr
    intro r _
    unfold NeighborEntry.ofRow
    cases r.1.info <;> rfl
  rw [hall, List.map_append, hinfo, hinfo]
  rfl

/-- A refresh leaves at most one entry for a key, as an insert does. -/
theorem nodup_refreshAll (v4 v6 : Reply (NeighborRow × SystemTime)) (neighbors : KeyedTable neighborKey)
    (replies : ConnectionReplies) (connections : KeyedTable ConnectionInfo.key) :
    ((exec (NeighborTable.refreshAll v4 v6) neighbors.1).2.map neighborKey).Nodup ∧
      ((exec (ConnectionTable.refreshAll replies) connections.1).2.map ConnectionInfo.key).Nodup := by
  rw [exec_refreshNeighbors, exec_refreshConnections]
  exact ⟨nodup_refill (merging_replace neighborKey) neighbors.2,
    nodup_refill merging_keepCreated connections.2⟩

theorem connections_atomic_iff (r : ConnectionReplies) (t : KeyedTable ConnectionInfo.key) :
    Atomic ConnectionInfo.description ((connectionInfos r).map ConnectionInfo.description) t.1
        (exec (ConnectionTable.refreshAll r) t.1) ↔
      (verdict (connectionEvents r) = .ok () → Agree ConnectionDescription.key
        ((connectionInfos r).map ConnectionInfo.description)) ∧
        ∀ e, verdict (connectionEvents r) = .error e →
          ∀ k a, last ConnectionInfo.key k (accepted (connectionEvents r)) = some a →
            ∃ b ∈ t.1, b.key = k ∧ keepCreated b a = b := by
  rw [exec_refreshConnections]
  apply refill_atomic_iff merging_keepCreated describing_connections t.2
  intro hok
  obtain ⟨h1, hok, happend⟩ := parts_of_ok hok
  obtain ⟨h2, hok, happend'⟩ := parts_of_ok hok
  obtain ⟨h3, h4, happend''⟩ := parts_of_ok hok
  have hall : accepted (connectionEvents r) = connectionInfos r := by
    unfold connectionEvents connectionInfos
    rw [happend, happend', happend'']
    unfold fetchEvents at h1 h2 h3 h4 ⊢
    rw [accepted_reply checkPort_eq h1, accepted_reply checkPort_eq h2,
      accepted_reply checkPort_eq h3, accepted_reply checkPort_eq h4]
  rw [hall]

/-- The queries fail before anything is cleared. -/
theorem interfaces_atomic_iff (calls : Nat → Reply Adapter) (t : List InterfaceInfo) :
    Atomic id (interfaceInfos calls) t (exec (InterfaceTable.refreshAll calls) t) ↔
      ((lastCall calls 0 3).ret = 0 → Agree InterfaceInfo.index (interfaceInfos calls)) := by
  by_cases hret : (lastCall calls 0 3).ret = 0
  · have hok : verdict (interfaceEvents (lastCall calls 0 3).rows) = .ok () := verdict_oks _
    have hall : (accepted (interfaceEvents (lastCall calls 0 3).rows)).map id =
        interfaceInfos calls := by
      rw [List.map_id]
      exact accepted_oks _
    rw [exec_refreshInterfaces_ok hret,
      rebuild_atomic_iff (merging_replace InterfaceInfo.index) (describing_id InterfaceInfo.index)
        fun _ => hall]
    constructor
    · exact fun h _ => h.1 hok
    · intro h
      refine ⟨fun _ => h hret, fun e he => ?_⟩
      rw [hok] at he
      cases he
  · rw [exec_refreshInterfaces_error hret]
    refine iff_of_true ⟨fun hok => ?_, fun _ _ => rfl⟩ fun hzero => absurd hzero hret
    cases hok

/-- When a refresh is atomic.  Rows of one key must say the same.  When a query fails, a table of
routes is emptied first and must be what the rows before the failure make of an empty table; of
neighbors and connections the last row of each key before the failure must be what the table has;
the interfaces are not touched.  A `KeyedTable` has one entry for a key, as inserts and refreshes
leave it; a table whose keys were edited through the public `get_mut` is none. -/
theorem refresh_atomic_iff (routeV4 routeV6 : Reply RouteRow) (routes : RouteTable)
    (neighborV4 neighborV6 : Reply (NeighborRow × SystemTime)) (neighbors : KeyedTable neighborKey)
    (replies : ConnectionReplies) (connections : KeyedTable ConnectionInfo.key)
    (calls : Nat → Reply Adapter) (interfaces : List InterfaceInfo) :
    (Atomic id (routeInfos routeV4 routeV6) routes
        (exec (RouteTable.refreshAll routeV4 routeV6) routes) ↔
      (verdict (routeEvents routeV4 routeV6) = .ok () →
        Agree RouteInfo.key (routeInfos routeV4 routeV6)) ∧
        ∀ e, verdict (routeEvents routeV4 routeV6) = .error e →
          routes = puts RouteInfo.key replace (accepted (routeEvents routeV4 routeV6)) []) ∧
    (Atomic NeighborEntry.toNeighborInfo (neighborInfos neighborV4 neighborV6) neighbors.1
        (exec (NeighborTable.refreshAll neighborV4 neighborV6) neighbors.1) ↔
      (verdict (neighborEvents neighborV4 neighborV6) = .ok () →
        Agree NeighborInfo.key (neighborInfos neighborV4 neighborV6)) ∧
        ∀ e, verdict (neighborEvents neighborV4 neighborV6) = .error e →
          ∀ k a, last neighborKey k (accepted (neighborEvents neighborV4 neighborV6)) = some a →
            a ∈ neighbors.1) ∧
    (Atomic ConnectionInfo.description ((connectionInfos replies).map ConnectionInfo.description)
        connections.1 (exec (ConnectionTable.refreshAll replies) connections.1) ↔
      (verdict (connectionEvents replies) = .ok () → Agree ConnectionDescription.key
        ((connectionInfos replies).map ConnectionInfo.description)) ∧
        ∀ e, verdict (connectionEvents replies) = .error e →
          ∀ k a, last ConnectionInfo.key k (accepted (connectionEvents replies)) = some a →
            ∃ b ∈ connections.1, b.key = k ∧ keepCreated b a = b) ∧
    (Atomic id (interfaceInfos calls) interfaces
        (exec (InterfaceTable.refreshAll calls) interfaces) ↔
      ((lastCall calls 0 3).ret = 0 → Agree InterfaceInfo.index (interfaceInfos calls))) :=
  ⟨routes_atomic_iff routeV4 routeV6 routes,
    neighbors_atomic_iff neighborV4 neighborV6 neighbors,
    connections_atomic_iff replies connections, interfaces_atomic_iff calls interfaces⟩

/-- A default route by 192.168.1.1. -/
def knownRoutes : RouteTable :=
  [⟨.v4 ⟨0, 0, 0, 0⟩, 0, some (.v4 ⟨192, 168, 1, 1⟩), 7, 25, .indirect, .netMgmt⟩]

/-- 192.168.1.1 at 02:00:5e:10:00:01 over interface 7, reachable. -/
def seenNeighbor : NeighborRow := ⟨some (.v4 ⟨192, 168, 1, 1⟩), 7, some #v[2, 0, 94, 16, 0, 1], 5⟩

/-- A server on port 80, and then no answer to the query for the UDP table. -/
def interruptedReplies : ConnectionReplies where
  tcpV4 := ⟨122, 0, [⟨⟨2, 0, 0x5000, 0, 0, 4⟩, 10, 11⟩]⟩
  tcpV6 := ⟨122, 0, []⟩
  udpV4 := ⟨8, 8, []⟩
  udpV6 := ⟨122, 0, []⟩

/-- After a failure the routes are gone, and neighbors and connections have new entries. -/
theorem failed_refresh_changes_tables :
    exec (RouteTable.refreshAll ⟨8, []⟩ ⟨0, []⟩) knownRoutes = (.error (.systemError 8), []) ∧
      ¬ Atomic id [] knownRoutes (exec (RouteTable.refreshAll ⟨8, []⟩ ⟨0, []⟩) knownRoutes) ∧
      exec (NeighborTable.refreshAll ⟨0, [(seenNeighbor, 10)]⟩ ⟨8, []⟩) [] =
        (.error (.systemError 8),
          [⟨⟨⟨.v4 ⟨192, 168, 1, 1⟩, 7⟩, some #v[2, 0, 94, 16, 0, 1], .reachable⟩, 10⟩]) ∧
      exec (ConnectionTable.refreshAll interruptedReplies) [] =
        (.error (.systemError 8),
          [⟨⟨.tcp, .v4 ⟨0, 0, 0, 0⟩, 80, none, none⟩, .listen, some 4, none, 10, 11⟩]) := by
  have hroutes : exec (RouteTable.refreshAll ⟨8, []⟩ ⟨0, []⟩) knownRoutes =
      (.error (.systemError 8), []) := by decide
  refine ⟨hroutes, fun h => ?_, by decide, by decide⟩
  have hunchanged := h.unchanged (.systemError 8) (congrArg Prod.fst hroutes)
  rw [hroutes] at hunchanged
  cases hunchanged

end IpHelper

end NetworkEngine
