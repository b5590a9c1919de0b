import NetworkEngine.Capture.WinDivert
import NetworkEngine.Lib.ReprC

/-!
# IpHelperRows — reading the tables of `iphlpapi`

`backend_iphelper::{sockaddr, routes, neighbors}`.  Windows hands out one block of memory: a row
count, padding up to offset 8, and the rows.  `fetch_routes` and `fetch_ipnet` cast it to structs of
their own, in which a socket address is an array of bytes and hence has no alignment.
-/

namespace NetworkEngine

open Rust ReprC

/-! ## 1. Socket addresses -/

namespace IpHelper

def word (bytes : List UInt8) : UInt32 :=
  ofLe32 (bytes.getD 0 0) (bytes.getD 1 0) (bytes.getD 2 0) (bytes.getD 3 0)

def byte (bytes : List UInt8) : UInt8 := bytes.getD 0 0

inductive SockaddrInField where
  | sinFamily
  | sinPort
  | sinAddr
  | sinZero
  deriving DecidableEq, Repr

/-- `SOCKADDR_IN`; the union `IN_ADDR` of a `u32` and four bytes is laid out as the `u32`. -/
def sockaddrIn : Struct SockaddrInField where
  order := [.sinFamily, .sinPort, .sinAddr, .sinZero]
  ty
    | .sinFamily | .sinPort => u16
    | .sinAddr => u32
    | .sinZero => u8.array 8

inductive SockaddrIn6Field where
  | sin6Family
  | sin6Port
  | sin6Flowinfo
  | sin6Addr
  | sin6ScopeId
  deriving DecidableEq, Repr

/-- `SOCKADDR_IN6`; the union `IN6_ADDR` has the alignment of its words. -/
def sockaddrIn6 : Struct SockaddrIn6Field where
  order := [.sin6Family, .sin6Port, .sin6Flowinfo, .sin6Addr, .sin6ScopeId]
  ty
    | .sin6Family | .sin6Port => u16
    | .sin6Flowinfo | .sin6ScopeId => u32
    | .sin6Addr => u16.array 8

def afInet : UInt32 := 2

def afInet6 : UInt32 := 23

def sockaddrInetLen : Nat := 28

/-- `parse_sockaddr_inet` on the bytes of a `[u8; SOCKADDR_INET_LEN]`. -/
def parseSockaddrInet (buffer : List UInt8) : Option IpAddr := do
  let family := (buffer.getD 0 0).toUInt32 + (buffer.getD 1 0).toUInt32 * 256
  if family = afInet then
    -- `u32::from_be` and `Ipv4Addr::from` leave the octets in the order of memory.
    let addr ← sockaddrIn.read buffer 0 .sinAddr
    return .v4 ⟨addr.getD 0 0, addr.getD 1 0, addr.getD 2 0, addr.getD 3 0⟩
  else if family = afInet6 then
    let addr ← sockaddrIn6.read buffer 0 .sin6Addr
    return .v6 ⟨Vector.ofFn fun i => addr.getD i 0⟩
  else
    none

/-! ## 2. Rows of the routing table -/

inductive PrefixField where
  | address
  | prefixLength
  deriving DecidableEq, Repr

/-- `MIB_IPPREFIX` over a type of socket addresses. -/
def mibIpprefixRow (sockaddr : Ty) : Struct PrefixField where
  order := [.address, .prefixLength]
  ty
    | .address => sockaddr
    | .prefixLength => u8

inductive ForwardField where
  | interfaceLuid
  | interfaceIndex
  | destinationPrefix
  | nextHop
  | sitePrefixLength
  | validLifetime
  | preferredLifetime
  | metric
  | protocol
  | loopback
  | autoconfigureAddress
  | publish
  | immortal
  | age
  | origin
  deriving DecidableEq, Repr

/-- `MIB_IPFORWARD_ROW2` over a type of socket addresses. -/
def mibIpforwardRow2 (sockaddr : Ty) : Struct ForwardField where
  order := [.interfaceLuid, .interfaceIndex, .destinationPrefix, .nextHop, .sitePrefixLength,
    .validLifetime, .preferredLifetime, .metric, .protocol, .loopback, .autoconfigureAddress,
    .publish, .immortal, .age, .origin]
  ty
    | .interfaceLuid => u64
    | .destinationPrefix => (mibIpprefixRow sockaddr).toTy
    | .nextHop => sockaddr
    | .sitePrefixLength | .loopback | .autoconfigureAddress | .publish | .immortal => u8
    | .interfaceIndex | .validLifetime | .preferredLifetime | .metric | .protocol | .age
    | .origin => u32

/-- How the code declares a socket address. -/
def sockaddrBytes : Ty := u8.array sockaddrInetLen

/-- `SOCKADDR_INET` of Windows, a union that holds words. -/
def sockaddrInet : Ty := ⟨sockaddrInetLen, u32.align, u32.align_pos⟩

/-- The fields of a row that `fetch_routes` looks at. -/
structure RouteRow where
  destination : Option IpAddr
  prefixLength : UInt8
  nextHop : Option IpAddr
  interfaceIndex : UInt32
  metric : UInt32
  protocol : UInt32
  deriving DecidableEq, Repr

def routeRow (sockaddr : Ty) (memory : List UInt8) (base : Nat) : Option RouteRow := do
  let row := mibIpforwardRow2 sockaddr
  let destinationPrefix := base + row.offset .destinationPrefix
  let destination ← (mibIpprefixRow sockaddr).read memory destinationPrefix .address
  let prefixLength ← (mibIpprefixRow sockaddr).read memory destinationPrefix .prefixLength
  let nextHop ← row.read memory base .nextHop
  let interfaceIndex ← row.read memory base .interfaceIndex
  let metric ← row.read memory base .metric
  let protocol ← row.read memory base .protocol
  return {
    destination := parseSockaddrInet destination
    prefixLength := byte prefixLength
    nextHop := parseSockaddrInet nextHop
    interfaceIndex := word interfaceIndex
    metric := word metric
    protocol := word protocol }

theorem mem_prefixOrder (sockaddr : Ty) (f : PrefixField) : f ∈ (mibIpprefixRow sockaddr).order := by
  cases f <;> simp [mibIpprefixRow]

theorem mem_forwardOrder (sockaddr : Ty) (f : ForwardField) :
    f ∈ (mibIpforwardRow2 sockaddr).order := by
  cases f <;> simp [mibIpforwardRow2]

/-- A view of a row depends on the bytes of the row only. -/
theorem routeRow_congr {sockaddr : Ty} {memory memory' : List UInt8} {base base' : Nat}
    (h : SameBytes (mibIpforwardRow2 sockaddr).size memory base memory' base') :
    routeRow sockaddr memory base = routeRow sockaddr memory' base' := by
  have hprefix := h.mono ((mibIpforwardRow2 sockaddr).offset_add_size_le
    (mem_forwardOrder sockaddr .destinationPrefix))
  have hfield (f : ForwardField) := Struct.read_congr h (mem_forwardOrder sockaddr f)
  have hprefixField (f : PrefixField) := Struct.read_congr hprefix (mem_prefixOrder sockaddr f)
  simp only [routeRow, hfield, hprefixField]

/-- The fields of a row at given offsets of its block. -/
def RouteRow.ofBlock (block : List UInt8)
    (destination prefixLength nextHop interfaceIndex metric protocol : Nat) : RouteRow where
  destination := parseSockaddrInet ((block.drop destination).take sockaddrInetLen)
  prefixLength := byte ((block.drop prefixLength).take 1)
  nextHop := parseSockaddrInet ((block.drop nextHop).take sockaddrInetLen)
  interfaceIndex := word ((block.drop interfaceIndex).take 4)
  metric := word ((block.drop metric).take 4)
  protocol := word ((block.drop protocol).take 4)

theorem routeRow_block {sockaddr : Ty} {block : List UInt8}
    (hlen : block.length = (mibIpforwardRow2 sockaddr).size) :
    routeRow sockaddr block 0 =
      let row := mibIpforwardRow2 sockaddr
      let destinationPrefix := 0 + row.offset .destinationPrefix
      some {
        destination := parseSockaddrInet ((block.drop (destinationPrefix +
          (mibIpprefixRow sockaddr).offset .address)).take sockaddr.size)
        prefixLength := byte ((block.drop (destinationPrefix +
          (mibIpprefixRow sockaddr).offset .prefixLength)).take 1)
        nextHop := parseSockaddrInet ((block.drop (0 + row.offset .nextHop)).take sockaddr.size)
        interfaceIndex := word ((block.drop (0 + row.offset .interfaceIndex)).take 4)
        metric := word ((block.drop (0 + row.offset .metric)).take 4)
        protocol := word ((block.drop (0 + row.offset .protocol)).take 4) } := by
  have hprefix : 0 + (mibIpforwardRow2 sockaddr).offset .destinationPrefix +
      (mibIpprefixRow sockaddr).size ≤ block.length := by
    have hin := (mibIpforwardRow2 sockaddr).offset_add_size_le
      (mem_forwardOrder sockaddr .destinationPrefix)
    rw [hlen, Nat.zero_add]
    exact hin
  have hrow : 0 + (mibIpforwardRow2 sockaddr).size ≤ block.length := by omega
  have hfield (f : ForwardField) := Struct.read_eq_some hrow (mem_forwardOrder sockaddr f)
  have hprefixField (f : PrefixField) := Struct.read_eq_some hprefix (mem_prefixOrder sockaddr f)
  simp only [routeRow, hfield, hprefixField]
  rfl

/-- Where the code looks for the fields of a row. -/
theorem routeRow_code {block : List UInt8} (hlen : block.length = 104) :
    routeRow sockaddrBytes block 0 = some (.ofBlock block 12 40 41 8 80 84) :=
  routeRow_block hlen

/-! ## 3. Rows of the neighbor table -/

/-- The fields of the two `MIB_IPNET_ROW2`, that of the code and that of Windows. -/
inductive IpnetField where
  | address
  | interfaceLuid
  | interfaceIndex
  | physicalAddress
  | physicalAddressLength
  | state
  | lastReachable
  | reachabilityTime
  | sitePrefixLength
  | flags
  deriving DecidableEq, Repr

def ipnetTy (sockaddr : Ty) : IpnetField → Ty
  | .address => sockaddr
  | .interfaceLuid | .lastReachable => u64
  | .interfaceIndex | .physicalAddressLength | .state | .reachabilityTime => u32
  | .physicalAddress => u8.array 32
  | .sitePrefixLength | .flags => u8

/-- `MIB_IPNET_ROW2` as the code declares it. -/
def mibIpnetRow2 : Struct IpnetField where
  order := [.address, .interfaceLuid, .interfaceIndex, .physicalAddress, .physicalAddressLength,
    .state, .lastReachable, .reachabilityTime, .sitePrefixLength]
  ty := ipnetTy sockaddrBytes

/-- `MIB_IPNET_ROW2` of Windows. -/
def windowsIpnetRow2 : Struct IpnetField where
  order := [.address, .interfaceIndex, .interfaceLuid, .physicalAddress, .physicalAddressLength,
    .state, .flags, .reachabilityTime]
  ty := ipnetTy sockaddrInet

/-- The fields of a row that `fetch_ipnet` looks at; of the physical address it takes six bytes. -/
structure NeighborRow where
  address : Option IpAddr
  interfaceIndex : UInt32
  mac : Option (Vector UInt8 6)
  state : UInt32
  deriving DecidableEq, Repr

def macAddress (physicalAddress physicalAddressLength : List UInt8) : Option (Vector UInt8 6) :=
  if 6 ≤ word physicalAddressLength then
    some (Vector.ofFn fun i => physicalAddress.getD i 0)
  else
    none

def neighborRow (row : Struct IpnetField) (memory : List UInt8) (base : Nat) :
    Option NeighborRow := do
  let address ← row.read memory base .address
  let interfaceIndex ← row.read memory base .interfaceIndex
  let physicalAddressLength ← row.read memory base .physicalAddressLength
  let physicalAddress ← row.read memory base .physicalAddress
  let state ← row.read memory base .state
  return {
    address := parseSockaddrInet address
    interfaceIndex := word interfaceIndex
    mac := macAddress physicalAddress physicalAddressLength
    state := word state }

/-- The fields of a row at given offsets of its block. -/
def NeighborRow.ofBlock (block : List UInt8)
    (address interfaceIndex physicalAddress physicalAddressLength state : Nat) : NeighborRow where
  address := parseSockaddrInet ((block.drop address).take sockaddrInetLen)
  interfaceIndex := word ((block.drop interfaceIndex).take 4)
  mac := macAddress ((block.drop physicalAddress).take 32)
    ((block.drop physicalAddressLength).take 4)
  state := word ((block.drop state).take 4)

section

variable {memory block : List UInt8} {base : Nat}

theorem readBytes_of_sameBytes {size pos len : Nat} (h : SameBytes size memory base block 0)
    (hlen : block.length = size) (hin : pos + len ≤ size) :
    readBytes memory (base + pos) len = some ((block.drop pos).take len) := by
  rw [h pos len hin, Nat.zero_add]
  exact readBytes_eq_some (hlen ▸ hin)

/-- Where the code looks for the fields of a row, as long as they lie in the row of Windows. -/
theorem neighborRow_code (h : SameBytes 88 memory base block 0) (hlen : block.length = 88) :
    neighborRow mibIpnetRow2 memory base = some (.ofBlock block 0 40 44 76 80) := by
  have hread (pos len : Nat) (hin : pos + len ≤ 88) := readBytes_of_sameBytes h hlen hin
  unfold neighborRow Struct.read
  rw [show mibIpnetRow2.offset .address = 0 from rfl,
    show mibIpnetRow2.offset .interfaceIndex = 40 from rfl,
    show mibIpnetRow2.offset .physicalAddress = 44 from rfl,
    show mibIpnetRow2.offset .physicalAddressLength = 76 from rfl,
    show mibIpnetRow2.offset .state = 80 from rfl,
    hread 0 _ (by decide), hread 40 _ (by decide), hread 76 _ (by decide), hread 44 _ (by decide),
    hread 80 _ (by decide)]
  rfl

theorem neighborRow_state {row : Struct IpnetField} {seen : NeighborRow}
    (h : neighborRow row memory base = some seen) :
    ∃ state, row.read memory base .state = some state := by
  simp only [neighborRow, Option.bind_eq_bind, Option.bind_eq_some_iff] at h
  obtain ⟨_, _, _, _, _, _, _, _, state, hstate, _⟩ := h
  exact ⟨state, hstate⟩

end

/-! ## 4. Looping over a table -/

inductive TableField where
  | numEntries
  | row
  deriving DecidableEq, Repr

/-- `MIB_IPFORWARD_TABLE2` and `MIB_IPNET_TABLE2` over a type of rows. -/
def mibTable2 (row : Ty) : Struct TableField where
  order := [.numEntries, .row]
  ty
    | .numEntries => u32
    | .row => row.array 1

/-- The rows of a table as `view` shows the row that starts at a position of the memory. -/
def tableRows {α : Type} (row : Ty) (view : Nat → Option α) (memory : List UInt8) :
    Option (List α) := do
  let numEntries ← (mibTable2 row).read memory 0 .numEntries
  rowsFrom view row.size (word numEntries).toNat ((mibTable2 row).offset .row)

/-- A loop over the rows of a table, left at the first error; `none` when it reads past the end of
the memory. -/
def forRows {σ ε : Type} (body : Nat → σ → Option (Except ε Unit × σ)) (stride : Nat) :
    Nat → Nat → σ → Option (Except ε Unit × σ)
  | 0, _, s => some (.ok (), s)
  | count + 1, base, s =>
    match body base s with
    | none => none
    | some (.error e, s') => some (.error e, s')
    | some (.ok (), s') => forRows body stride count (base + stride) s'

/-- `for row in slice::from_raw_parts(table.Row.as_ptr(), table.NumEntries as usize)`. -/
def tableLoop {σ ε : Type} (row : Ty) (body : Nat → σ → Option (Except ε Unit × σ))
    (memory : List UInt8) (s : σ) : Option (Except ε Unit × σ) := do
  let numEntries ← (mibTable2 row).read memory 0 .numEntries
  forRows body row.size (word numEntries).toNat ((mibTable2 row).offset .row) s

theorem forRows_of_rowsFrom {σ ε α : Type} {body : Nat → σ → Option (Except ε Unit × σ)}
    {view : Nat → Option α} {step : σ → α → σ} {stride : Nat}
    (hbody : ∀ base s row, view base = some row → body base s = some (.ok (), step s row))
    {count base : Nat} {rows : List α} (h : rowsFrom view stride count base = some rows) (s : σ) :
    forRows body stride count base s = some (.ok (), rows.foldl step s) := by
  induction count generalizing base rows s with
  | zero =>
    obtain rfl := Option.some.inj h
    rfl
  | succ count ih =>
    simp only [rowsFrom, Option.bind_eq_bind, Option.bind_eq_some_iff, Option.pure_def,
      Option.some.injEq] at h
    obtain ⟨row, hrow, rest, hrest, rfl⟩ := h
    simp only [forRows, hbody base s row hrow, List.foldl_cons]
    exact ih hrest _

/-- A loop whose body does `step` with a row that `view` shows, over a table whose rows it shows. -/
theorem tableLoop_of_tableRows {σ ε α : Type} {row : Ty}
    {body : Nat → σ → Option (Except ε Unit × σ)} {view : Nat → Option α} {step : σ → α → σ}
    (hbody : ∀ base s seen, view base = some seen → body base s = some (.ok (), step s seen))
    {memory : List UInt8} {rows : List α} (h : tableRows row view memory = some rows) (s : σ) :
    tableLoop row body memory s = some (.ok (), rows.foldl step s) := by
  obtain ⟨numEntries, hcount, hrows⟩ := Option.bind_eq_some_iff.mp h
  calc
    tableLoop row body memory s
    _ = (some numEntries).bind fun count =>
          forRows body row.size (word count).toNat ((mibTable2 row).offset .row) s :=
      congrArg (Option.bind · _) hcount
    _ = some (.ok (), rows.foldl step s) := by
      rw [Option.bind_some]
      exact forRows_of_rowsFrom hbody hrows s

/-! ## 5. The memory Windows hands out -/

/-- A table as Windows writes it, with rows of `size` bytes. -/
structure WindowsTable (size : Nat) where
  padding : Vector UInt8 4
  rows : List (Vector UInt8 size)
  count_lt : rows.length < 2 ^ 32

namespace WindowsTable

variable {size : Nat}

def header (t : WindowsTable size) : List UInt8 :=
  le32 (UInt32.ofNat t.rows.length) ++ t.padding.toList

def blocks (t : WindowsTable size) : List (List UInt8) := t.rows.map Vector.toList

def memory (t : WindowsTable size) : List UInt8 := t.header ++ t.blocks.flatten

theorem length_header (t : WindowsTable size) : t.header.length = 8 := by
  simp [header, le32]

theorem length_block (t : WindowsTable size) : ∀ block ∈ t.blocks, block.length = size := by
  intro block hblock
  obtain ⟨row, _, rfl⟩ := List.mem_map.mp hblock
  exact row.length_toList

theorem length_memory (t : WindowsTable size) : t.memory.length = 8 + size * t.rows.length := by
  have hmap : t.blocks.map List.length = List.replicate t.rows.length size := by
    rw [List.eq_replicate_iff]
    constructor
    · rw [List.length_map, blocks, List.length_map]
    · intro n hn
      obtain ⟨block, hblock, rfl⟩ := List.mem_map.mp hn
      exact t.length_block block hblock
  rw [memory, List.length_append, t.length_header, List.length_flatten, hmap,
    List.sum_replicate_nat, Nat.mul_comm]

theorem readBytes_count (t : WindowsTable size) :
    readBytes t.memory 0 4 = some (le32 (UInt32.ofNat t.rows.length)) := by
  rw [memory, header, List.append_assoc, readBytes_append_left (Nat.le_refl 4)]
  rfl

theorem toNat_word_count (t : WindowsTable size) :
    (word (le32 (UInt32.ofNat t.rows.length))).toNat = t.rows.length := by
  have hword (w : UInt32) : word (le32 w) = w := ofLe32_le32 w
  rw [hword, UInt32.toNat_ofNat']
  exact Nat.mod_eq_of_lt t.count_lt

/-- Row `i` of the table. -/
theorem sameBytes_row (t : WindowsTable size) {i : Nat} (hi : i < t.rows.length) :
    SameBytes size t.memory (8 + size * i) t.rows[i].toList 0 := by
  have hi' : i < t.blocks.length := by
    rw [blocks, List.length_map]
    exact hi
  have hblock : SameBytes size t.memory (t.header.length + size * i) t.blocks[i] 0 :=
    sameBytes_block t.length_block hi'
  rw [t.length_header] at hblock
  simpa only [blocks, List.getElem_map] using hblock

end WindowsTable

/-! ## 6. `RouteTable::fetch_routes` -/

inductive RouteProtocol where
  | other
  | localRoute
  | netMgmt
  | icmp
  | egp
  | ggp
  | hello
  | rip
  | isIs
  | esIs
  | cisCo
  | ospf
  | bgp
  | unknown (value : UInt32)
  deriving DecidableEq, Repr

def RouteProtocol.fromU32 (value : UInt32) : RouteProtocol :=
  match value.toNat with
  | 1 => .other
  | 2 => .localRoute
  | 3 => .netMgmt
  | 4 => .icmp
  | 5 => .egp
  | 6 => .ggp
  | 7 => .hello
  | 8 => .rip
  | 9 => .isIs
  | 10 => .esIs
  | 11 => .cisCo
  | 12 => .ospf
  | 13 => .bgp
  | _ => .unknown value

inductive RouteType where
  | other
  | invalid
  | direct
  | indirect
  deriving DecidableEq, Repr

structure RouteInfo where
  destination : IpAddr
  prefixLength : UInt8
  nextHop : Option IpAddr
  interfaceIndex : UInt32
  metric : UInt32
  routeType : RouteType
  protocol : RouteProtocol
  deriving DecidableEq, Repr

def maxPrefix : IpAddr → UInt8
  | .v4 _ => 32
  | .v6 _ => 128

def RouteInfo.new (destination : IpAddr) (prefixLength : UInt8) (nextHop : Option IpAddr)
    (interfaceIndex metric : UInt32) : Option RouteInfo :=
  if maxPrefix destination < prefixLength ∨ interfaceIndex = 0 then
    none
  else
    some ⟨destination, prefixLength, nextHop, interfaceIndex, metric, .indirect, .unknown 0⟩

inductive RouteTableError where
  | invalidInterface
  | invalidPrefix
  | routeNotFound
  | systemError (code : Int32)
  deriving DecidableEq, Repr

/-- `*existing = value` at the first entry that matches, or a push at the end. -/
def replaceOrPush {α : Type} (same : α → Bool) (value : α) : List α → List α
  | [] => [value]
  | entry :: rest =>
    if same entry then value :: rest else entry :: replaceOrPush same value rest

abbrev RouteTable := List RouteInfo

def RouteTable.insert (table : RouteTable) (route : RouteInfo) :
    Except RouteTableError Unit × RouteTable :=
  if route.interfaceIndex = 0 then
    (.error .invalidInterface, table)
  else if maxPrefix route.destination < route.prefixLength then
    (.error .invalidPrefix, table)
  else
    (.ok (), replaceOrPush (fun entry => entry.destination = route.destination ∧
      entry.prefixLength = route.prefixLength ∧ entry.interfaceIndex = route.interfaceIndex)
      route table)

/-- The body of the loop of `fetch_routes`, with the row at `base`. -/
def fetchRoute (memory : List UInt8) (base : Nat) (table : RouteTable) :
    Option (Except RouteTableError Unit × RouteTable) := do
  let row := mibIpforwardRow2 sockaddrBytes
  let destinationPrefix := base + row.offset .destinationPrefix
  let destination ← (mibIpprefixRow sockaddrBytes).read memory destinationPrefix .address
  let nextHop ← row.read memory base .nextHop
  match parseSockaddrInet destination with
  | none => return (.ok (), table)
  | some destIp =>
    let prefixLen ← (mibIpprefixRow sockaddrBytes).read memory destinationPrefix .prefixLength
    let interfaceIndex ← row.read memory base .interfaceIndex
    let metric ← row.read memory base .metric
    match RouteInfo.new destIp (byte prefixLen) (parseSockaddrInet nextHop) (word interfaceIndex)
        (word metric) with
    | none => return (.ok (), table)
    | some info =>
      let protocol ← row.read memory base .protocol
      return table.insert { info with protocol := .fromU32 (word protocol) }

/-- `fetch_routes`, where `GetIpForwardTable2` returns `ret` and a table at `tablePtr`. -/
def fetchRoutes (ret : UInt32) (tablePtr : Option (List UInt8)) (table : RouteTable) :
    Option (Except RouteTableError Unit × RouteTable) :=
  if ret ≠ 0 then
    some (.error (.systemError ret.toInt32), table)
  else
    match tablePtr with
    | none => some (.ok (), table)
    | some memory =>
      tableLoop (mibIpforwardRow2 sockaddrBytes).toTy (fetchRoute memory) memory table

/-- The rows of a table as the structs of the code show them. -/
def seenRoutes (memory : List UInt8) : Option (List RouteRow) :=
  tableRows (mibIpforwardRow2 sockaddrBytes).toTy (routeRow sockaddrBytes memory) memory

/-- What the loop makes of a row. -/
def RouteRow.info (row : RouteRow) : Option RouteInfo := do
  let destIp ← row.destination
  let info ← RouteInfo.new destIp row.prefixLength row.nextHop row.interfaceIndex row.metric
  return { info with protocol := .fromU32 row.protocol }

def RouteTable.addSeen (table : RouteTable) (row : RouteRow) : RouteTable :=
  match row.info with
  | none => table
  | some info => (table.insert info).2

/-- A route that `RouteInfo::new` accepts is one the table accepts. -/
theorem RouteInfo.new_insert {destination : IpAddr} {prefixLength : UInt8} {nextHop : Option IpAddr}
    {interfaceIndex metric : UInt32} {info : RouteInfo}
    (h : RouteInfo.new destination prefixLength nextHop interfaceIndex metric = some info)
    (protocol : RouteProtocol) (table : RouteTable) :
    (table.insert { info with protocol := protocol }).1 = .ok () := by
  unfold RouteInfo.new at h
  by_cases hreject : maxPrefix destination < prefixLength ∨ interfaceIndex = 0
  · rw [if_pos hreject] at h
    exact absurd h (Option.some_ne_none info).symm
  · rw [if_neg hreject] at h
    obtain rfl := Option.some.inj h
    unfold RouteTable.insert
    rw [if_neg fun hzero => hreject (.inr hzero), if_neg fun hlong => hreject (.inl hlong)]

theorem fetchRoute_of_seen {memory : List UInt8} {base : Nat} {row : RouteRow}
    (h : routeRow sockaddrBytes memory base = some row) (table : RouteTable) :
    fetchRoute memory base table = some (.ok (), table.addSeen row) := by
  simp only [routeRow, Option.bind_eq_bind, Option.bind_eq_some_iff, Option.pure_def,
    Option.some.injEq] at h
  obtain ⟨destination, hdestination, prefixLength, hprefixLength, nextHop, hnextHop,
    interfaceIndex, hinterfaceIndex, metric, hmetric, protocol, hprotocol, rfl⟩ := h
  simp only [fetchRoute, hdestination, hnextHop, hprefixLength, hinterfaceIndex, hmetric,
    hprotocol, Option.bind_eq_bind, Option.bind_some, Option.pure_def, RouteTable.addSeen,
    RouteRow.info]
  cases parseSockaddrInet destination with
  | none => rfl
  | some destIp =>
    simp only [Option.bind_some]
    cases hnew : RouteInfo.new destIp (byte prefixLength) (parseSockaddrInet nextHop)
        (word interfaceIndex) (word metric) with
    | none => rfl
    | some info =>
      have hok := RouteInfo.new_insert hnew (.fromU32 (word protocol)) table
      exact congrArg some (Prod.ext hok rfl)

/-- What the table gains is what the structs show: each row that makes a route is inserted. -/
theorem fetchRoutes_of_seen {memory : List UInt8} {rows : List RouteRow}
    (h : seenRoutes memory = some rows) (table : RouteTable) :
    fetchRoutes 0 (some memory) table = some (.ok (), rows.foldl RouteTable.addSeen table) := by
  rw [fetchRoutes, if_neg fun hne => hne rfl]
  exact tableLoop_of_tableRows (fun base table row hrow => fetchRoute_of_seen hrow table) h table

/-! ## 7. `NeighborTable::fetch_ipnet` -/

inductive NeighborState where
  | unreachable
  | incomplete
  | probe
  | delay
  | stale
  | reachable
  | permanent
  | unknown
  deriving DecidableEq, Repr

def mapNeighborState (state : UInt32) : NeighborState :=
  match state.toNat with
  | 0 => .unreachable
  | 1 => .incomplete
  | 2 => .probe
  | 3 => .delay
  | 4 => .stale
  | 5 => .reachable
  | 6 => .permanent
  | _ => .unknown

structure NeighborKey where
  address : IpAddr
  interfaceIndex : UInt32
  deriving DecidableEq, Repr

def NeighborKey.new (address : IpAddr) (interfaceIndex : UInt32) : Option NeighborKey :=
  if interfaceIndex = 0 then none else some ⟨address, interfaceIndex⟩

/-- Without the time of the update, which only the age of an entry depends on. -/
structure NeighborInfo where
  key : NeighborKey
  macAddress : Option (Vector UInt8 6)
  state : NeighborState
  deriving DecidableEq, Repr

inductive NeighborTableError where
  | invalidInterface
  | neighborNotFound
  | systemError (code : Int32)
  deriving DecidableEq, Repr

abbrev NeighborTable := List NeighborInfo

def NeighborTable.insert (table : NeighborTable) (neighbor : NeighborInfo) :
    Except NeighborTableError Unit × NeighborTable :=
  if neighbor.key.interfaceIndex = 0 then
    (.error .invalidInterface, table)
  else
    (.ok (), replaceOrPush (fun entry => entry.key = neighbor.key) neighbor table)

/-- `self.insert(info)?; current_keys.insert(key);`. -/
def addNeighbor (info : NeighborInfo) (s : NeighborTable × List NeighborKey) :
    Except NeighborTableError Unit × (NeighborTable × List NeighborKey) :=
  match NeighborTable.insert s.1 info with
  | (.error e, table) => (.error e, (table, s.2))
  | (.ok (), table) => (.ok (), (table, s.2.insert info.key))

def neighborInfo (addr : IpAddr) (interfaceIndex : UInt32) (mac : Option (Vector UInt8 6))
    (state : UInt32) : Option NeighborInfo :=
  (NeighborKey.new addr interfaceIndex).map fun key => ⟨key, mac, mapNeighborState state⟩

/-- The body of the loop of `fetch_ipnet`; the state is the table and `current_keys`. -/
def fetchNeighbor (memory : List UInt8) (base : Nat) (s : NeighborTable × List NeighborKey) :
    Option (Except NeighborTableError Unit × (NeighborTable × List NeighborKey)) := do
  let address ← mibIpnetRow2.read memory base .address
  match parseSockaddrInet address with
  | none => return (.ok (), s)
  | some addr =>
    let interfaceIndex ← mibIpnetRow2.read memory base .interfaceIndex
    if word interfaceIndex = 0 then
      return (.ok (), s)
    else
      let state ← mibIpnetRow2.read memory base .state
      let physicalAddressLength ← mibIpnetRow2.read memory base .physicalAddressLength
      let physicalAddress ← mibIpnetRow2.read memory base .physicalAddress
      match neighborInfo addr (word interfaceIndex)
          (macAddress physicalAddress physicalAddressLength) (word state) with
      | none => return (.ok (), s)
      | some info => return addNeighbor info s

/-- `fetch_ipnet`, where `GetIpNetTable2` returns `ret` and a table at `tablePtr`. -/
def fetchIpnet (ret : UInt32) (tablePtr : Option (List UInt8))
    (s : NeighborTable × List NeighborKey) :
    Option (Except NeighborTableError Unit × (NeighborTable × List NeighborKey)) :=
  if ret ≠ 0 then
    some (.error (.systemError ret.toInt32), s)
  else
    match tablePtr with
    | none => some (.ok (), s)
    | some memory => tableLoop mibIpnetRow2.toTy (fetchNeighbor memory) memory s

def seenNeighbors (memory : List UInt8) : Option (List NeighborRow) :=
  tableRows mibIpnetRow2.toTy (neighborRow mibIpnetRow2 memory) memory

/-- What the loop makes of a row. -/
def NeighborRow.info (row : NeighborRow) : Option NeighborInfo :=
  row.address.bind fun addr => neighborInfo addr row.interfaceIndex row.mac row.state

def NeighborTable.addSeen (s : NeighborTable × List NeighborKey) (row : NeighborRow) :
    NeighborTable × List NeighborKey :=
  match row.info with
  | none => s
  | some info => (addNeighbor info s).2

theorem addNeighbor_ok {addr : IpAddr} {interfaceIndex state : UInt32}
    {mac : Option (Vector UInt8 6)} {info : NeighborInfo}
    (h : neighborInfo addr interfaceIndex mac state = some info)
    (s : NeighborTable × List NeighborKey) : (addNeighbor info s).1 = .ok () := by
  obtain ⟨key, hkey, rfl⟩ := Option.map_eq_some_iff.mp h
  by_cases hzero : interfaceIndex = 0
  · rw [NeighborKey.new, if_pos hzero] at hkey
    exact absurd hkey (Option.some_ne_none key).symm
  · rw [NeighborKey.new, if_neg hzero] at hkey
    obtain rfl := Option.some.inj hkey
    simp only [addNeighbor, NeighborTable.insert, if_neg hzero]

theorem bind_read {α β : Type} {o : Option α} {a : α} (h : o = some a) (f : α → Option β) :
    (o >>= f) = f a := by
  rw [h]
  rfl

theorem fetchNeighbor_of_seen {memory : List UInt8} {base : Nat} {row : NeighborRow}
    (h : neighborRow mibIpnetRow2 memory base = some row)
    (s : NeighborTable × List NeighborKey) :
    fetchNeighbor memory base s = some (.ok (), NeighborTable.addSeen s row) := by
  simp only [neighborRow, Option.bind_eq_bind, Option.bind_eq_some_iff, Option.pure_def,
    Option.some.injEq] at h
  obtain ⟨address, haddress, interfaceIndex, hinterfaceIndex, physicalAddressLength, hlength,
    physicalAddress, hphysicalAddress, state, hstate, hrow⟩ := h
  have hinfo : row.info = (parseSockaddrInet address).bind fun addr =>
      neighborInfo addr (word interfaceIndex)
        (macAddress physicalAddress physicalAddressLength) (word state) := by
    rw [← hrow]
    rfl
  unfold fetchNeighbor NeighborTable.addSeen
  rw [bind_read haddress, hinfo]
  cases parseSockaddrInet address with
  | none => rfl
  | some addr =>
    rw [Option.bind_some]
    show (mibIpnetRow2.read memory base .interfaceIndex >>= _) = _
    rw [bind_read hinterfaceIndex]
    by_cases hzero : word interfaceIndex = 0
    · have hnone : neighborInfo addr (word interfaceIndex)
          (macAddress physicalAddress physicalAddressLength) (word state) = none := by
        rw [neighborInfo, NeighborKey.new, if_pos hzero, Option.map_none]
      rw [if_pos hzero, hnone]
      rfl
    · rw [if_neg hzero, bind_read hstate, bind_read hlength, bind_read hphysicalAddress]
      cases hnew : neighborInfo addr (word interfaceIndex)
          (macAddress physicalAddress physicalAddressLength) (word state) with
      | none => rfl
      | some info => exact congrArg some (Prod.ext (addNeighbor_ok hnew s) rfl)

/-- What the table gains is what the structs show, when they show it. -/
theorem fetchIpnet_of_seen {memory : List UInt8} {rows : List NeighborRow}
    (h : seenNeighbors memory = some rows) (s : NeighborTable × List NeighborKey) :
    fetchIpnet 0 (some memory) s = some (.ok (), rows.foldl NeighborTable.addSeen s) := by
  rw [fetchIpnet, if_neg fun hne => hne rfl]
  exact tableLoop_of_tableRows (fun base s row hrow => fetchNeighbor_of_seen hrow s) h s

/-! ## 8. What is seen of what Windows writes -/

section Decoded

/-- A row of the routing table at the offsets Windows documents. -/
def windowsRoute (row : Vector UInt8 104) : RouteRow := .ofBlock row.toList 12 40 44 8 84 88

/-- The same row at the offsets of the structs of the code. -/
def codeRoute (row : Vector UInt8 104) : RouteRow := .ofBlock row.toList 12 40 41 8 80 84

def windowsNeighbor (row : Vector UInt8 88) : NeighborRow := .ofBlock row.toList 0 28 40 72 76

/-- With the alignment of a socket address the structs are those of Windows. -/
theorem routeRow_windows (row : Vector UInt8 104) :
    routeRow sockaddrInet row.toList 0 = some (windowsRoute row) :=
  routeRow_block row.length_toList

theorem neighborRow_windows (row : Vector UInt8 88) :
    neighborRow windowsIpnetRow2 row.toList 0 = some (windowsNeighbor row) := by
  have hread (pos len : Nat) (hin : pos + len ≤ 88) :=
    readBytes_of_sameBytes (fun _ _ _ => rfl : SameBytes 88 row.toList 0 row.toList 0)
      row.length_toList hin
  unfold neighborRow Struct.read
  rw [show windowsIpnetRow2.offset .address = 0 from rfl,
    show windowsIpnetRow2.offset .interfaceIndex = 28 from rfl,
    show windowsIpnetRow2.offset .physicalAddress = 40 from rfl,
    show windowsIpnetRow2.offset .physicalAddressLength = 72 from rfl,
    show windowsIpnetRow2.offset .state = 76 from rfl,
    hread 0 _ (by decide), hread 28 _ (by decide), hread 72 _ (by decide), hread 40 _ (by decide),
    hread 76 _ (by decide)]
  rfl

/-- `fetch_routes` sees every row as Windows wrote it, and stays inside the table. -/
def RoutesDecoded (t : WindowsTable 104) : Prop :=
  seenRoutes t.memory = some (t.rows.map windowsRoute)

def NeighborsDecoded (t : WindowsTable 88) : Prop :=
  seenNeighbors t.memory = some (t.rows.map windowsNeighbor)

/-- The bytes of a row from `pos` on. -/
def rowBytes {size : Nat} (row : Vector UInt8 size) (pos len : Nat) : List UInt8 :=
  (row.toList.drop pos).take len

/-- The bytes 41 to 68 spell the next hop at 44, and the preferred lifetime at 80, the metric at 84
and the protocol at 88 are one number. -/
def RouteCoincides (row : Vector UInt8 104) : Prop :=
  parseSockaddrInet (rowBytes row 41 28) = parseSockaddrInet (rowBytes row 44 28) ∧
    word (rowBytes row 80 4) = word (rowBytes row 84 4) ∧
    word (rowBytes row 84 4) = word (rowBytes row 88 4)

/-- The physical address at 40 starts with the interface index at 28, and one word further on the
address, its length at 72 and the state at 76 read the same. -/
def NeighborCoincides (row : Vector UInt8 88) : Prop :=
  word (rowBytes row 40 4) = word (rowBytes row 28 4) ∧
    macAddress (rowBytes row 44 32) (rowBytes row 76 4) =
      macAddress (rowBytes row 40 32) (rowBytes row 72 4) ∧
    word (rowBytes row 80 4) = word (rowBytes row 76 4)

theorem tableRows_eq_some_iff {α : Type} {size : Nat} {t : WindowsTable size} {row : Ty}
    {view : Nat → Option α} {rows : List α} (h8 : (mibTable2 row).offset .row = 8) :
    tableRows row view t.memory = some rows ↔
      rows.length = t.rows.length ∧
        ∀ i, ∀ hi : i < rows.length, view (8 + row.size * i) = some rows[i] := by
  have hcount : (mibTable2 row).read t.memory 0 .numEntries =
      some (le32 (UInt32.ofNat t.rows.length)) := by
    have hstart : (mibTable2 row).offset .numEntries = 0 := by
      simp [Struct.offset, Struct.offsetFrom, mibTable2, alignUp, u32]
    rw [Struct.read, hstart]
    exact t.readBytes_count
  rw [tableRows, bind_read hcount, t.toNat_word_count, h8]
  exact rowsFrom_eq_some_iff

/-- The rows are of the size Windows writes, so that they are all found. -/
theorem seenRoutes_memory (t : WindowsTable 104) :
    seenRoutes t.memory = some (t.rows.map codeRoute) := by
  have hsize : (mibIpforwardRow2 sockaddrBytes).toTy.size = 104 := rfl
  have hstart : (mibTable2 (mibIpforwardRow2 sockaddrBytes).toTy).offset .row = 8 := rfl
  rw [seenRoutes, tableRows_eq_some_iff hstart, hsize]
  refine ⟨List.length_map _, fun i hi => ?_⟩
  have hi' : i < t.rows.length := by
    rw [List.length_map] at hi
    exact hi
  have hblock : SameBytes (mibIpforwardRow2 sockaddrBytes).size t.memory (8 + 104 * i)
      t.rows[i].toList 0 := t.sameBytes_row hi'
  rw [routeRow_congr hblock, List.getElem_map]
  exact routeRow_code t.rows[i].length_toList

theorem codeRoute_eq_iff (row : Vector UInt8 104) :
    codeRoute row = windowsRoute row ↔ RouteCoincides row := by
  simp only [codeRoute, windowsRoute, RouteRow.ofBlock, RouteRow.mk.injEq, true_and]
  exact Iff.rfl

theorem routesDecoded_iff (t : WindowsTable 104) :
    RoutesDecoded t ↔ ∀ row ∈ t.rows, RouteCoincides row := by
  rw [RoutesDecoded, seenRoutes_memory, Option.some_inj, List.map_inj_left]
  simp only [codeRoute_eq_iff]

/-- The rows of the code are sixteen bytes longer than those of Windows: from the second row on,
the state of the last one is looked for behind the table. -/
theorem seenNeighbors_eq_none {t : WindowsTable 88} (h : 2 ≤ t.rows.length) :
    seenNeighbors t.memory = none := by
  have hsize : mibIpnetRow2.toTy.size = 104 := rfl
  have hstart : (mibTable2 mibIpnetRow2.toTy).offset .row = 8 := rfl
  rw [Option.eq_none_iff_forall_ne_some]
  intro rows hseen
  rw [seenNeighbors, tableRows_eq_some_iff hstart, hsize] at hseen
  have hlast : t.rows.length - 1 < rows.length := by omega
  obtain ⟨state, hstate⟩ := neighborRow_state (hseen.2 _ hlast)
  have hpast : readBytes t.memory (8 + 104 * (t.rows.length - 1) + 80) 4 = none := by
    apply readBytes_eq_none
    rw [t.length_memory]
    omega
  rw [Struct.read, show mibIpnetRow2.offset .state = 80 from rfl] at hstate
  exact Option.some_ne_none state (hstate.symm.trans hpast)

theorem neighborsDecoded_iff (t : WindowsTable 88) :
    NeighborsDecoded t ↔ t.rows = [] ∨ ∃ row, t.rows = [row] ∧ NeighborCoincides row := by
  have hsize : mibIpnetRow2.toTy.size = 104 := rfl
  have hstart : (mibTable2 mibIpnetRow2.toTy).offset .row = 8 := rfl
  have hcoincides (row : Vector UInt8 88) :
      NeighborRow.ofBlock row.toList 0 40 44 76 80 = windowsNeighbor row ↔
        NeighborCoincides row := by
    simp only [windowsNeighbor, NeighborRow.ofBlock, NeighborRow.mk.injEq, true_and]
    exact Iff.rfl
  have hfirst (hi : 0 < t.rows.length) :
      neighborRow mibIpnetRow2 t.memory (8 + 104 * 0) =
        some (.ofBlock t.rows[0].toList 0 40 44 76 80) :=
    neighborRow_code (t.sameBytes_row hi) t.rows[0].length_toList
  by_cases hmany : 2 ≤ t.rows.length
  · rw [NeighborsDecoded, seenNeighbors_eq_none hmany]
    constructor
    · intro h
      exact absurd h (Option.some_ne_none _).symm
    · intro h
      cases h with
      | inl hnil => exact absurd hmany (by rw [hnil]; decide)
      | inr hone =>
        obtain ⟨row, hrow, _⟩ := hone
        rw [hrow] at hmany
        exact absurd hmany (Nat.not_succ_le_self 1)
  · rw [NeighborsDecoded, seenNeighbors, tableRows_eq_some_iff hstart, hsize]
    constructor
    · intro h
      by_cases hnil : t.rows = []
      · exact .inl hnil
      · have hpos : 0 < t.rows.length := List.length_pos_iff.mpr hnil
        obtain ⟨row, hrow⟩ := List.length_eq_one_iff.mp (show t.rows.length = 1 by omega)
        have hseen := h.2 0 (by rw [List.length_map]; exact hpos)
        rw [hfirst hpos, List.getElem_map] at hseen
        have heq := (hcoincides _).mp (Option.some.inj hseen)
        simp only [hrow, List.getElem_cons_zero] at heq
        exact .inr ⟨row, hrow, heq⟩
    · intro h
      refine ⟨List.length_map _, fun i hi => ?_⟩
      rw [List.length_map] at hi
      obtain rfl : i = 0 := by omega
      cases h with
      | inl hnil => exact absurd hi (by rw [hnil]; decide)
      | inr hone =>
        obtain ⟨row, hrow, hrowCoincides⟩ := hone
        have hget : t.rows[0] = row := by simp only [hrow, List.getElem_cons_zero]
        rw [hfirst hi, List.getElem_map, hget, (hcoincides row).mpr hrowCoincides]

/-- Where the rows of Windows are decoded, routes and neighbors. -/
theorem rows_decoded_iff (routes : WindowsTable 104) (neighbors : WindowsTable 88) :
    (RoutesDecoded routes ↔ ∀ row ∈ routes.rows, RouteCoincides row) ∧
      (NeighborsDecoded neighbors ↔
        neighbors.rows = [] ∨ ∃ row, neighbors.rows = [row] ∧ NeighborCoincides row) :=
  ⟨routesDecoded_iff routes, neighborsDecoded_iff neighbors⟩

/-- A default route by 192.168.1.1 over interface 7, of infinite lifetime and metric 25, put in by
the administrator. -/
def defaultRoute : WindowsTable 104 where
  padding := #v[0, 0, 0, 0]
  rows := [#v[
    0, 0, 0, 0, 0, 0, 6, 0, 7, 0, 0, 0,
    2, 0, 0, 0, 0, 0, 0, 0, 0, 0, 0, 0, 0, 0, 0, 0, 0, 0, 0, 0, 0, 0, 0, 0, 0, 0, 0, 0,
    0, 0, 0, 0,
    2, 0, 0, 0, 192, 168, 1, 1, 0, 0, 0, 0, 0, 0, 0, 0, 0, 0, 0, 0, 0, 0, 0, 0, 0, 0, 0, 0,
    0, 0, 0, 0, 255, 255, 255, 255, 255, 255, 255, 255, 25, 0, 0, 0, 3, 0, 0, 0,
    0, 0, 0, 0, 0, 0, 0, 0, 0, 0, 0, 0]]
  count_lt := by decide

/-- 192.168.1.1 at 02:00:5e:10:00:01 over interface 7, reachable. -/
def reachableNeighbor : Vector UInt8 88 := #v[
  2, 0, 0, 0, 192, 168, 1, 1, 0, 0, 0, 0, 0, 0, 0, 0, 0, 0, 0, 0, 0, 0, 0, 0, 0, 0, 0, 0,
  7, 0, 0, 0, 0, 0, 0, 0, 0, 0, 6, 0,
  2, 0, 94, 16, 0, 1, 0, 0, 0, 0, 0, 0, 0, 0, 0, 0, 0, 0, 0, 0, 0, 0, 0, 0, 0, 0, 0, 0, 0, 0, 0, 0,
  6, 0, 0, 0, 5, 0, 0, 0, 0, 0, 0, 0, 0, 0, 0, 0]

def oneNeighbor : WindowsTable 88 where
  padding := #v[0, 0, 0, 0]
  rows := [reachableNeighbor]
  count_lt := by decide

/-- The route shows no next hop and its lifetime for its metric; the neighbor shows an interface
made of its physical address. -/
theorem rows_garbled :
    (¬ ∀ (routes : WindowsTable 104) (neighbors : WindowsTable 88),
      RoutesDecoded routes ∧ NeighborsDecoded neighbors) ∧
    seenRoutes defaultRoute.memory =
      some [⟨some (.v4 ⟨0, 0, 0, 0⟩), 0, none, 7, 4294967295, 25⟩] ∧
    seenNeighbors oneNeighbor.memory =
      some [⟨some (.v4 ⟨192, 168, 1, 1⟩), 274595842, none, 0⟩] := by
  have hroutes : seenRoutes defaultRoute.memory =
      some [⟨some (.v4 ⟨0, 0, 0, 0⟩), 0, none, 7, 4294967295, 25⟩] := by decide +kernel
  have hneighbors : seenNeighbors oneNeighbor.memory =
      some [⟨some (.v4 ⟨192, 168, 1, 1⟩), 274595842, none, 0⟩] := by decide +kernel
  refine ⟨fun h => ?_, hroutes, hneighbors⟩
  have hdecoded := (h defaultRoute oneNeighbor).1
  rw [RoutesDecoded, hroutes] at hdecoded
  exact absurd hdecoded (by decide +kernel)

end Decoded

end IpHelper

end NetworkEngine
