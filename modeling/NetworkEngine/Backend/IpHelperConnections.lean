import NetworkEngine.Backend.IpHelperRows
import NetworkEngine.Network.Cidr

/-!
# IpHelperConnections — the rows of the TCP and UDP tables

`backend_iphelper::connections`.  A row of an owner table is a struct of words.  Windows keeps an
IPv4 address in such a word as it does in a socket address, as four bytes in the order in which the
address is written; on a little-endian machine the first of them is the low byte of the word.
-/

namespace NetworkEngine

open Rust ReprC

/-- `Ipv4Addr::from(u32)`, which takes the octets from the high byte down. -/
def Ipv4Addr.fromU32 (w : UInt32) : Ipv4Addr :=
  ⟨(w >>> 24).toUInt8, (w >>> 16).toUInt8, (w >>> 8).toUInt8, w.toUInt8⟩

namespace IpHelper

/-! ## 1. The rows -/

/-- `u32::from_be` on a little-endian target. -/
def u32FromBe (w : UInt32) : UInt32 :=
  ofLe32 (w >>> 24).toUInt8 (w >>> 16).toUInt8 (w >>> 8).toUInt8 w.toUInt8

/-- `u16::from_be` on a little-endian target. -/
def u16FromBe (w : UInt16) : UInt16 := Bytes.be16 w.toUInt8 (w >>> 8).toUInt8

/-- `MIB_TCPROW_OWNER_PID`. -/
structure TcpRow where
  dwState : UInt32
  dwLocalAddr : UInt32
  dwLocalPort : UInt32
  dwRemoteAddr : UInt32
  dwRemotePort : UInt32
  dwOwningPid : UInt32
  deriving DecidableEq, Repr

/-- `MIB_TCP6ROW_OWNER_PID`, without the scopes, which nothing looks at. -/
structure Tcp6Row where
  ucLocalAddr : Vector UInt8 16
  dwLocalPort : UInt32
  ucRemoteAddr : Vector UInt8 16
  dwRemotePort : UInt32
  dwState : UInt32
  dwOwningPid : UInt32
  deriving DecidableEq, Repr

/-- `MIB_UDPROW_OWNER_PID`. -/
structure UdpRow where
  dwLocalAddr : UInt32
  dwLocalPort : UInt32
  dwOwningPid : UInt32
  deriving DecidableEq, Repr

/-- `MIB_UDP6ROW_OWNER_PID`, without the scope. -/
structure Udp6Row where
  ucLocalAddr : Vector UInt8 16
  dwLocalPort : UInt32
  dwOwningPid : UInt32
  deriving DecidableEq, Repr

inductive TcpField where
  | dwState
  | dwLocalAddr
  | dwLocalPort
  | dwRemoteAddr
  | dwRemotePort
  | dwOwningPid
  deriving DecidableEq, Repr

def mibTcprowOwnerPid : Struct TcpField where
  order := [.dwState, .dwLocalAddr, .dwLocalPort, .dwRemoteAddr, .dwRemotePort, .dwOwningPid]
  ty := fun _ => u32

def tcpRow (memory : List UInt8) (base : Nat) : Option TcpRow := do
  let dwState ← mibTcprowOwnerPid.read memory base .dwState
  let dwLocalAddr ← mibTcprowOwnerPid.read memory base .dwLocalAddr
  let dwLocalPort ← mibTcprowOwnerPid.read memory base .dwLocalPort
  let dwRemoteAddr ← mibTcprowOwnerPid.read memory base .dwRemoteAddr
  let dwRemotePort ← mibTcprowOwnerPid.read memory base .dwRemotePort
  let dwOwningPid ← mibTcprowOwnerPid.read memory base .dwOwningPid
  return ⟨word dwState, word dwLocalAddr, word dwLocalPort, word dwRemoteAddr, word dwRemotePort,
    word dwOwningPid⟩

inductive UdpField where
  | dwLocalAddr
  | dwLocalPort
  | dwOwningPid
  deriving DecidableEq, Repr

def mibUdprowOwnerPid : Struct UdpField where
  order := [.dwLocalAddr, .dwLocalPort, .dwOwningPid]
  ty := fun _ => u32

def udpRow (memory : List UInt8) (base : Nat) : Option UdpRow := do
  let dwLocalAddr ← mibUdprowOwnerPid.read memory base .dwLocalAddr
  let dwLocalPort ← mibUdprowOwnerPid.read memory base .dwLocalPort
  let dwOwningPid ← mibUdprowOwnerPid.read memory base .dwOwningPid
  return ⟨word dwLocalAddr, word dwLocalPort, word dwOwningPid⟩

/-! ## 2. What a row says of a connection -/

inductive ConnectionProtocol where
  | tcp
  | udp
  | tcp6
  | udp6
  | unknown
  deriving DecidableEq, Repr

inductive ConnectionState where
  | closed
  | listen
  | synSent
  | synReceived
  | established
  | finWait1
  | finWait2
  | closeWait
  | closing
  | lastAck
  | timeWait
  | deleteTcb
  | unknown
  deriving DecidableEq, Repr

def mapTcpState (state : UInt32) : ConnectionState :=
  match state.toNat with
  | 1 => .closed
  | 2 => .listen
  | 3 => .synSent
  | 4 => .synReceived
  | 5 => .established
  | 6 => .finWait1
  | 7 => .finWait2
  | 8 => .closeWait
  | 9 => .closing
  | 10 => .lastAck
  | 11 => .timeWait
  | 12 => .deleteTcb
  | _ => .unknown

structure ConnectionKey where
  protocol : ConnectionProtocol
  localAddress : IpAddr
  localPort : UInt16
  remoteAddress : Option IpAddr
  remotePort : Option UInt16
  deriving DecidableEq, Repr

/-- A remote endpoint is an address and a port, or neither. -/
def ConnectionKey.new (protocol : ConnectionProtocol) (localAddress : IpAddr) (localPort : UInt16)
    (remoteAddress : Option IpAddr) (remotePort : Option UInt16) : Option ConnectionKey :=
  if remoteAddress.isSome ≠ remotePort.isSome then none
  else some ⟨protocol, localAddress, localPort, remoteAddress, remotePort⟩

/-- `u16::from_be(port as u16)`. -/
def portOf (dwPort : UInt32) : UInt16 := u16FromBe dwPort.toUInt16

def remotePortOf (dwRemotePort : UInt32) : Option UInt16 :=
  if dwRemotePort = 0 then none else some (portOf dwRemotePort)

/-- The key that `fetch_tcp_v4` makes of a row. -/
def TcpRow.key (row : TcpRow) : Option ConnectionKey :=
  let localAddr := IpAddr.v4 (.fromU32 row.dwLocalAddr)
  let remoteAddr :=
    if row.dwRemoteAddr = 0 then none else some (IpAddr.v4 (.fromU32 row.dwRemoteAddr))
  ConnectionKey.new .tcp localAddr (portOf row.dwLocalPort) remoteAddr
    (remotePortOf row.dwRemotePort)

/-- The key that `fetch_tcp_v6` makes of a row. -/
def Tcp6Row.key (row : Tcp6Row) : Option ConnectionKey :=
  let remoteAddr :=
    if row.ucRemoteAddr = Vector.replicate 16 0 then none else some (IpAddr.v6 ⟨row.ucRemoteAddr⟩)
  ConnectionKey.new .tcp6 (.v6 ⟨row.ucLocalAddr⟩) (portOf row.dwLocalPort) remoteAddr
    (remotePortOf row.dwRemotePort)

/-- The key that `fetch_udp_v4` makes of a row. -/
def UdpRow.key (row : UdpRow) : Option ConnectionKey :=
  ConnectionKey.new .udp (.v4 (.fromU32 row.dwLocalAddr)) (portOf row.dwLocalPort) none none

/-- The key that `fetch_udp_v6` makes of a row. -/
def Udp6Row.key (row : Udp6Row) : Option ConnectionKey :=
  ConnectionKey.new .udp6 (.v6 ⟨row.ucLocalAddr⟩) (portOf row.dwLocalPort) none none

/-! ## 3. The byte order of an address -/

theorem bytes_ofLe32 (a b c d : UInt8) :
    (ofLe32 a b c d).toUInt8 = a ∧ (ofLe32 a b c d >>> 8).toUInt8 = b ∧
      (ofLe32 a b c d >>> 16).toUInt8 = c ∧ (ofLe32 a b c d >>> 24).toUInt8 = d := by
  have hbytes := le32_ofLe32 a b c d
  simp only [le32, List.cons.injEq, and_true] at hbytes
  exact hbytes

theorem u32FromBe_ofLe32 (a b c d : UInt8) : u32FromBe (ofLe32 a b c d) = ofLe32 d c b a := by
  obtain ⟨ha, hb, hc, hd⟩ := bytes_ofLe32 a b c d
  rw [u32FromBe, ha, hb, hc, hd]

/-- The word in which an address lies. -/
def wordOf (ip : Ipv4Addr) : UInt32 := ofLe32 ip.a ip.b ip.c ip.d

/-- Without `from_be` the octets come out last one first. -/
theorem fromU32_wordOf (ip : Ipv4Addr) :
    Ipv4Addr.fromU32 (wordOf ip) = ⟨ip.d, ip.c, ip.b, ip.a⟩ := by
  obtain ⟨ha, hb, hc, hd⟩ := bytes_ofLe32 ip.a ip.b ip.c ip.d
  rw [Ipv4Addr.fromU32, wordOf, ha, hb, hc, hd]

theorem fromU32_fromBe_wordOf (ip : Ipv4Addr) : Ipv4Addr.fromU32 (u32FromBe (wordOf ip)) = ip := by
  rw [wordOf, u32FromBe_ofLe32]
  exact fromU32_wordOf ⟨ip.d, ip.c, ip.b, ip.a⟩

/-- The address reads the same from both ends. -/
def Palindromic (ip : Ipv4Addr) : Prop := ip.a = ip.d ∧ ip.b = ip.c

instance (ip : Ipv4Addr) : Decidable (Palindromic ip) := inferInstanceAs (Decidable (_ ∧ _))

theorem fromU32_wordOf_eq_iff (ip : Ipv4Addr) :
    Ipv4Addr.fromU32 (wordOf ip) = ip ↔ Palindromic ip := by
  rw [fromU32_wordOf]
  cases ip with
  | mk a b c d =>
    simp only [Ipv4Addr.mk.injEq, Palindromic]
    constructor
    · intro h
      exact ⟨h.2.2.2, h.2.2.1⟩
    · intro h
      exact ⟨h.1.symm, h.2.symm, h.2, h.1⟩

theorem palindromic_of_wordOf_eq_zero {ip : Ipv4Addr} (h : wordOf ip = 0) : Palindromic ip := by
  obtain ⟨ha, hb, hc, hd⟩ := bytes_ofLe32 ip.a ip.b ip.c ip.d
  rw [show ofLe32 ip.a ip.b ip.c ip.d = 0 from h] at ha hb hc hd
  exact ⟨ha.symm.trans hd, hb.symm.trans hc⟩

/-! ## 4. Socket addresses -/

/-- `parse_sockaddr` of the interface table, on the memory behind `lpSockaddr`. -/
def parseSockaddr (addr : Option (List UInt8)) : Option IpAddr := do
  let memory ← addr
  let saFamily := (memory.getD 0 0).toUInt32 + (memory.getD 1 0).toUInt32 * 256
  if saFamily = afInet then
    let sinAddr ← sockaddrIn.read memory 0 .sinAddr
    return .v4 (.fromU32 (u32FromBe (word sinAddr)))
  else if saFamily = afInet6 then
    let sin6Addr ← sockaddrIn6.read memory 0 .sin6Addr
    return .v6 ⟨Vector.ofFn fun i => sin6Addr.getD i 0⟩
  else
    none

/-- A socket address of Windows with an IPv4 address in it. -/
def sockaddrWith (ip : Ipv4Addr) (sinPort : Vector UInt8 2) (rest : List UInt8) : List UInt8 :=
  (2 : UInt8) :: 0 :: sinPort.get 0 :: sinPort.get 1 :: (ip.octets ++ rest)

theorem family_with (ip : Ipv4Addr) (sinPort : Vector UInt8 2) (rest : List UInt8) :
    ((sockaddrWith ip sinPort rest).getD 0 0).toUInt32 +
      ((sockaddrWith ip sinPort rest).getD 1 0).toUInt32 * 256 = afInet := by
  show (2 : UInt8).toUInt32 + (0 : UInt8).toUInt32 * 256 = afInet
  decide

theorem read_sinAddr (ip : Ipv4Addr) (sinPort : Vector UInt8 2) (rest : List UInt8) :
    sockaddrIn.read (sockaddrWith ip sinPort rest) 0 .sinAddr = some ip.octets := by
  have hstart : sockaddrIn.offset .sinAddr = 4 := rfl
  have hin : 0 + 4 + 4 ≤ (sockaddrWith ip sinPort rest).length :=
    Nat.le_add_left 8 rest.length
  rw [Struct.read, hstart]
  exact readBytes_eq_some hin

/-- The tables of routes and neighbors read the address as it is written. -/
theorem parseSockaddrInet_with (ip : Ipv4Addr) (sinPort : Vector UInt8 2) (rest : List UInt8) :
    parseSockaddrInet (sockaddrWith ip sinPort rest) = some (.v4 ip) := by
  rw [parseSockaddrInet, if_pos (family_with ip sinPort rest), read_sinAddr]
  rfl

/-- So does the table of interfaces. -/
theorem parseSockaddr_with (ip : Ipv4Addr) (sinPort : Vector UInt8 2) (rest : List UInt8) :
    parseSockaddr (some (sockaddrWith ip sinPort rest)) = some (.v4 ip) := by
  rw [parseSockaddr, bind_read rfl, if_pos (family_with ip sinPort rest), read_sinAddr]
  exact congrArg (some ∘ IpAddr.v4) (fromU32_fromBe_wordOf ip)

/-! ## 5. What Windows writes and what is read -/

/-- A row of the TCP table as Windows means it; the ports lie in the upper bytes of their words. -/
structure WindowsTcpRow where
  dwState : UInt32
  localAddr : Ipv4Addr
  dwLocalPort : UInt32
  remoteAddr : Ipv4Addr
  dwRemotePort : UInt32
  dwOwningPid : UInt32
  deriving DecidableEq, Repr

structure WindowsUdpRow where
  localAddr : Ipv4Addr
  dwLocalPort : UInt32
  dwOwningPid : UInt32
  deriving DecidableEq, Repr

def WindowsTcpRow.bytes (w : WindowsTcpRow) : List UInt8 :=
  le32 w.dwState ++ w.localAddr.octets ++ le32 w.dwLocalPort ++ w.remoteAddr.octets ++
    le32 w.dwRemotePort ++ le32 w.dwOwningPid

def WindowsUdpRow.bytes (w : WindowsUdpRow) : List UInt8 :=
  w.localAddr.octets ++ le32 w.dwLocalPort ++ le32 w.dwOwningPid

def WindowsTcpRow.row (w : WindowsTcpRow) : TcpRow :=
  ⟨w.dwState, wordOf w.localAddr, w.dwLocalPort, wordOf w.remoteAddr, w.dwRemotePort, w.dwOwningPid⟩

def WindowsUdpRow.row (w : WindowsUdpRow) : UdpRow :=
  ⟨wordOf w.localAddr, w.dwLocalPort, w.dwOwningPid⟩

theorem word_le32 (w : UInt32) : word (le32 w) = w := ofLe32_le32 w

/-- A row that stands in a memory has the bytes it has alone. -/
theorem sameBytes_within (front bytes rest : List UInt8) :
    SameBytes bytes.length (front ++ (bytes ++ rest)) front.length bytes 0 := by
  intro pos len hin
  rw [readBytes_append_right, readBytes_append_left hin, Nat.zero_add]

theorem mem_tcpOrder (f : TcpField) : f ∈ mibTcprowOwnerPid.order := by
  cases f <;> simp [mibTcprowOwnerPid]

theorem mem_udpOrder (f : UdpField) : f ∈ mibUdprowOwnerPid.order := by
  cases f <;> simp [mibUdprowOwnerPid]

/-- The words of a row are read as Windows wrote them. -/
theorem tcpRow_bytes (front rest : List UInt8) (w : WindowsTcpRow) :
    tcpRow (front ++ (w.bytes ++ rest)) front.length = some w.row := by
  have hread (f : TcpField) := Struct.read_congr (s := mibTcprowOwnerPid)
    (sameBytes_within front w.bytes rest) (mem_tcpOrder f)
  have halone : tcpRow w.bytes 0 = some
      ⟨word (le32 w.dwState), wordOf w.localAddr, word (le32 w.dwLocalPort), wordOf w.remoteAddr,
        word (le32 w.dwRemotePort), word (le32 w.dwOwningPid)⟩ := rfl
  have hmoved : tcpRow (front ++ (w.bytes ++ rest)) front.length = tcpRow w.bytes 0 := by
    simp only [tcpRow, hread]
  rw [hmoved, halone, word_le32, word_le32, word_le32, word_le32]
  rfl

theorem udpRow_bytes (front rest : List UInt8) (w : WindowsUdpRow) :
    udpRow (front ++ (w.bytes ++ rest)) front.length = some w.row := by
  have hread (f : UdpField) := Struct.read_congr (s := mibUdprowOwnerPid)
    (sameBytes_within front w.bytes rest) (mem_udpOrder f)
  have halone : udpRow w.bytes 0 = some
      ⟨wordOf w.localAddr, word (le32 w.dwLocalPort), word (le32 w.dwOwningPid)⟩ := rfl
  have hmoved : udpRow (front ++ (w.bytes ++ rest)) front.length = udpRow w.bytes 0 := by
    simp only [udpRow, hread]
  rw [hmoved, halone, word_le32, word_le32]
  rfl

theorem ConnectionKey.new_eq_some_iff {protocol : ConnectionProtocol} {localAddress : IpAddr}
    {localPort : UInt16} {remoteAddress : Option IpAddr} {remotePort : Option UInt16}
    {key : ConnectionKey} :
    ConnectionKey.new protocol localAddress localPort remoteAddress remotePort = some key ↔
      remoteAddress.isSome = remotePort.isSome ∧
        key = ⟨protocol, localAddress, localPort, remoteAddress, remotePort⟩ := by
  unfold ConnectionKey.new
  by_cases h : remoteAddress.isSome = remotePort.isSome
  · rw [if_neg (not_not.mpr h), Option.some.injEq, eq_comm, and_iff_right h]
  · rw [if_pos h]
    exact iff_of_false nofun fun hall => h hall.1

/-- Neither endpoint, or both, are known of the remote side. -/
def WindowsTcpRow.Accepted (w : WindowsTcpRow) : Prop :=
  wordOf w.remoteAddr = 0 ↔ w.dwRemotePort = 0

instance (w : WindowsTcpRow) : Decidable w.Accepted := inferInstanceAs (Decidable (_ ↔ _))

/-- Wherever the row stands, the addresses of the connection are those that Windows wrote, as the
other tables read them. -/
def TcpDecoded (w : WindowsTcpRow) : Prop :=
  ∀ front rest row key, tcpRow (front ++ (w.bytes ++ rest)) front.length = some row →
    row.key = some key →
      key.localAddress = .v4 w.localAddr ∧
        (∀ remote, key.remoteAddress = some remote → remote = .v4 w.remoteAddr) ∧
        ∀ sinPort tail,
          parseSockaddrInet (sockaddrWith w.localAddr sinPort tail) = some key.localAddress ∧
            parseSockaddr (some (sockaddrWith w.localAddr sinPort tail)) = some key.localAddress

def UdpDecoded (w : WindowsUdpRow) : Prop :=
  ∀ front rest row key, udpRow (front ++ (w.bytes ++ rest)) front.length = some row →
    row.key = some key →
      key.localAddress = .v4 w.localAddr ∧
        ∀ sinPort tail,
          parseSockaddrInet (sockaddrWith w.localAddr sinPort tail) = some key.localAddress ∧
            parseSockaddr (some (sockaddrWith w.localAddr sinPort tail)) = some key.localAddress

theorem isSome_unless {α : Type} {c : Prop} [Decidable c] (a : α) :
    (if c then none else some a).isSome = !decide c := by
  by_cases h : c
  · rw [if_pos h, decide_eq_true h]
    rfl
  · rw [if_neg h, decide_eq_false h]
    rfl

/-- The octets of the addresses of a key are swapped. -/
theorem WindowsTcpRow.key_eq_some_iff {w : WindowsTcpRow} {key : ConnectionKey} :
    w.row.key = some key ↔
      w.Accepted ∧ key = ⟨.tcp, .v4 (.fromU32 (wordOf w.localAddr)), portOf w.dwLocalPort,
        if wordOf w.remoteAddr = 0 then none else some (.v4 (.fromU32 (wordOf w.remoteAddr))),
        remotePortOf w.dwRemotePort⟩ := by
  have haccepted : (if wordOf w.remoteAddr = 0 then none
      else some (IpAddr.v4 (.fromU32 (wordOf w.remoteAddr)))).isSome =
        (remotePortOf w.dwRemotePort).isSome ↔ w.Accepted := by
    rw [remotePortOf, isSome_unless, isSome_unless, Bool.not_inj_iff, decide_eq_decide]
    rfl
  exact ConnectionKey.new_eq_some_iff.trans (and_congr_left' haccepted)

/-- An address that is none is made of zeros, and palindromic. -/
theorem remote_decoded_iff (ip : Ipv4Addr) :
    (∀ remote, (if wordOf ip = 0 then none else some (IpAddr.v4 (.fromU32 (wordOf ip)))) =
      some remote → remote = .v4 ip) ↔ Palindromic ip := by
  by_cases hzero : wordOf ip = 0
  · rw [if_pos hzero]
    exact iff_of_true nofun (palindromic_of_wordOf_eq_zero hzero)
  · rw [if_neg hzero, ← fromU32_wordOf_eq_iff]
    constructor
    · intro h
      exact IpAddr.v4.inj (h _ rfl)
    · intro h remote hremote
      rw [← Option.some.inj hremote, h]

theorem tcpDecoded_iff (w : WindowsTcpRow) :
    TcpDecoded w ↔ ¬ w.Accepted ∨ (Palindromic w.localAddr ∧ Palindromic w.remoteAddr) := by
  constructor
  · intro h
    by_cases haccepted : w.Accepted
    · have hkey := WindowsTcpRow.key_eq_some_iff.mpr ⟨haccepted, rfl⟩
      obtain ⟨hlocal, hremote, -⟩ := h [] [] w.row _ (tcpRow_bytes [] [] w) hkey
      exact .inr ⟨(fromU32_wordOf_eq_iff _).mp (IpAddr.v4.inj hlocal),
        (remote_decoded_iff _).mp hremote⟩
    · exact .inl haccepted
  · intro h front rest row key hrow hkey
    obtain rfl := Option.some.inj ((tcpRow_bytes front rest w).symm.trans hrow)
    obtain ⟨haccepted, rfl⟩ := WindowsTcpRow.key_eq_some_iff.mp hkey
    obtain ⟨hlocal, hremote⟩ := h.resolve_left (not_not.mpr haccepted)
    have heq := (fromU32_wordOf_eq_iff _).mpr hlocal
    refine ⟨congrArg IpAddr.v4 heq, (remote_decoded_iff _).mpr hremote, fun sinPort tail => ?_⟩
    rw [heq]
    exact ⟨parseSockaddrInet_with _ sinPort tail, parseSockaddr_with _ sinPort tail⟩

theorem udpDecoded_iff (w : WindowsUdpRow) : UdpDecoded w ↔ Palindromic w.localAddr := by
  constructor
  · intro h
    obtain ⟨hlocal, -⟩ := h [] [] w.row _ (udpRow_bytes [] [] w) rfl
    exact (fromU32_wordOf_eq_iff _).mp (IpAddr.v4.inj hlocal)
  · intro h front rest row key hrow hkey
    obtain rfl := Option.some.inj ((udpRow_bytes front rest w).symm.trans hrow)
    obtain rfl := Option.some.inj hkey
    have heq := (fromU32_wordOf_eq_iff _).mpr h
    refine ⟨congrArg IpAddr.v4 heq, fun sinPort tail => ?_⟩
    show _ = some (IpAddr.v4 (.fromU32 (wordOf w.localAddr))) ∧
      _ = some (IpAddr.v4 (.fromU32 (wordOf w.localAddr)))
    rw [heq]
    exact ⟨parseSockaddrInet_with _ sinPort tail, parseSockaddr_with _ sinPort tail⟩

/-- The rows whose addresses are read as the other tables read them: those that are rejected, and
those whose addresses are the same in both byte orders. -/
theorem addresses_decoded_iff (tcp : WindowsTcpRow) (udp : WindowsUdpRow) :
    (TcpDecoded tcp ↔
      ¬ tcp.Accepted ∨ (Palindromic tcp.localAddr ∧ Palindromic tcp.remoteAddr)) ∧
      (UdpDecoded udp ↔ Palindromic udp.localAddr) :=
  ⟨tcpDecoded_iff tcp, udpDecoded_iff udp⟩

/-- 192.168.1.10, port 50000, connected to 8.8.8.8, port 443. -/
def httpsRow : WindowsTcpRow where
  dwState := 5
  localAddr := ⟨192, 168, 1, 10⟩
  dwLocalPort := 0x50c3
  remoteAddr := ⟨8, 8, 8, 8⟩
  dwRemotePort := 0xbb01
  dwOwningPid := 4242

/-- The connection is entered under 10.1.168.192; the interface has 192.168.1.10. -/
theorem local_address_swapped :
    httpsRow.row.key =
      some ⟨.tcp, .v4 ⟨10, 1, 168, 192⟩, 50000, some (.v4 ⟨8, 8, 8, 8⟩), some 443⟩ ∧
      parseSockaddr (some (sockaddrWith ⟨192, 168, 1, 10⟩ #v[0, 0] [])) =
        some (.v4 ⟨192, 168, 1, 10⟩) ∧
      ¬ TcpDecoded httpsRow ∧ ¬ UdpDecoded ⟨⟨192, 168, 1, 10⟩, 0x3500, 1000⟩ := by
  refine ⟨by decide, parseSockaddr_with _ _ _, ?_, ?_⟩
  · rw [tcpDecoded_iff]
    decide
  · rw [udpDecoded_iff]
    decide

end IpHelper

end NetworkEngine
