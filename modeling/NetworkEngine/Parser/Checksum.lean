import NetworkEngine.Lib.OnesComplement
import NetworkEngine.Lib.Padded
import NetworkEngine.Network.Cidr
import NetworkEngine.Parser.Packet

/-!
# Checksum — the checksum validators

`packet_parser::{ipv4, tcp, udp}`.  Each validator parses its packet, adds up the words it covers in
a loop of its own and folds the carries; the transport protocols put a pseudo-header in front.
-/

namespace NetworkEngine

open Rust OnesComplement

/-! ## 1. The validators -/

/-- `u16::try_from`. -/
def u16TryFrom (n : Nat) : Option UInt16 := if n < 2 ^ 16 then some (UInt16.ofNat n) else none

namespace Ipv4

def parse (packet : Bytes) : Checked EngineError Ipv4ParseResult := parseAt packet 0

end Ipv4

def Ipv4Header.headerLength (header : Ipv4Header) : Nat := header.ihl.toNat * 4

namespace Ipv4

/-- The loop over the header; `index` is below a length, so that `index + 2` does not overflow. -/
def sumHeader (header : Bytes) (index : Nat) (sum : UInt32) : Checked EngineError UInt32 :=
  if index < header.len then do
    let word ←
      if index + 1 < header.len then header.be16At index 0
      else do
        let last ← header.index index
        pure (last.toUInt16 <<< 8)
    let sum ← addU32 sum word.toUInt32
    sumHeader header (index + 2) sum
  else
    return sum
termination_by header.len - index

def validateChecksum (packet : Bytes) : Checked EngineError Bool := do
  let parsed ← parse packet
  let stop ← addU parsed.headerOffset parsed.header.headerLength
  let header ← packet.slice parsed.headerOffset stop
  let sum ← sumHeader header 0 0
  let folded ← foldCarries sum
  return folded.toUInt16 == 0xffff

end Ipv4

namespace Tcp

def parseAt (packet : Bytes) (offset : Nat) : Checked EngineError TcpParseResult :=
  parseAtWithLength packet offset (packet.len - offset)

def parse (packet : Bytes) : Checked EngineError TcpParseResult := parseAt packet 0

def validateChecksum (packet : Bytes) (source destination : Ipv4Addr) :
    Checked EngineError Bool := do
  let parsed ← parse packet
  let tcpEnd ← orFail (checkedAdd parsed.payloadOffset parsed.payloadLength) .integerOverflow
  let tcp ← packet.slice parsed.headerOffset tcpEnd
  let _capacity ← orFail (checkedAdd 12 tcp.len) .integerOverflow
  let tcpLength ← orFail (u16TryFrom tcp.len) .packetMalformed
  let pseudo := source.octets ++ destination.octets ++ [0, 6] ++ Bytes.toBe16 tcpLength ++ tcp.toList
  let padded := if pseudo.length % 2 ≠ 0 then pseudo ++ [0] else pseudo
  let sum ← sumChunks padded 0
  let folded ← foldCarries sum
  return folded.toUInt16 == 0xffff

end Tcp

namespace Udp

def parseAt (packet : Bytes) (offset : Nat) : Checked EngineError UdpParseResult := do
  let available ← orFail (checkedSub packet.len offset) .packetTooShort
  parseAtWithLength packet offset available

def parse (packet : Bytes) : Checked EngineError UdpParseResult := parseAt packet 0

/-- The loop over whole words, with the index it stops at. -/
def sumWords (udp : Bytes) (index : Nat) (sum : UInt32) : Checked EngineError (Nat × UInt32) :=
  if index + 1 < udp.len then do
    let value ← udp.be16At index 0
    let sum ← addU32 sum value.toUInt32
    sumWords udp (index + 2) sum
  else
    return (index, sum)
termination_by udp.len - index

def validateChecksumIpv4 (packet : Bytes) (source destination : Ipv4Addr) :
    Checked EngineError Bool := do
  let parsed ← parse packet
  let udpEnd ← orFail (checkedAdd parsed.payloadOffset parsed.payloadLength) .integerOverflow
  let udp ← packet.slice parsed.headerOffset udpEnd
  let udpLength ← orFail (u16TryFrom udp.len) .packetMalformed
  let sum ← sumChunks source.octets 0
  let sum ← sumChunks destination.octets sum
  let sum ← addU32 sum 17
  let sum ← addU32 sum udpLength.toUInt32
  let (index, sum) ← sumWords udp 0 sum
  let sum ←
    if index < udp.len then do
      let last ← udp.index index
      addU32 sum (last.toUInt32 <<< 8)
    else
      pure sum
  let folded ← foldCarries sum
  -- A checksum field of zero disables the verification.
  if parsed.header.checksum = 0 then return true
  return folded.toUInt16 == 0xffff

end Udp

/-! ## 2. What a checksum covers -/

/-- The pseudo-header of the transport protocols over IPv4. -/
def pseudoHeader (source destination : Ipv4Addr) (protocol : UInt8) (length : UInt16) :
    List UInt8 :=
  source.octets ++ destination.octets ++ [0, protocol] ++ Bytes.toBe16 length

/-- The header. -/
def Ipv4.covered (packet : Bytes) (r : Ipv4ParseResult) : List UInt8 :=
  packet.toList.take r.header.headerLength

/-- The pseudo-header and the whole segment. -/
def Tcp.covered (packet : Bytes) (source destination : Ipv4Addr) : List UInt8 :=
  pseudoHeader source destination 6 (UInt16.ofNat packet.len) ++ packet.toList

/-- The pseudo-header and the bytes that the length field counts. -/
def Udp.covered (packet : Bytes) (source destination : Ipv4Addr) (r : UdpParseResult) :
    List UInt8 :=
  pseudoHeader source destination 17 r.header.length ++ packet.toList.take r.header.length.toNat

/-- The sum of what is covered is a multiple of `65535` and not zero. -/
def Verifies (covered : List UInt8) : Bool := Complete (wordSum covered)

variable {packet : Bytes} {source destination : Ipv4Addr}

theorem octets_length (ip : Ipv4Addr) : ip.octets.length = 4 := rfl

theorem wordSum_pseudoHeader (protocol : UInt8) (length : UInt16) (l : List UInt8) :
    wordSum (pseudoHeader source destination protocol length ++ l) =
      wordSum source.octets + wordSum destination.octets + protocol.toNat + length.toNat +
        wordSum l := by
  have hdestination : wordSum (destination.octets ++ ([0, protocol] ++ (Bytes.toBe16 length ++ l))) =
      wordSum destination.octets + wordSum ([0, protocol] ++ (Bytes.toBe16 length ++ l)) :=
    wordSum_append (by rw [octets_length])
  have hprotocol : wordSum ([0, protocol] ++ (Bytes.toBe16 length ++ l)) =
      wordSum [0, protocol] + wordSum (Bytes.toBe16 length ++ l) := by
    apply wordSum_append
    rw [List.length_cons, List.length_singleton]
  have hword : wordSum [0, protocol] = protocol.toNat := by
    show 0 * 256 + protocol.toNat + 0 = _
    omega
  simp only [pseudoHeader, List.append_assoc]
  rw [wordSum_append (by rw [octets_length]), hdestination, hprotocol, wordSum_toBe16, hword]
  omega

theorem wordSum_octets_le (ip : Ipv4Addr) : wordSum ip.octets ≤ 131070 := by
  have hle := wordSum_le ip.octets
  rwa [octets_length] at hle

/-! ## 3. The loops -/

theorem drop_two {bytes : Bytes} {index : Nat} (h : index + 1 < bytes.len) :
    bytes.toList.drop index =
      bytes.toList.get ⟨index, Nat.lt_of_succ_lt h⟩ :: bytes.toList.get ⟨index + 1, h⟩ ::
        bytes.toList.drop (index + 2) := by
  rw [List.drop_eq_getElem_cons (Nat.lt_of_succ_lt h), List.drop_eq_getElem_cons h]
  rfl

theorem drop_one {bytes : Bytes} {index : Nat} (h : index < bytes.len)
    (hlast : ¬ index + 1 < bytes.len) :
    bytes.toList.drop index = [bytes.toList.get ⟨index, h⟩] := by
  rw [List.drop_eq_getElem_cons h, List.drop_eq_nil_of_le (Nat.not_lt.mp hlast)]
  rfl

/-- A word that is there is read. -/
theorem be16At_get {bytes : Bytes} {index : Nat} (h : index + 1 < bytes.len) :
    (bytes.be16At index 0 : Checked EngineError UInt16) =
      .ok (Bytes.be16 (bytes.toList.get ⟨index, Nat.lt_of_succ_lt h⟩)
        (bytes.toList.get ⟨index + 1, h⟩)) := by
  have hhi : (bytes.byteAt index 0 : Checked EngineError UInt8) =
      .ok (bytes.toList.get ⟨index, Nat.lt_of_succ_lt h⟩) :=
    Bytes.byteAt_eq_ok (List.getElem?_eq_getElem _)
  have hlo : (bytes.byteAt index (0 + 1) : Checked EngineError UInt8) =
      .ok (bytes.toList.get ⟨index + 1, h⟩) :=
    Bytes.byteAt_eq_ok (List.getElem?_eq_getElem _)
  rw [Bytes.be16At, hhi, hlo]
  rfl

theorem index_get {bytes : Bytes} {index : Nat} (h : index < bytes.len) :
    (bytes.index index : Checked EngineError UInt8) = .ok (bytes.toList.get ⟨index, h⟩) :=
  Bytes.index_eq_ok (List.getElem?_eq_getElem h)

theorem toNat_shift16 (b : UInt8) : (b.toUInt16 <<< 8).toUInt32.toNat = b.toNat * 256 := by
  have hb := b.toNat_lt
  rw [UInt16.toNat_toUInt32, UInt16.toNat_shiftLeft, UInt8.toNat_toUInt16, Nat.shiftLeft_eq]
  exact Nat.mod_eq_of_lt (by
    show b.toNat * 256 < 65536
    omega)

theorem toNat_shift32 (b : UInt8) : (b.toUInt32 <<< 8).toNat = b.toNat * 256 := by
  have hb := b.toNat_lt
  rw [UInt32.toNat_shiftLeft, UInt8.toNat_toUInt32, Nat.shiftLeft_eq]
  exact Nat.mod_eq_of_lt (by
    show b.toNat * 256 < 4294967296
    omega)

theorem Ipv4.sumHeader_returns (header : Bytes) (index : Nat) (sum : UInt32)
    (h : sum.toNat + wordSum (header.toList.drop index) < 2 ^ 32) :
    Returns (sumHeader header index sum) fun s =>
      s.toNat = sum.toNat + wordSum (header.toList.drop index) := by
  unfold sumHeader
  by_cases hin : index < header.len
  · rw [if_pos hin]
    by_cases hpair : index + 1 < header.len
    · rw [drop_two hpair, wordSum] at h ⊢
      rw [if_pos hpair, be16At_get hpair]
      have hword := toNat_word32 (header.toList.get ⟨index, hin⟩)
        (header.toList.get ⟨index + 1, hpair⟩)
      refine .bind (.read rfl <| .bind (.addU32 (by omega) ?_))
      have hsum := toNat_addU32 (a := sum) (b := (Bytes.be16 (header.toList.get ⟨index, hin⟩)
        (header.toList.get ⟨index + 1, hpair⟩)).toUInt32) (by omega)
      refine (sumHeader_returns header (index + 2) _ (by omega)).mono fun s hs => ?_
      omega
    · rw [drop_one hin hpair, wordSum] at h ⊢
      have hword := toNat_shift16 (header.toList.get ⟨index, hin⟩)
      rw [if_neg hpair, index_get hin]
      refine .bind (.read rfl <| .bind (.pure <| .bind (.addU32 (by omega) ?_)))
      have hsum := toNat_addU32 (a := sum)
        (b := ((header.toList.get ⟨index, hin⟩).toUInt16 <<< 8).toUInt32) (by omega)
      have hrest : header.toList.drop (index + 2) = [] := List.drop_eq_nil_of_le (by
        show header.len ≤ _
        omega)
      refine (sumHeader_returns header (index + 2) _ (by rw [hrest, wordSum]; omega)).mono
        fun s hs => ?_
      rw [hrest, wordSum] at hs
      omega
  · rw [if_neg hin]
    refine .pure ?_
    rw [List.drop_eq_nil_of_le (Nat.not_lt.mp hin)]
    rfl
termination_by header.len - index

theorem Udp.sumWords_returns (udp : Bytes) (index : Nat) (sum : UInt32) (hle : index ≤ udp.len)
    (h : sum.toNat + wordSum (udp.toList.drop index) < 2 ^ 32) :
    Returns (sumWords udp index sum) fun r => ¬ r.1 + 1 < udp.len ∧ r.1 ≤ udp.len ∧
      r.2.toNat + wordSum (udp.toList.drop r.1) =
        sum.toNat + wordSum (udp.toList.drop index) := by
  unfold sumWords
  by_cases hpair : index + 1 < udp.len
  · rw [drop_two hpair, wordSum] at h ⊢
    rw [if_pos hpair, be16At_get hpair]
    have hword := toNat_word32 (udp.toList.get ⟨index, Nat.lt_of_succ_lt hpair⟩)
      (udp.toList.get ⟨index + 1, hpair⟩)
    refine .bind (.read rfl <| .bind (.addU32 (by omega) ?_))
    have hsum := toNat_addU32 (a := sum) (b := (Bytes.be16
      (udp.toList.get ⟨index, Nat.lt_of_succ_lt hpair⟩)
      (udp.toList.get ⟨index + 1, hpair⟩)).toUInt32) (by omega)
    refine (sumWords_returns udp (index + 2) _ (by omega) (by omega)).mono fun r hr => ?_
    exact ⟨hr.1, hr.2.1, by omega⟩
  · rw [if_neg hpair]
    exact .pure ⟨hpair, hle, rfl⟩
termination_by udp.len - index

/-! ## 4. What the validators answer -/

theorem u16TryFrom_eq {n : Nat} (h : n < 2 ^ 16) : u16TryFrom n = some (UInt16.ofNat n) := if_pos h

theorem slice_start {n : Nat} (h : n ≤ packet.len) :
    ∃ body : Bytes, (packet.slice 0 n : Checked EngineError Bytes) = .ok body ∧
      body.toList = packet.toList.take n := by
  refine ⟨_, if_pos ⟨Nat.zero_le n, h⟩, ?_⟩
  show (packet.toList.drop 0).take (n - 0) = _
  rw [List.drop_zero, Nat.sub_zero]

/-- An accepted header is at the start, has its length within the packet and begins with a
version. -/
theorem Ipv4.parse_extent {r : Ipv4ParseResult} (h : parse packet = .ok r) :
    r.headerOffset = 0 ∧ 20 ≤ r.header.headerLength ∧ r.header.headerLength ≤ 60 ∧
      r.header.headerLength ≤ packet.len ∧
      ∃ first rest, packet.toList = first :: rest ∧ 0 < first.toNat := by
  obtain ⟨start, rest, hstart, hversion⟩ := ParsedPacket.version_sound h
  have hpositive : 0 < start.toNat := by
    rw [Nat.pos_iff_ne_zero]
    intro hzero
    rw [UInt8.toNat_inj.mp (hzero.trans UInt8.toNat_zero.symm)] at hversion
    exact absurd hversion (by decide)
  obtain ⟨_, -, h⟩ := bind_eq_ok h
  obtain ⟨_, -, h⟩ := bind_eq_ok h
  obtain ⟨first, -, h⟩ := bind_eq_ok h
  obtain ⟨_, -, h⟩ := bind_eq_ok h
  obtain ⟨_, hwords, h⟩ := bind_eq_ok h
  obtain ⟨headerLength, hlength, h⟩ := bind_eq_ok h
  obtain ⟨-, rfl⟩ := checkedMul_eq_some.mp (orFail_eq_ok hlength)
  obtain ⟨stop, hstop, h⟩ := bind_eq_ok h
  obtain rfl := addU_eq_ok hstop
  obtain ⟨_, hfit, h⟩ := bind_eq_ok h
  obtain ⟨_, -, h⟩ := bind_eq_ok h
  obtain ⟨_, -, h⟩ := bind_eq_ok h
  obtain ⟨_, -, h⟩ := bind_eq_ok h
  obtain ⟨_, -, h⟩ := bind_eq_ok h
  obtain ⟨_, -, h⟩ := bind_eq_ok h
  obtain ⟨_, -, h⟩ := bind_eq_ok h
  obtain ⟨_, -, h⟩ := bind_eq_ok h
  obtain ⟨_, -, h⟩ := bind_eq_ok h
  obtain ⟨_, -, h⟩ := bind_eq_ok h
  obtain ⟨_, -, h⟩ := bind_eq_ok h
  obtain ⟨_, -, h⟩ := bind_eq_ok h
  obtain ⟨_, -, h⟩ := bind_eq_ok h
  obtain ⟨_, -, h⟩ := bind_eq_ok h
  obtain ⟨_, -, h⟩ := bind_eq_ok h
  obtain rfl := Except.ok.inj h
  have hfive : 5 ≤ (first &&& 0x0f).toNat :=
    UInt8.le_iff_toNat_le.mp (UInt8.not_lt.mp (rejectIf_eq_ok hwords))
  have hfifteen : (first &&& 0x0f).toNat ≤ 15 := by
    rw [UInt8.toNat_and]
    exact Nat.and_le_right
  have hin := Nat.not_lt.mp (rejectIf_eq_ok hfit)
  simp only [Ipv4Header.headerLength]
  exact ⟨trivial, by omega, by omega, by omega, start, rest, hstart, hpositive⟩

theorem Tcp.parse_extent {r : TcpParseResult} (h : parse packet = .ok r) :
    r.headerOffset = 0 ∧ 20 ≤ packet.len ∧ r.payloadOffset + r.payloadLength = packet.len := by
  obtain ⟨_, hshort, h⟩ := bind_eq_ok h
  obtain ⟨_, -, h⟩ := bind_eq_ok h
  obtain ⟨_, -, h⟩ := bind_eq_ok h
  obtain ⟨_, -, h⟩ := bind_eq_ok h
  obtain ⟨_, -, h⟩ := bind_eq_ok h
  obtain ⟨_, -, h⟩ := bind_eq_ok h
  obtain ⟨_, -, h⟩ := bind_eq_ok h
  obtain ⟨_, -, h⟩ := bind_eq_ok h
  obtain ⟨_, -, h⟩ := bind_eq_ok h
  obtain ⟨_, -, h⟩ := bind_eq_ok h
  obtain ⟨_, -, h⟩ := bind_eq_ok h
  obtain ⟨headerLength, -, h⟩ := bind_eq_ok h
  obtain ⟨_, hheader, h⟩ := bind_eq_ok h
  obtain ⟨_, -, h⟩ := bind_eq_ok h
  obtain ⟨_, -, h⟩ := bind_eq_ok h
  obtain ⟨_, -, h⟩ := bind_eq_ok h
  obtain ⟨_, -, h⟩ := bind_eq_ok h
  obtain ⟨_, -, h⟩ := bind_eq_ok h
  obtain ⟨_, -, h⟩ := bind_eq_ok h
  obtain ⟨payloadOffset, hoffset, h⟩ := bind_eq_ok h
  obtain rfl := addU_eq_ok hoffset
  obtain ⟨payloadLength, hlength, h⟩ := bind_eq_ok h
  obtain rfl := Except.ok.inj h
  have hle := Nat.not_lt.mp (rejectIf_eq_ok hheader)
  have hlong := Nat.not_lt.mp (rejectIf_eq_ok hshort)
  rw [subU, if_pos hle] at hlength
  obtain rfl := Except.ok.inj hlength
  simp only
  exact ⟨trivial, by omega, by omega⟩

theorem Udp.parse_extent {r : UdpParseResult} (h : parse packet = .ok r) :
    r.headerOffset = 0 ∧ 8 ≤ r.header.length.toNat ∧ r.header.length.toNat ≤ packet.len ∧
      r.payloadOffset + r.payloadLength = r.header.length.toNat := by
  obtain ⟨available, havailable, h⟩ := bind_eq_ok h
  obtain ⟨-, rfl⟩ := checkedSub_eq_some.mp (orFail_eq_ok havailable)
  obtain ⟨_, -, h⟩ := bind_eq_ok h
  obtain ⟨_, -, h⟩ := bind_eq_ok h
  obtain ⟨_, -, h⟩ := bind_eq_ok h
  obtain ⟨_, -, h⟩ := bind_eq_ok h
  obtain ⟨_, -, h⟩ := bind_eq_ok h
  obtain ⟨length, -, h⟩ := bind_eq_ok h
  obtain ⟨_, -, h⟩ := bind_eq_ok h
  obtain ⟨_, hmin, h⟩ := bind_eq_ok h
  obtain ⟨_, hfit, h⟩ := bind_eq_ok h
  obtain ⟨payloadOffset, hoffset, h⟩ := bind_eq_ok h
  obtain rfl := addU_eq_ok hoffset
  obtain ⟨payloadLength, hlength, h⟩ := bind_eq_ok h
  obtain rfl := Except.ok.inj h
  have hle : 8 ≤ length.toNat :=
    UInt16.le_iff_toNat_le.mp (UInt16.not_lt.mp (rejectIf_eq_ok hmin))
  have hin := Nat.not_lt.mp (rejectIf_eq_ok hfit)
  have hsize : UdpHeader.size = 8 := rfl
  rw [subU, if_pos (by omega)] at hlength
  obtain rfl := Except.ok.inj hlength
  simp only
  exact ⟨trivial, hle, by omega, by omega⟩

/-- No loop overflows, and the answer is whether the sum of the header is complete. -/
theorem Ipv4.validateChecksum_eq {r : Ipv4ParseResult} (h : parse packet = .ok r) :
    validateChecksum packet = .ok (Verifies (covered packet r)) := by
  obtain ⟨hstart, -, hsixty, hin, -⟩ := parse_extent h
  have hlen := packet.len_le
  have hsize : isizeMax < usizeSize := by decide
  obtain ⟨header, hslice, hbytes⟩ := slice_start hin
  have hbound := wordSum_le (packet.toList.take r.header.headerLength)
  have hcount : (packet.toList.take r.header.headerLength).length ≤ 60 := by
    rw [List.length_take]
    omega
  obtain ⟨sum, hsum, hvalue⟩ := sumHeader_returns header 0 0 (by
    rw [List.drop_zero, hbytes]
    show 0 + _ < _
    omega)
  have hstop : (addU 0 r.header.headerLength : Checked EngineError Nat) =
      .ok r.header.headerLength := by
    rw [addU, if_pos (by omega), Nat.zero_add]
  rw [List.drop_zero, hbytes] at hvalue
  unfold validateChecksum
  rw [h]
  simp only [hstart, hstop, hslice, hsum, bind, Except.bind]
  have hfold := foldCarries_eq_ones (ε := EngineError) sum
  rw [hvalue] at hfold
  refine hfold.trans (congrArg Except.ok ?_)
  show decide (Complete (0 + _)) = _
  rw [Nat.zero_add]
  rfl

/-- An odd number of bytes is padded to an even one, and the sum stays the same. -/
theorem exists_padded (bytes : List UInt8) :
    ∃ padded, (if bytes.length % 2 ≠ 0 then bytes ++ [0] else bytes) = padded ∧
      padded.length % 2 = 0 ∧ wordSum padded = wordSum bytes := by
  refine ⟨_, rfl, ?_⟩
  split
  · rename_i hodd
    refine ⟨?_, wordSum_pad (by omega)⟩
    rw [List.length_append, List.length_singleton]
    omega
  · rename_i heven
    exact ⟨by omega, rfl⟩

/-- A segment that is too long for the pseudo-header is an error; of every other the answer is
whether its sum is complete. -/
theorem Tcp.validateChecksum_eq {r : TcpParseResult} (h : parse packet = .ok r) :
    validateChecksum packet source destination =
      if packet.len < 2 ^ 16 then .ok (Verifies (covered packet source destination))
      else fail .packetMalformed := by
  obtain ⟨hstart, -, hend⟩ := parse_extent h
  have hlen := packet.len_le
  have hsize : isizeMax + 12 < usizeSize := by decide
  obtain ⟨tcp, hslice, hbytes⟩ := slice_start (Nat.le_refl packet.len)
  have hwhole : tcp.toList = packet.toList := by
    rw [hbytes]
    exact List.take_length
  have htcp : tcp.len = packet.len := congrArg List.length hwhole
  have hstop : checkedAdd r.payloadOffset r.payloadLength = some packet.len :=
    checkedAdd_eq_some.mpr ⟨by omega, hend.symm⟩
  have hcapacity : checkedAdd 12 packet.len = some (12 + packet.len) :=
    checkedAdd_eq_some.mpr ⟨by omega, rfl⟩
  unfold validateChecksum
  rw [h]
  simp only [hstart, hstop, hslice, htcp, hcapacity, orFail, bind, Except.bind]
  by_cases hshort : packet.len < 2 ^ 16
  · rw [if_pos hshort, u16TryFrom_eq hshort]
    -- The bytes that are added up, padded where their number is odd.
    have hcovered : source.octets ++ destination.octets ++ [0, 6] ++
        Bytes.toBe16 (UInt16.ofNat packet.len) ++ tcp.toList =
        covered packet source destination := by
      rw [hwhole]
      rfl
    have hcount : (covered packet source destination).length = 12 + packet.len := by
      rw [covered, List.length_append]
      rfl
    have hbound := wordSum_le (covered packet source destination)
    simp only [hcovered]
    obtain ⟨padded, hpadded, heven, hsame⟩ := exists_padded (covered packet source destination)
    obtain ⟨sum, hsum, hvalue⟩ := sumChunks_returns (ε := EngineError) heven 0 (by
      rw [hsame]
      show 0 + _ < _
      omega)
    rw [hpadded, hsum]
    have hfold := foldCarries_eq_ones (ε := EngineError) sum
    rw [hvalue, hsame] at hfold
    refine hfold.trans (congrArg Except.ok ?_)
    show decide (Complete (0 + _)) = _
    rw [Nat.zero_add]
    rfl
  · rw [if_neg hshort, u16TryFrom, if_neg hshort]
    rfl

/-- The byte that the words leave over is the high half of a word of its own; `k` is the rest of
the validator. -/
theorem Udp.sumRest_eq {udp : Bytes} {index : Nat} (sum : UInt32)
    (hlast : ¬ index + 1 < udp.len) (h : sum.toNat + wordSum (udp.toList.drop index) < 2 ^ 32) :
    ∃ s : UInt32, s.toNat = sum.toNat + wordSum (udp.toList.drop index) ∧
      ∀ k : UInt32 → Checked EngineError Bool,
        (if index < udp.len then do
          let last ← udp.index index
          let sum ← addU32 sum (last.toUInt32 <<< 8)
          k sum
        else k sum) = k s := by
  by_cases hin : index < udp.len
  · rw [drop_one hin hlast, wordSum] at h ⊢
    have hword := toNat_shift32 (udp.toList.get ⟨index, hin⟩)
    have hfit : sum.toNat + ((udp.toList.get ⟨index, hin⟩).toUInt32 <<< 8).toNat < 2 ^ 32 := by
      omega
    have hadd : (addU32 sum ((udp.toList.get ⟨index, hin⟩).toUInt32 <<< 8) :
        Checked EngineError UInt32) =
        .ok (sum + ((udp.toList.get ⟨index, hin⟩).toUInt32 <<< 8)) := if_pos hfit
    refine ⟨_, (toNat_addU32 hfit).trans (by rw [hword]), fun k => ?_⟩
    rw [if_pos hin, index_get hin]
    show (addU32 sum _ >>= k) = _
    rw [hadd]
    rfl
  · rw [List.drop_eq_nil_of_le (Nat.not_lt.mp hin)]
    exact ⟨sum, rfl, fun k => if_neg hin⟩

/-- The sums over the two addresses, the protocol and the length. -/
theorem Udp.sumPseudoHeader_eq (source destination : Ipv4Addr) (length : UInt16) :
    ∃ sum₁ sum₂ : UInt32,
      (sumChunks source.octets 0 : Checked EngineError UInt32) = .ok sum₁ ∧
      (sumChunks destination.octets sum₁ : Checked EngineError UInt32) = .ok sum₂ ∧
      (addU32 sum₂ 17 : Checked EngineError UInt32) = .ok (sum₂ + 17) ∧
      (addU32 (sum₂ + 17) length.toUInt32 : Checked EngineError UInt32) =
        .ok (sum₂ + 17 + length.toUInt32) ∧
      (sum₂ + 17 + length.toUInt32).toNat =
        wordSum source.octets + wordSum destination.octets + 17 + length.toNat := by
  have hsource := wordSum_octets_le source
  have hdestination := wordSum_octets_le destination
  have hword := length.toNat_lt
  obtain ⟨sum₁, hsum₁, hvalue₁⟩ := sumChunks_returns (ε := EngineError)
    (by rw [octets_length] : source.octets.length % 2 = 0) 0 (by
      show 0 + _ < _
      omega)
  have hzero : (0 : UInt32).toNat = 0 := rfl
  rw [hzero, Nat.zero_add] at hvalue₁
  obtain ⟨sum₂, hsum₂, hvalue₂⟩ := sumChunks_returns (ε := EngineError)
    (by rw [octets_length] : destination.octets.length % 2 = 0) sum₁ (by omega)
  have hprotocol : (17 : UInt32).toNat = 17 := rfl
  have hfit₃ : sum₂.toNat + (17 : UInt32).toNat < 2 ^ 32 := by omega
  have hvalue₃ := toNat_addU32 hfit₃
  have hfit₄ : (sum₂ + 17).toNat + length.toUInt32.toNat < 2 ^ 32 := by
    rw [UInt16.toNat_toUInt32]
    omega
  have hvalue₄ := toNat_addU32 hfit₄
  rw [UInt16.toNat_toUInt32] at hvalue₄
  exact ⟨sum₁, sum₂, hsum₁, hsum₂, if_pos hfit₃, if_pos hfit₄, by omega⟩

/-- Whether the checksum field is zero, or the sum of what it covers is complete. -/
theorem Udp.validateChecksumIpv4_eq {r : UdpParseResult} (h : parse packet = .ok r) :
    validateChecksumIpv4 packet source destination =
      .ok (r.header.checksum == 0 || Verifies (covered packet source destination r)) := by
  obtain ⟨hstart, -, hin, hend⟩ := parse_extent h
  have hlen := packet.len_le
  have hsize : isizeMax < usizeSize := by decide
  have hword := r.header.length.toNat_lt
  obtain ⟨udp, hslice, hbytes⟩ := slice_start hin
  have hudp : udp.len = r.header.length.toNat := by
    unfold Bytes.len
    rw [hbytes, List.length_take]
    exact Nat.min_eq_left hin
  have hstop : checkedAdd r.payloadOffset r.payloadLength = some r.header.length.toNat :=
    checkedAdd_eq_some.mpr ⟨by omega, hend.symm⟩
  have hlength : u16TryFrom udp.len = some r.header.length := by
    rw [hudp, u16TryFrom_eq hword, UInt16.ofNat_toNat]
  have hsource := wordSum_octets_le source
  have hdestination := wordSum_octets_le destination
  have hbound := wordSum_le udp.toList
  have hcount : udp.toList.length ≤ 65535 := by
    show udp.len ≤ _
    omega
  -- The pseudo-header first, then the datagram, whose last byte may be alone.
  obtain ⟨sum₁, sum₂, hsum₁, hsum₂, hsum₃, hsum₄, hvalue₄⟩ :=
    sumPseudoHeader_eq source destination r.header.length
  obtain ⟨⟨index, sum₅⟩, hsum₅, hlast, -, hvalue₅⟩ := sumWords_returns udp 0
    (sum₂ + 17 + r.header.length.toUInt32) (Nat.zero_le _) (by
      rw [List.drop_zero]
      omega)
  rw [List.drop_zero] at hvalue₅
  simp only at hlast hvalue₅
  obtain ⟨sum₆, hvalue₆, hsum₆⟩ := sumRest_eq sum₅ hlast (by omega)
  have htotal : sum₆.toNat = wordSum (covered packet source destination r) := by
    rw [covered, wordSum_pseudoHeader, ← hbytes]
    show _ = _ + 17 + _ + _
    omega
  obtain ⟨folded, hfolded, -⟩ := foldCarries_returns (ε := EngineError) sum₆
  have hfold := foldCarries_eq_ones (ε := EngineError) sum₆
  rw [htotal, hfolded] at hfold
  unfold validateChecksumIpv4
  rw [h]
  simp only [hstart, hstop, hslice, hlength, hsum₁, hsum₂, hsum₃, hsum₄, hsum₅, orFail, bind,
    Except.bind]
  refine (hsum₆ fun sum => do
    let folded ← foldCarries sum
    if r.header.checksum = 0 then return true
    return folded.toUInt16 == 0xffff).trans ?_
  rw [hfolded]
  by_cases hzero : r.header.checksum = 0
  · rw [beq_iff_eq.mpr hzero]
    exact if_pos hzero
  · rw [beq_eq_false_iff_ne.mpr hzero, Bool.false_or]
    exact (if_neg hzero).trans hfold

/-! ## 5. Writing the checksum -/

/-- The result after `w` is written into the checksum field. -/
def Ipv4.setChecksum (w : UInt16) (r : Ipv4ParseResult) : Ipv4ParseResult :=
  { r with header := { r.header with checksum := w } }

def Tcp.setChecksum (w : UInt16) (r : TcpParseResult) : TcpParseResult :=
  { r with header := { r.header with checksum := w } }

def Udp.setChecksum (w : UInt16) (r : UdpParseResult) : UdpParseResult :=
  { r with header := { r.header with checksum := w } }

theorem Ipv4Addr.readAt_write16 {s : Bytes} {p offset i : Nat} {w : UInt16}
    (h : p + 2 ≤ offset + i) :
    Moved id (readAt s offset i) (readAt (s.write16 p w) offset i) :=
  .bind (Bytes.byteAt_write16 (by omega) (by omega)) fun _ _ =>
    .bind (Bytes.byteAt_write16 (by omega) (by omega)) fun _ _ =>
      .bind (Bytes.byteAt_write16 (by omega) (by omega)) fun _ _ =>
        .bind (Bytes.byteAt_write16 (by omega) (by omega)) fun _ _ => .pure rfl

open Bytes in
theorem Ipv4.parse_write16 (s : Bytes) (w : UInt16) :
    Moved (setChecksum w) (parse s) (parse (s.write16 10 w)) := by
  have hlen : (s.write16 10 w).len = s.len := len_write16
  refine .bind (.refl _) fun minimum hminimum => ?_
  obtain rfl := addU_eq_ok hminimum
  refine .bind (.rejectIf (by rw [hlen, id_eq])) fun _ hlong => ?_
  have hlong := rejectIf_eq_ok hlong
  have hfirst : Moved id (s.index 0 : Checked EngineError UInt8) ((s.write16 10 w).index 0) := by
    unfold Moved
    rw [id_map, index_write16 (by decide) (by decide)]
  refine .bind hfirst fun _ _ => .bind (.rejectIf Iff.rfl) fun _ _ => ?_
  refine .bind (.rejectIf Iff.rfl) fun _ _ => .bind (.refl _) fun _ _ => .bind (.refl _) fun _ _ => ?_
  refine .bind (.rejectIf (by rw [hlen, id_eq])) fun _ _ => ?_
  refine .bind (byteAt_write16 (by decide) (by decide)) fun _ _ => ?_
  refine .bind (be16At_write16 (by decide)) fun _ _ => .bind (.rejectIf Iff.rfl) fun _ _ => ?_
  refine .bind (.refl _) fun _ _ => .bind (.rejectIf (by rw [hlen, id_eq])) fun _ _ => ?_
  refine .bind (be16At_write16 (by decide)) fun _ _ => ?_
  refine .bind (be16At_write16 (by decide)) fun _ _ => ?_
  refine .bind (byteAt_write16 (by decide) (by decide)) fun _ _ => ?_
  refine .bind (byteAt_write16 (by decide) (by decide)) fun _ _ => ?_
  refine .bind (be16At_written rfl (by omega)) fun _ _ => ?_
  refine .bind (Ipv4Addr.readAt_write16 (by decide)) fun _ _ => ?_
  refine .bind (Ipv4Addr.readAt_write16 (by decide)) fun _ _ => ?_
  exact .bind (.refl _) fun _ _ => .bind (.refl _) fun _ _ => .pure rfl

open Bytes in
theorem Tcp.parse_write16 (s : Bytes) (w : UInt16) :
    Moved (setChecksum w) (parse s) (parse (s.write16 16 w)) := by
  have hlen : (s.write16 16 w).len = s.len := len_write16
  unfold parse parseAt
  rw [hlen]
  refine .bind (.rejectIf Iff.rfl) fun _ hlong => ?_
  have hlong := rejectIf_eq_ok hlong
  refine .bind (.refl _) fun _ _ => .bind (.rejectIf (by rw [hlen, id_eq])) fun _ _ => ?_
  refine .bind (.refl _) fun _ _ => .bind (.rejectIf (by rw [hlen, id_eq])) fun _ _ => ?_
  refine .bind (be16At_write16 (by decide)) fun _ _ => ?_
  refine .bind (be16At_write16 (by decide)) fun _ _ => ?_
  refine .bind (be32At_write16 (by decide)) fun _ _ => ?_
  refine .bind (be32At_write16 (by decide)) fun _ _ => ?_
  refine .bind (byteAt_write16 (by decide) (by decide)) fun _ _ => ?_
  refine .bind (.rejectIf Iff.rfl) fun _ _ => .bind (.refl _) fun _ _ => ?_
  refine .bind (.rejectIf Iff.rfl) fun _ _ => .bind (.refl _) fun _ _ => ?_
  refine .bind (.rejectIf (by rw [hlen, id_eq])) fun _ _ => ?_
  refine .bind (byteAt_write16 (by decide) (by decide)) fun _ _ => ?_
  refine .bind (be16At_write16 (by decide)) fun _ _ => ?_
  refine .bind (be16At_written rfl (by omega)) fun _ _ => ?_
  refine .bind (be16At_write16 (by decide)) fun _ _ => ?_
  exact .bind (.refl _) fun _ _ => .bind (.refl _) fun _ _ => .pure rfl

open Bytes in
theorem Udp.parse_write16 (s : Bytes) (w : UInt16) :
    Moved (setChecksum w) (parse s) (parse (s.write16 6 w)) := by
  have hlen : (s.write16 6 w).len = s.len := len_write16
  have hsize : UdpHeader.size = 8 := rfl
  unfold parse parseAt
  rw [hlen]
  refine .bind (.refl _) fun available havailable => ?_
  obtain ⟨-, rfl⟩ := checkedSub_eq_some.mp (orFail_eq_ok havailable)
  refine .bind (.rejectIf Iff.rfl) fun _ hlong => ?_
  have hlong := rejectIf_eq_ok hlong
  refine .bind (.refl _) fun _ _ => .bind (.rejectIf (by rw [hlen, id_eq])) fun _ _ => ?_
  refine .bind (be16At_write16 (by decide)) fun _ _ => ?_
  refine .bind (be16At_write16 (by decide)) fun _ _ => ?_
  refine .bind (be16At_write16 (by decide)) fun _ _ => ?_
  refine .bind (be16At_written rfl (by omega)) fun _ _ => ?_
  refine .bind (.rejectIf Iff.rfl) fun _ _ => .bind (.rejectIf Iff.rfl) fun _ _ => ?_
  exact .bind (.refl _) fun _ _ => .bind (.refl _) fun _ _ => .pure rfl

/-- A word at an even place adds its value to the sum. -/
theorem wordSum_take_write16 {s : Bytes} {p n : Nat} (w : UInt16) (heven : p % 2 = 0)
    (hp : p + 2 ≤ n) (hn : n ≤ s.len) :
    wordSum ((s.write16 p w).toList.take n) =
      wordSum ((s.write16 p 0).toList.take n) + w.toNat := by
  have hlen : p + 2 ≤ s.len := Nat.le_trans hp hn
  have htake : (s.toList.take p).length = p := List.length_take_of_le (Nat.le_of_add_right_le hlen)
  have hsplit : ∀ v : UInt16, wordSum ((s.write16 p v).toList.take n) =
      wordSum (s.toList.take p) + (v.toNat + wordSum ((s.toList.drop (p + 2)).take (n - p - 2))) := by
    intro v
    have hword : (Bytes.toBe16 v).length = 2 := rfl
    have hall : (s.toList.take p).take n = s.toList.take p := List.take_of_length_le (by omega)
    have hpair : (Bytes.toBe16 v).take (n - p) = Bytes.toBe16 v :=
      List.take_of_length_le (by omega)
    rw [Bytes.write16_toList hlen, List.take_append, List.take_append, htake, hword, hall, hpair,
      wordSum_append (by rw [htake, heven]), wordSum_toBe16]
  have hzero : (0 : UInt16).toNat = 0 := rfl
  rw [hsplit w, hsplit 0, hzero]
  omega

theorem wordSum_pos {l : List UInt8} {first : UInt8} {rest : List UInt8} (h : l = first :: rest)
    (hfirst : 0 < first.toNat) : 0 < wordSum l := by
  subst h
  cases rest with
  | nil =>
    rw [wordSum]
    omega
  | cons second rest =>
    rw [wordSum]
    omega

/-- The header with the complement of the sum that a zeroed field gives in that field. -/
def Ipv4.withChecksum (packet : Bytes) (r : Ipv4ParseResult) : Bytes :=
  packet.write16 10 (complement (wordSum (covered (packet.write16 10 0) r)))

def Tcp.withChecksum (packet : Bytes) (source destination : Ipv4Addr) : Bytes :=
  packet.write16 16 (complement (wordSum (covered (packet.write16 16 0) source destination)))

/-- Zero in the field means that there is no checksum, and is replaced by the other zero. -/
def Udp.withChecksum (packet : Bytes) (source destination : Ipv4Addr) (r : UdpParseResult) :
    Bytes :=
  packet.write16 6
    (if complement (wordSum (covered (packet.write16 6 0) source destination r)) = 0 then 0xffff
      else complement (wordSum (covered (packet.write16 6 0) source destination r)))

theorem Ipv4.validateChecksum_withChecksum {r : Ipv4ParseResult} (h : parse packet = .ok r) :
    validateChecksum (withChecksum packet r) = .ok true := by
  obtain ⟨-, htwenty, -, hin, first, rest, hbytes, hfirst⟩ := parse_extent h
  have hparse := (parse_write16 packet
    (complement (wordSum (covered (packet.write16 10 0) r)))).of_ok h
  have hpos : 0 < wordSum (covered (packet.write16 10 0) r) := by
    have hstart : covered (packet.write16 10 0) r = first ::
        ((rest.set 9 ((0 : UInt16) >>> 8).toUInt8).set 10 (0 : UInt16).toUInt8).take
          (r.header.headerLength - 1) := by
      show ((packet.toList.set 10 _).set 11 _).take _ = _
      rw [hbytes, List.set_cons_succ, List.set_cons_succ, List.take_cons (by omega)]
    exact wordSum_pos hstart hfirst
  have hsum : wordSum (covered (withChecksum packet r) r) =
      wordSum (covered (packet.write16 10 0) r) +
        (complement (wordSum (covered (packet.write16 10 0) r))).toNat :=
    wordSum_take_write16 _ (by decide) (by omega) hin
  rw [withChecksum, validateChecksum_eq hparse]
  refine congrArg Except.ok (decide_eq_true ?_)
  show Complete (wordSum (covered (withChecksum packet r) r))
  rw [hsum]
  exact complete_add_complement hpos

theorem Tcp.validateChecksum_withChecksum {r : TcpParseResult} (h : parse packet = .ok r)
    (hshort : packet.len < 2 ^ 16) :
    validateChecksum (withChecksum packet source destination) source destination = .ok true := by
  obtain ⟨-, htwenty, -⟩ := parse_extent h
  have hparse := (parse_write16 packet
    (complement (wordSum (covered (packet.write16 16 0) source destination)))).of_ok h
  have hlen : ∀ w, (packet.write16 16 w).len = packet.len := fun _ => Bytes.len_write16
  have hwhole : ∀ w, wordSum (packet.write16 16 w).toList =
      wordSum (packet.write16 16 0).toList + w.toNat := by
    intro w
    have htake := wordSum_take_write16 w (by decide : 16 % 2 = 0) (by omega) (Nat.le_refl packet.len)
    rwa [List.take_of_length_le (Nat.le_of_eq (hlen w)),
      List.take_of_length_le (Nat.le_of_eq (hlen 0))] at htake
  have hsum : ∀ w, wordSum (covered (packet.write16 16 w) source destination) =
      wordSum (covered (packet.write16 16 0) source destination) + w.toNat := by
    intro w
    rw [covered, covered, hlen, hlen, wordSum_pseudoHeader, wordSum_pseudoHeader, hwhole w]
    omega
  have hpos : 0 < wordSum (covered (packet.write16 16 0) source destination) := by
    rw [covered, wordSum_pseudoHeader]
    show 0 < _ + 6 + _ + _
    omega
  rw [withChecksum, validateChecksum_eq hparse, hlen, if_pos hshort]
  refine congrArg Except.ok (decide_eq_true ?_)
  rw [hsum]
  exact complete_add_complement hpos

theorem Udp.validateChecksumIpv4_withChecksum {r : UdpParseResult} (h : parse packet = .ok r) :
    validateChecksumIpv4 (withChecksum packet source destination r) source destination =
      .ok true := by
  obtain ⟨-, height, hin, -⟩ := parse_extent h
  have hsum : ∀ w, wordSum (covered (packet.write16 6 w) source destination r) =
      wordSum (covered (packet.write16 6 0) source destination r) + w.toNat := by
    intro w
    rw [covered, covered, wordSum_pseudoHeader, wordSum_pseudoHeader,
      wordSum_take_write16 w (by decide) (by omega) hin]
    omega
  have hpos : 0 < wordSum (covered (packet.write16 6 0) source destination r) := by
    rw [covered, wordSum_pseudoHeader]
    show 0 < _ + 17 + _ + _
    omega
  have hwrite : ∀ w, Complete (wordSum (covered (packet.write16 6 w) source destination r)) →
      validateChecksumIpv4 (packet.write16 6 w) source destination = .ok true := by
    intro w hcomplete
    rw [validateChecksumIpv4_eq ((parse_write16 packet w).of_ok h)]
    have hverifies : Verifies (covered (packet.write16 6 w) source destination (setChecksum w r)) =
        true := decide_eq_true hcomplete
    rw [hverifies, Bool.or_true]
  unfold withChecksum
  split
  · rename_i hzero
    apply hwrite
    rw [hsum]
    exact complete_add_ones hpos hzero
  · apply hwrite
    rw [hsum]
    exact complete_add_complement hpos

/-- Every validator answers whether what it covers adds up to a multiple of `65535` other than zero,
without an overflow, and is true once the complement has been written. -/
theorem validators_decide (packet : Bytes) (source destination : Ipv4Addr) :
    (∀ r, Ipv4.parse packet = .ok r →
      Ipv4.validateChecksum packet = .ok (Verifies (Ipv4.covered packet r)) ∧
      Ipv4.validateChecksum (Ipv4.withChecksum packet r) = .ok true) ∧
    (∀ r, Tcp.parse packet = .ok r → packet.len < 2 ^ 16 →
      Tcp.validateChecksum packet source destination =
        .ok (Verifies (Tcp.covered packet source destination)) ∧
      Tcp.validateChecksum (Tcp.withChecksum packet source destination) source destination =
        .ok true) ∧
    (∀ r, Udp.parse packet = .ok r →
      Udp.validateChecksumIpv4 packet source destination =
        .ok (r.header.checksum == 0 || Verifies (Udp.covered packet source destination r)) ∧
      Udp.validateChecksumIpv4 (Udp.withChecksum packet source destination r) source destination =
        .ok true) := by
  constructor
  · intro r h
    exact ⟨Ipv4.validateChecksum_eq h, Ipv4.validateChecksum_withChecksum h⟩
  constructor
  · intro r h hshort
    refine ⟨?_, Tcp.validateChecksum_withChecksum h hshort⟩
    rw [Tcp.validateChecksum_eq h, if_pos hshort]
  · intro r h
    exact ⟨Udp.validateChecksumIpv4_eq h, Udp.validateChecksumIpv4_withChecksum h⟩

/-- A segment and a datagram of one byte each. -/
def oddSegment : Bytes where
  toList := [0, 80, 0x12, 0x34, 0, 0, 0, 1, 0, 0, 0, 0, 0x50, 0x10, 0x20, 0, 0, 0, 0, 0, 0x61]
  length_le := by decide

def oddDatagram : Bytes where
  toList := [0, 53, 0x12, 0x34, 0, 9, 0, 0, 0x61]
  length_le := by decide

theorem validators_decide_odd :
    (∃ r, Ipv4.parse ParsedPacket.udpDatagram = .ok r ∧
      Ipv4.validateChecksum (Ipv4.withChecksum ParsedPacket.udpDatagram r) = .ok true) ∧
    Tcp.validateChecksum (Tcp.withChecksum oddSegment ⟨10, 0, 0, 1⟩ ⟨10, 0, 0, 2⟩) ⟨10, 0, 0, 1⟩
      ⟨10, 0, 0, 2⟩ = .ok true ∧
    ∃ r, Udp.parse oddDatagram = .ok r ∧
      Udp.validateChecksumIpv4 (Udp.withChecksum oddDatagram ⟨10, 0, 0, 1⟩ ⟨10, 0, 0, 2⟩ r)
        ⟨10, 0, 0, 1⟩ ⟨10, 0, 0, 2⟩ = .ok true :=
  ⟨⟨_, rfl, ((validators_decide _ ⟨0, 0, 0, 0⟩ ⟨0, 0, 0, 0⟩).1 _ rfl).2⟩,
    ((validators_decide _ _ _).2.1 _ rfl (by decide)).2,
    _, rfl, ((validators_decide _ _ _).2.2 _ rfl).2⟩

end NetworkEngine
