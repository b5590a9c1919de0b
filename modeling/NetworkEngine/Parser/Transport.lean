import NetworkEngine.Core.Error
import NetworkEngine.Lib.Checked

/-!
# Transport — TCP, UDP and ICMP headers

`packet_parser::{tcp, udp, icmp, icmpv6}`.  Each parser gets the whole packet, the offset of its
header and the number of bytes the network layer left for it.  Next to each parser stand its
safety triple and the equation that moves it behind a prefix.
-/

namespace NetworkEngine

open Rust

/-! ## 1. TCP -/

structure TcpHeader where
  sourcePort : UInt16
  destinationPort : UInt16
  sequenceNumber : UInt32
  acknowledgmentNumber : UInt32
  dataOffset : UInt8
  reserved : UInt8
  flags : UInt16
  windowSize : UInt16
  checksum : UInt16
  urgentPointer : UInt16
  deriving DecidableEq, Repr

structure TcpParseResult where
  header : TcpHeader
  headerOffset : Nat
  payloadOffset : Nat
  payloadLength : Nat
  deriving DecidableEq, Repr

namespace Tcp

def parseAtWithLength (packet : Bytes) (offset length : Nat) :
    Checked EngineError TcpParseResult := do
  rejectIf (length < 20) .packetTooShort
  let stop ← orFail (checkedAdd offset length) .integerOverflow
  rejectIf (packet.len < stop) .packetTooShort
  let minimum ← addU offset 20
  rejectIf (packet.len < minimum) .packetTooShort
  let sourcePort ← packet.be16At offset 0
  let destinationPort ← packet.be16At offset 2
  let sequenceNumber ← packet.be32At offset 4
  let acknowledgmentNumber ← packet.be32At offset 8
  let offsetByte ← packet.byteAt offset 12
  let dataOffset := offsetByte >>> 4
  rejectIf (dataOffset < 5) .packetMalformed
  let headerLength ← orFail (checkedMul dataOffset.toNat 4) .integerOverflow
  rejectIf (length < headerLength) .packetMalformed
  let headerEnd ← addU offset headerLength
  rejectIf (packet.len < headerEnd) .packetTooShort
  let reserved := (offsetByte &&& 0x0e) >>> 1
  let ns := (offsetByte &&& 0x01) != 0
  let flagByte ← packet.byteAt offset 13
  let flags := (flagByte.toUInt16 &&& (0xff : UInt16)) ||| ((if ns then 1 else 0 : UInt16) <<< 8)
  let windowSize ← packet.be16At offset 14
  let checksum ← packet.be16At offset 16
  let urgentPointer ← packet.be16At offset 18
  let payloadOffset ← addU offset headerLength
  let payloadLength ← subU length headerLength
  return {
    header := {
      sourcePort, destinationPort, sequenceNumber, acknowledgmentNumber, dataOffset, reserved,
      flags, windowSize, checksum, urgentPointer }
    headerOffset := offset
    payloadOffset, payloadLength }

theorem parseAtWithLength_safe (packet : Bytes) (offset length : Nat) :
    Safe (parseAtWithLength packet offset length) fun r =>
      r.payloadOffset + r.payloadLength ≤ packet.len := by
  have hlen := packet.len_le
  have hsize : isizeMax + 2000 < usizeSize := by decide
  refine .bind (.rejectIf fun hlong => ?_)
  refine .bind (.orFail fun stop hstop => ?_)
  obtain ⟨-, rfl⟩ := checkedAdd_eq_some.mp hstop
  refine .bind (.rejectIf fun hfit => ?_)
  refine .bind (.addU (by omega) <| .bind (.rejectIf fun hmin => ?_))
  refine .bind (.be16At (by omega) fun _ => .bind (.be16At (by omega) fun _ => ?_))
  refine .bind (.be32At (by omega) fun _ => .bind (.be32At (by omega) fun _ => ?_))
  refine .bind (.byteAt (by omega) fun offsetByte => .bind (.rejectIf fun _ => ?_))
  refine .bind (.orFail fun headerLength hheader => ?_)
  obtain ⟨-, rfl⟩ := checkedMul_eq_some.mp hheader
  have hdata := (offsetByte >>> 4).toNat_lt
  refine .bind (.rejectIf fun hle => .bind (.addU (by omega) <| .bind (.rejectIf fun _ => ?_)))
  refine .bind (.byteAt (by omega) fun _ => .bind (.be16At (by omega) fun _ => ?_))
  refine .bind (.be16At (by omega) fun _ => .bind (.be16At (by omega) fun _ => ?_))
  refine .bind (.addU (by omega) <| .bind (.subU (by omega) <| .pure ?_))
  simp only
  omega

/-- The result of the same segment read `k` bytes further into its packet. -/
def shift (k : Nat) (r : TcpParseResult) : TcpParseResult :=
  { r with headerOffset := k + r.headerOffset, payloadOffset := k + r.payloadOffset }

theorem parseAtWithLength_behind {pre : List UInt8} {s t : Bytes} (h : Behind pre s t)
    (offset length : Nat) (hb : pre.length + offset + length + 2000 < usizeSize) :
    Moved (shift pre.length) (parseAtWithLength s offset length)
      (parseAtWithLength t (pre.length + offset) length) := by
  have hlen := h.len
  refine .bind (.rejectIf Iff.rfl) fun _ _ => ?_
  refine .bind (Behind.checkedAdd (by omega)) fun stop _ => ?_
  refine .bind (.rejectIf (by omega)) fun _ _ => ?_
  refine .bind (Behind.addU (by omega)) fun minimum _ => ?_
  refine .bind (.rejectIf (by omega)) fun _ _ => ?_
  refine .bind (h.be16At (by omega)) fun _ _ => .bind (h.be16At (by omega)) fun _ _ => ?_
  refine .bind (h.be32At (by omega)) fun _ _ => .bind (h.be32At (by omega)) fun _ _ => ?_
  refine .bind (h.byteAt (by omega)) fun offsetByte _ => ?_
  refine .bind (.rejectIf Iff.rfl) fun _ _ => .bind (.refl _) fun headerLength hheader => ?_
  obtain ⟨-, rfl⟩ := checkedMul_eq_some.mp (orFail_eq_ok hheader)
  have hdata := (offsetByte >>> 4).toNat_lt
  refine .bind (.rejectIf Iff.rfl) fun _ _ => ?_
  refine .bind (Behind.addU (by omega)) fun _ _ => ?_
  refine .bind (.rejectIf (by omega)) fun _ _ => ?_
  refine .bind (h.byteAt (by omega)) fun _ _ => .bind (h.be16At (by omega)) fun _ _ => ?_
  refine .bind (h.be16At (by omega)) fun _ _ => .bind (h.be16At (by omega)) fun _ _ => ?_
  refine .bind (Behind.addU (by omega)) fun _ _ => .bind (.refl _) fun _ _ => ?_
  exact .pure rfl

end Tcp

/-! ## 2. UDP -/

structure UdpHeader where
  sourcePort : UInt16
  destinationPort : UInt16
  length : UInt16
  checksum : UInt16
  deriving DecidableEq, Repr

/-- `UdpHeader::SIZE`. -/
def UdpHeader.size : Nat := 8

structure UdpParseResult where
  header : UdpHeader
  headerOffset : Nat
  payloadOffset : Nat
  payloadLength : Nat
  deriving DecidableEq, Repr

namespace Udp

def parseAtWithLength (packet : Bytes) (offset availableLength : Nat) :
    Checked EngineError UdpParseResult := do
  rejectIf (availableLength < UdpHeader.size) .packetTooShort
  let stop ← orFail (checkedAdd offset availableLength) .integerOverflow
  rejectIf (packet.len < stop) .packetTooShort
  let sourcePort ← packet.be16At offset 0
  let destinationPort ← packet.be16At offset 2
  let length ← packet.be16At offset 4
  let checksum ← packet.be16At offset 6
  rejectIf (length < 8) .packetMalformed
  let udpLength := length.toNat
  rejectIf (availableLength < udpLength) .packetMalformed
  let payloadOffset ← addU offset UdpHeader.size
  let payloadLength ← subU udpLength UdpHeader.size
  return {
    header := { sourcePort, destinationPort, length, checksum }
    headerOffset := offset
    payloadOffset, payloadLength }

theorem parseAtWithLength_safe (packet : Bytes) (offset availableLength : Nat) :
    Safe (parseAtWithLength packet offset availableLength) fun r =>
      r.payloadOffset + r.payloadLength ≤ packet.len := by
  have hlen := packet.len_le
  have hsize : isizeMax + 2000 < usizeSize := by decide
  have hudp : UdpHeader.size = 8 := rfl
  refine .bind (.rejectIf fun hlong => ?_)
  refine .bind (.orFail fun stop hstop => ?_)
  obtain ⟨-, rfl⟩ := checkedAdd_eq_some.mp hstop
  refine .bind (.rejectIf fun hfit => ?_)
  refine .bind (.be16At (by omega) fun _ => .bind (.be16At (by omega) fun _ => ?_))
  refine .bind (.be16At (by omega) fun length => .bind (.be16At (by omega) fun _ => ?_))
  refine .bind (.rejectIf fun hmin => ?_)
  have hmin' : 8 ≤ length.toNat := UInt16.le_iff_toNat_le.mp (UInt16.not_lt.mp hmin)
  refine .bind (.rejectIf fun hle => .bind (.addU (by omega) <| .bind (.subU (by omega) ?_)))
  refine .pure ?_
  simp only
  omega

/-- The result of the same datagram read `k` bytes further into its packet. -/
def shift (k : Nat) (r : UdpParseResult) : UdpParseResult :=
  { r with headerOffset := k + r.headerOffset, payloadOffset := k + r.payloadOffset }

theorem parseAtWithLength_behind {pre : List UInt8} {s t : Bytes} (h : Behind pre s t)
    (offset availableLength : Nat)
    (hb : pre.length + offset + availableLength + 2000 < usizeSize) :
    Moved (shift pre.length) (parseAtWithLength s offset availableLength)
      (parseAtWithLength t (pre.length + offset) availableLength) := by
  have hlen := h.len
  have hudp : UdpHeader.size = 8 := rfl
  refine .bind (.rejectIf Iff.rfl) fun _ _ => ?_
  refine .bind (Behind.checkedAdd (by omega)) fun stop _ => ?_
  refine .bind (.rejectIf (by omega)) fun _ _ => ?_
  refine .bind (h.be16At (by omega)) fun _ _ => .bind (h.be16At (by omega)) fun _ _ => ?_
  refine .bind (h.be16At (by omega)) fun _ _ => .bind (h.be16At (by omega)) fun _ _ => ?_
  refine .bind (.rejectIf Iff.rfl) fun _ _ => .bind (.rejectIf Iff.rfl) fun _ _ => ?_
  refine .bind (Behind.addU (by omega)) fun _ _ => .bind (.refl _) fun _ _ => ?_
  exact .pure rfl

end Udp

/-! ## 3. ICMP and ICMPv6 -/

structure IcmpPacket where
  type : UInt8
  code : UInt8
  checksum : UInt16
  rest : Bytes
  deriving DecidableEq, Repr

namespace IcmpPacket

/-- `IcmpPacket::HEADER_LEN`. -/
def headerLen : Nat := 8

/-- `IcmpPacket::parse`: a `None` of the source is the value `none`, a panic stays one. -/
def parse (raw : Bytes) : Checked EngineError (Option IcmpPacket) := do
  if raw.len < headerLen then
    return none
  else
    let type ← raw.index 0
    let code ← raw.index 1
    let checksum ← raw.be16At 0 2
    let rest ← raw.slice 4 8
    return some { type, code, checksum, rest }

theorem parse_safe (raw : Bytes) :
    Safe (parse raw) fun p => p = none ↔ raw.len < headerLen := by
  have hlen : headerLen = 8 := rfl
  unfold parse
  split
  · rename_i hshort
    exact .pure (by simp only [hshort])
  · rename_i hlong
    refine .bind (.index (by omega) fun _ => .bind (.index (by omega) fun _ => ?_))
    refine .bind (.be16At (by omega) fun _ => .bind (.slice (by omega) (by omega) fun _ _ => ?_))
    exact .pure (by simp only [reduceCtorEq, hlong])

end IcmpPacket

/-- The ICMPv6 header has the layout of the ICMP header, and the same parser. -/
abbrev IcmpV6Packet := IcmpPacket

/-- `IcmpV6Packet::HEADER_LEN`. -/
def IcmpV6Packet.headerLen : Nat := IcmpPacket.headerLen

def IcmpV6Packet.parse (raw : Bytes) : Checked EngineError (Option IcmpV6Packet) :=
  IcmpPacket.parse raw

end NetworkEngine
