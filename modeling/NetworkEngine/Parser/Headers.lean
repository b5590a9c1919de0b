import NetworkEngine.Lib.Wire
import NetworkEngine.Parser.Datagram

/-!
# Headers — what the header parsers accept

Each header has a layout, written from its format, and the parser reads that layout back: it returns
a result exactly where the packet shows the bytes that the result describes.  What a result leaves
out (the options, a reserved bit) is existentially there.
-/

namespace NetworkEngine

open Rust

variable {packet : Bytes} {offset : Nat}

/-! ## 1. Addresses -/

@[simp] theorem Ipv4Addr.length_bytes (addr : Ipv4Addr) : addr.bytes.length = 4 := rfl

theorem Ipv4Addr.readAt_eq_ok {i : Nat} {addr : Ipv4Addr} :
    readAt packet offset i = .ok addr ↔ packet.Shown (offset + i) addr.bytes := by
  obtain ⟨a, b, c, d⟩ := addr
  unfold readAt Ipv4Addr.bytes
  simp only [bind_eq_ok_iff, Bytes.byteAt_eq_ok_iff, pure_eq_ok_iff, Ipv4Addr.mk.injEq]
  constructor
  · rintro ⟨_, ha, _, hb, _, hc, _, hd, rfl, rfl, rfl, rfl⟩
    exact Bytes.shown_cons.mpr ⟨ha, Bytes.shown_cons.mpr ⟨hb, Bytes.shown_cons.mpr ⟨hc, hd⟩⟩⟩
  · intro h
    obtain ⟨ha, h⟩ := Bytes.shown_cons.mp h
    obtain ⟨hb, h⟩ := Bytes.shown_cons.mp h
    obtain ⟨hc, hd⟩ := Bytes.shown_cons.mp h
    exact ⟨a, ha, b, hb, c, hc, d, hd, rfl, rfl, rfl, rfl⟩

theorem MacAddr.readAt_eq_ok {i : Nat} {addr : MacAddr} :
    readAt packet offset i = .ok addr ↔ packet.Shown (offset + i) addr.toList := by
  obtain ⟨⟨bytes⟩, hsize⟩ := addr
  match bytes, hsize with
  | [a, b, c, d, e, f], _ =>
    unfold readAt
    simp only [bind_eq_ok_iff, Bytes.byteAt_eq_ok_iff, pure_eq_ok_iff]
    constructor
    · rintro ⟨_, ha, _, hb, _, hc, _, hd, _, he, _, hf, heq⟩
      obtain ⟨rfl, rfl, rfl, rfl, rfl, rfl⟩ : _ ∧ _ ∧ _ ∧ _ ∧ _ ∧ _ := by simpa using heq
      exact Bytes.shown_cons.mpr ⟨ha, Bytes.shown_cons.mpr ⟨hb, Bytes.shown_cons.mpr ⟨hc,
        Bytes.shown_cons.mpr ⟨hd, Bytes.shown_cons.mpr ⟨he, hf⟩⟩⟩⟩⟩
    · intro h
      obtain ⟨ha, h⟩ := Bytes.shown_cons.mp h
      obtain ⟨hb, h⟩ := Bytes.shown_cons.mp h
      obtain ⟨hc, h⟩ := Bytes.shown_cons.mp h
      obtain ⟨hd, h⟩ := Bytes.shown_cons.mp h
      obtain ⟨he, hf⟩ := Bytes.shown_cons.mp h
      exact ⟨a, ha, b, hb, c, hc, d, hd, e, he, f, hf, rfl⟩

/-! ## 2. ARP -/

def ArpHardwareType.asU16 : ArpHardwareType → UInt16
  | .ethernet => 1
  | .unknown value => value

def ArpOperation.asU16 : ArpOperation → UInt16
  | .request => 1
  | .reply => 2
  | .unknown value => value

theorem ArpOperation.asU16_fromU16 (value : UInt16) : (fromU16 value).asU16 = value := by
  unfold fromU16
  split
  · exact Eq.symm ‹_›
  split
  · exact Eq.symm ‹_›
  · rfl

namespace ArpPacket

def bytes (p : ArpPacket) : List UInt8 :=
  Bytes.toBe16 p.header.hardwareType.asU16 ++ (Bytes.toBe16 p.header.protocolType ++
    ([p.header.hardwareAddressLength] ++ ([p.header.protocolAddressLength] ++
      (Bytes.toBe16 p.header.operation.asU16 ++ (p.senderHardwareAddress.toList ++
        (p.senderProtocolAddress.bytes ++ (p.targetHardwareAddress.toList ++
          p.targetProtocolAddress.bytes)))))))

/-- IPv4 over Ethernet, and a known operation under its own name. -/
structure WellFormed (p : ArpPacket) : Prop where
  hardwareType : p.header.hardwareType = .ethernet
  protocolType : p.header.protocolType = 0x0800
  hardwareAddressLength : p.header.hardwareAddressLength = 6
  protocolAddressLength : p.header.protocolAddressLength = 4
  operation : .fromU16 p.header.operation.asU16 = p.header.operation

theorem shown_bytes {p : ArpPacket} : packet.Shown offset p.bytes ↔
    packet.Shown offset (Bytes.toBe16 p.header.hardwareType.asU16) ∧
    packet.Shown (offset + 2) (Bytes.toBe16 p.header.protocolType) ∧
    packet.Shown (offset + 4) [p.header.hardwareAddressLength] ∧
    packet.Shown (offset + 5) [p.header.protocolAddressLength] ∧
    packet.Shown (offset + 6) (Bytes.toBe16 p.header.operation.asU16) ∧
    packet.Shown (offset + 8) p.senderHardwareAddress.toList ∧
    packet.Shown (offset + 14) p.senderProtocolAddress.bytes ∧
    packet.Shown (offset + 18) p.targetHardwareAddress.toList ∧
    packet.Shown (offset + 24) p.targetProtocolAddress.bytes := by
  simp only [bytes, Bytes.shown_append, Bytes.length_toBe16, List.length_singleton,
    Vector.length_toList, Ipv4Addr.length_bytes, Nat.add_assoc, Nat.reduceAdd]

theorem length_bytes (p : ArpPacket) : p.bytes.length = 28 := by
  simp only [bytes, List.length_append, Bytes.length_toBe16, List.length_singleton,
    Vector.length_toList, Ipv4Addr.length_bytes]

end ArpPacket

namespace Arp

/-- What a well-formed packet is written as, and nothing of what follows it. -/
def Reads (packet : Bytes) (offset : Nat) (r : ArpParseResult) : Prop :=
  r.headerOffset = offset ∧ r.packetLength = 28 ∧ r.packet.WellFormed ∧
    packet.Shown offset r.packet.bytes

theorem parseAt_eq_ok {r : ArpParseResult} :
    parseAt packet offset = .ok r ↔ Reads packet offset r := by
  have hsize : ArpPacket.ethernetIpv4Size = 28 := rfl
  unfold parseAt Reads
  simp only [bind_eq_ok_iff, orFail_eq_ok_iff, checkedSub_eq_some, rejectIf_eq_ok_iff,
    Bytes.be16At_eq_ok_iff, Bytes.byteAt_eq_ok_iff, MacAddr.readAt_eq_ok, Ipv4Addr.readAt_eq_ok,
    pure_eq_ok_iff, not_not, Nat.add_zero, ArpPacket.shown_bytes]
  constructor
  · rintro ⟨_, -, -, -, _, hhardware, _, hprotocol, _, hhlen, _, hplen, operation, hoperation,
      -, rfl, -, rfl, -, rfl, -, rfl, sha, hsha, spa, hspa, tha, htha, tpa, htpa, rfl⟩
    have hcode := ArpOperation.asU16_fromU16 operation
    refine ⟨rfl, rfl, ⟨rfl, rfl, rfl, rfl, congrArg ArpOperation.fromU16 hcode⟩, hhardware,
      hprotocol, hhlen, hplen, ?_, hsha, hspa, htha, htpa⟩
    dsimp only
    rw [hcode]
    exact hoperation
  · rintro ⟨rfl, hlength, hwell, hshown⟩
    have hroom := (ArpPacket.shown_bytes.mpr hshown).length_le
    rw [ArpPacket.length_bytes] at hroom
    obtain ⟨⟨⟨hardwareType, protocolType, hlen, plen, operation⟩, sha, spa, tha, tpa⟩, offset,
      length⟩ := r
    obtain ⟨rfl, rfl, rfl, rfl, hoperation⟩ := hwell
    obtain rfl : length = 28 := hlength
    obtain ⟨hhardware, hprotocol, hhlen, hplen, hcode, hsha, hspa, htha, htpa⟩ := hshown
    refine ⟨_, ⟨by omega, rfl⟩, (), by omega, _, hhardware, _, hprotocol, _, hhlen, _, hplen, _,
      hcode, (), rfl, (), rfl, (), rfl, (), rfl, sha, hsha, spa, hspa, tha, htha, tpa, htpa, ?_⟩
    dsimp only at hoperation
    rw [hoperation]
    rfl

end Arp

/-! ## 3. UDP and ICMP -/

namespace UdpHeader

def bytes (h : UdpHeader) : List UInt8 :=
  Bytes.toBe16 h.sourcePort ++ (Bytes.toBe16 h.destinationPort ++ (Bytes.toBe16 h.length ++
    Bytes.toBe16 h.checksum))

theorem length_bytes (h : UdpHeader) : h.bytes.length = 8 := rfl

theorem shown_bytes {h : UdpHeader} : packet.Shown offset h.bytes ↔
    packet.Shown offset (Bytes.toBe16 h.sourcePort) ∧
    packet.Shown (offset + 2) (Bytes.toBe16 h.destinationPort) ∧
    packet.Shown (offset + 4) (Bytes.toBe16 h.length) ∧
    packet.Shown (offset + 6) (Bytes.toBe16 h.checksum) := by
  simp only [bytes, Bytes.shown_append, Bytes.length_toBe16, Nat.add_assoc, Nat.reduceAdd]

end UdpHeader

namespace Udp

/-- A datagram inside the bytes that are left for it, whatever follows it there. -/
def Reads (packet : Bytes) (offset availableLength : Nat) (r : UdpParseResult) : Prop :=
  offset + availableLength ≤ packet.len ∧ ∃ payload : List UInt8,
    packet.Shown offset (r.header.bytes ++ payload) ∧
    r.header.length.toNat = 8 + payload.length ∧ 8 + payload.length ≤ availableLength ∧
    r.headerOffset = offset ∧ r.payloadOffset = offset + 8 ∧ r.payloadLength = payload.length

theorem parseAtWithLength_eq_ok {availableLength : Nat} {r : UdpParseResult} :
    parseAtWithLength packet offset availableLength = .ok r ↔
      Reads packet offset availableLength r := by
  have hlen := packet.len_le
  have hsize : isizeMax < usizeSize := by decide
  have hudp : UdpHeader.size = 8 := rfl
  unfold parseAtWithLength Reads
  simp only [bind_eq_ok_iff, orFail_eq_ok_iff, checkedAdd_eq_some, rejectIf_eq_ok_iff,
    addU_eq_ok_iff, subU_eq_ok_iff, Bytes.be16At_eq_ok_iff, pure_eq_ok_iff, Nat.add_zero,
    Bytes.shown_append, UdpHeader.shown_bytes, UdpHeader.length_bytes, hudp]
  constructor
  · rintro ⟨-, hshort, _, ⟨-, rfl⟩, -, hfit, sp, hsp, dp, hdp, length, hlength, checksum,
      hchecksum, -, hmin, -, hmax, _, ⟨-, rfl⟩, _, ⟨hle, rfl⟩, rfl⟩
    refine ⟨by omega, ?_⟩
    obtain ⟨payload, hpayload, hshown⟩ :=
      Bytes.exists_shown (show offset + 8 + (length.toNat - 8) ≤ packet.len by omega)
    exact ⟨payload, ⟨⟨hsp, hdp, hlength, hchecksum⟩, hshown⟩, by dsimp only; omega, by omega, rfl,
      rfl, hpayload.symm⟩
  · rintro ⟨hfit, payload, ⟨⟨hsp, hdp, hlength, hchecksum⟩, -⟩, hwhole, hmax, rfl, hpayload, hcount⟩
    have hmin : ¬ r.header.length < 8 := by
      rw [UInt16.not_lt, UInt16.le_iff_toNat_le]
      show 8 ≤ r.header.length.toNat
      omega
    refine ⟨(), by omega, _, ⟨by omega, rfl⟩, (), by omega, _, hsp, _, hdp, _, hlength, _,
      hchecksum, (), hmin, (), by omega, _, ⟨by omega, rfl⟩, _, ⟨by omega, rfl⟩, ?_⟩
    obtain ⟨header, headerOffset, payloadOffset, payloadLength⟩ := r
    dsimp only at hpayload hcount hwhole
    rw [hpayload, hcount, hwhole, Nat.add_sub_cancel_left]

end Udp

namespace IcmpPacket

def bytes (p : IcmpPacket) : List UInt8 :=
  [p.type] ++ ([p.code] ++ (Bytes.toBe16 p.checksum ++ p.rest.toList))

theorem shown_bytes {p : IcmpPacket} : packet.Shown offset p.bytes ↔
    packet.Shown offset [p.type] ∧ packet.Shown (offset + 1) [p.code] ∧
    packet.Shown (offset + 2) (Bytes.toBe16 p.checksum) ∧
    packet.Shown (offset + 4) p.rest.toList := by
  simp only [bytes, Bytes.shown_append, Bytes.length_toBe16, List.length_singleton, Nat.add_assoc,
    Nat.reduceAdd]

/-- The first eight bytes are the header, where there are as many. -/
def Reads (raw : Bytes) : Option IcmpPacket → Prop
  | some p => p.rest.len = 4 ∧ raw.Shown 0 p.bytes
  | none => raw.len < 8

theorem parse_eq_ok {raw : Bytes} {o : Option IcmpPacket} : parse raw = .ok o ↔ Reads raw o := by
  have hsize : headerLen = 8 := rfl
  unfold parse
  split
  · rename_i hshort
    rw [pure_eq_ok_iff]
    cases o with
    | none => exact iff_of_true rfl (show raw.len < 8 by omega)
    | some p =>
      refine iff_of_false (fun h => nomatch h) fun h => ?_
      have hroom := h.2.length_le
      have hrest : p.rest.toList.length = 4 := h.1
      simp only [bytes, List.length_append, List.length_singleton, Bytes.length_toBe16, hrest]
        at hroom
      omega
  · rename_i hlong
    simp only [bind_eq_ok_iff, Bytes.index_eq_ok_iff, Bytes.be16At_eq_ok_iff,
      Bytes.slice_eq_ok_iff, pure_eq_ok_iff]
    cases o with
    | none =>
      refine iff_of_false ?_ (show ¬ raw.len < 8 by omega)
      rintro ⟨_, -, _, -, _, -, _, -, h⟩
      cases h
    | some p =>
      unfold Reads
      dsimp only
      rw [shown_bytes]
      simp only [Option.some.injEq]
      constructor
      · rintro ⟨type, htype, code, hcode, checksum, hchecksum, rest, ⟨-, -, hrest, hshown⟩, rfl⟩
        exact ⟨hrest, htype, hcode, hchecksum, hshown⟩
      · rintro ⟨hrest, htype, hcode, hchecksum, hshown⟩
        exact ⟨_, htype, _, hcode, _, hchecksum, _, ⟨by decide, by omega, hrest, hshown⟩, rfl⟩

end IcmpPacket

/-! ## 4. TCP -/

namespace TcpHeader

/-- The data offset, three reserved bits and the ninth flag. -/
def offsetByte (h : TcpHeader) : UInt8 :=
  .ofNat (16 * h.dataOffset.toNat + 2 * h.reserved.toNat + h.flags.toNat / 256)

/-- The other eight flags. -/
def flagByte (h : TcpHeader) : UInt8 := .ofNat h.flags.toNat

def bytes (h : TcpHeader) : List UInt8 :=
  Bytes.toBe16 h.sourcePort ++ (Bytes.toBe16 h.destinationPort ++
    (Bytes.toBe32 h.sequenceNumber ++ (Bytes.toBe32 h.acknowledgmentNumber ++ ([h.offsetByte] ++
      ([h.flagByte] ++ (Bytes.toBe16 h.windowSize ++ (Bytes.toBe16 h.checksum ++
        Bytes.toBe16 h.urgentPointer)))))))

/-- The fields fit their bits, and the header is at least as long as its fixed part. -/
structure WellFormed (h : TcpHeader) : Prop where
  dataOffset_ge : 5 ≤ h.dataOffset.toNat
  dataOffset_lt : h.dataOffset.toNat < 16
  reserved_lt : h.reserved.toNat < 8
  flags_lt : h.flags.toNat < 512

theorem length_bytes (h : TcpHeader) : h.bytes.length = 20 := rfl

theorem shown_bytes {h : TcpHeader} : packet.Shown offset h.bytes ↔
    packet.Shown offset (Bytes.toBe16 h.sourcePort) ∧
    packet.Shown (offset + 2) (Bytes.toBe16 h.destinationPort) ∧
    packet.Shown (offset + 4) (Bytes.toBe32 h.sequenceNumber) ∧
    packet.Shown (offset + 8) (Bytes.toBe32 h.acknowledgmentNumber) ∧
    packet.Shown (offset + 12) [h.offsetByte] ∧ packet.Shown (offset + 13) [h.flagByte] ∧
    packet.Shown (offset + 14) (Bytes.toBe16 h.windowSize) ∧
    packet.Shown (offset + 16) (Bytes.toBe16 h.checksum) ∧
    packet.Shown (offset + 18) (Bytes.toBe16 h.urgentPointer) := by
  simp only [bytes, Bytes.shown_append, Bytes.length_toBe16, Bytes.length_toBe32,
    List.length_singleton, Nat.add_assoc, Nat.reduceAdd]

end TcpHeader

namespace Tcp

/-! ### The two bytes with bit fields -/

theorem toNat_dataOffset (b : UInt8) : (b >>> 4).toNat = b.toNat / 16 := by
  rw [UInt8.toNat_shiftRight]
  exact Nat.shiftRight_eq_div_pow b.toNat 4

theorem toNat_reserved (b : UInt8) : ((b &&& 0x0e) >>> 1).toNat = b.toNat / 2 % 8 := by
  rw [UInt8.toNat_shiftRight, UInt8.toNat_and]
  show (b.toNat &&& 14) >>> 1 = _
  rw [Nat.shiftRight_and_distrib, Nat.shiftRight_eq_div_pow]
  exact Nat.and_two_pow_sub_one_eq_mod (b.toNat / 2) 3

theorem toNat_flags (b f : UInt8) :
    ((f.toUInt16 &&& (0xff : UInt16)) |||
      ((if (b &&& 0x01) != 0 then 1 else 0 : UInt16) <<< 8)).toNat =
      f.toNat + 256 * (b.toNat % 2) := by
  have hf := f.toNat_lt
  have hlow : (f.toUInt16 &&& (0xff : UInt16)).toNat = f.toNat := by
    rw [UInt16.toNat_and, UInt8.toNat_toUInt16]
    exact (Nat.and_two_pow_sub_one_eq_mod f.toNat 8).trans (Nat.mod_eq_of_lt hf)
  have hbit : (b &&& 0x01).toNat = b.toNat % 2 := by
    rw [UInt8.toNat_and]
    exact Nat.and_two_pow_sub_one_eq_mod b.toNat 1
  rw [UInt16.toNat_or, hlow]
  by_cases hns : (b &&& 0x01) = 0
  · have hzero : b.toNat % 2 = 0 := by
      rw [← hbit, hns]
      rfl
    rw [hns, hzero]
    show f.toNat ||| 0 = f.toNat + 0
    rw [Nat.or_zero, Nat.add_zero]
  · have hone : b.toNat % 2 = 1 := by
      have hne : (b &&& 0x01).toNat ≠ 0 := fun h => hns (UInt8.toNat_inj.mp h)
      omega
    rw [if_pos (bne_iff_ne.mpr hns), hone, Nat.or_comm]
    show 1 * 2 ^ 8 ||| f.toNat = f.toNat + 256 * 1
    rw [Bytes.or_eq_add hf]
    omega

/-- What the parser takes out of the two bytes. -/
def flagsOf (b f : UInt8) : UInt16 :=
  (f.toUInt16 &&& (0xff : UInt16)) ||| ((if (b &&& 0x01) != 0 then 1 else 0 : UInt16) <<< 8)

/-- What is taken out of the two bytes is written as these two bytes. -/
theorem bytes_of_fields {h : TcpHeader} {b f : UInt8} (hoffset : h.dataOffset = b >>> 4)
    (hreserved : h.reserved = (b &&& 0x0e) >>> 1) (hflags : h.flags = flagsOf b f) :
    h.offsetByte = b ∧ h.flagByte = f ∧ h.reserved.toNat < 8 ∧ h.flags.toNat < 512 ∧
      h.dataOffset.toNat < 16 := by
  have hb := b.toNat_lt
  have hf := f.toNat_lt
  have hvalue : h.flags.toNat = f.toNat + 256 * (b.toNat % 2) := by rw [hflags, flagsOf, toNat_flags]
  unfold TcpHeader.offsetByte TcpHeader.flagByte
  rw [hvalue, hoffset, hreserved, toNat_dataOffset, toNat_reserved]
  refine ⟨?_, ?_, by omega, by omega, by omega⟩
  · apply UInt8.toNat_inj.mp
    rw [UInt8.toNat_ofNat']
    omega
  · apply UInt8.toNat_inj.mp
    rw [UInt8.toNat_ofNat']
    omega

/-- The fields of a header are taken out of the bytes it is written as. -/
theorem fields_of_bytes {h : TcpHeader} (hwell : h.WellFormed) :
    h.offsetByte >>> 4 = h.dataOffset ∧ (h.offsetByte &&& 0x0e) >>> 1 = h.reserved ∧
      flagsOf h.offsetByte h.flagByte = h.flags := by
  obtain ⟨-, hoffset, hreserved, hflags⟩ := hwell
  have hfirst : h.offsetByte.toNat =
      16 * h.dataOffset.toNat + 2 * h.reserved.toNat + h.flags.toNat / 256 := by
    rw [TcpHeader.offsetByte, UInt8.toNat_ofNat']
    omega
  have hsecond : h.flagByte.toNat = h.flags.toNat % 256 := UInt8.toNat_ofNat'
  refine ⟨?_, ?_, ?_⟩
  · apply UInt8.toNat_inj.mp
    rw [toNat_dataOffset, hfirst]
    omega
  · apply UInt8.toNat_inj.mp
    rw [toNat_reserved, hfirst]
    omega
  · apply UInt16.toNat_inj.mp
    rw [flagsOf, toNat_flags, hfirst, hsecond]
    omega

/-- A segment of the given length: header, options and payload. -/
def Reads (packet : Bytes) (offset length : Nat) (r : TcpParseResult) : Prop :=
  ∃ options payload : List UInt8,
    packet.Shown offset (r.header.bytes ++ (options ++ payload)) ∧ r.header.WellFormed ∧
    20 + options.length = 4 * r.header.dataOffset.toNat ∧
    length = 20 + options.length + payload.length ∧ r.headerOffset = offset ∧
    r.payloadOffset = offset + (20 + options.length) ∧ r.payloadLength = payload.length

theorem parseAtWithLength_eq_ok {length : Nat} {r : TcpParseResult} :
    parseAtWithLength packet offset length = .ok r ↔ Reads packet offset length r := by
  have hlen := packet.len_le
  have hsize : isizeMax + 100 < usizeSize := by decide
  unfold parseAtWithLength Reads
  simp only [bind_eq_ok_iff, orFail_eq_ok_iff, checkedAdd_eq_some, checkedMul_eq_some,
    rejectIf_eq_ok_iff, addU_eq_ok_iff, subU_eq_ok_iff, Bytes.be16At_eq_ok_iff,
    Bytes.be32At_eq_ok_iff, Bytes.byteAt_eq_ok_iff, pure_eq_ok_iff, Nat.add_zero,
    Bytes.shown_append, TcpHeader.shown_bytes, TcpHeader.length_bytes]
  constructor
  · rintro ⟨-, hshort, _, ⟨-, rfl⟩, -, hfit, _, ⟨-, rfl⟩, -, -, sp, hsp, dp, hdp, sequence,
      hsequence, acknowledgment, hacknowledgment, b, hb, -, hmin, _, ⟨-, rfl⟩, -, hmax, _,
      ⟨-, rfl⟩, -, -, f, hf, window, hwindow, checksum, hchecksum, urgent, hurgent, _, ⟨-, rfl⟩, _,
      ⟨-, rfl⟩, rfl⟩
    rw [UInt8.not_lt, UInt8.le_iff_toNat_le] at hmin
    have hmin : 5 ≤ (b >>> 4).toNat := hmin
    obtain ⟨options, hoptions, hshown⟩ :=
      Bytes.exists_shown (show offset + 20 + ((b >>> 4).toNat * 4 - 20) ≤ packet.len by omega)
    obtain ⟨payload, hpayload, hshown'⟩ := Bytes.exists_shown
      (show offset + 20 + options.length + (length - (b >>> 4).toNat * 4) ≤ packet.len by omega)
    let header : TcpHeader := ⟨sp, dp, sequence, acknowledgment, b >>> 4, (b &&& 0x0e) >>> 1,
      flagsOf b f, window, checksum, urgent⟩
    have hfields : header.offsetByte = b ∧ header.flagByte = f ∧ _ := bytes_of_fields rfl rfl rfl
    obtain ⟨hoffsetByte, hflagByte, hreserved, hflags, hoffset⟩ := hfields
    refine ⟨options, payload, ⟨⟨hsp, hdp, hsequence, hacknowledgment, ?_, ?_, hwindow, hchecksum,
      hurgent⟩, hshown, hshown'⟩, ⟨hmin, hoffset, hreserved, hflags⟩, ?_, ?_, rfl, ?_, hpayload.symm⟩
    · exact hoffsetByte.symm ▸ hb
    · exact hflagByte.symm ▸ hf
    · dsimp only
      omega
    · omega
    · dsimp only
      omega
  · rintro ⟨options, payload, ⟨hheader, hoptions, hpayload⟩, hwell, hwords, rfl, rfl, hplace, hcount⟩
    have hroom := (Bytes.shown_append.mpr ⟨TcpHeader.shown_bytes.mpr hheader,
      Bytes.shown_append.mpr ⟨hoptions, hpayload⟩⟩).length_le
    rw [List.length_append, List.length_append, TcpHeader.length_bytes] at hroom
    obtain ⟨hoffset, hreserved, hflags⟩ := fields_of_bytes hwell
    obtain ⟨hsp, hdp, hsequence, hacknowledgment, hb, hf, hwindow, hchecksum, hurgent⟩ := hheader
    have hbytes : (r.header.offsetByte >>> 4).toNat * 4 = 20 + options.length := by
      rw [hoffset]
      omega
    have hmin : ¬ r.header.offsetByte >>> 4 < 5 := by
      rw [hoffset, UInt8.not_lt, UInt8.le_iff_toNat_le]
      exact hwell.dataOffset_ge
    refine ⟨(), by omega, _, ⟨by omega, rfl⟩, (), by omega, _, ⟨by omega, rfl⟩, (), by omega, _, hsp,
      _, hdp, _, hsequence, _, hacknowledgment, _, hb, (), hmin, _, ⟨by omega, rfl⟩, (), by omega, _,
      ⟨by omega, rfl⟩, (), by omega, _, hf, _, hwindow, _, hchecksum, _, hurgent, _,
      ⟨by omega, rfl⟩, _, ⟨by omega, rfl⟩, ?_⟩
    obtain ⟨header, headerOffset, payloadOffset, payloadLength⟩ := r
    dsimp only at hoffset hreserved hflags hplace hcount hbytes
    unfold flagsOf at hflags
    rw [hbytes, hoffset, hreserved, hflags, hplace, hcount, Nat.add_sub_cancel_left]

end Tcp

/-! ## 5. IPv4 -/

namespace Ipv4Header

def versionByte (h : Ipv4Header) : UInt8 := .ofNat (16 * h.version.toNat + h.ihl.toNat)

def serviceByte (h : Ipv4Header) : UInt8 := .ofNat (4 * h.dscp.toNat + h.ecn.toNat)

/-- The three flags, the first of them reserved, above the fragment offset. -/
def flagsFragment (h : Ipv4Header) (reserved : Bool) : UInt16 :=
  .ofNat (32768 * reserved.toNat + 16384 * h.dontFragment.toNat + 8192 * h.moreFragments.toNat +
    h.fragmentOffset.toNat)

def bytes (h : Ipv4Header) (reserved : Bool) : List UInt8 :=
  [h.versionByte] ++ ([h.serviceByte] ++ (Bytes.toBe16 h.totalLength ++
    (Bytes.toBe16 h.identification ++ (Bytes.toBe16 (h.flagsFragment reserved) ++ ([h.ttl] ++
      ([h.protocol] ++ (Bytes.toBe16 h.checksum ++ (h.source.bytes ++ h.destination.bytes))))))))

/-- The fields fit their bits, and the header is at least as long as its fixed part. -/
structure WellFormed (h : Ipv4Header) : Prop where
  version : h.version = 4
  ihl_ge : 5 ≤ h.ihl.toNat
  ihl_lt : h.ihl.toNat < 16
  dscp_lt : h.dscp.toNat < 64
  ecn_lt : h.ecn.toNat < 4
  fragmentOffset_lt : h.fragmentOffset.toNat < 8192

theorem length_bytes (h : Ipv4Header) (reserved : Bool) : (h.bytes reserved).length = 20 := rfl

theorem shown_bytes {h : Ipv4Header} {reserved : Bool} :
    packet.Shown offset (h.bytes reserved) ↔
      packet.Shown offset [h.versionByte] ∧ packet.Shown (offset + 1) [h.serviceByte] ∧
      packet.Shown (offset + 2) (Bytes.toBe16 h.totalLength) ∧
      packet.Shown (offset + 4) (Bytes.toBe16 h.identification) ∧
      packet.Shown (offset + 6) (Bytes.toBe16 (h.flagsFragment reserved)) ∧
      packet.Shown (offset + 8) [h.ttl] ∧ packet.Shown (offset + 9) [h.protocol] ∧
      packet.Shown (offset + 10) (Bytes.toBe16 h.checksum) ∧
      packet.Shown (offset + 12) h.source.bytes ∧
      packet.Shown (offset + 16) h.destination.bytes := by
  simp only [bytes, Bytes.shown_append, Bytes.length_toBe16, List.length_singleton,
    Ipv4Addr.length_bytes, Nat.add_assoc, Nat.reduceAdd]

end Ipv4Header

namespace Ipv4

/-! ### The bytes and the word with bit fields -/

theorem toNat_fragmentOffset (w : UInt16) : (w &&& 0x1fff).toNat = w.toNat % 8192 := by
  rw [UInt16.toNat_and]
  exact Nat.and_two_pow_sub_one_eq_mod w.toNat 13

/-- A flag is one bit of the word. -/
theorem flag_toNat {w m : UInt16} (k : Nat) (hm : m.toNat = 2 ^ k) :
    ((w &&& m) != 0).toNat = w.toNat / 2 ^ k % 2 := by
  have hpos := Nat.two_pow_pos k
  -- The mask leaves the one bit, in its place.
  have hbit : (w &&& m).toNat = w.toNat / 2 ^ k % 2 * 2 ^ k := by
    rw [UInt16.toNat_and, hm]
    have hlow : (w.toNat &&& 2 ^ k) % 2 ^ k = 0 := by
      rw [Nat.and_mod_two_pow, Nat.mod_self, Nat.and_zero]
    have hhigh : (w.toNat &&& 2 ^ k) / 2 ^ k = w.toNat / 2 ^ k % 2 := by
      rw [← Nat.shiftRight_eq_div_pow, Nat.shiftRight_and_distrib, Nat.shiftRight_eq_div_pow,
        Nat.shiftRight_eq_div_pow, Nat.div_self hpos]
      exact Nat.and_two_pow_sub_one_eq_mod (w.toNat / 2 ^ k) 1
    rw [← hhigh, Nat.div_mul_cancel (Nat.dvd_of_mod_eq_zero hlow)]
  have hlt := Nat.mod_lt (w.toNat / 2 ^ k) (show 0 < 2 by decide)
  by_cases hzero : w &&& m = 0
  · rw [hzero] at hbit
    have hnone : w.toNat / 2 ^ k % 2 = 0 :=
      (Nat.mul_eq_zero.mp hbit.symm).resolve_right hpos.ne'
    rw [hzero, hnone]
    rfl
  · have hsome : w.toNat / 2 ^ k % 2 ≠ 0 := by
      intro hnone
      rw [hnone, Nat.zero_mul] at hbit
      exact hzero (UInt16.toNat_inj.mp hbit)
    rw [bne_iff_ne.mpr hzero]
    show 1 = _
    omega

theorem toNat_flag (w : UInt16) : ((w &&& 0x4000) != 0).toNat = w.toNat / 16384 % 2 ∧
    ((w &&& 0x2000) != 0).toNat = w.toNat / 8192 % 2 :=
  ⟨flag_toNat 14 rfl, flag_toNat 13 rfl⟩

/-- What is taken out of a byte with a high and a low part is written as this byte. -/
theorem word_of_flags (w : UInt16) : UInt16.ofNat (32768 * ((w &&& 0x8000) != 0).toNat +
    16384 * ((w &&& 0x4000) != 0).toNat + 8192 * ((w &&& 0x2000) != 0).toNat +
    (w &&& 0x1fff).toNat) = w := by
  have hw := w.toNat_lt
  have hreserved : ((w &&& 0x8000) != 0).toNat = w.toNat / 32768 % 2 := flag_toNat 15 rfl
  rw [hreserved, (toNat_flag w).1, (toNat_flag w).2, toNat_fragmentOffset]
  apply UInt16.toNat_inj.mp
  rw [UInt16.toNat_ofNat']
  omega

/-- The flags and the offset are taken out of the word they are written as. -/
theorem flags_of_word {h : Ipv4Header} (hwell : h.WellFormed) (reserved : Bool) :
    ((h.flagsFragment reserved &&& 0x4000) != 0) = h.dontFragment ∧
      ((h.flagsFragment reserved &&& 0x2000) != 0) = h.moreFragments ∧
      h.flagsFragment reserved &&& 0x1fff = h.fragmentOffset := by
  have hoffset := hwell.fragmentOffset_lt
  have hreserved := Bool.toNat_le reserved
  have hdf := Bool.toNat_le h.dontFragment
  have hmf := Bool.toNat_le h.moreFragments
  have hword : (h.flagsFragment reserved).toNat = 32768 * reserved.toNat +
      16384 * h.dontFragment.toNat + 8192 * h.moreFragments.toNat + h.fragmentOffset.toNat := by
    rw [Ipv4Header.flagsFragment, UInt16.toNat_ofNat']
    omega
  have hinj {a b : Bool} (h : a.toNat = b.toNat) : a = b := by
    cases a <;> cases b <;> first | rfl | cases h
  refine ⟨hinj ?_, hinj ?_, ?_⟩
  · rw [(toNat_flag _).1, hword]
    omega
  · rw [(toNat_flag _).2, hword]
    omega
  · apply UInt16.toNat_inj.mp
    rw [toNat_fragmentOffset, hword]
    omega

theorem fields_of_bytes {h : Ipv4Header} (hwell : h.WellFormed) :
    h.versionByte >>> 4 = 4 ∧ h.versionByte &&& 0x0f = h.ihl ∧ h.serviceByte >>> 2 = h.dscp ∧
      h.serviceByte &&& 0x03 = h.ecn := by
  obtain ⟨hversion, -, hihl, hdscp, hecn, -⟩ := hwell
  have hfirst : h.versionByte.toNat = 16 * 4 + h.ihl.toNat := by
    rw [Ipv4Header.versionByte, hversion, UInt8.toNat_ofNat']
    show (16 * 4 + h.ihl.toNat) % 256 = _
    omega
  have hsecond : h.serviceByte.toNat = 4 * h.dscp.toNat + h.ecn.toNat := by
    rw [Ipv4Header.serviceByte, UInt8.toNat_ofNat']
    omega
  refine ⟨UInt8.toNat_inj.mp ?_, UInt8.toNat_inj.mp ?_, UInt8.toNat_inj.mp ?_,
    UInt8.toNat_inj.mp ?_⟩
  · rw [toNat_high 4 rfl, hfirst]
    show (16 * 4 + h.ihl.toNat) / 16 = 4
    omega
  · rw [toNat_and_mask 4 rfl, hfirst]
    omega
  · rw [toNat_high 2 rfl, hsecond]
    omega
  · rw [toNat_and_mask 2 rfl, hsecond]
    omega

/-- A datagram: header, options and payload. -/
def Reads (packet : Bytes) (offset : Nat) (r : Ipv4ParseResult) : Prop :=
  ∃ (reserved : Bool) (options payload : List UInt8),
    packet.Shown offset (r.header.bytes reserved ++ (options ++ payload)) ∧
    r.header.WellFormed ∧ 20 + options.length = 4 * r.header.ihl.toNat ∧
    r.header.totalLength.toNat = 20 + options.length + payload.length ∧
    r.headerOffset = offset ∧ r.payloadOffset = offset + (20 + options.length) ∧
    r.payloadLength = payload.length

theorem parseAt_eq_ok {r : Ipv4ParseResult} :
    parseAt packet offset = .ok r ↔ Reads packet offset r := by
  have hlen := packet.len_le
  have hsize : isizeMax + 100 < usizeSize := by decide
  unfold parseAt Reads
  simp only [bind_eq_ok_iff, orFail_eq_ok_iff, checkedAdd_eq_some, checkedMul_eq_some,
    rejectIf_eq_ok_iff, addU_eq_ok_iff, subU_eq_ok_iff, Bytes.index_eq_ok_iff,
    Bytes.be16At_eq_ok_iff, Bytes.byteAt_eq_ok_iff, Ipv4Addr.readAt_eq_ok, pure_eq_ok_iff,
    Bytes.shown_append, Ipv4Header.shown_bytes, Ipv4Header.length_bytes, not_not]
  constructor
  · rintro ⟨_, ⟨-, rfl⟩, -, hshort, b, hb, -, hversion, -, hihl, _, ⟨-, rfl⟩, _, ⟨-, rfl⟩, -, -,
      c, hc, total, htotal, -, hmin, _, ⟨-, rfl⟩, -, hfit, identification, hidentification, w, hw,
      ttl, httl, protocol, hprotocol, checksum, hchecksum, source, hsource, destination,
      hdestination, _, ⟨-, rfl⟩, _, ⟨-, rfl⟩, rfl⟩
    rw [UInt8.not_lt, UInt8.le_iff_toNat_le] at hihl
    have hihl : 5 ≤ (b &&& 0x0f).toNat := hihl
    obtain ⟨options, hoptions, hshown⟩ :=
      Bytes.exists_shown (show offset + 20 + ((b &&& 0x0f).toNat * 4 - 20) ≤ packet.len by omega)
    obtain ⟨payload, hpayload, hshown'⟩ := Bytes.exists_shown (show
      offset + 20 + options.length + (total.toNat - (b &&& 0x0f).toNat * 4) ≤ packet.len by omega)
    have hfirst : UInt8.ofNat (16 * (b >>> 4).toNat + (b &&& 0x0f).toNat) = b :=
      byte_of_parts (toNat_high 4 rfl) (toNat_and_mask 4 rfl)
    have hsecond : UInt8.ofNat (4 * (c >>> 2).toNat + (c &&& 0x03).toNat) = c :=
      byte_of_parts (toNat_high 2 rfl) (toNat_and_mask 2 rfl)
    have hword := word_of_flags w
    refine ⟨(w &&& 0x8000) != 0, options, payload, ⟨⟨?_, ?_, htotal, hidentification, ?_, httl,
      hprotocol, hchecksum, hsource, hdestination⟩, hshown, hshown'⟩, ⟨hversion, hihl, ?_, ?_, ?_,
      ?_⟩, ?_, ?_, rfl, ?_, hpayload.symm⟩
    · show packet.Shown offset [UInt8.ofNat (16 * (b >>> 4).toNat + (b &&& 0x0f).toNat)]
      rw [hfirst]
      exact hb
    · show packet.Shown (offset + 1) [UInt8.ofNat (4 * (c >>> 2).toNat + (c &&& 0x03).toNat)]
      rw [hsecond]
      exact hc
    · show packet.Shown (offset + 6) (Bytes.toBe16 (.ofNat _))
      rw [hword]
      exact hw
    · have hb := b.toNat_lt
      rw [toNat_and_mask 4 rfl]
      omega
    · have hc := c.toNat_lt
      rw [toNat_high 2 rfl]
      omega
    · rw [toNat_and_mask 2 rfl]
      omega
    · have hw := w.toNat_lt
      rw [toNat_fragmentOffset]
      omega
    · dsimp only
      omega
    · dsimp only
      omega
    · dsimp only
      omega
  · rintro ⟨reserved, options, payload, ⟨hheader, hoptions, hpayload⟩, hwell, hwords, htotal, rfl,
      hplace, hcount⟩
    have hroom := (Bytes.shown_append.mpr ⟨Ipv4Header.shown_bytes.mpr hheader,
      Bytes.shown_append.mpr ⟨hoptions, hpayload⟩⟩).length_le
    rw [List.length_append, List.length_append, Ipv4Header.length_bytes] at hroom
    obtain ⟨hversion, hihl, hdscp, hecn⟩ := fields_of_bytes hwell
    obtain ⟨hdf, hmf, hfragment⟩ := flags_of_word hwell reserved
    obtain ⟨hb, hc, hlength, hidentification, hw, httl, hprotocol, hchecksum, hsource,
      hdestination⟩ := hheader
    have hbytes : (r.header.versionByte &&& 0x0f).toNat * 4 = 20 + options.length := by
      rw [hihl]
      omega
    have hmin : ¬ r.header.versionByte &&& 0x0f < 5 := by
      rw [hihl, UInt8.not_lt, UInt8.le_iff_toNat_le]
      exact hwell.ihl_ge
    refine ⟨_, ⟨by omega, rfl⟩, (), by omega, _, hb, (), hversion, (), hmin, _, ⟨by omega, rfl⟩, _,
      ⟨by omega, rfl⟩, (), by omega, _, hc, _, hlength, (), by omega, _, ⟨by omega, rfl⟩, (),
      by omega, _, hidentification, _, hw, _, httl, _, hprotocol, _, hchecksum, _, hsource, _,
      hdestination, _, ⟨by omega, rfl⟩, _, ⟨by omega, rfl⟩, ?_⟩
    obtain ⟨header, headerOffset, payloadOffset, payloadLength⟩ := r
    dsimp only at hversion hihl hdscp hecn hdf hmf hfragment hplace hcount htotal hbytes
    have hfour := hwell.version
    dsimp only at hfour
    rw [hbytes, hversion, hihl, hdscp, hecn, hdf, hmf, hfragment, hplace, hcount, htotal,
      Nat.add_sub_cancel_left, ← hfour]

end Ipv4

/-! ## 6. Ethernet -/

namespace Frame

/-- What a stack says: each tag under the type that stands behind it. -/
def stackHeaders (tags : List VlanTag) (etherType : UInt16) : List VlanHeader :=
  match tags with
  | [] => []
  | tag :: tags => ⟨tag.tci, .fromU16 (typeField tags etherType)⟩ :: stackHeaders tags etherType

variable {pos : Nat} {tags : List VlanTag} {value etherType : UInt16}

theorem shown_stack_cons {tag : VlanTag} :
    packet.Shown pos (stackBytes (tag :: tags) etherType) ↔
      packet.Shown pos (Bytes.toBe16 tag.tpid.toU16) ∧
      packet.Shown (pos + 2) (Bytes.toBe16 tag.tci) ∧
      packet.Shown (pos + 4) (stackBytes tags etherType) := by
  simp only [stackBytes, Bytes.shown_append, Bytes.length_toBe16, Nat.add_assoc, Nat.reduceAdd]

theorem shown_typeField (h : packet.Shown pos (stackBytes tags etherType)) :
    packet.Shown pos (Bytes.toBe16 (typeField tags etherType)) := by
  obtain ⟨rest, hrest⟩ := stackBytes_typeField tags etherType
  rw [hrest] at h
  exact (Bytes.shown_append.mp h).1

/-- The word where a stack begins is its type field. -/
theorem typeField_of_shown (hvalue : packet.Shown pos (Bytes.toBe16 value))
    (hstack : packet.Shown pos (stackBytes tags etherType)) : value = typeField tags etherType := by
  have hbytes := hvalue.unique (shown_typeField hstack) rfl
  have hread : ∀ w : UInt16, Bytes.be16 (w >>> 8).toUInt8 w.toUInt8 = w := Bytes.be16_toBe16
  obtain ⟨hhigh, hlow⟩ := List.cons.inj hbytes
  rw [← hread value, hhigh, (List.cons.inj hlow).1, hread]

end Frame

namespace Ethernet

open NetworkEngine.Frame

/-- The loop leaves off at once where no tag stands. -/
theorem vlanLoop_plain {room pos : Nat} {value : UInt16} {seen : List VlanHeader} {st : Stack}
    (hvalue : packet.Shown pos (Bytes.toBe16 value))
    (hplain : (EtherType.fromU16 value).isVlan = false) :
    vlanLoop packet room ⟨.fromU16 value, pos + 2, seen⟩ = .ok st ↔
      ∃ tags etherType, packet.Shown pos (stackBytes tags etherType) ∧ tags.length ≤ room ∧
        (EtherType.fromU16 etherType).isVlan = false ∧
        st = ⟨.fromU16 etherType, pos + 2 + 4 * tags.length,
          seen ++ stackHeaders tags etherType⟩ := by
  unfold vlanLoop
  dsimp only
  rw [hplain, if_neg Bool.false_ne_true, Except.ok.injEq]
  constructor
  · rintro rfl
    refine ⟨[], value, hvalue, Nat.zero_le _, hplain, ?_⟩
    rw [stackHeaders, List.append_nil, List.length_nil]
  · rintro ⟨tags, etherType, hstack, -, -, rfl⟩
    cases tags with
    | nil =>
      obtain rfl : value = etherType := typeField_of_shown hvalue hstack
      rw [stackHeaders, List.append_nil, List.length_nil]
    | cons tag tags =>
      obtain rfl : value = tag.tpid.toU16 := typeField_of_shown hvalue hstack
      rw [tag.tpid.fromU16_isVlan] at hplain
      cases hplain

/-- The loop takes a stack that it has room for, and whose type is no tag any more. -/
theorem vlanLoop_eq_ok {room pos : Nat} {value : UInt16} {seen : List VlanHeader} {st : Stack}
    (hvalue : packet.Shown pos (Bytes.toBe16 value)) :
    vlanLoop packet room ⟨.fromU16 value, pos + 2, seen⟩ = .ok st ↔
      ∃ tags etherType, packet.Shown pos (stackBytes tags etherType) ∧ tags.length ≤ room ∧
        (EtherType.fromU16 etherType).isVlan = false ∧
        st = ⟨.fromU16 etherType, pos + 2 + 4 * tags.length,
          seen ++ stackHeaders tags etherType⟩ := by
  have hlen := packet.len_le
  have hsize : isizeMax + 100 < usizeSize := by decide
  -- On the room left; the word behind a tag is where the rest of the stack begins.
  induction room generalizing pos value seen with
  | zero =>
    by_cases hvlan : (EtherType.fromU16 value).isVlan = true
    · unfold vlanLoop
      rw [if_pos hvlan]
      constructor
      · intro h
        cases h
      · rintro ⟨tags, etherType, hstack, hfew, hplain, -⟩
        obtain rfl := List.length_eq_zero_iff.mp (Nat.le_zero.mp hfew)
        obtain rfl : value = etherType := typeField_of_shown hvalue hstack
        rw [hvlan] at hplain
        cases hplain
    · exact vlanLoop_plain hvalue (Bool.not_eq_true _ ▸ hvlan)
  | succ room ih =>
    by_cases hvlan : (EtherType.fromU16 value).isVlan = true
    · unfold vlanLoop
      dsimp only
      rw [if_pos hvlan]
      simp only [bind_eq_ok_iff, addU_eq_ok_iff, rejectIf_eq_ok_iff, Bytes.be16At_eq_ok_iff,
        Nat.add_zero, Nat.add_assoc, Nat.reduceAdd]
      constructor
      · rintro ⟨_, ⟨-, rfl⟩, -, -, tci, htci, next, hnext, _, ⟨-, rfl⟩, h⟩
        obtain ⟨tags, etherType, hstack, hfew, hplain, rfl⟩ := (ih hnext).mp h
        obtain ⟨tpid, rfl⟩ := exists_tpid hvlan
        refine ⟨⟨tpid, tci⟩ :: tags, etherType, shown_stack_cons.mpr ⟨hvalue, htci, hstack⟩,
          Nat.succ_le_succ hfew, hplain, ?_⟩
        rw [stackHeaders, ← typeField_of_shown hnext hstack, List.append_assoc, List.length_cons,
          List.singleton_append]
        congr 1
        omega
      · rintro ⟨tags, etherType, hstack, hfew, hplain, rfl⟩
        cases tags with
        | nil =>
          obtain rfl : value = etherType := typeField_of_shown hvalue hstack
          rw [hvlan] at hplain
          cases hplain
        | cons tag tags =>
          have hroom := hstack.length_le
          rw [stackBytes_length, List.length_cons] at hroom
          obtain ⟨-, htci, hrest⟩ := shown_stack_cons.mp hstack
          have hnext := shown_typeField hrest
          refine ⟨_, ⟨by omega, rfl⟩, (), by omega, _, htci, _, hnext, _, ⟨by omega, rfl⟩, ?_⟩
          refine (ih hnext).mpr ⟨tags, etherType, hrest, Nat.le_of_succ_le_succ hfew, hplain, ?_⟩
          rw [stackHeaders, List.append_assoc, List.length_cons, List.singleton_append]
          congr 1
          omega
    · exact vlanLoop_plain hvalue (Bool.not_eq_true _ ▸ hvlan)

/-- A frame with at most four tags, and the payload that fills the packet. -/
def Reads (packet : Bytes) (r : EthernetParseResult) : Prop :=
  ∃ (tags : List VlanTag) (etherType : UInt16) (payload : List UInt8),
    packet.toList = header r.header.destination r.header.source tags etherType ++ payload ∧
    tags.length ≤ 4 ∧ (EtherType.fromU16 etherType).isVlan = false ∧
    r.header.etherType = .fromU16 etherType ∧ r.vlanTags = stackHeaders tags etherType ∧
    r.payloadOffset = 14 + 4 * tags.length ∧ r.payloadLength = payload.length

theorem parse_eq_ok {r : EthernetParseResult} : parse packet = .ok r ↔ Reads packet r := by
  unfold parse Reads
  simp only [bind_eq_ok_iff, rejectIf_eq_ok_iff, MacAddr.readAt_eq_ok, Bytes.be16At_eq_ok_iff,
    subU_eq_ok_iff, pure_eq_ok_iff, Nat.zero_add]
  constructor
  · rintro ⟨-, -, destination, hdestination, source, hsource, value, hvalue, st, hst, -, -, _,
      ⟨hle, rfl⟩, rfl⟩
    obtain ⟨tags, etherType, hstack, hfew, hplain, rfl⟩ := (vlanLoop_eq_ok hvalue).mp hst
    have hheader : packet.Shown 0 (header destination source tags etherType) := by
      unfold header
      simp only [Bytes.shown_append, List.length_append, Vector.length_toList, Nat.zero_add,
        Nat.reduceAdd]
      exact ⟨⟨hdestination, hsource⟩, hstack⟩
    obtain ⟨payload, hpayload⟩ := hheader
    rw [List.drop_zero] at hpayload
    refine ⟨tags, etherType, payload, hpayload.symm, hfew, hplain, rfl, List.nil_append _, rfl, ?_⟩
    dsimp only
    unfold Bytes.len
    rw [← hpayload, List.length_append, header_length]
    omega
  · rintro ⟨tags, etherType, payload, h, hfew, hplain, htype, htags, hplace, hcount⟩
    have hlength : packet.len = 14 + 4 * tags.length + payload.length := by
      unfold Bytes.len
      rw [h, List.length_append, header_length]
    have hheader : packet.Shown 0 (header r.header.destination r.header.source tags etherType) :=
      ⟨payload, by rw [List.drop_zero, h]⟩
    unfold header at hheader
    simp only [Bytes.shown_append, List.length_append, Vector.length_toList, Nat.zero_add,
      Nat.reduceAdd] at hheader
    obtain ⟨⟨hdestination, hsource⟩, hstack⟩ := hheader
    have hvalue := shown_typeField hstack
    refine ⟨(), by omega, _, hdestination, _, hsource, _, hvalue, _, (vlanLoop_eq_ok hvalue).mpr
      ⟨tags, etherType, hstack, hfew, hplain, rfl⟩, (), ?_, _, ⟨?_, rfl⟩, ?_⟩
    · dsimp only
      omega
    · dsimp only
      omega
    · obtain ⟨⟨destination, source, type⟩, vlanTags, place, count⟩ := r
      dsimp only at htype htags hplace hcount ⊢
      rw [htype, htags, hplace, hcount, hlength, List.nil_append]
      congr 1
      omega

end Ethernet

/-! ## 7. The formats -/

/-- Each parser is the inverse of its format: the results that it returns are those that the packet
shows, and no others. -/
theorem header_formats (packet : Bytes) (offset : Nat) :
    (∀ r, Ethernet.parse packet = .ok r ↔ Ethernet.Reads packet r) ∧
    (∀ r, Arp.parseAt packet offset = .ok r ↔ Arp.Reads packet offset r) ∧
    (∀ r, Ipv4.parseAt packet offset = .ok r ↔ Ipv4.Reads packet offset r) ∧
    (∀ length r, Tcp.parseAtWithLength packet offset length = .ok r ↔
      Tcp.Reads packet offset length r) ∧
    (∀ length r, Udp.parseAtWithLength packet offset length = .ok r ↔
      Udp.Reads packet offset length r) ∧
    ∀ o, IcmpPacket.parse packet = .ok o ↔ IcmpPacket.Reads packet o :=
  ⟨fun _ => Ethernet.parse_eq_ok, fun _ => Arp.parseAt_eq_ok, fun _ => Ipv4.parseAt_eq_ok,
    fun _ _ => Tcp.parseAtWithLength_eq_ok, fun _ _ => Udp.parseAtWithLength_eq_ok,
    fun _ => IcmpPacket.parse_eq_ok⟩

end NetworkEngine
