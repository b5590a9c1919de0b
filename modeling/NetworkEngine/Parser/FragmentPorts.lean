import NetworkEngine.Parser.ExtensionChain
import NetworkEngine.Parser.Fragments

/-!
# FragmentPorts — what `parse_bytes` reports of a fragment

The two network headers of a fragment, read back from its layout, and the transport header in a
first fragment.  TCP is read from its header alone; UDP asks for the whole datagram.
-/

namespace NetworkEngine

open Rust

/-! ## 1. The transport header of a first fragment -/

namespace Tcp

theorem offsetByte_words (s : TcpSegment) :
    (s.offsetByte >>> 4).toNat = 5 + s.options.length / 4 := by
  have hle := s.options_length
  -- The data offset is the high half of the byte, above the reserved bits.
  have hreserved := s.reserved.isLt
  rw [TcpSegment.offsetByte, UInt8.toNat_shiftRight, UInt8.toNat_ofNat']
  show ((16 * (5 + s.options.length / 4) + s.reserved) % 2 ^ 8) >>> 4 = _
  rw [Nat.shiftRight_eq_div_pow]
  omega

/-- The parser reads the ports of a segment whose header it is shown. -/
theorem parseAtWithLength_shows {raw : Bytes} {offset length : Nat} {s : TcpSegment}
    (h : Bytes.Shows raw offset length s.bytes) (hlong : 20 + s.options.length ≤ length) :
    Returns (parseAtWithLength raw offset length) fun r =>
      r.header.sourcePort = s.sourcePort ∧ r.header.destinationPort = s.destinationPort := by
  have hin := h.1
  have hlen := raw.len_le
  have hsize : isizeMax + 2000 < usizeSize := by decide
  have hwords := offsetByte_words s
  have hoptions := s.options_words
  have hbyte : s.bytes[12]? = some s.offsetByte := by
    simp [TcpSegment.bytes, Bytes.toBe16, List.getElem?_append]
  have hdata : ¬ s.offsetByte >>> 4 < 5 := by
    rw [UInt8.lt_iff_toNat_lt, hwords]
    show ¬ _ < 5
    omega
  refine .bind (.rejectIf (by omega) <| .bind (.checkedAdd (by omega) ?_))
  refine .bind (.rejectIf (by omega) <| .bind (.addU (by omega) <| .bind (.rejectIf (by omega) ?_)))
  refine .bind (.read (h.be16At (by omega) rfl rfl) ?_)
  refine .bind (.read (h.be16At (by omega) rfl rfl) ?_)
  refine .bind (.be32At (by omega) fun _ => .bind (.be32At (by omega) fun _ => ?_))
  -- The data offset is the length of the header, which the fragment holds whole.
  refine .bind (.read (h.byteAt (by omega) hbyte) <| .bind (.rejectIf hdata ?_))
  refine .bind (.checkedMul (by omega) <| .bind (.rejectIf (by omega) ?_))
  refine .bind (.addU (by omega) <| .bind (.rejectIf (by omega) ?_))
  refine .bind (.byteAt (by omega) fun _ => .bind (.be16At (by omega) fun _ => ?_))
  refine .bind (.be16At (by omega) fun _ => .bind (.be16At (by omega) fun _ => ?_))
  exact .bind (.addU (by omega) <| .bind (.subU (by omega) <| .pure ⟨rfl, rfl⟩))

end Tcp

namespace Udp

/-- The parser reads the header it is shown, and then asks for the whole datagram. -/
theorem parseAtWithLength_shows {raw : Bytes} {offset availableLength : Nat} {s : UdpSegment}
    (h : Bytes.Shows raw offset availableLength s.bytes) (hlong : 8 ≤ availableLength) :
    parseAtWithLength raw offset availableLength =
      if availableLength < s.length.toNat then fail .packetMalformed
      else .ok ⟨⟨s.sourcePort, s.destinationPort, s.length, s.checksum⟩, offset, offset + 8,
        s.length.toNat - 8⟩ := by
  have hin := h.1
  have hlen := raw.len_le
  have hsize : isizeMax + 2000 < usizeSize := by decide
  have hmin : 8 ≤ s.length.toNat := Nat.le_trans (Nat.le_add_right _ _) s.length_le
  have hsource : (raw.be16At offset 0 : Checked EngineError UInt16) = .ok s.sourcePort :=
    h.be16At (by omega) rfl rfl
  have hdestination : (raw.be16At offset 2 : Checked EngineError UInt16) =
      .ok s.destinationPort := h.be16At (by omega) rfl rfl
  have hlength : (raw.be16At offset 4 : Checked EngineError UInt16) = .ok s.length :=
    h.be16At (by omega) rfl rfl
  have hchecksum : (raw.be16At offset 6 : Checked EngineError UInt16) = .ok s.checksum :=
    h.be16At (by omega) rfl rfl
  have hfloor : ¬ s.length < 8 := UInt16.not_lt.mpr (UInt16.le_iff_toNat_le.mpr hmin)
  have hshort : ¬ availableLength < UdpHeader.size := Nat.not_lt.mpr hlong
  have hstop : checkedAdd offset availableLength = some (offset + availableLength) :=
    checkedAdd_eq_some.mpr ⟨by omega, rfl⟩
  have hfit : ¬ raw.len < offset + availableLength := by omega
  have hstart : (addU offset UdpHeader.size : Checked EngineError Nat) = .ok (offset + 8) :=
    if_pos (show offset + 8 < usizeSize by omega)
  have hpayload : (subU s.length.toNat UdpHeader.size : Checked EngineError Nat) =
      .ok (s.length.toNat - 8) := if_pos hmin
  unfold parseAtWithLength
  simp only [rejectIf, if_neg hshort, hstop, orFail, if_neg hfit, hsource, hdestination, hlength,
    hchecksum, if_neg hfloor, hstart, hpayload, bind, Except.bind]
  -- The length field speaks of the datagram, `availableLength` of the fragment.
  -- So the comparison fails exactly when something of the datagram is missing here.
  by_cases hcut : availableLength < s.length.toNat
  · rw [if_pos hcut, if_pos hcut]
    rfl
  · rw [if_neg hcut, if_neg hcut]
    rfl

end Udp

namespace Segment

/-- The segment announces no more than `length` bytes. -/
def Fits (length : Nat) : Segment → Prop
  | tcp _ => True
  | udp s => s.length.toNat ≤ length

def transport : Segment → TransportProtocol
  | tcp _ => .tcp
  | udp _ => .udp

theorem ipv4Transport_protocol (s : Segment) :
    ParsedPacket.ipv4Transport s.protocol = s.transport := by
  cases s with
  | tcp _ => rfl
  | udp _ => rfl

theorem ipv6Transport_protocol (s : Segment) :
    ParsedPacket.ipv6Transport s.protocol = s.transport := by
  cases s with
  | tcp _ => rfl
  | udp _ => rfl

end Segment

namespace ParsedPacket

variable {raw : Bytes} {offset length : Nat} {s : Segment}

theorem transportPorts_shows (h : Bytes.Shows raw offset length s.bytes)
    (hlong : s.headerLength ≤ length) (hfits : s.Fits length) :
    transportPorts raw s.transport offset length =
      .ok (some s.sourcePort, some s.destinationPort) := by
  cases s with
  | tcp s =>
    -- The caller's own test for twenty bytes, in front of the one in `tcp.rs`.
    have hheader : ¬ length < 20 := Nat.not_lt.mpr (Nat.le_trans (Nat.le_add_right _ _) hlong)
    obtain ⟨r, hr, hsource, hdestination⟩ := Tcp.parseAtWithLength_shows h hlong
    simp only [Segment.transport, transportPorts, if_neg hheader, hr, bind, Except.bind, hsource,
      hdestination]
    rfl
  | udp s =>
    have hheader : ¬ length < UdpHeader.size := Nat.not_lt.mpr hlong
    have hr := Udp.parseAtWithLength_shows h hlong
    rw [if_neg (Nat.not_lt.mpr hfits)] at hr
    simp only [Segment.transport, transportPorts, if_neg hheader, hr, bind, Except.bind]
    rfl

/-- A UDP header that announces more than it is shown is rejected. -/
theorem transportPorts_cut (h : Bytes.Shows raw offset length s.bytes)
    (hlong : s.headerLength ≤ length) (hcut : ¬ s.Fits length) :
    transportPorts raw s.transport offset length = fail .packetMalformed := by
  cases s with
  | tcp s => exact absurd trivial hcut
  | udp s =>
    have hheader : ¬ length < UdpHeader.size := Nat.not_lt.mpr hlong
    have hr := Udp.parseAtWithLength_shows h hlong
    rw [if_pos (Nat.not_le.mp hcut)] at hr
    simp only [Segment.transport, transportPorts, if_neg hheader, hr]
    rfl

end ParsedPacket

/-- A header that is no transport header has no ports. -/
theorem ParsedPacket.fragmentPorts_unknown (laterFragment : Bool) (raw : Bytes)
    (payloadOffset payloadLength : Nat) :
    fragmentPorts laterFragment raw .unknown payloadOffset payloadLength = .ok (none, none) := by
  cases laterFragment with
  | true => rfl
  | false => rfl

theorem ParsedPacket.fragmentPorts_extension (e : Extension) (laterFragment : Bool) (raw : Bytes)
    (payloadOffset payloadLength : Nat) :
    fragmentPorts laterFragment raw (ipv6Transport e.headerType) payloadOffset payloadLength =
      .ok (none, none) := by
  have hunknown : ipv6Transport e.headerType = .unknown := by
    cases e with
    | options kind => cases kind <;> rfl
    | authentication => rfl
    | fragment => rfl
  rw [hunknown, fragmentPorts_unknown]

/-! ## 2. IPv4 -/

theorem versionByte_four (n : Nat) (h : n ≤ 10) :
    UInt8.ofNat (64 + (5 + n)) >>> 4 = 4 ∧ (UInt8.ofNat (64 + (5 + n)) &&& 0x0f).toNat = 5 + n := by
  -- Eleven header lengths, from no options to forty bytes of them.
  have hall : ∀ n : Fin 11, UInt8.ofNat (64 + (5 + n)) >>> 4 = 4 ∧
      (UInt8.ofNat (64 + (5 + n)) &&& 0x0f).toNat = 5 + n := by decide
  exact hall ⟨n, Nat.lt_succ_of_le h⟩

/-- Below the flags stands the offset. -/
theorem fragmentFlags_offset (d : Ipv4Datagram) (p : Piece Ipv4Envelope) (h : p.offset < 2 ^ 13) :
    d.fragmentFlags p &&& 0x1fff = UInt16.ofNat p.offset := by
  -- Neither flag is below bit thirteen.
  have hflags : ∀ dontFragment more : Bool,
      ((if dontFragment then 0x4000 else 0) ||| (if more then 0x2000 else 0) : UInt16).toNat &&&
        (2 ^ 13 - 1) = 0 := by decide
  apply UInt16.toNat_inj.mp
  rw [UInt16.toNat_and, Ipv4Datagram.fragmentFlags, UInt16.toNat_or, UInt16.toNat_ofNat']
  show (_ ||| p.offset % 2 ^ 16) &&& (2 ^ 13 - 1) = p.offset % 2 ^ 16
  rw [Nat.and_or_distrib_right, hflags, Nat.zero_or, Nat.and_two_pow_sub_one_eq_mod]
  omega

theorem Ipv4Datagram.fragment_eq (d : Ipv4Datagram) (p : Piece Ipv4Envelope) :
    ∃ header, header.length = 20 + p.envelope.options.length ∧
      d.fragment p = header ++ p.data := by
  refine ⟨UInt8.ofNat (64 + (5 + p.envelope.options.length / 4)) :: p.envelope.service ::
    (Bytes.toBe16 (UInt16.ofNat (20 + p.envelope.options.length + p.data.length)) ++
      (Bytes.toBe16 d.identification ++ (Bytes.toBe16 (d.fragmentFlags p) ++
        (p.envelope.ttl :: d.segment.protocol :: (Bytes.toBe16 p.envelope.checksum ++
          (d.source.bytes ++ (d.destination.bytes ++ p.envelope.options))))))), ?_, ?_⟩
  · simp only [Bytes.toBe16, Ipv4Addr.bytes, List.length_cons, List.length_append, List.length_nil]
    omega
  · simp only [fragment, List.cons_append, List.append_assoc]

theorem Ipv4Datagram.fragment_length (d : Ipv4Datagram) (p : Piece Ipv4Envelope) :
    (d.fragment p).length = 20 + p.envelope.options.length + p.data.length := by
  obtain ⟨header, hheader, hbytes⟩ := d.fragment_eq p
  rw [hbytes, List.length_append, hheader]

theorem Ipv4.parseAt_fragment {raw : Bytes} {d : Ipv4Datagram} {p : Piece Ipv4Envelope}
    {padding : List UInt8} (h : raw.toList = d.fragment p ++ padding) (hoffset : p.offset < 2 ^ 13)
    (htotal : 20 + p.envelope.options.length + p.data.length < 2 ^ 16) :
    Returns (Ipv4.parseAt raw 0) fun r =>
      r.header.protocol = d.segment.protocol ∧ r.header.fragmentOffset = UInt16.ofNat p.offset ∧
        r.payloadOffset = 20 + p.envelope.options.length ∧ r.payloadLength = p.data.length := by
  have hlen : raw.len = (d.fragment p).length + padding.length := by
    rw [Bytes.len, h, List.length_append]
  rw [d.fragment_length] at hlen
  have hshow := Bytes.Shows.self raw
  have hwords := p.envelope.options_words
  have hoptions := p.envelope.options_length
  -- The header length nibble counts the options of this fragment, not of the datagram.
  obtain ⟨hversion, hihl⟩ := versionByte_four (p.envelope.options.length / 4) (by omega)
  have hsize : 2 ^ 32 < usizeSize := by decide
  have hword : (UInt16.ofNat (20 + p.envelope.options.length + p.data.length)).toNat =
      20 + p.envelope.options.length + p.data.length := by
    rw [UInt16.toNat_ofNat', Nat.mod_eq_of_lt htotal]
  have hfive : ¬ UInt8.ofNat (64 + (5 + p.envelope.options.length / 4)) &&& 0x0f < 5 := by
    rw [UInt8.lt_iff_toNat_lt, hihl]
    show ¬ _ < 5
    omega
  refine .bind (.addU (by omega) <| .bind (.rejectIf (by omega) ?_))
  refine .bind (.read (Bytes.index_eq_ok (by rw [h]; rfl)) ?_)
  refine .bind (.rejectIf (not_not.mpr hversion) <| .bind (.rejectIf hfive ?_))
  refine .bind (.checkedMul (by omega) <| .bind (.addU (by omega) ?_))
  refine .bind (.rejectIf (by omega) <| .bind (.byteAt (by omega) fun _ => ?_))
  refine .bind (.read (hshow.be16At (by omega) (by rw [h]; rfl) (by rw [h]; rfl)) ?_)
  -- The total length covers the header and the piece, and what follows is padding.
  refine .bind (.rejectIf (by omega) <| .bind (.checkedAdd (by omega) ?_))
  refine .bind (.rejectIf (by omega) <| .bind (.be16At (by omega) fun _ => ?_))
  refine .bind (.read (hshow.be16At (by omega) (by rw [h]; rfl) (by rw [h]; rfl)) ?_)
  refine .bind (.byteAt (by omega) fun _ => ?_)
  refine .bind (.read (hshow.byteAt (by omega) (by rw [h]; rfl)) ?_)
  refine .bind (.be16At (by omega) fun _ => ?_)
  refine .call (Ipv4Addr.readAt_returns (by omega)) fun _ _ => ?_
  refine .call (Ipv4Addr.readAt_returns (by omega)) fun _ _ => ?_
  refine .bind (.addU (by omega) <| .bind (.subU (by omega) <| .pure ?_))
  -- What is left are the four facts the caller asks for, in words of the layout.
  exact ⟨rfl, fragmentFlags_offset d p hoffset, by simp only [hihl]; omega,
    by simp only [hword, hihl]; omega⟩

namespace ParsedPacket

/-- What `parse_ipv4` reports of a fragment. -/
theorem parseIpv4_fragment (source : BackendSource) {raw : Bytes} {d : Ipv4Datagram}
    {p : Piece Ipv4Envelope} {padding : List UInt8} (h : raw.toList = d.fragment p ++ padding)
    (hoffset : p.offset < 2 ^ 13)
    (htotal : 20 + p.envelope.options.length + p.data.length < 2 ^ 16) :
    ports <$> parseIpv4 source raw 0 =
      fragmentPorts (UInt16.ofNat p.offset != 0) raw d.segment.transport
        (20 + p.envelope.options.length) p.data.length := by
  obtain ⟨r, hr, hprotocol, hfragment, hstart, hlength⟩ := Ipv4.parseAt_fragment h hoffset htotal
  unfold parseIpv4
  simp only [hr, bind, Except.bind, hprotocol, hfragment, hstart, hlength,
    d.segment.ipv4Transport_protocol]
  cases fragmentPorts (UInt16.ofNat p.offset != 0) raw d.segment.transport
    (20 + p.envelope.options.length) p.data.length with
  | error e => rfl
  | ok ports => rfl

end ParsedPacket

/-! ## 3. IPv6 -/

theorem versionByte_six (trafficClass : UInt8) :
    UInt8.ofNat (96 + trafficClass.toNat / 16) >>> 4 = 6 := by
  have hall : ∀ n : Fin 16, UInt8.ofNat (96 + n) >>> 4 = 6 := by decide
  have hclass := trafficClass.toNat_lt
  exact hall ⟨trafficClass.toNat / 16, by omega⟩

namespace Ipv6Fragmentation

variable {d : Ipv6Datagram} (f : Ipv6Fragmentation d) (p : Piece Ipv6Envelope)

theorem fragmentHeader_length : (f.fragmentHeader p).length = 8 := by
  simp only [fragmentHeader, Bytes.toBe16, List.length_cons, List.length_append, List.length_nil,
    Vector.length_toList]

/-- The fixed header, and what follows it. -/
theorem fragment_eq : ∃ fixed, fixed.length = 40 ∧ f.fragment p =
    fixed ++ (Extension.chainBytes 44 p.envelope.extensions ++ (f.fragmentHeader p ++ p.data)) := by
  refine ⟨({ d with trafficClass := p.envelope.trafficClass } : Ipv6Datagram).versionBytes ++
    (Bytes.toBe16 (payloadLength p) ++ (Extension.chainType 44 p.envelope.extensions ::
      p.envelope.hopLimit :: (d.source.octets.toList ++ d.destination.octets.toList))), ?_, ?_⟩
  · simp only [Ipv6Datagram.versionBytes, Bytes.toBe16, List.length_cons, List.length_append,
      List.length_nil, Vector.length_toList]
  · simp only [fragment, List.append_assoc, List.cons_append]

/-- Where the payload of a fragment ends in its packet. -/
def payloadEnd (p : Piece Ipv6Envelope) : Nat :=
  40 + ((Extension.chainBytes 44 p.envelope.extensions).length + 8 + p.data.length)

theorem fragment_length : (f.fragment p).length = payloadEnd p := by
  obtain ⟨fixed, hfixed, hbytes⟩ := f.fragment_eq p
  rw [hbytes, payloadEnd]
  simp only [List.length_append, hfixed, f.fragmentHeader_length p]
  omega

variable {f p} in
theorem payloadEnd_le {raw : Bytes} {padding : List UInt8}
    (h : raw.toList = f.fragment p ++ padding) : payloadEnd p ≤ raw.len := by
  rw [Bytes.len, h, List.length_append, f.fragment_length p]
  exact Nat.le_add_right _ _

theorem parseAt_fragment {raw : Bytes} {padding : List UInt8} {w : Ipv6.Walk}
    (h : raw.toList = f.fragment p ++ padding)
    (hpayload : (Extension.chainBytes 44 p.envelope.extensions).length + 8 + p.data.length < 2 ^ 16)
    (hwalk : Ipv6.walk raw (payloadEnd p) 16
      ⟨40, Extension.chainType 44 p.envelope.extensions, [], false, true⟩ = .ok w) :
    Returns (Ipv6.parseAt raw 0) fun r =>
      r.header.nextHeader = Extension.chainType 44 p.envelope.extensions ∧
        r.transportOffset = w.currentOffset ∧
        r.transportLength = payloadEnd p - w.currentOffset ∧
        r.extensions = w.extensions ∧ r.fragmented = w.fragmented ∧
        r.firstFragment = w.firstFragment := by
  have hlong := payloadEnd_le h
  rw [payloadEnd] at hlong
  have hshow := Bytes.Shows.self raw
  have hsize : 2 ^ 32 < usizeSize := by decide
  have hword : (payloadLength p).toNat =
      (Extension.chainBytes 44 p.envelope.extensions).length + 8 + p.data.length := by
    rw [payloadLength, UInt16.toNat_ofNat', Nat.mod_eq_of_lt hpayload]
  refine .bind (.addU (by omega) <| .bind (.rejectIf (by omega) ?_))
  refine .bind (.read (Bytes.index_eq_ok (by rw [h]; rfl)) ?_)
  refine .bind (.rejectIf (not_not.mpr (versionByte_six p.envelope.trafficClass)) ?_)
  refine .bind (.byteAt (by omega) fun _ => .bind (.byteAt (by omega) fun _ => ?_))
  refine .bind (.byteAt (by omega) fun _ => ?_)
  refine .bind (.read (hshow.be16At (by omega) (by rw [h]; rfl) (by rw [h]; rfl)) ?_)
  refine .bind (.read (hshow.byteAt (by omega) (by rw [h]; rfl)) ?_)
  refine .bind (.byteAt (by omega) fun _ => ?_)
  refine .call (Ipv6Addr.readAt_returns rfl (by omega)) fun _ _ => ?_
  refine .call (Ipv6Addr.readAt_returns rfl (by omega)) fun _ _ => ?_
  refine .bind (.addU (by omega) <| .bind (.checkedAdd (by omega) ?_))
  refine .bind (.rejectIf (by omega) ?_)
  -- The payload length field covers the whole chain, so the walk may go up to the last byte.
  have hstop : 0 + 40 + (payloadLength p).toNat = payloadEnd p := by
    rw [hword, payloadEnd]
  rw [hstop]
  exact .bind (.read hwalk <| .pure ⟨rfl, rfl, rfl, rfl, rfl, rfl⟩)

/-- What `parse_ipv6` reports of a fragment, from where its walk ends. -/
theorem parseIpv6_fragment (source : BackendSource) {raw : Bytes} {padding : List UInt8}
    {w : Ipv6.Walk} {header : UInt8}
    (h : raw.toList = f.fragment p ++ padding)
    (hpayload : (Extension.chainBytes 44 p.envelope.extensions).length + 8 + p.data.length < 2 ^ 16)
    (hwalk : Ipv6.walk raw (payloadEnd p) 16
      ⟨40, Extension.chainType 44 p.envelope.extensions, [], false, true⟩ = .ok w)
    (hannounced : (w.extensions.getLast?.map (·.nextHeader)).getD
      (Extension.chainType 44 p.envelope.extensions) = header) :
    ParsedPacket.ports <$> ParsedPacket.parseIpv6 source raw 0 =
      ParsedPacket.fragmentPorts (!w.firstFragment && w.fragmented) raw
        (ParsedPacket.ipv6Transport header) w.currentOffset (payloadEnd p - w.currentOffset) := by
  obtain ⟨r, hr, hnext, hoffset, hlength, hextensions, hfragmented, hfirst⟩ :=
    f.parseAt_fragment p h hpayload hwalk
  unfold ParsedPacket.parseIpv6
  simp only [hr, bind, Except.bind, hnext, hoffset, hlength, hextensions, hfragmented, hfirst,
    hannounced]
  cases ParsedPacket.fragmentPorts (!w.firstFragment && w.fragmented) raw
    (ParsedPacket.ipv6Transport header) w.currentOffset (payloadEnd p - w.currentOffset) with
  | error e => rfl
  | ok ports => rfl

/-- Above the three low bits of the field stands the offset. -/
theorem fragmentField_offset (hoffset : p.offset < 2 ^ 13) :
    ((fragmentField p >>> 3) &&& 0x1fff).toNat = p.offset := by
  -- Three low bits: two reserved ones and the flag.
  have hbits := p.envelope.reservedBits.isLt
  have hmore := p.more.toNat_le
  rw [fragmentField, UInt16.toNat_and, UInt16.toNat_shiftRight, UInt16.toNat_ofNat']
  show (((8 * p.offset + 2 * p.envelope.reservedBits + p.more.toNat) % 2 ^ 16) >>> 3) &&&
    (2 ^ 13 - 1) = p.offset
  rw [Nat.and_two_pow_sub_one_eq_mod, Nat.shiftRight_eq_div_pow]
  omega

/-- The fragment header of the first fragment, as a header of its chain. -/
def firstHeader : Extension :=
  .fragment f.cut.first.1.reserved
    (UInt8.ofNat (2 * f.cut.first.1.reservedBits + (!f.cut.later.isEmpty).toNat)) f.identification
    (by
      have hall : ∀ (bits : Fin 4) (more : Bool), UInt8.ofNat (2 * bits + more.toNat) < 8 := by
        decide
      exact hall _ _)

/-- Every header of the first fragment behind the fixed one. -/
def firstChain : List Extension := f.cut.first.1.extensions ++ f.firstHeader :: f.rest

theorem firstChain_length : f.firstChain.length = d.extensions.length + 1 := by
  rw [firstChain, ← f.extensions_eq]
  simp only [List.length_append, List.length_cons, Nat.add_assoc]

theorem fragmentHeader_first : f.fragmentHeader f.cut.firstPiece =
    f.firstHeader.bytes (Extension.chainType d.segment.protocol f.rest) := by
  -- At offset zero the high byte of the field is zero.
  have hall : ∀ (bits : Fin 4) (more : Bool),
      Bytes.toBe16 (UInt16.ofNat (8 * 0 + 2 * bits + more.toNat)) =
        [0, UInt8.ofNat (2 * bits + more.toNat)] := by decide
  have hfield := hall f.cut.first.1.reservedBits (!f.cut.later.isEmpty)
  rw [fragmentHeader, fragmentField]
  simp only [Cut.firstPiece, hfield, firstHeader, Extension.bytes, List.cons_append,
    List.nil_append]

/-- The first fragment is its chain of headers and the front of the segment. -/
theorem first_eq : ∃ fixed data, fixed.length = 40 ∧
    f.cut.first.2 = Extension.chainBytes d.segment.protocol f.rest ++ data ∧
    data ++ (f.cut.later.map Prod.snd).flatten = d.segment.bytes ∧
    f.fragment f.cut.firstPiece =
      fixed ++ (Extension.chainBytes d.segment.protocol f.firstChain ++ data) := by
  have hjoin := f.cut.join
  have hlong := f.cut.header_le
  -- The headers `rest` are a part of the first piece, and the segment starts behind them.
  have hprefix : Extension.chainBytes d.segment.protocol f.rest <+: f.cut.first.2 :=
    List.prefix_of_prefix_length_le ⟨_, rfl⟩ ⟨_, hjoin⟩ (by omega)
  obtain ⟨data, hdata⟩ := hprefix
  obtain ⟨fixed, hfixed, hbytes⟩ := f.fragment_eq f.cut.firstPiece
  refine ⟨fixed, data, hfixed, hdata.symm, ?_, ?_⟩
  · rw [← hdata, List.append_assoc] at hjoin
    exact List.append_cancel_left hjoin
  · rw [hbytes, f.fragmentHeader_first, firstChain, Extension.chainBytes_append]
    simp only [Cut.firstPiece, ← hdata, Extension.chainBytes, List.append_assoc]
    rfl

theorem chainType_first : Extension.chainType 44 f.cut.first.1.extensions =
    Extension.chainType d.segment.protocol f.firstChain := by
  rw [firstChain, Extension.chainType_append]
  rfl

/-- The walk over a fragment starts in front of its chain. -/
theorem stands_start {fixed : List UInt8} {nextHeader header : UInt8} (hfixed : fixed.length = 40)
    (h : nextHeader = header) :
    Ipv6.StandsAt nextHeader fixed.length header ⟨40, nextHeader, [], false, true⟩ :=
  ⟨hfixed.symm, h, h, rfl⟩

/-- The bytes of a first fragment, and where its payload ends. -/
theorem first_raw {raw : Bytes} {padding : List UInt8}
    (h : raw.toList = f.fragment f.cut.firstPiece ++ padding) :
    ∃ fixed data, fixed.length = 40 ∧
      f.cut.first.2 = Extension.chainBytes d.segment.protocol f.rest ++ data ∧
      data ++ (f.cut.later.map Prod.snd).flatten = d.segment.bytes ∧
      raw.toList =
        fixed ++ (Extension.chainBytes d.segment.protocol f.firstChain ++ (data ++ padding)) ∧
      payloadEnd f.cut.firstPiece =
        fixed.length + (Extension.chainBytes d.segment.protocol f.firstChain).length +
          data.length := by
  obtain ⟨fixed, data, hfixed, hfirst, hsegment, hbytes⟩ := f.first_eq
  refine ⟨fixed, data, hfixed, hfirst, hsegment, ?_, ?_⟩
  · rw [h, hbytes]
    simp only [List.append_assoc]
  · rw [← f.fragment_length, hbytes]
    simp only [List.length_append, Nat.add_assoc]

/-- A first fragment with at most sixteen headers is read at its transport header. -/
theorem parseIpv6_first (source : BackendSource) {raw : Bytes} {padding : List UInt8}
    (h : raw.toList = f.fragment f.cut.firstPiece ++ padding) (hfew : d.extensions.length < 16) :
    ∃ offset length, Bytes.Shows raw offset length d.segment.bytes ∧
      f.cut.first.2.length =
        (Extension.chainBytes d.segment.protocol f.rest).length + length ∧
      ParsedPacket.ports <$> ParsedPacket.parseIpv6 source raw 0 =
        ParsedPacket.transportPorts raw d.segment.transport offset length := by
  have hin := payloadEnd_le h
  have hpayload := f.payload_lt f.cut.first List.mem_cons_self
  obtain ⟨fixed, data, hfixed, hfirst, hsegment, hraw, hend⟩ := f.first_raw h
  obtain ⟨w, hw, hwalk⟩ := Ipv6.walk_chain hraw (by omega) hin
    (stands_start hfixed f.chainType_first) (16 - f.firstChain.length)
  have hfuel : f.firstChain.length + (16 - f.firstChain.length) = 16 := by
    rw [f.firstChain_length]
    omega
  -- All headers are taken, and the walk stops with rounds to spare.
  rw [hfuel, Ipv6.walk_transport d.segment hw.header_eq] at hwalk
  have hports := f.parseIpv6_fragment f.cut.firstPiece source h hpayload hwalk hw.announced
  rw [hw.first, hw.offset_eq, hend, Nat.add_sub_cancel_left, d.segment.ipv6Transport_protocol]
    at hports
  refine ⟨_, data.length, ?_, ?_, hports⟩
  · rw [← List.length_append]
    exact .of_append (by rw [hraw, List.append_assoc]) hsegment
  · rw [hfirst, List.length_append]

/-- Behind sixteen headers the walk gives up in front of another one: no transport, no ports. -/
theorem parseIpv6_first_long (source : BackendSource) {raw : Bytes} {padding : List UInt8}
    (h : raw.toList = f.fragment f.cut.firstPiece ++ padding) (hmany : 16 ≤ d.extensions.length) :
    ParsedPacket.ports <$> ParsedPacket.parseIpv6 source raw 0 = .ok (none, none) := by
  have hin := payloadEnd_le h
  have hpayload := f.payload_lt f.cut.first List.mem_cons_self
  have hlength := f.firstChain_length
  obtain ⟨fixed, data, hfixed, hfirst, hsegment, hraw, hend⟩ := f.first_raw h
  obtain ⟨w, offset, hw, hwalk⟩ := Ipv6.walk_rounds hraw (by omega) hin
    (stands_start hfixed f.chainType_first) (show 16 ≤ f.firstChain.length by omega)
  -- Sixteen headers are taken and one more is left in front.
  rw [f.parseIpv6_fragment f.cut.firstPiece source h hpayload hwalk hw.announced,
    List.drop_eq_getElem_cons (show 16 < f.firstChain.length by omega)]
  exact ParsedPacket.fragmentPorts_extension _ _ _ _ _

/-- A later fragment has no ports, whether the walk reaches its fragment header or not. -/
theorem parseIpv6_later (source : BackendSource) {raw : Bytes} {padding : List UInt8}
    {p : Piece Ipv6Envelope} (h : raw.toList = f.fragment p ++ padding)
    (hpayload : (Extension.chainBytes 44 p.envelope.extensions).length + 8 + p.data.length < 2 ^ 16)
    (hpos : 0 < p.offset) (hoffset : p.offset < 2 ^ 13) :
    ParsedPacket.ports <$> ParsedPacket.parseIpv6 source raw 0 = .ok (none, none) := by
  have hin := payloadEnd_le h
  obtain ⟨fixed, hfixed, hbytes⟩ := f.fragment_eq p
  have hraw : raw.toList = fixed ++ (Extension.chainBytes 44 p.envelope.extensions ++
      (f.fragmentHeader p ++ (p.data ++ padding))) := by
    rw [h, hbytes]
    simp only [List.append_assoc]
  -- The padding is behind the payload, and the walk never looks at it.
  have hend : payloadEnd p = fixed.length +
      ((Extension.chainBytes 44 p.envelope.extensions).length + 8 + p.data.length) := by
    rw [hfixed, payloadEnd]
  by_cases hfew : p.envelope.extensions.length < 16
  · -- A round is left for the fragment header, and there the walk stops.
    obtain ⟨w, hw, hwalk⟩ := Ipv6.walk_chain hraw (by omega) hin (stands_start hfixed rfl)
      (15 - p.envelope.extensions.length + 1)
    have hfuel : p.envelope.extensions.length + (15 - p.envelope.extensions.length + 1) = 16 := by
      omega
    have hfield : (fragmentField p >>> 3) &&& 0x1fff ≠ 0 := by
      intro hzero
      have hvalue := fragmentField_offset p hoffset
      rw [hzero] at hvalue
      exact absurd hvalue.symm (Nat.ne_of_gt hpos)
    rw [← List.length_append] at hw
    obtain ⟨w', hlater, hannounced, hfragmented, hfirst⟩ := Ipv6.walk_later
      (hraw.trans (List.append_assoc ..).symm) (by rw [List.length_append]; omega) hin hfield hw
      (15 - p.envelope.extensions.length)
    rw [hfuel, hlater] at hwalk
    rw [f.parseIpv6_fragment p source h hpayload hwalk hannounced, hfirst, hfragmented]
    rfl
  · -- The rounds run out in front of an extension header, or of the fragment header itself.
    obtain ⟨w, offset, hw, hwalk⟩ := Ipv6.walk_rounds hraw (by omega) hin (stands_start hfixed rfl)
      (show 16 ≤ p.envelope.extensions.length by omega)
    rw [f.parseIpv6_fragment p source h hpayload hwalk hw.announced]
    cases p.envelope.extensions.drop 16 with
    | nil => exact ParsedPacket.fragmentPorts_unknown _ _ _ _
    | cons e es => exact ParsedPacket.fragmentPorts_extension _ _ _ _ _

end Ipv6Fragmentation

/-! ## 4. Every fragment of a datagram -/

/-- What holds of a packet at the IP layer, whatever follows it, holds wherever it is delivered. -/
theorem yieldsPorts_iff (source : BackendSource) {etherType : UInt16} {packet : List UInt8}
    {ports : Ports} {condition : Prop} (hlength : packet.length ≤ isizeMax)
    (hcarries : ∀ (raw : Bytes) padding, raw.toList = packet ++ padding →
      ParsedPacket.Carries etherType raw)
    (hports : ∀ (raw : Bytes) padding, raw.toList = packet ++ padding →
      (ParsedPacket.ports <$> ParsedPacket.parseBytes source raw .ip = .ok ports ↔ condition)) :
    YieldsPorts source etherType packet ports ↔ condition := by
  -- The packet alone is one of its deliveries; in a frame it only moves.
  constructor
  · intro h
    exact (hports ⟨packet, hlength⟩ [] (List.append_nil _).symm).mp (h _ _ (.ip rfl))
  · intro hcondition raw layer hdelivered
    cases hdelivered with
    | ip hraw =>
      exact (hports raw [] (hraw.trans (List.append_nil _).symm)).mpr hcondition
    | ethernet destination sourceMac tags padding htags hraw =>
      have hfit : (packet ++ padding).length ≤ isizeMax := by
        have hlen := raw.length_le
        rw [hraw, List.length_append] at hlen
        omega
      have hp := hports ⟨packet ++ padding, hfit⟩ padding rfl
      rw [ParsedPacket.parseBytes_ethernet_carries source hraw
        (hcarries ⟨packet ++ padding, hfit⟩ padding rfl) htags]
      -- Moving the packet behind the frame's header changes no port.
      have hmoved : ∀ k (x : Checked EngineError ParsedPacket),
          ParsedPacket.ports <$> ParsedPacket.shift k <$> x = ParsedPacket.ports <$> x := by
        intro k x
        cases x with
        | error e => rfl
        | ok r => rfl
      rw [hmoved]
      exact hp.mpr hcondition

namespace Segment

theorem fits_iff (s : Segment) (hcomplete : s.Complete) (length : Nat) :
    s.Fits length ↔ s.protocol = 6 ∨ s.bytes.length ≤ length := by
  cases s with
  | tcp s => exact iff_of_true trivial (.inl rfl)
  | udp s =>
    -- A complete UDP datagram announces exactly its own bytes.
    have hlength : (Segment.udp s).bytes.length = s.length.toNat := by
      rw [show s.length.toNat = _ from hcomplete]
      simp only [bytes, UdpSegment.bytes, Bytes.toBe16, List.length_append, List.length_cons,
        List.length_nil]
      omega
    have hprotocol : ¬ (Segment.udp s).protocol = 6 := by
      show ¬ (17 : UInt8) = 6
      decide
    rw [hlength, or_iff_right hprotocol]
    rfl

end Segment

namespace ParsedPacket

/-- The ports of a first fragment come out exactly when its segment is TCP or is all there. -/
theorem transportPorts_eq_ok_iff {raw : Bytes} {offset length : Nat} {s : Segment}
    (h : Bytes.Shows raw offset length s.bytes) (hlong : s.headerLength ≤ length)
    (hcomplete : s.Complete) :
    transportPorts raw s.transport offset length = .ok (some s.sourcePort, some s.destinationPort) ↔
      s.protocol = 6 ∨ s.bytes.length ≤ length := by
  rw [← s.fits_iff hcomplete]
  by_cases hfits : s.Fits length
  · exact iff_of_true (transportPorts_shows h hlong hfits) hfits
  · apply iff_of_false _ hfits
    rw [transportPorts_cut h hlong hfits]
    intro hok
    cases hok

end ParsedPacket

namespace Ipv4Fragmentation

variable {d : Ipv4Datagram} (f : Ipv4Fragmentation d) (source : BackendSource)

theorem carries {raw : Bytes} {p : Piece Ipv4Envelope} {padding : List UInt8}
    (h : raw.toList = d.fragment p ++ padding) : ParsedPacket.Carries 0x0800 raw := by
  have hoptions := p.envelope.options_length
  have hversion := (versionByte_four (p.envelope.options.length / 4) (by omega)).1
  exact ⟨_, _, h, .inl ⟨hversion, rfl⟩⟩

theorem parseBytes_eq {raw : Bytes} {p : Piece Ipv4Envelope} {padding : List UInt8}
    (h : raw.toList = d.fragment p ++ padding) :
    ParsedPacket.parseBytes source raw .ip = ParsedPacket.parseIpv4 source raw 0 := by
  rcases ParsedPacket.parseBytes_ip source (carries h) with ⟨-, hparse⟩ | ⟨hsix, -⟩
  · exact hparse
  · exact absurd hsix (by decide)

theorem fragment_length_le {p : Piece Ipv4Envelope}
    (htotal : 20 + p.envelope.options.length + p.data.length < 2 ^ 16) :
    (d.fragment p).length ≤ isizeMax := by
  have hsize : 2 ^ 16 < isizeMax := by decide
  rw [d.fragment_length]
  omega

theorem first_yields_iff :
    YieldsPorts source 0x0800 (d.fragment f.cut.firstPiece)
        (some d.segment.sourcePort, some d.segment.destinationPort) ↔
      d.segment.protocol = 6 ∨ f.cut.later = [] := by
  have htotal := f.total_lt f.cut.first List.mem_cons_self
  apply yieldsPorts_iff source (fragment_length_le htotal) fun raw padding h => carries h
  intro raw padding h
  -- The piece starts behind the options of this fragment's header.
  obtain ⟨header, hheader, hbytes⟩ := d.fragment_eq f.cut.firstPiece
  have hraw : raw.toList = header ++ (f.cut.first.2 ++ padding) := by
    rw [h, hbytes, List.append_assoc]
    rfl
  have hshows : Bytes.Shows raw (20 + f.cut.first.1.options.length) f.cut.first.2.length
      d.segment.bytes := by
    rw [show 20 + f.cut.first.1.options.length = header.length from hheader.symm]
    exact .of_append hraw f.cut.join
  have hzero : f.cut.firstPiece.offset < 2 ^ 13 := Nat.two_pow_pos 13
  -- The offset of the first piece is zero, so the ports are looked for.
  rw [parseBytes_eq source h, ParsedPacket.parseIpv4_fragment source h hzero htotal,
    f.cut.later_eq_nil_iff]
  exact ParsedPacket.transportPorts_eq_ok_iff hshows f.cut.header_le (d.complete f.whole)

theorem later_yields {p : Piece Ipv4Envelope} (h : p ∈ f.cut.laterPieces) :
    YieldsPorts source 0x0800 (d.fragment p) (none, none) := by
  have hlt := d.total_lt
  obtain ⟨hmem, hpos, hoffset⟩ :=
    f.cut.of_mem_laterPieces d.segment.eight_le_headerLength (by omega) h
  have htotal := f.total_lt _ (List.mem_cons_of_mem _ hmem)
  -- A later piece stands behind at least one word, and the offset does not wrap.
  have hlater : (UInt16.ofNat p.offset != 0) = true := by
    rw [bne_iff_ne]
    intro hzero
    have hvalue := congrArg UInt16.toNat hzero
    rw [UInt16.toNat_ofNat', Nat.mod_eq_of_lt (Nat.lt_trans hoffset (by decide))] at hvalue
    exact absurd hvalue (Nat.ne_of_gt hpos)
  refine (yieldsPorts_iff source (fragment_length_le htotal) (fun raw padding h => carries h)
    fun raw padding h => iff_true_intro ?_).mpr trivial
  rw [parseBytes_eq source h, ParsedPacket.parseIpv4_fragment source h hoffset htotal, hlater]
  rfl

end Ipv4Fragmentation

namespace Ipv6Fragmentation

variable {d : Ipv6Datagram} (f : Ipv6Fragmentation d) (source : BackendSource)

theorem carries {raw : Bytes} {p : Piece Ipv6Envelope} {padding : List UInt8}
    (h : raw.toList = f.fragment p ++ padding) : ParsedPacket.Carries 0x86dd raw :=
  ⟨_, _, h, .inr ⟨versionByte_six _, rfl⟩⟩

theorem parseBytes_eq {raw : Bytes} {p : Piece Ipv6Envelope} {padding : List UInt8}
    (h : raw.toList = f.fragment p ++ padding) :
    ParsedPacket.parseBytes source raw .ip = ParsedPacket.parseIpv6 source raw 0 := by
  rcases ParsedPacket.parseBytes_ip source (f.carries h) with ⟨hfour, -⟩ | ⟨-, hparse⟩
  · exact absurd hfour (by decide)
  · exact hparse

theorem fragment_length_le {p : Piece Ipv6Envelope}
    (hpayload : (Extension.chainBytes 44 p.envelope.extensions).length + 8 + p.data.length <
      2 ^ 16) : (f.fragment p).length ≤ isizeMax := by
  have hsize : 2 ^ 17 < isizeMax := by decide
  rw [f.fragment_length, payloadEnd]
  omega

theorem first_yields_iff :
    YieldsPorts source 0x86dd (f.fragment f.cut.firstPiece)
        (some d.segment.sourcePort, some d.segment.destinationPort) ↔
      (d.segment.protocol = 6 ∨ f.cut.later = []) ∧ d.extensions.length < 16 := by
  have hpayload := f.payload_lt f.cut.first List.mem_cons_self
  apply yieldsPorts_iff source (f.fragment_length_le hpayload) fun raw padding h => f.carries h
  intro raw padding h
  rw [f.parseBytes_eq source h]
  by_cases hfew : d.extensions.length < 16
  · obtain ⟨offset, length, hshows, hlength, hports⟩ := f.parseIpv6_first source h hfew
    have hheader := f.cut.header_le
    -- The headers `rest` are whole in the first piece, so only the segment can be cut.
    have hall : f.cut.later = [] ↔ d.segment.bytes.length ≤ length := by
      rw [f.cut.later_eq_nil_iff, List.length_append, hlength, Nat.add_le_add_iff_left]
    rw [hports, hall, and_iff_left hfew]
    exact ParsedPacket.transportPorts_eq_ok_iff hshows (by omega) (d.complete f.whole)
  · apply iff_of_false
    · rw [f.parseIpv6_first_long source h (Nat.not_lt.mp hfew)]
      intro hnone
      cases hnone
    · exact fun hboth => hfew hboth.2

theorem later_yields {p : Piece Ipv6Envelope} (h : p ∈ f.cut.laterPieces) :
    YieldsPorts source 0x86dd (f.fragment p) (none, none) := by
  have hmessage : (Extension.chainBytes d.segment.protocol f.rest ++ d.segment.bytes).length <
      2 ^ 16 := by
    -- What is cut is part of the datagram's payload.
    have hlt := d.payload_lt
    rw [← f.extensions_eq, Extension.chainBytes_append, List.length_append] at hlt
    rw [List.length_append]
    omega
  have hheader := d.segment.eight_le_headerLength
  obtain ⟨hmem, hpos, hoffset⟩ := f.cut.of_mem_laterPieces (by omega) hmessage h
  have hpayload := f.payload_lt _ (List.mem_cons_of_mem _ hmem)
  refine (yieldsPorts_iff source (f.fragment_length_le hpayload) (fun raw padding h => f.carries h)
    fun raw padding h => iff_true_intro ?_).mpr trivial
  rw [f.parseBytes_eq source h]
  exact f.parseIpv6_later source h hpayload hpos hoffset

end Ipv6Fragmentation

/-- Every fragment of a datagram is accepted, the first with its ports and the later ones with
none, exactly when the datagram is TCP or was not really cut, and its extension headers leave room
for the fragment header in the walk. -/
theorem fragments_accepted_iff (source : BackendSource) {d : Datagram} (f : Fragmentation d) :
    f.Accepted source ↔ (d.segment.protocol = 6 ∨ f.later = []) ∧ d.extensionCount < 16 := by
  cases f with
  | ipv4 f =>
    have hlater : (Fragmentation.ipv4 f).later = [] ↔ f.cut.later = [] := by
      rw [Fragmentation.later, List.map_eq_nil_iff, f.cut.laterPieces_eq_nil_iff]
    -- IPv4 has no extension headers, and the second condition is empty.
    rw [hlater, and_iff_left (show Datagram.extensionCount (.ipv4 _) < 16 from Nat.zero_lt_succ _)]
    have hothers : ∀ packet ∈ (Fragmentation.ipv4 f).later,
        YieldsPorts source 0x0800 packet (none, none) := by
      intro packet hpacket
      obtain ⟨p, hp, rfl⟩ := List.mem_map.mp hpacket
      exact f.later_yields source hp
    exact (and_iff_left hothers).trans (f.first_yields_iff source)
  | ipv6 f =>
    have hlater : (Fragmentation.ipv6 f).later = [] ↔ f.cut.later = [] := by
      rw [Fragmentation.later, List.map_eq_nil_iff, f.cut.laterPieces_eq_nil_iff]
    rw [hlater]
    have hothers : ∀ packet ∈ (Fragmentation.ipv6 f).later,
        YieldsPorts source 0x86dd packet (none, none) := by
      intro packet hpacket
      obtain ⟨p, hp, rfl⟩ := List.mem_map.mp hpacket
      exact f.later_yields source hp
    exact (and_iff_left hothers).trans (f.first_yields_iff source)

/-- A UDP datagram of sixteen bytes from 10.0.0.1:53 to 10.0.0.2:4660, behind four bytes of
options. -/
def sixteenBytes : Ipv4Datagram where
  service := 0
  identification := 7
  dontFragment := false
  moreFragments := false
  ttl := 64
  checksum := 0
  source := ⟨10, 0, 0, 1⟩
  destination := ⟨10, 0, 0, 2⟩
  options := [1, 1, 1, 1]
  segment := .udp ⟨53, 4660, 24, 0, List.replicate 16 0, by decide⟩
  options_words := rfl
  options_length := by decide
  total_lt := by decide
  complete := fun _ => rfl

/-- `sixteenBytes` cut in the middle of its data. -/
def halves : Fragmentation (.ipv4 sixteenBytes) :=
  let envelope : Ipv4Envelope := ⟨0, 64, 0, sixteenBytes.options, sixteenBytes.options_words,
    sixteenBytes.options_length⟩
  .ipv4 {
    cut := {
      first := (envelope, sixteenBytes.segment.bytes.take 16)
      later := [(envelope, sixteenBytes.segment.bytes.drop 16)]
      join := by decide
      header_le := by decide
      words := by decide
      nonempty := by decide }
    whole := rfl
    total_lt := by decide }

theorem halves_rejected :
    ParsedPacket.parseBytes .npcap ⟨halves.first, by decide⟩ .ip = fail .packetMalformed ∧
      ¬ halves.Accepted .npcap := by
  have hparse : ParsedPacket.parseBytes .npcap ⟨halves.first, by decide⟩ .ip =
      fail .packetMalformed := by decide +kernel
  refine ⟨hparse, fun h => ?_⟩
  have hports := h.1 ⟨halves.first, by decide⟩ .ip (.ip rfl)
  rw [hparse] at hports
  cases hports

end NetworkEngine
