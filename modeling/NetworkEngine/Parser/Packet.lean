import NetworkEngine.Parser.Link
import NetworkEngine.Parser.Transport

/-!
# Packet — `ParsedPacket`

`packet_parser::ParsedPacket`: the two entry layers, the dispatch from the network header to the
transport header, and what holds of every input: no panic, a payload inside the packet, and
agreement of the two layers on a datagram and on the frames that carry it.
-/

namespace NetworkEngine

open Rust

/-! ## 1. The parser -/

inductive PacketInputLayer where
  | ethernet
  | ip
  deriving DecidableEq, Repr

inductive NetworkProtocol where
  | unknown
  | arp
  | ipv4
  | ipv6
  deriving DecidableEq, Repr

inductive TransportProtocol where
  | unknown
  | tcp
  | udp
  | icmp
  | icmpv6
  deriving DecidableEq, Repr

structure ParsedPacket where
  source : BackendSource
  protocol : NetworkProtocol
  transport : TransportProtocol
  payloadOffset : Nat
  payloadLength : Nat
  sourceIp : Option IpAddr
  destinationIp : Option IpAddr
  sourcePort : Option UInt16
  destinationPort : Option UInt16
  deriving DecidableEq, Repr

/-- Source and destination port. -/
abbrev Ports := Option UInt16 × Option UInt16

namespace ParsedPacket

/-- The ICMP and ICMPv6 arms: the header is checked and has no ports. -/
def checkIcmp (raw : Bytes) (payloadOffset payloadLength : Nat) : Checked EngineError Ports := do
  let stop ← addU payloadOffset payloadLength
  let body ← raw.slice payloadOffset stop
  let parsed ← IcmpPacket.parse body
  let _ ← orFail parsed .packetMalformed
  return (none, none)

/-- The `match transport` that `parse_ipv4` and `parse_ipv6` share.  `parse_ipv4` never selects
ICMPv6 and `parse_ipv6` never selects ICMP, so the arm each of them lacks is not reached. -/
def transportPorts (raw : Bytes) (transport : TransportProtocol)
    (payloadOffset payloadLength : Nat) : Checked EngineError Ports :=
  match transport with
  | .tcp =>
    if payloadLength < 20 then pure (none, none)
    else do
      let tcp ← Tcp.parseAtWithLength raw payloadOffset payloadLength
      return (some tcp.header.sourcePort, some tcp.header.destinationPort)
  | .udp =>
    if payloadLength < UdpHeader.size then pure (none, none)
    else do
      let udp ← Udp.parseAtWithLength raw payloadOffset payloadLength
      return (some udp.header.sourcePort, some udp.header.destinationPort)
  | .icmp =>
    if payloadLength < IcmpPacket.headerLen then pure (none, none)
    else checkIcmp raw payloadOffset payloadLength
  | .icmpv6 =>
    if payloadLength < IcmpV6Packet.headerLen then pure (none, none)
    else checkIcmp raw payloadOffset payloadLength
  | .unknown => pure (none, none)

/-- `if later_fragment { (None, None) } else { match transport .. }`. -/
def fragmentPorts (laterFragment : Bool) (raw : Bytes) (transport : TransportProtocol)
    (payloadOffset payloadLength : Nat) : Checked EngineError Ports :=
  if laterFragment then pure (none, none)
  else transportPorts raw transport payloadOffset payloadLength

/-- `match header.protocol`. -/
def ipv4Transport (protocol : UInt8) : TransportProtocol :=
  if protocol = 6 then .tcp
  else if protocol = 17 then .udp
  else if protocol = 1 then .icmp
  else .unknown

/-- `match next_header`. -/
def ipv6Transport (nextHeader : UInt8) : TransportProtocol :=
  if nextHeader = 6 then .tcp
  else if nextHeader = 17 then .udp
  else if nextHeader = 58 then .icmpv6
  else .unknown

def parseIpv4 (source : BackendSource) (raw : Bytes) (offset : Nat) :
    Checked EngineError ParsedPacket := do
  let parsed ← Ipv4.parseAt raw offset
  let transport := ipv4Transport parsed.header.protocol
  let ports ← fragmentPorts (parsed.header.fragmentOffset != 0) raw transport
    parsed.payloadOffset parsed.payloadLength
  return {
    source
    protocol := .ipv4
    transport
    payloadOffset := parsed.payloadOffset
    payloadLength := parsed.payloadLength
    sourceIp := some (.v4 parsed.header.source)
    destinationIp := some (.v4 parsed.header.destination)
    sourcePort := ports.1
    destinationPort := ports.2 }

def parseIpv6 (source : BackendSource) (raw : Bytes) (offset : Nat) :
    Checked EngineError ParsedPacket := do
  let parsed ← Ipv6.parseAt raw offset
  let nextHeader := (parsed.extensions.getLast?.map (·.nextHeader)).getD parsed.header.nextHeader
  let transport := ipv6Transport nextHeader
  let ports ← fragmentPorts (!parsed.firstFragment && parsed.fragmented) raw transport
    parsed.transportOffset parsed.transportLength
  return {
    source
    protocol := .ipv6
    transport
    payloadOffset := parsed.transportOffset
    payloadLength := parsed.transportLength
    sourceIp := some (.v6 parsed.header.source)
    destinationIp := some (.v6 parsed.header.destination)
    sourcePort := ports.1
    destinationPort := ports.2 }

def parseEthernet (source : BackendSource) (raw : Bytes) : Checked EngineError ParsedPacket := do
  let ethernet ← Ethernet.parse raw
  let payload ← ethernet.payload raw
  match ethernet.header.etherType with
  | .ipv4 => parseIpv4 source raw ethernet.payloadOffset
  | .ipv6 => parseIpv6 source raw ethernet.payloadOffset
  | .arp => do
    let _ ← Arp.parseAt raw ethernet.payloadOffset
    return {
      source
      protocol := .arp
      transport := .unknown
      payloadOffset := ethernet.payloadOffset
      payloadLength := payload.len
      sourceIp := none
      destinationIp := none
      sourcePort := none
      destinationPort := none }
  | _ => fail .packetUnsupported

def parseIpLayer (source : BackendSource) (raw : Bytes) : Checked EngineError ParsedPacket := do
  let version := (← raw.index 0) >>> 4
  if version = 4 then parseIpv4 source raw 0
  else if version = 6 then parseIpv6 source raw 0
  else fail .packetUnsupported

def parseBytes (source : BackendSource) (raw : Bytes) (layer : PacketInputLayer) :
    Checked EngineError ParsedPacket := do
  rejectIf (raw.isEmpty = true) .packetTooShort
  match layer with
  | .ethernet => parseEthernet source raw
  | .ip => parseIpLayer source raw

def parse (observation : PacketObservation) : Checked EngineError ParsedPacket :=
  parseBytes observation.backendSource observation.packet.rawBytes .ethernet

def parseIp (observation : PacketObservation) : Checked EngineError ParsedPacket :=
  parseBytes observation.backendSource observation.packet.rawBytes .ip

/-! ## 2. Every input is parsed without a panic -/

/-- The payload lies inside the packet. -/
def InBounds (raw : Bytes) (r : ParsedPacket) : Prop :=
  r.payloadOffset + r.payloadLength ≤ raw.len

theorem checkIcmp_safe {raw : Bytes} {payloadOffset payloadLength : Nat} {post : Ports → Prop}
    (hin : payloadOffset + payloadLength ≤ raw.len) (h : ∀ ports, post ports) :
    Safe (checkIcmp raw payloadOffset payloadLength) post := by
  have hlen := raw.len_le
  have hsize : isizeMax < usizeSize := by decide
  refine .bind (.addU (by omega) <| .bind (.slice (Nat.le_add_right _ _) hin fun body _ => ?_))
  exact .call (IcmpPacket.parse_safe body) fun _ _ => .bind (.orFail fun _ _ => .pure (h _))

theorem transportPorts_safe {raw : Bytes} (transport : TransportProtocol)
    {payloadOffset payloadLength : Nat} {post : Ports → Prop}
    (hin : payloadOffset + payloadLength ≤ raw.len) (h : ∀ ports, post ports) :
    Safe (transportPorts raw transport payloadOffset payloadLength) post := by
  cases transport with
  | unknown => exact .pure (h _)
  | tcp =>
    simp only [transportPorts]
    split
    · exact .pure (h _)
    · exact .call (Tcp.parseAtWithLength_safe raw _ _) fun _ _ => .pure (h _)
  | udp =>
    simp only [transportPorts]
    split
    · exact .pure (h _)
    · exact .call (Udp.parseAtWithLength_safe raw _ _) fun _ _ => .pure (h _)
  | icmp | icmpv6 =>
    simp only [transportPorts]
    split
    · exact .pure (h _)
    · exact checkIcmp_safe hin h

theorem fragmentPorts_safe (laterFragment : Bool) {raw : Bytes} (transport : TransportProtocol)
    {payloadOffset payloadLength : Nat} {post : Ports → Prop}
    (hin : payloadOffset + payloadLength ≤ raw.len) (h : ∀ ports, post ports) :
    Safe (fragmentPorts laterFragment raw transport payloadOffset payloadLength) post := by
  unfold fragmentPorts
  split
  · exact .pure (h _)
  · exact transportPorts_safe transport hin h

theorem parseIpv4_safe (source : BackendSource) {raw : Bytes} {offset : Nat}
    (h : offset ≤ raw.len) : Safe (parseIpv4 source raw offset) (InBounds raw) := by
  refine .call (Ipv4.parseAt_safe raw offset h) fun parsed hin => ?_
  exact .bind (fragmentPorts_safe _ _ hin.1 fun _ => .pure hin.1)

theorem parseIpv6_safe (source : BackendSource) {raw : Bytes} {offset : Nat}
    (h : offset ≤ raw.len) : Safe (parseIpv6 source raw offset) (InBounds raw) := by
  refine .call (Ipv6.parseAt_safe raw offset h) fun parsed hin => ?_
  exact .bind (fragmentPorts_safe _ _ hin.1 fun _ => .pure hin.1)

theorem parseEthernet_safe (source : BackendSource) (raw : Bytes) :
    Safe (parseEthernet source raw) (InBounds raw) := by
  refine .call (Ethernet.parse_safe raw) fun ethernet hend => ?_
  obtain ⟨payload, hok, hpayload⟩ := EthernetParseResult.payload_eq_ok hend
  rw [hok]
  refine .bind (.ok ?_)
  have hstart : ethernet.payloadOffset ≤ raw.len := by omega
  split
  · exact parseIpv4_safe source hstart
  · exact parseIpv6_safe source hstart
  · exact .call (Arp.parseAt_safe raw _) fun _ _ => .pure (Nat.le_of_eq hpayload)
  · exact .fail _

theorem parseIpLayer_safe (source : BackendSource) {raw : Bytes} (h : 0 < raw.len) :
    Safe (parseIpLayer source raw) (InBounds raw) := by
  refine .bind (.index h fun first => ?_)
  dsimp only
  split
  · exact parseIpv4_safe source (Nat.zero_le _)
  split
  · exact parseIpv6_safe source (Nat.zero_le _)
  · exact .fail _

theorem isEmpty_eq_false {raw : Bytes} (h : ¬ raw.isEmpty = true) : 0 < raw.len := by
  rw [Bytes.isEmpty, List.isEmpty_iff] at h
  exact List.length_pos_iff.mpr h

theorem parseBytes_safe (source : BackendSource) (raw : Bytes) (layer : PacketInputLayer) :
    Safe (parseBytes source raw layer) (InBounds raw) := by
  refine .bind (.rejectIf fun hne => ?_)
  cases layer with
  | ethernet => exact parseEthernet_safe source raw
  | ip => exact parseIpLayer_safe source (isEmpty_eq_false hne)

/-- On every input, at either layer, the parser neither indexes or slices out of range nor
overflows an index computation, and an accepted packet's payload lies inside it. -/
theorem parseBytes_total_inBounds (source : BackendSource) (raw : Bytes)
    (layer : PacketInputLayer) :
    parseBytes source raw layer ≠ .error .panic ∧
      ∀ r, parseBytes source raw layer = .ok r → r.payloadOffset + r.payloadLength ≤ raw.len := by
  have hsafe := parseBytes_safe source raw layer
  refine ⟨fun hpanic => ?_, fun r hr => hsafe.of_ok hr⟩
  rw [hpanic] at hsafe
  exact hsafe

/-! ## 3. A datagram and the frames that carry it -/

/-- The result of the same datagram read `k` bytes further into its packet. -/
def shift (k : Nat) (r : ParsedPacket) : ParsedPacket :=
  { r with payloadOffset := k + r.payloadOffset }

theorem checkIcmp_behind {pre : List UInt8} {s t : Bytes} (h : Behind pre s t)
    {payloadOffset payloadLength : Nat}
    (hb : pre.length + payloadOffset + payloadLength < usizeSize) :
    Moved id (checkIcmp s payloadOffset payloadLength)
      (checkIcmp t (pre.length + payloadOffset) payloadLength) :=
  .bind (Behind.addU hb) fun stop _ => .bind (h.slice payloadOffset stop) fun _ _ =>
    .bind (.refl _) fun _ _ => .bind (.refl _) fun _ _ => .pure rfl

theorem transportPorts_behind {pre : List UInt8} {s t : Bytes} (h : Behind pre s t)
    (transport : TransportProtocol) {payloadOffset payloadLength : Nat}
    (hb : pre.length + payloadOffset + payloadLength + 2000 < usizeSize) :
    Moved id (transportPorts s transport payloadOffset payloadLength)
      (transportPorts t transport (pre.length + payloadOffset) payloadLength) := by
  cases transport with
  | unknown => rfl
  | tcp =>
    simp only [transportPorts]
    split
    · rfl
    · exact .bind (Tcp.parseAtWithLength_behind h _ _ hb) fun _ _ => .pure rfl
  | udp =>
    simp only [transportPorts]
    split
    · rfl
    · exact .bind (Udp.parseAtWithLength_behind h _ _ hb) fun _ _ => .pure rfl
  | icmp | icmpv6 =>
    simp only [transportPorts]
    split
    · rfl
    · exact checkIcmp_behind h (by omega)

theorem fragmentPorts_behind {pre : List UInt8} {s t : Bytes} (h : Behind pre s t)
    (laterFragment : Bool) (transport : TransportProtocol) {payloadOffset payloadLength : Nat}
    (hb : pre.length + payloadOffset + payloadLength + 2000 < usizeSize) :
    Moved id (fragmentPorts laterFragment s transport payloadOffset payloadLength)
      (fragmentPorts laterFragment t transport (pre.length + payloadOffset) payloadLength) := by
  unfold fragmentPorts
  split
  · rfl
  · exact transportPorts_behind h transport hb

theorem parseIpv4_behind (source : BackendSource) {pre : List UInt8} {s t : Bytes}
    (h : Behind pre s t) :
    Moved (shift pre.length) (parseIpv4 source s 0) (parseIpv4 source t pre.length) := by
  have hlen := h.len
  have hbound := t.len_le
  have hsize : isizeMax + 80000 < usizeSize := by decide
  refine .bind (Ipv4.parseAt_behind h 0 (by omega)) fun parsed hparsed => ?_
  have hin := (Ipv4.parseAt_safe s 0 (Nat.zero_le _)).of_ok hparsed
  exact .bind (fragmentPorts_behind h _ _ (by omega)) fun ports _ => .pure rfl

theorem parseIpv6_behind (source : BackendSource) {pre : List UInt8} {s t : Bytes}
    (h : Behind pre s t) :
    Moved (shift pre.length) (parseIpv6 source s 0) (parseIpv6 source t pre.length) := by
  have hlen := h.len
  have hbound := t.len_le
  have hsize : isizeMax + 100000 < usizeSize := by decide
  refine .bind (Ipv6.parseAt_behind h 0 (by omega)) fun parsed hparsed => ?_
  have hin := (Ipv6.parseAt_safe s 0 (Nat.zero_le _)).of_ok hparsed
  -- Moving the extensions keeps the header they announce.
  have hnext : ((parsed.extensions.map (Ipv6.shiftExtension pre.length)).getLast?.map
      (·.nextHeader)) = parsed.extensions.getLast?.map (·.nextHeader) := by
    rw [List.getLast?_map, Option.map_map]
    rfl
  simp only [Ipv6.shift, hnext]
  exact .bind (fragmentPorts_behind h _ _ (by omega)) fun ports _ => .pure rfl

/-- `p` starts with an IP version nibble, and `etherType` is the ethertype of that version. -/
def Carries (etherType : UInt16) (p : Bytes) : Prop :=
  ∃ first rest, p.toList = first :: rest ∧
    (first >>> 4 = 4 ∧ etherType = 0x0800 ∨ first >>> 4 = 6 ∧ etherType = 0x86dd)

theorem parseBytes_ip {etherType : UInt16} {p : Bytes} (source : BackendSource)
    (h : Carries etherType p) :
    EtherType.fromU16 etherType = .ipv4 ∧ parseBytes source p .ip = parseIpv4 source p 0 ∨
      EtherType.fromU16 etherType = .ipv6 ∧ parseBytes source p .ip = parseIpv6 source p 0 := by
  obtain ⟨first, rest, hp, hversion⟩ := h
  -- A version nibble stands in a first byte, so that the packet is not empty.
  have hne : ¬ p.isEmpty = true := by
    rw [Bytes.isEmpty, hp]
    exact Bool.false_ne_true
  have hfirst : (p.index 0 : Checked EngineError UInt8) = .ok first :=
    Bytes.index_eq_ok (by rw [hp]; rfl)
  have hdispatch : parseBytes source p .ip =
      if first >>> 4 = 4 then parseIpv4 source p 0
      else if first >>> 4 = 6 then parseIpv6 source p 0
      else fail .packetUnsupported := by
    rw [parseBytes, rejectIf, if_neg hne]
    show parseIpLayer source p = _
    rw [parseIpLayer, hfirst]
    rfl
  obtain ⟨hfour, rfl⟩ | ⟨hsix, rfl⟩ := hversion
  · exact .inl ⟨by decide, by rw [hdispatch, if_pos hfour]⟩
  · exact .inr ⟨by decide, by rw [hdispatch, hsix]; rfl⟩

theorem parseBytes_ethernet (source : BackendSource) {frame : Bytes} (h : 0 < frame.len) :
    parseBytes source frame .ethernet = parseEthernet source frame := by
  have hne : ¬ frame.isEmpty = true := by
    rw [Bytes.isEmpty, List.isEmpty_iff]
    exact List.length_pos_iff.mp h
  rw [parseBytes, rejectIf, if_neg hne]
  rfl

theorem parseBytes_ethernet_carries (source : BackendSource) {frame p : Bytes}
    {destination sourceMac : MacAddr} {tags : List VlanTag} {etherType : UInt16}
    (hframe : frame.toList = Frame.header destination sourceMac tags etherType ++ p.toList)
    (hcarries : Carries etherType p) (htags : tags.length ≤ 4) :
    parseBytes source frame .ethernet =
      shift (14 + 4 * tags.length) <$> parseBytes source p .ip := by
  have hlength := Frame.header_length destination sourceMac tags etherType
  have hbehind : Behind (Frame.header destination sourceMac tags etherType) p frame := hframe
  have hlen := hbehind.len
  have hip := parseBytes_ip source hcarries
  -- No ethertype of an IP version is taken for a tag.
  have hplain : (EtherType.fromU16 etherType).isVlan = false := by
    obtain ⟨htype, -⟩ | ⟨htype, -⟩ := hip <;> rw [htype] <;> rfl
  obtain ⟨r, hparse, hheader, hoffset⟩ := Ethernet.parse_frame hframe hplain htags
  obtain ⟨payload, hpayload, -⟩ :=
    EthernetParseResult.payload_eq_ok ((Ethernet.parse_safe frame).of_ok hparse)
  rw [parseBytes_ethernet source (by omega), parseEthernet, hparse, ← hlength]
  simp only [bind, Except.bind, hpayload, hheader]
  obtain ⟨htype, hp⟩ | ⟨htype, hp⟩ := hip
  · rw [hp, htype, hoffset, ← hlength]
    exact parseIpv4_behind source hbehind
  · rw [hp, htype, hoffset, ← hlength]
    exact parseIpv6_behind source hbehind

/-- Reading a datagram behind an Ethernet header and at most four VLAN tags gives the result, or
the error, of reading it alone, with the payload `14 + 4 k` bytes further; more than four tags are
rejected. -/
theorem parseBytes_frame (source : BackendSource) (frame p : Bytes)
    (destination sourceMac : MacAddr) (tags : List VlanTag) (etherType : UInt16)
    (hframe : frame.toList = Frame.header destination sourceMac tags etherType ++ p.toList) :
    (Carries etherType p → tags.length ≤ 4 →
      parseBytes source frame .ethernet =
        (fun r => { r with payloadOffset := r.payloadOffset + (14 + 4 * tags.length) }) <$>
          parseBytes source p .ip) ∧
      (5 ≤ tags.length → parseBytes source frame .ethernet = fail .packetMalformed) := by
  refine ⟨fun hcarries htags => ?_, fun htags => ?_⟩
  · have hshift : (fun r : ParsedPacket =>
        { r with payloadOffset := r.payloadOffset + (14 + 4 * tags.length) }) =
        shift (14 + 4 * tags.length) := by
      funext r
      rw [shift, Nat.add_comm r.payloadOffset]
    rw [hshift]
    exact parseBytes_ethernet_carries source hframe hcarries htags
  -- The loop gives up before the payload is looked at, so that any payload will do.
  · have hlength := Frame.header_length destination sourceMac tags etherType
    have hlen : frame.len = _ := congrArg List.length hframe
    rw [List.length_append] at hlen
    rw [parseBytes_ethernet source (by omega), parseEthernet,
      Ethernet.parse_frame_overflow hframe htags]
    rfl

/-- An empty UDP datagram from 10.0.0.1:53 to 10.0.0.2:4660. -/
def udpDatagram : Bytes where
  toList := [0x45, 0, 0, 28, 0, 0, 0, 0, 64, 17, 0, 0, 10, 0, 0, 1, 10, 0, 0, 2,
    0, 53, 0x12, 0x34, 0, 8, 0, 0]
  length_le := by decide

/-- `udpDatagram` behind an 802.1ad and an 802.1Q tag. -/
def udpFrame : Bytes where
  toList := Frame.header #v[0, 1, 2, 3, 4, 5] #v[6, 7, 8, 9, 10, 11]
    [⟨.qinQ, 2⟩, ⟨.vlan, 100⟩] 0x0800 ++ udpDatagram.toList
  length_le := by decide

theorem parseBytes_frame_udp :
    Carries 0x0800 udpDatagram ∧
      parseBytes .npcap udpFrame .ethernet = .ok
        ⟨.npcap, .ipv4, .udp, 42, 8, some (.v4 ⟨10, 0, 0, 1⟩), some (.v4 ⟨10, 0, 0, 2⟩),
          some 53, some 4660⟩ := by
  have hcarries : Carries 0x0800 udpDatagram := ⟨0x45, _, rfl, .inl ⟨by decide, rfl⟩⟩
  refine ⟨hcarries, ?_⟩
  rw [(parseBytes_frame .npcap udpFrame udpDatagram _ _ _ _ rfl).1 hcarries (by decide)]
  decide +kernel

/-! ## 4. What the Ethernet layer accepts as IP -/

/-- Both network parsers open with a length check and the version nibble. -/
theorem version_sound {α : Type} {p : Bytes} {n : Nat} {version : UInt8} {short bad : EngineError}
    {k : UInt8 → Checked EngineError α} {a : α}
    (h : (do
      let minimum ← addU 0 n
      rejectIf (p.len < minimum) short
      let first ← p.index 0
      rejectIf (first >>> 4 ≠ version) bad
      k first) = .ok a) :
    ∃ first rest, p.toList = first :: rest ∧ first >>> 4 = version := by
  obtain ⟨_, -, h⟩ := bind_eq_ok h
  obtain ⟨_, -, h⟩ := bind_eq_ok h
  obtain ⟨first, hfirst, h⟩ := bind_eq_ok h
  obtain ⟨_, hversion, -⟩ := bind_eq_ok h
  obtain ⟨rest, hrest⟩ : ∃ rest, p.toList = first :: rest := by
    rw [← List.head?_eq_some_iff, List.head?_eq_getElem?]
    exact Bytes.of_index hfirst
  exact ⟨first, rest, hrest, not_not.mp (rejectIf_eq_ok hversion)⟩

theorem parseIpv4_version {source : BackendSource} {p : Bytes} {r : ParsedPacket}
    (h : parseIpv4 source p 0 = .ok r) :
    ∃ first rest, p.toList = first :: rest ∧ first >>> 4 = 4 := by
  obtain ⟨parsed, hparsed, -⟩ := bind_eq_ok h
  exact version_sound hparsed

theorem parseIpv6_version {source : BackendSource} {p : Bytes} {r : ParsedPacket}
    (h : parseIpv6 source p 0 = .ok r) :
    ∃ first rest, p.toList = first :: rest ∧ first >>> 4 = 6 := by
  obtain ⟨parsed, hparsed, -⟩ := bind_eq_ok h
  exact version_sound hparsed

theorem fromU16_eq_ipv4 {value : UInt16} (h : EtherType.fromU16 value = .ipv4) :
    value = 0x0800 := by
  unfold EtherType.fromU16 at h
  split at h
  · assumption
  · split_ifs at h

theorem fromU16_eq_ipv6 {value : UInt16} (h : EtherType.fromU16 value = .ipv6) :
    value = 0x86dd := by
  unfold EtherType.fromU16 at h
  split_ifs at h
  assumption

/-- A packet that the Ethernet layer reads as IP is a frame with at most four tags around a
datagram, and the result is that of reading the datagram alone. -/
theorem parseBytes_ethernet_sound {source : BackendSource} {raw : Bytes} {r : ParsedPacket}
    (h : parseBytes source raw .ethernet = .ok r) (hip : r.sourceIp ≠ none) :
    ∃ destination sourceMac tags etherType p r',
      raw.toList = Frame.header destination sourceMac tags etherType ++ Bytes.toList p ∧
      tags.length ≤ 4 ∧ Carries etherType p ∧ parseBytes source p .ip = .ok r' ∧
      r = shift (14 + 4 * tags.length) r' := by
  obtain ⟨_, -, h⟩ := bind_eq_ok h
  obtain ⟨ethernet, hparse, h⟩ := bind_eq_ok h
  obtain ⟨payload, -, h⟩ := bind_eq_ok h
  obtain ⟨destination, sourceMac, tags, etherType, rest, hraw, htags, htype, hoffset⟩ :=
    Ethernet.parse_sound hparse
  have hlength := Frame.header_length destination sourceMac tags etherType
  -- The datagram is what follows the header, and is no longer than the frame.
  let p : Bytes := ⟨rest, by
    have hlen := raw.length_le
    rw [hraw, List.length_append] at hlen
    omega⟩
  have hbehind : Behind (Frame.header destination sourceMac tags etherType) p raw := hraw
  rw [htype, hoffset, ← hlength] at h
  split at h
  · rename_i hfour
    rw [parseIpv4_behind source hbehind] at h
    obtain ⟨r', hr', rfl⟩ := map_eq_ok h
    obtain ⟨first, rest, hp, hversion⟩ := parseIpv4_version hr'
    have hcarries : Carries etherType p :=
      ⟨first, rest, hp, .inl ⟨hversion, fromU16_eq_ipv4 hfour⟩⟩
    refine ⟨_, _, _, _, p, r', hraw, htags, hcarries, ?_, by rw [hlength]⟩
    obtain ⟨-, hparse⟩ | ⟨hsix, -⟩ := parseBytes_ip source hcarries
    · rw [hparse, hr']
    · rw [hfour] at hsix
      nomatch hsix
  · rename_i hsix
    rw [parseIpv6_behind source hbehind] at h
    obtain ⟨r', hr', rfl⟩ := map_eq_ok h
    obtain ⟨first, rest, hp, hversion⟩ := parseIpv6_version hr'
    have hcarries : Carries etherType p :=
      ⟨first, rest, hp, .inr ⟨hversion, fromU16_eq_ipv6 hsix⟩⟩
    refine ⟨_, _, _, _, p, r', hraw, htags, hcarries, ?_, by rw [hlength]⟩
    obtain ⟨hfour, -⟩ | ⟨-, hparse⟩ := parseBytes_ip source hcarries
    · rw [hsix] at hfour
      nomatch hfour
    · rw [hparse, hr']
  -- An ARP packet has no address, and every other ethertype is refused.
  · obtain ⟨_, -, h⟩ := bind_eq_ok h
    obtain rfl := Except.ok.inj h
    exact absurd rfl hip
  · nomatch h

end ParsedPacket

end NetworkEngine
