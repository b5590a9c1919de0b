import NetworkEngine.Flow.Processing
import NetworkEngine.Parser.Fragments

/-!
# LegacyKey — the flow of the legacy path beside that of the live path

`flow_key_from_parsed` and `ObservationMatcher::to_flow_key` derive a key from the same parse.  They
part on the ports that a packet does not have: the one puts zero for them, the other gives up.
-/

namespace NetworkEngine

open Rust

/-! ## 1. The two derivations -/

def flowKeyFromParsed (parsed : ParsedPacket) : Option FlowKey := do
  let sourceIp ← parsed.sourceIp
  let destinationIp ← parsed.destinationIp
  let protocol ← match parsed.transport with
    | .tcp => some 6
    | .udp => some 17
    | .icmp => some 1
    | .icmpv6 => some 58
    | .unknown => none
  return ⟨sourceIp, destinationIp, parsed.sourcePort.getD 0, parsed.destinationPort.getD 0, protocol⟩

/-- The key in `process_observation_legacy`, which ends with an error if the parse does. -/
def legacyFlowKey (o : PacketObservation) : Option FlowKey :=
  (ParsedPacket.parse o).toOption.bind flowKeyFromParsed

def liveFlowKey (o : PacketObservation) : Option FlowKey :=
  (ObservationMatcher.toFlowKey o).map toFlowEngineKey

/-! ## 2. Missing headers -/

/-- A packet of TCP or UDP whose header is not in it: a later fragment, or too few bytes. -/
def LacksHeader (transport : TransportProtocol) (laterFragment : Bool) (length : Nat) : Prop :=
  transport = .tcp ∧ (laterFragment = true ∨ length < 20) ∨
    transport = .udp ∧ (laterFragment = true ∨ length < UdpHeader.size)

instance (transport : TransportProtocol) (laterFragment : Bool) (length : Nat) :
    Decidable (LacksHeader transport laterFragment length) :=
  inferInstanceAs (Decidable (_ ∨ _))

/-- The frame holds a network header that announces TCP or UDP, and no header of that protocol. -/
def HeaderMissing (raw : Bytes) : Prop :=
  ∃ ethernet, Ethernet.parse raw = .ok ethernet ∧
    (ethernet.header.etherType = .ipv4 ∧
      (∃ ip, Ipv4.parseAt raw ethernet.payloadOffset = .ok ip ∧
        LacksHeader (ParsedPacket.ipv4Transport ip.header.protocol) (ip.header.fragmentOffset != 0)
          ip.payloadLength) ∨
    ethernet.header.etherType = .ipv6 ∧
      ∃ ip, Ipv6.parseAt raw ethernet.payloadOffset = .ok ip ∧
        LacksHeader
          (ParsedPacket.ipv6Transport
            ((ip.extensions.getLast?.map (·.nextHeader)).getD ip.header.nextHeader))
          (!ip.firstFragment && ip.fragmented) ip.transportLength)

namespace ParsedPacket

/-- Ports stand where the transport has them, and nowhere else. -/
def PortsOf (transport : TransportProtocol) (ports : Ports) : Prop :=
  match transport with
  | .tcp | .udp => ∃ source destination, ports = (some source, some destination)
  | .icmp | .icmpv6 => ports = (none, none)
  | .unknown => True

/-- A packet of TCP or UDP without ports. -/
def Portless (r : ParsedPacket) : Prop :=
  (∃ source destination, r.sourceIp = some source ∧ r.destinationIp = some destination) ∧
    (r.transport = .tcp ∨ r.transport = .udp) ∧ r.ports = (none, none)

theorem checkIcmp_ports {raw : Bytes} {offset length : Nat} {ports : Ports}
    (h : checkIcmp raw offset length = .ok ports) : ports = (none, none) := by
  obtain ⟨_, -, h⟩ := bind_eq_ok h
  obtain ⟨_, -, h⟩ := bind_eq_ok h
  obtain ⟨_, -, h⟩ := bind_eq_ok h
  obtain ⟨_, -, h⟩ := bind_eq_ok h
  exact (Except.ok.inj h).symm

variable {transport : TransportProtocol} {laterFragment : Bool} {raw : Bytes} {offset length : Nat}

theorem fragmentPorts_lacking (raw : Bytes) (offset : Nat)
    (h : LacksHeader transport laterFragment length) :
    fragmentPorts laterFragment raw transport offset length = .ok (none, none) := by
  unfold fragmentPorts
  cases laterFragment with
  | true => rfl
  | false =>
    obtain ⟨rfl, hlater | hshort⟩ | ⟨rfl, hlater | hshort⟩ := h
    · cases hlater
    · exact if_pos hshort
    · cases hlater
    · exact if_pos hshort

theorem fragmentPorts_present {ports : Ports} (h : ¬ LacksHeader transport laterFragment length)
    (hports : fragmentPorts laterFragment raw transport offset length = .ok ports) :
    PortsOf transport ports := by
  unfold fragmentPorts at hports
  cases transport with
  | tcp =>
    have hpresent : ¬ (laterFragment = true ∨ length < 20) := fun hlack => h (.inl ⟨rfl, hlack⟩)
    rw [not_or] at hpresent
    rw [if_neg hpresent.1, transportPorts, if_neg hpresent.2] at hports
    obtain ⟨_, -, hports⟩ := bind_eq_ok hports
    exact ⟨_, _, (Except.ok.inj hports).symm⟩
  | udp =>
    have hpresent : ¬ (laterFragment = true ∨ length < UdpHeader.size) :=
      fun hlack => h (.inr ⟨rfl, hlack⟩)
    rw [not_or] at hpresent
    rw [if_neg hpresent.1, transportPorts, if_neg hpresent.2] at hports
    obtain ⟨_, -, hports⟩ := bind_eq_ok hports
    exact ⟨_, _, (Except.ok.inj hports).symm⟩
  | icmp | icmpv6 =>
    -- Both arms have no ports to give, whether they look at the header or not.
    by_cases hlater : laterFragment = true
    · rw [if_pos hlater] at hports
      exact (Except.ok.inj hports).symm
    · rw [if_neg hlater, transportPorts] at hports
      split at hports
      · exact (Except.ok.inj hports).symm
      · exact checkIcmp_ports hports
  | unknown => trivial

/-! ## 3. When the derivations agree -/

variable {r : ParsedPacket}

theorem ofParsed_portless (h : r.Portless) : ObservationMatcher.ofParsed r = none := by
  obtain ⟨⟨source, destination, hsource, hdestination⟩, htransport, hports⟩ := h
  have hport : r.sourcePort = none := congrArg Prod.fst hports
  unfold ObservationMatcher.ofParsed
  rw [hsource, hdestination, hport]
  obtain htransport | htransport := htransport
  · rw [htransport]
    rfl
  · rw [htransport]
    rfl

theorem flowKeyFromParsed_portless (h : r.Portless) :
    ∃ source destination protocol,
      flowKeyFromParsed r = some ⟨source, destination, 0, 0, protocol⟩ := by
  obtain ⟨⟨source, destination, hsource, hdestination⟩, htransport, hports⟩ := h
  have hsport : r.sourcePort = none := congrArg Prod.fst hports
  have hdport : r.destinationPort = none := congrArg Prod.snd hports
  unfold flowKeyFromParsed
  rw [hsource, hdestination, hsport, hdport]
  obtain htransport | htransport := htransport
  · rw [htransport]
    exact ⟨source, destination, 6, rfl⟩
  · rw [htransport]
    exact ⟨source, destination, 17, rfl⟩

theorem flowKeyFromParsed_eq (h : PortsOf r.transport r.ports) :
    flowKeyFromParsed r = (ObservationMatcher.ofParsed r).map toFlowEngineKey := by
  unfold flowKeyFromParsed ObservationMatcher.ofParsed
  cases hsource : r.sourceIp with
  | none => rfl
  | some source =>
    cases hdestination : r.destinationIp with
    | none => rfl
    | some destination =>
      cases htransport : r.transport with
      | tcp | udp =>
        rw [htransport] at h
        obtain ⟨sport, dport, hports⟩ := h
        have hsport : r.sourcePort = some sport := congrArg Prod.fst hports
        have hdport : r.destinationPort = some dport := congrArg Prod.snd hports
        rw [hsport, hdport]
        rfl
      | icmp | icmpv6 =>
        rw [htransport] at h
        have hsport : r.sourcePort = none := congrArg Prod.fst h
        have hdport : r.destinationPort = none := congrArg Prod.snd h
        rw [hsport, hdport]
        rfl
      | unknown => rfl

/-- A frame is long enough to be looked at. -/
theorem len_pos_of_ethernet {ethernet : EthernetParseResult} (h : Ethernet.parse raw = .ok ethernet) :
    0 < raw.len := by
  obtain ⟨_, hlong, -⟩ := bind_eq_ok h
  have hmin := Nat.not_lt.mp (rejectIf_eq_ok hlong)
  omega

theorem lacksHeader_transport (h : LacksHeader transport laterFragment length) :
    transport = .tcp ∨ transport = .udp := by
  obtain ⟨htcp, -⟩ | ⟨hudp, -⟩ := h
  · exact .inl htcp
  · exact .inr hudp

/-- The parser accepts a packet without its header. -/
theorem parseBytes_headerMissing (source : BackendSource) (h : HeaderMissing raw) :
    ∃ r, parseBytes source raw .ethernet = .ok r ∧ r.Portless := by
  obtain ⟨ethernet, hethernet, hip⟩ := h
  obtain ⟨payload, hpayload, -⟩ :=
    EthernetParseResult.payload_eq_ok ((Ethernet.parse_safe raw).of_ok hethernet)
  rw [parseBytes_ethernet source (len_pos_of_ethernet hethernet), parseEthernet, hethernet]
  obtain ⟨htype, ip, hip, hlack⟩ | ⟨htype, ip, hip, hlack⟩ := hip
  · have hports := fragmentPorts_lacking raw ip.payloadOffset hlack
    simp only [hpayload, htype, parseIpv4, hip, hports, bind, Except.bind]
    exact ⟨_, rfl, ⟨_, _, rfl, rfl⟩, lacksHeader_transport hlack, rfl⟩
  · have hports := fragmentPorts_lacking raw ip.transportOffset hlack
    simp only [hpayload, htype, parseIpv6, hip, hports, bind, Except.bind]
    exact ⟨_, rfl, ⟨_, _, rfl, rfl⟩, lacksHeader_transport hlack, rfl⟩

theorem parseBytes_headerPresent {source : BackendSource} (h : ¬ HeaderMissing raw)
    (hr : parseBytes source raw .ethernet = .ok r) : PortsOf r.transport r.ports := by
  obtain ⟨_, -, hr⟩ := bind_eq_ok hr
  obtain ⟨ethernet, hethernet, hr⟩ := bind_eq_ok hr
  obtain ⟨_, -, hr⟩ := bind_eq_ok hr
  cases htype : ethernet.header.etherType with
  | ipv4 =>
    rw [htype] at hr
    obtain ⟨ip, hip, hr⟩ := bind_eq_ok hr
    obtain ⟨ports, hports, hr⟩ := bind_eq_ok hr
    obtain rfl := Except.ok.inj hr
    exact fragmentPorts_present
      (fun hlack => h ⟨ethernet, hethernet, .inl ⟨htype, ip, hip, hlack⟩⟩) hports
  | ipv6 =>
    rw [htype] at hr
    obtain ⟨ip, hip, hr⟩ := bind_eq_ok hr
    obtain ⟨ports, hports, hr⟩ := bind_eq_ok hr
    obtain rfl := Except.ok.inj hr
    exact fragmentPorts_present
      (fun hlack => h ⟨ethernet, hethernet, .inr ⟨htype, ip, hip, hlack⟩⟩) hports
  | arp =>
    rw [htype] at hr
    obtain ⟨_, -, hr⟩ := bind_eq_ok hr
    obtain rfl := Except.ok.inj hr
    trivial
  | vlan | qinQ | qinQLegacy | unknown =>
    rw [htype] at hr
    cases hr

end ParsedPacket

open ParsedPacket in
/-- The paths derive the same flow from every packet but those of TCP and UDP without their header;
of these the live path derives none, and the legacy path one between two ports zero. -/
theorem legacyFlowKey_eq_iff (o : PacketObservation) :
    (legacyFlowKey o = liveFlowKey o ↔ ¬ HeaderMissing o.packet.rawBytes) ∧
      (HeaderMissing o.packet.rawBytes → liveFlowKey o = none ∧ ∃ source destination protocol,
        legacyFlowKey o = some ⟨source, destination, 0, 0, protocol⟩) := by
  have hmissing : HeaderMissing o.packet.rawBytes → liveFlowKey o = none ∧
      ∃ source destination protocol,
        legacyFlowKey o = some ⟨source, destination, 0, 0, protocol⟩ := by
    intro h
    obtain ⟨r, hr, hportless⟩ := parseBytes_headerMissing o.backendSource h
    unfold legacyFlowKey liveFlowKey ObservationMatcher.toFlowKey parse
    rw [hr]
    refine ⟨?_, flowKeyFromParsed_portless hportless⟩
    show (ObservationMatcher.ofParsed r).map _ = _
    rw [ofParsed_portless hportless]
    rfl
  refine ⟨⟨fun heq h => ?_, fun h => ?_⟩, hmissing⟩
  · obtain ⟨hlive, source, destination, protocol, hlegacy⟩ := hmissing h
    rw [hlegacy, hlive] at heq
    cases heq
  · unfold legacyFlowKey liveFlowKey ObservationMatcher.toFlowKey parse
    cases hr : parseBytes o.backendSource o.packet.rawBytes .ethernet with
    | error e => rfl
    | ok r => exact flowKeyFromParsed_eq (parseBytes_headerPresent h hr)

/-- The second fragment of a UDP datagram in an Ethernet frame. -/
def laterFragmentFrame : Bytes where
  toList := List.replicate 12 0 ++ [0x08, 0x00] ++
    [0x45, 0, 0, 28, 0, 1, 0, 1, 64, 17, 0, 0, 10, 0, 0, 1, 10, 0, 0, 2] ++ List.replicate 8 0xff
  length_le := by decide

def laterFragmentObservation : PacketObservation :=
  .new 1 .npcap ⟨0⟩ ⟨0⟩ .inbound "eth0" ⟨laterFragmentFrame⟩

theorem legacyFlowKey_eq_iff_fragment : HeaderMissing laterFragmentFrame := by
  by_contra h
  have heq := (legacyFlowKey_eq_iff laterFragmentObservation).1.mpr h
  revert heq
  decide +kernel

theorem laterFragment_port_zero :
    legacyFlowKey laterFragmentObservation =
        some ⟨.v4 ⟨10, 0, 0, 1⟩, .v4 ⟨10, 0, 0, 2⟩, 0, 0, 17⟩ ∧
      liveFlowKey laterFragmentObservation = none ∧
      legacyFlowKey laterFragmentObservation ≠ liveFlowKey laterFragmentObservation := by
  decide +kernel

end NetworkEngine
