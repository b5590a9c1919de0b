import NetworkEngine.Gateway.Runtime
import NetworkEngine.Parser.Packet

/-!
# Ingress — packets on their way into the gateway

`gateway_capability::ingress`.  A packet is parsed as an Ethernet frame, its key is derived from the
parse, and the key is looked up in the connection table.  The table holds one entry for both
directions of a connection; the lookup asks for the direction the packet happens to have.
-/

namespace NetworkEngine

open Rust Transition

/-! ## 1. The processor -/

structure IngressPacket where
  observation : PacketObservation
  interfaceId : UInt32
  parsed : Option ParsedPacket
  connectionKey : Option ConnectionKey
  connectionFound : Bool
  deriving DecidableEq, Repr

def IngressPacket.new (observation : PacketObservation) (interfaceId : UInt32) :
    Option IngressPacket :=
  if interfaceId = 0 then none
  else if observation.packet.isEmpty then none
  else some ⟨observation, interfaceId, none, none, false⟩

inductive IngressError where
  | invalidInterface
  | emptyPacket
  | parseFailed
  deriving DecidableEq, Repr

/-- The `match` on network and transport protocol. -/
def connectionProtocol : NetworkProtocol → TransportProtocol → Option ConnectionProtocol
  | .ipv4, .tcp | .ipv6, .tcp => some .tcp
  | .ipv4, .udp | .ipv6, .udp => some .udp
  | _, _ => none

def connectionKeyFromParsed (parsed : ParsedPacket) : Option ConnectionKey := do
  let srcIp ← parsed.sourceIp
  let dstIp ← parsed.destinationIp
  let srcPort ← parsed.sourcePort
  let dstPort ← parsed.destinationPort
  let protocol ← connectionProtocol parsed.protocol parsed.transport
  return ⟨srcIp, srcPort, dstIp, dstPort, protocol⟩

namespace IngressProcessor

def accept (observation : PacketObservation) (interfaceId : UInt32) :
    Checked IngressError IngressPacket := do
  rejectIf (interfaceId = 0) .invalidInterface
  rejectIf (observation.packet.isEmpty = true) .emptyPacket
  let packet ← orFail (IngressPacket.new observation interfaceId) .invalidInterface
  let parsed ← mapFault (fun _ => IngressError.parseFailed) (ParsedPacket.parse packet.observation)
  return { packet with
    connectionKey := connectionKeyFromParsed parsed
    parsed := some parsed }

/-- `now` is what the lookup reads from the clock. -/
def acceptIntoRuntime (observation : PacketObservation) (interfaceId : UInt32)
    (runtime : GatewayRuntime) (now : UInt64) : Checked IngressError IngressPacket := do
  let packet ← accept observation interfaceId
  match packet.connectionKey with
  | some key =>
    return { packet with connectionFound := (runtime.connections.lookup key now).isSome }
  | none => return packet

end IngressProcessor

/-! ## 2. The tuple of a parsed packet -/

/-- The addresses, ports and transport protocol of a TCP or UDP packet. -/
structure ParsedPacket.HasTuple (parsed : ParsedPacket) (k : ConnectionKey) : Prop where
  srcIp : parsed.sourceIp = some k.srcIp
  srcPort : parsed.sourcePort = some k.srcPort
  dstIp : parsed.destinationIp = some k.dstIp
  dstPort : parsed.destinationPort = some k.dstPort
  protocol : parsed.transport = .tcp ∧ k.protocol = .tcp ∨
    parsed.transport = .udp ∧ k.protocol = .udp

/-- TCP and UDP are found over IPv4 and IPv6 only. -/
def ParsedPacket.OverIp (parsed : ParsedPacket) : Prop :=
  parsed.protocol = .ipv4 ∨ parsed.protocol = .ipv6 ∨ parsed.transport = .unknown

theorem parseIpv4_overIp {source : BackendSource} {raw : Bytes} {offset : Nat} {r : ParsedPacket}
    (h : ParsedPacket.parseIpv4 source raw offset = .ok r) : r.OverIp := by
  obtain ⟨parsed, -, h⟩ := bind_eq_ok h
  obtain ⟨ports, -, h⟩ := bind_eq_ok h
  cases h
  exact .inl rfl

theorem parseIpv6_overIp {source : BackendSource} {raw : Bytes} {offset : Nat} {r : ParsedPacket}
    (h : ParsedPacket.parseIpv6 source raw offset = .ok r) : r.OverIp := by
  obtain ⟨parsed, -, h⟩ := bind_eq_ok h
  obtain ⟨ports, -, h⟩ := bind_eq_ok h
  cases h
  exact .inr (.inl rfl)

theorem parse_overIp {o : PacketObservation} {r : ParsedPacket}
    (h : ParsedPacket.parse o = .ok r) : r.OverIp := by
  obtain ⟨-, -, h⟩ := bind_eq_ok h
  obtain ⟨ethernet, -, h⟩ := bind_eq_ok h
  obtain ⟨payload, -, h⟩ := bind_eq_ok h
  split at h
  · exact parseIpv4_overIp h
  · exact parseIpv6_overIp h
  · -- An ARP packet has no transport header.
    obtain ⟨-, -, h⟩ := bind_eq_ok h
    cases h
    exact .inr (.inr rfl)
  · nomatch h

theorem connectionProtocol_eq_some {network : NetworkProtocol} {transport : TransportProtocol}
    {protocol : ConnectionProtocol} (h : connectionProtocol network transport = some protocol) :
    transport = .tcp ∧ protocol = .tcp ∨ transport = .udp ∧ protocol = .udp := by
  unfold connectionProtocol at h
  split at h
  · exact .inl ⟨rfl, (Option.some.inj h).symm⟩
  · exact .inl ⟨rfl, (Option.some.inj h).symm⟩
  · exact .inr ⟨rfl, (Option.some.inj h).symm⟩
  · exact .inr ⟨rfl, (Option.some.inj h).symm⟩
  · nomatch h

/-- The key that is derived from a parse is its tuple. -/
theorem connectionKeyFromParsed_eq_some {parsed : ParsedPacket} (h : parsed.OverIp)
    {k : ConnectionKey} : connectionKeyFromParsed parsed = some k ↔ parsed.HasTuple k := by
  obtain ⟨source, protocol, transport, payloadOffset, payloadLength, srcIp, dstIp, srcPort,
    dstPort⟩ := parsed
  obtain ⟨srcIp', srcPort', dstIp', dstPort', protocol'⟩ := k
  unfold connectionKeyFromParsed
  constructor
  · intro hkey
    simp only [Option.bind_eq_bind, Option.bind_eq_some_iff, Option.pure_def, Option.some.injEq,
      ConnectionKey.mk.injEq] at hkey
    obtain ⟨_, rfl, _, rfl, _, rfl, _, rfl, _, hprotocol, rfl, rfl, rfl, rfl, rfl⟩ := hkey
    exact ⟨rfl, rfl, rfl, rfl, connectionProtocol_eq_some hprotocol⟩
  · rintro ⟨hsrcIp, hsrcPort, hdstIp, hdstPort, hprotocol⟩
    dsimp only at hsrcIp hsrcPort hdstIp hdstPort hprotocol
    subst hsrcIp hsrcPort hdstIp hdstPort
    -- The tuple names a transport, so that the parse was not of an ARP packet.
    obtain ⟨rfl, rfl⟩ | ⟨rfl, rfl⟩ := hprotocol
    · obtain rfl | rfl | hunknown := h
      · rfl
      · rfl
      · nomatch hunknown
    · obtain rfl | rfl | hunknown := h
      · rfl
      · rfl
      · nomatch hunknown

namespace IngressProcessor

variable {o : PacketObservation} {interfaceId : UInt32} {g : GatewayRuntime} {now : UInt64}
  {parsed : ParsedPacket} {p : IngressPacket} {k : ConnectionKey}

theorem not_isEmpty_of_parse (h : ParsedPacket.parse o = .ok parsed) :
    ¬ o.packet.isEmpty = true := by
  obtain ⟨_, hreject, -⟩ := bind_eq_ok h
  exact rejectIf_eq_ok hreject

/-- A packet that parses is accepted on every interface but number 0. -/
theorem accept_ok (hinterface : interfaceId ≠ 0) (hparse : ParsedPacket.parse o = .ok parsed) :
    accept o interfaceId =
      .ok ⟨o, interfaceId, some parsed, connectionKeyFromParsed parsed, false⟩ := by
  have hne := not_isEmpty_of_parse hparse
  have hnew : IngressPacket.new o interfaceId = some ⟨o, interfaceId, none, none, false⟩ := by
    rw [IngressPacket.new, if_neg hinterface, if_neg hne]
  rw [accept, rejectIf, if_neg hinterface, rejectIf, if_neg hne, hnew]
  show (mapFault _ (ParsedPacket.parse o) >>= _) = _
  rw [hparse]
  rfl

theorem acceptIntoRuntime_ok (hinterface : interfaceId ≠ 0)
    (hparse : ParsedPacket.parse o = .ok parsed) :
    acceptIntoRuntime o interfaceId g now =
      .ok ⟨o, interfaceId, some parsed, connectionKeyFromParsed parsed,
        (connectionKeyFromParsed parsed).any fun key =>
          (g.connections.lookup key now).isSome⟩ := by
  rw [acceptIntoRuntime, accept_ok hinterface hparse]
  cases connectionKeyFromParsed parsed <;> rfl

/-! ## 3. Both directions of a connection -/

/-- The table has an entry for `k` that has not expired. -/
def Live (g : GatewayRuntime) (now : UInt64) (k : ConnectionKey) : Prop :=
  (g.connections.lookup k now).isSome = true

instance (g : GatewayRuntime) (now : UInt64) (k : ConnectionKey) : Decidable (Live g now k) :=
  inferInstanceAs (Decidable (_ = true))

/-- On every interface, the packets of a live connection are recognised in either direction, and no
other packet is. -/
structure Continuous (g : GatewayRuntime) (now : UInt64) (o : PacketObservation) : Prop where
  found : ∀ parsed k interfaceId, ParsedPacket.parse o = .ok parsed → interfaceId ≠ 0 →
    Live g now k → parsed.HasTuple k ∨ parsed.HasTuple k.reverse →
    ∃ p, acceptIntoRuntime o interfaceId g now = .ok p ∧ p.connectionFound = true
  unknown : ∀ interfaceId p, acceptIntoRuntime o interfaceId g now = .ok p →
    (∀ parsed k, ParsedPacket.parse o = .ok parsed → Live g now k →
      ¬ parsed.HasTuple k ∧ ¬ parsed.HasTuple k.reverse) →
    p.connectionFound = false

/-- An accepted packet came in on an interface and was parsed. -/
theorem of_acceptIntoRuntime_ok (h : acceptIntoRuntime o interfaceId g now = .ok p) :
    interfaceId ≠ 0 ∧ ∃ parsed, ParsedPacket.parse o = .ok parsed := by
  obtain ⟨packet, haccept, -⟩ := bind_eq_ok h
  obtain ⟨_, hinterface, haccept⟩ := bind_eq_ok haccept
  obtain ⟨_, -, haccept⟩ := bind_eq_ok haccept
  obtain ⟨packet, hnew, haccept⟩ := bind_eq_ok haccept
  obtain ⟨parsed, hparse, -⟩ := bind_eq_ok haccept
  have hinterface := rejectIf_eq_ok hinterface
  -- The observation of the new packet is the one that came in.
  have hobservation : packet.observation = o := by
    have hsome := orFail_eq_ok hnew
    unfold IngressPacket.new at hsome
    split at hsome
    · nomatch hsome
    · split at hsome
      · nomatch hsome
      · rw [← Option.some.inj hsome]
  rw [hobservation] at hparse
  exact ⟨hinterface, parsed, mapFault_eq_ok hparse⟩

/-- What is recognised is exactly the direction that is stored. -/
theorem connectionFound_iff (hparse : ParsedPacket.parse o = .ok parsed)
    (haccept : acceptIntoRuntime o interfaceId g now = .ok p) :
    p.connectionFound = true ↔ ∃ k, parsed.HasTuple k ∧ Live g now k := by
  have hinterface := (of_acceptIntoRuntime_ok haccept).1
  rw [acceptIntoRuntime_ok hinterface hparse] at haccept
  cases haccept
  simp only [Option.any_eq_true, connectionKeyFromParsed_eq_some (parse_overIp hparse)]
  rfl

theorem reverse_reverse (k : ConnectionKey) : k.reverse.reverse = k := rfl

/-- The tuple of a packet is unique. -/
theorem HasTuple.unique {k' : ConnectionKey} (hparse : ParsedPacket.parse o = .ok parsed)
    (h : parsed.HasTuple k) (h' : parsed.HasTuple k') : k = k' := by
  have hover := parse_overIp hparse
  rw [← connectionKeyFromParsed_eq_some hover] at h h'
  exact Option.some.inj (h.symm.trans h')

/-- A packet continues the connections of the table exactly when its own direction is stored
whenever the opposite one is. -/
theorem continuous_iff (g : GatewayRuntime) (now : UInt64) (o : PacketObservation) :
    Continuous g now o ↔ ∀ parsed k, ParsedPacket.parse o = .ok parsed → parsed.HasTuple k →
      Live g now k.reverse → Live g now k := by
  constructor
  · intro h parsed k hparse htuple hlive
    obtain ⟨p, haccept, hfound⟩ := h.found parsed k.reverse 1 hparse (by decide) hlive
      (.inr (by rw [reverse_reverse]; exact htuple))
    obtain ⟨k', htuple', hlive'⟩ := (connectionFound_iff hparse haccept).mp hfound
    rw [HasTuple.unique hparse htuple htuple']
    exact hlive'
  · intro h
    constructor
    · intro parsed k interfaceId hparse hinterface hlive htuple
      have haccept : acceptIntoRuntime o interfaceId g now = .ok _ :=
        acceptIntoRuntime_ok hinterface hparse
      refine ⟨_, haccept, (connectionFound_iff hparse haccept).mpr ?_⟩
      obtain htuple | htuple := htuple
      · exact ⟨k, htuple, hlive⟩
      · exact ⟨k.reverse, htuple, h parsed k.reverse hparse htuple hlive⟩
    · intro interfaceId p haccept hnone
      obtain ⟨-, parsed, hparse⟩ := of_acceptIntoRuntime_ok haccept
      rw [← Bool.not_eq_true, connectionFound_iff hparse haccept]
      rintro ⟨k, htuple, hlive⟩
      exact (hnone parsed k hparse hlive).1 htuple

/-- The client's side of an exchange whose answer is `udpFrame`. -/
def clientKey : ConnectionKey :=
  ⟨.v4 ⟨10, 0, 0, 2⟩, 4660, .v4 ⟨10, 0, 0, 1⟩, 53, .udp⟩

/-- The client's connection is in the table; the answer of the server is not found. -/
theorem answer_not_found :
    let g := GatewayRuntime.step (.withLimits .default)
      (.connection ⟨.insert ⟨clientKey, .new, 0, 0, 60, 0, 0⟩, 0⟩)
    let o := PacketObservation.new 1 .npcap ⟨0⟩ ⟨0⟩ .inbound "eth0" ⟨ParsedPacket.udpFrame⟩
    Live g 1 clientKey ∧
      (∃ parsed, ParsedPacket.parse o = .ok parsed ∧ parsed.HasTuple clientKey.reverse) ∧
      (∃ p, acceptIntoRuntime o 1 g 1 = .ok p ∧ p.connectionFound = false) ∧
      ¬ Continuous g 1 o := by
  intro g o
  have hparse : ParsedPacket.parse o = .ok
      ⟨.npcap, .ipv4, .udp, 42, 8, some (.v4 ⟨10, 0, 0, 1⟩), some (.v4 ⟨10, 0, 0, 2⟩),
        some 53, some 4660⟩ := by decide +kernel
  have htuple : ParsedPacket.HasTuple ⟨.npcap, .ipv4, .udp, 42, 8, some (.v4 ⟨10, 0, 0, 1⟩),
      some (.v4 ⟨10, 0, 0, 2⟩), some 53, some 4660⟩ clientKey.reverse :=
    ⟨rfl, rfl, rfl, rfl, .inr ⟨rfl, rfl⟩⟩
  have hlive : Live g 1 clientKey := by decide +kernel
  have hlost : ¬ Live g 1 clientKey.reverse := by decide +kernel
  refine ⟨hlive, ⟨_, hparse, htuple⟩,
    ⟨_, acceptIntoRuntime_ok (by decide) hparse, by decide +kernel⟩, fun hcontinuous => ?_⟩
  obtain ⟨p, haccept, hfound⟩ := hcontinuous.found _ clientKey 1 hparse (by decide) hlive
    (.inr htuple)
  obtain ⟨k, hk, hk'⟩ := (connectionFound_iff hparse haccept).mp hfound
  rw [← HasTuple.unique hparse htuple hk] at hk'
  exact hlost hk'

end IngressProcessor

end NetworkEngine
