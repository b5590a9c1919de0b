import NetworkEngine.Flow.Processing
import NetworkEngine.Lib.SortedPair

/-!
# Identity — the identity of a conversation

`network_core::FlowKey::normalized` and `flow_engine::identity`.  The endpoints of a key are put in
the order of a composite sort key, so that both directions of a conversation have one identity.
-/

namespace NetworkEngine

open Rust SortedPair

/-! ## 1. Normalized keys -/

/-- Compared from left to right: the family, the address padded in front, the port. -/
abbrev EndpointSortKey := UInt8 × Vector UInt8 16 × UInt16

instance : Ord EndpointSortKey := @lexOrd UInt8 (Vector UInt8 16 × UInt16) _ lexOrd

def endpointSortKey (address : IpAddr) (port : UInt16) : EndpointSortKey :=
  match address with
  | .v4 value => (4, #v[0, 0, 0, 0, 0, 0, 0, 0, 0, 0, 0, 0, value.a, value.b, value.c, value.d], port)
  | .v6 value => (6, value.octets, port)

namespace NetworkCore.FlowKey

def normalized (addr1 : IpAddr) (port1 : UInt16) (addr2 : IpAddr) (port2 : UInt16)
    (protocol : Protocol) : FlowKey :=
  let first := endpointSortKey addr1 port1
  let second := endpointSortKey addr2 port2
  if (compare first second).isLE then
    { srcIp := addr1, srcPort := port1, dstIp := addr2, dstPort := port2, protocol }
  else
    { srcIp := addr2, srcPort := port2, dstIp := addr1, dstPort := port1, protocol }

end NetworkCore.FlowKey

structure FlowIdentity where
  key : NetworkCore.FlowKey
  deriving DecidableEq, Repr

def protocolFromU8 (protocol : UInt8) : NetworkCore.Protocol :=
  if protocol = 6 then .tcp
  else if protocol = 17 then .udp
  else if protocol = 1 then .icmp
  else if protocol = 58 then .icmpV6
  else .other protocol

namespace FlowIdentity

def fromKey (key : NetworkCore.FlowKey) : FlowIdentity := ⟨key⟩

def fromFlowKey (key : FlowKey) : FlowIdentity :=
  fromKey (.normalized key.sourceIp key.sourcePort key.destinationIp key.destinationPort
    (protocolFromU8 key.protocol))

end FlowIdentity

/-! ## 2. The order of the endpoints -/

/-- An address and its port. -/
abbrev Endpoint := IpAddr × UInt16

def Endpoint.sortKey (e : Endpoint) : EndpointSortKey := endpointSortKey e.1 e.2

/-- Endpoints of two families differ in the first component, those of one family in the address or
the port. -/
theorem Endpoint.sortKey_injective : Function.Injective sortKey := by
  rintro ⟨ip, port⟩ ⟨ip', port'⟩ h
  have hfamily := congrArg (·.1) h
  have haddress := congrArg (·.2.1) h
  have hport := congrArg (·.2.2) h
  cases ip with
  | v4 a =>
    cases ip' with
    | v4 a' =>
      obtain ⟨a, b, c, d⟩ := a
      obtain ⟨a', b', c', d'⟩ := a'
      have hoctets : [a, b, c, d] = [a', b', c', d'] :=
        congrArg (fun v : Vector UInt8 16 => v.toList.drop 12) haddress
      have hport' : port = port' := hport
      obtain ⟨rfl, rfl, rfl, rfl⟩ : a = a' ∧ b = b' ∧ c = c' ∧ d = d' := by
        simpa using hoctets
      rw [hport']
    | v6 a' => exact absurd hfamily (by decide : (4 : UInt8) ≠ 6)
  | v6 a =>
    cases ip' with
    | v4 a' => exact absurd hfamily (by decide : (6 : UInt8) ≠ 4)
    | v6 a' =>
      have haddr : a = a' := congrArg Ipv6Addr.mk haddress
      have hport' : port = port' := hport
      rw [haddr, hport']

/-- The protocol number can be read off. -/
theorem toIpProtocol_protocolFromU8 (p : UInt8) : (protocolFromU8 p).toIpProtocol = p := by
  unfold protocolFromU8
  repeat' split
  all_goals first | rfl | exact Eq.symm ‹_›

theorem protocolFromU8_injective : Function.Injective protocolFromU8 :=
  Function.LeftInverse.injective toIpProtocol_protocolFromU8

namespace NetworkCore.FlowKey

/-- The key from the first of two endpoints to the second. -/
def ofEndpoints (protocol : Protocol) (e : Endpoint × Endpoint) : FlowKey :=
  { srcIp := e.1.1, srcPort := e.1.2, dstIp := e.2.1, dstPort := e.2.2, protocol }

theorem normalized_eq (ip ip' : IpAddr) (port port' : UInt16) (protocol : Protocol) :
    normalized ip port ip' port' protocol =
      ofEndpoints protocol (sortPair Endpoint.sortKey (ip, port) (ip', port')) := by
  by_cases h : (compare (endpointSortKey ip port) (endpointSortKey ip' port')).isLE
  · rw [sortPair_of_isLE h]
    exact if_pos h
  · rw [sortPair_of_not_isLE h]
    exact if_neg h

theorem ofEndpoints_eq_iff {protocol protocol' : Protocol} {e e' : Endpoint × Endpoint} :
    ofEndpoints protocol e = ofEndpoints protocol' e' ↔ protocol = protocol' ∧ e = e' := by
  constructor
  · intro h
    simp only [ofEndpoints, mk.injEq] at h
    obtain ⟨hsrc, hdst, hsrcPort, hdstPort, hprotocol⟩ := h
    exact ⟨hprotocol, Prod.ext (Prod.ext hsrc hsrcPort) (Prod.ext hdst hdstPort)⟩
  · rintro ⟨rfl, rfl⟩
    rfl

/-- The same conversation in the order of its endpoints. -/
def renormalized (k : FlowKey) : FlowKey :=
  normalized k.srcIp k.srcPort k.dstIp k.dstPort k.protocol

end NetworkCore.FlowKey

namespace FlowIdentity

open NetworkCore.FlowKey

variable {k₁ k₂ : FlowKey}

/-- Sorting takes a key and its reverse together, and no others. -/
theorem fromFlowKey_eq_iff :
    fromFlowKey k₁ = fromFlowKey k₂ ↔
      k₁.protocol = k₂.protocol ∧
        s((k₁.sourceIp, k₁.sourcePort), (k₁.destinationIp, k₁.destinationPort)) =
          s((k₂.sourceIp, k₂.sourcePort), (k₂.destinationIp, k₂.destinationPort)) := by
  unfold fromFlowKey fromKey
  rw [mk.injEq, normalized_eq, normalized_eq, ofEndpoints_eq_iff,
    sortPair_eq_iff Endpoint.sortKey_injective, protocolFromU8_injective.eq_iff]

/-- An identity is a conversation: a key and its reverse have it, and no other key. -/
theorem identity_iff_conversation :
    (∀ k₁ k₂ : FlowKey, fromFlowKey k₁ = fromFlowKey k₂ ↔ k₁ = k₂ ∨ k₁ = k₂.reverse) ∧
    (∀ addr₁ port₁ addr₂ port₂ protocol,
      normalized addr₁ port₁ addr₂ port₂ protocol =
        normalized addr₂ port₂ addr₁ port₁ protocol) ∧
    ∀ addr₁ port₁ addr₂ port₂ protocol,
      (normalized addr₁ port₁ addr₂ port₂ protocol).renormalized =
        normalized addr₁ port₁ addr₂ port₂ protocol := by
  refine ⟨fun k₁ k₂ => ?_, fun addr₁ port₁ addr₂ port₂ protocol => ?_,
    fun addr₁ port₁ addr₂ port₂ protocol => ?_⟩
  · rw [fromFlowKey_eq_iff, Sym2.eq_iff]
    obtain ⟨src, dst, sport, dport, protocol⟩ := k₁
    obtain ⟨src', dst', sport', dport', protocol'⟩ := k₂
    simp only [FlowKey.reverse, FlowKey.mk.injEq, Prod.mk.injEq]
    tauto
  · rw [normalized_eq, normalized_eq, sortPair_comm Endpoint.sortKey_injective]
  · rw [renormalized, normalized_eq, normalized_eq]
    exact congrArg (ofEndpoints protocol) (sortPair_idem _ _ _)

end FlowIdentity

end NetworkEngine
