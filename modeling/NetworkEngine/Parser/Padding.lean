import NetworkEngine.Lib.Padded
import NetworkEngine.Parser.Packet

/-!
# Padding — bytes behind a datagram

A frame shorter than the minimum of Ethernet is filled up behind its datagram.  Each parser stops
at the length its header gives, so that the filling is not read; only the Ethernet parser takes all
that is left for the payload, and the IP parsers do not look at that.
-/

namespace NetworkEngine

open Rust

variable {s t : Bytes}

/-! ## 1. The network layer -/

theorem Ipv4Addr.readAt_padded (h : Padded s t) (offset i : Nat) :
    Kept (readAt s offset i) (readAt t offset i) :=
  .bind (h.byteAt _ _) fun _ _ => .bind (h.byteAt _ _) fun _ _ =>
    .bind (h.byteAt _ _) fun _ _ => .bind (h.byteAt _ _) fun _ _ => .refl _

theorem Ipv6Addr.readAt_padded (h : Padded s t) (offset lo hi : Nat) :
    Kept (readAt s offset lo hi) (readAt t offset lo hi) :=
  .bind (.refl _) fun _ _ => .bind (.refl _) fun _ _ => .bind (h.slice _ _) fun _ _ => .refl _

theorem Ipv4.parseAt_padded (h : Padded s t) (offset : Nat) :
    Kept (parseAt s offset) (parseAt t offset) := by
  have hlen := h.len_le
  refine .bind (.refl _) fun _ _ => .bind (.rejectIf (by omega)) fun _ _ => ?_
  refine .bind (h.index _) fun _ _ => .bind (.refl _) fun _ _ => .bind (.refl _) fun _ _ => ?_
  refine .bind (.refl _) fun _ _ => .bind (.refl _) fun _ _ => ?_
  refine .bind (.rejectIf (by omega)) fun _ _ => .bind (h.byteAt _ _) fun _ _ => ?_
  refine .bind (h.be16At _ _) fun _ _ => .bind (.refl _) fun _ _ => .bind (.refl _) fun _ _ => ?_
  refine .bind (.rejectIf (by omega)) fun _ _ => .bind (h.be16At _ _) fun _ _ => ?_
  refine .bind (h.be16At _ _) fun _ _ => .bind (h.byteAt _ _) fun _ _ => ?_
  refine .bind (h.byteAt _ _) fun _ _ => .bind (h.be16At _ _) fun _ _ => ?_
  refine .bind (Ipv4Addr.readAt_padded h _ _) fun _ _ => ?_
  exact .bind (Ipv4Addr.readAt_padded h _ _) fun _ _ => .refl _

namespace Ipv6

theorem sizedExtension_padded (h : Padded s t) (payloadEnd bias unit : Nat) (w : Walk) :
    Kept (sizedExtension s payloadEnd bias unit w) (sizedExtension t payloadEnd bias unit w) :=
  .bind (.refl _) fun _ _ => .bind (.refl _) fun _ _ => .bind (h.index _) fun _ _ =>
    .bind (h.byteAt _ _) fun _ _ => .refl _

theorem fragmentExtension_padded (h : Padded s t) (payloadEnd : Nat) (w : Walk) :
    Kept (fragmentExtension s payloadEnd w) (fragmentExtension t payloadEnd w) :=
  .bind (.refl _) fun _ _ => .bind (.refl _) fun _ _ => .bind (h.index _) fun _ _ =>
    .bind (h.be16At _ _) fun _ _ => .refl _

/-- The walk is bounded by the payload, which the padding is behind. -/
theorem walk_padded (h : Padded s t) (payloadEnd fuel : Nat) (w : Walk) :
    Kept (walk s payloadEnd fuel w) (walk t payloadEnd fuel w) := by
  induction fuel generalizing w with
  | zero => exact .refl _
  | succ fuel ih =>
    unfold walk
    split
    · exact .bind (sizedExtension_padded h _ _ _ w) fun next _ => ih next
    split
    · refine .bind (fragmentExtension_padded h _ w) fun next _ => ?_
      split
      · exact ih next
      · exact .refl _
    split
    · exact .bind (sizedExtension_padded h _ _ _ w) fun next _ => ih next
    · exact .refl _

theorem parseAt_padded (h : Padded s t) (offset : Nat) :
    Kept (parseAt s offset) (parseAt t offset) := by
  have hlen := h.len_le
  refine .bind (.refl _) fun _ _ => .bind (.rejectIf (by omega)) fun _ _ => ?_
  refine .bind (h.index _) fun _ _ => .bind (.refl _) fun _ _ => ?_
  refine .bind (h.byteAt _ _) fun _ _ => .bind (h.byteAt _ _) fun _ _ => ?_
  refine .bind (h.byteAt _ _) fun _ _ => .bind (h.be16At _ _) fun _ _ => ?_
  refine .bind (h.byteAt _ _) fun _ _ => .bind (h.byteAt _ _) fun _ _ => ?_
  refine .bind (Ipv6Addr.readAt_padded h _ _ _) fun _ _ => ?_
  refine .bind (Ipv6Addr.readAt_padded h _ _ _) fun _ _ => ?_
  refine .bind (.refl _) fun _ _ => .bind (.refl _) fun _ _ => ?_
  refine .bind (.rejectIf (by omega)) fun _ _ => ?_
  exact .bind (walk_padded h _ _ _) fun _ _ => .refl _

end Ipv6

/-! ## 2. The transport layer -/

theorem Tcp.parseAtWithLength_padded (h : Padded s t) (offset length : Nat) :
    Kept (parseAtWithLength s offset length) (parseAtWithLength t offset length) := by
  have hlen := h.len_le
  refine .bind (.refl _) fun _ _ => .bind (.refl _) fun _ _ => ?_
  refine .bind (.rejectIf (by omega)) fun _ _ => .bind (.refl _) fun _ _ => ?_
  refine .bind (.rejectIf (by omega)) fun _ _ => ?_
  refine .bind (h.be16At _ _) fun _ _ => .bind (h.be16At _ _) fun _ _ => ?_
  refine .bind (h.be32At _ _) fun _ _ => .bind (h.be32At _ _) fun _ _ => ?_
  refine .bind (h.byteAt _ _) fun _ _ => .bind (.refl _) fun _ _ => .bind (.refl _) fun _ _ => ?_
  refine .bind (.refl _) fun _ _ => .bind (.refl _) fun _ _ => ?_
  refine .bind (.rejectIf (by omega)) fun _ _ => .bind (h.byteAt _ _) fun _ _ => ?_
  refine .bind (h.be16At _ _) fun _ _ => .bind (h.be16At _ _) fun _ _ => ?_
  exact .bind (h.be16At _ _) fun _ _ => .refl _

theorem Udp.parseAtWithLength_padded (h : Padded s t) (offset availableLength : Nat) :
    Kept (parseAtWithLength s offset availableLength)
      (parseAtWithLength t offset availableLength) := by
  have hlen := h.len_le
  refine .bind (.refl _) fun _ _ => .bind (.refl _) fun _ _ => ?_
  refine .bind (.rejectIf (by omega)) fun _ _ => ?_
  refine .bind (h.be16At _ _) fun _ _ => .bind (h.be16At _ _) fun _ _ => ?_
  exact .bind (h.be16At _ _) fun _ _ => .bind (h.be16At _ _) fun _ _ => .refl _

namespace ParsedPacket

theorem checkIcmp_padded (h : Padded s t) (payloadOffset payloadLength : Nat) :
    Kept (checkIcmp s payloadOffset payloadLength) (checkIcmp t payloadOffset payloadLength) :=
  .bind (.refl _) fun _ _ => .bind (h.slice _ _) fun _ _ => .refl _

theorem transportPorts_padded (h : Padded s t) (transport : TransportProtocol)
    (payloadOffset payloadLength : Nat) :
    Kept (transportPorts s transport payloadOffset payloadLength)
      (transportPorts t transport payloadOffset payloadLength) := by
  cases transport with
  | unknown => exact .refl _
  | tcp =>
    simp only [transportPorts]
    split
    · exact .refl _
    · exact .bind (Tcp.parseAtWithLength_padded h _ _) fun _ _ => .refl _
  | udp =>
    simp only [transportPorts]
    split
    · exact .refl _
    · exact .bind (Udp.parseAtWithLength_padded h _ _) fun _ _ => .refl _
  | icmp | icmpv6 =>
    simp only [transportPorts]
    split
    · exact .refl _
    · exact checkIcmp_padded h _ _

theorem fragmentPorts_padded (h : Padded s t) (laterFragment : Bool)
    (transport : TransportProtocol) (payloadOffset payloadLength : Nat) :
    Kept (fragmentPorts laterFragment s transport payloadOffset payloadLength)
      (fragmentPorts laterFragment t transport payloadOffset payloadLength) := by
  unfold fragmentPorts
  split
  · exact .refl _
  · exact transportPorts_padded h transport _ _

theorem parseIpv4_padded (source : BackendSource) (h : Padded s t) (offset : Nat) :
    Kept (parseIpv4 source s offset) (parseIpv4 source t offset) :=
  .bind (Ipv4.parseAt_padded h offset) fun _ _ =>
    .bind (fragmentPorts_padded h _ _ _ _) fun _ _ => .refl _

theorem parseIpv6_padded (source : BackendSource) (h : Padded s t) (offset : Nat) :
    Kept (parseIpv6 source s offset) (parseIpv6 source t offset) :=
  .bind (Ipv6.parseAt_padded h offset) fun _ _ =>
    .bind (fragmentPorts_padded h _ _ _ _) fun _ _ => .refl _

theorem parseIpLayer_padded (source : BackendSource) (h : Padded s t) :
    Kept (parseIpLayer source s) (parseIpLayer source t) := by
  refine .bind (h.index 0) fun first _ => ?_
  dsimp only
  split
  · exact parseIpv4_padded source h 0
  split
  · exact parseIpv6_padded source h 0
  · exact .refl _

end ParsedPacket

/-! ## 3. The link layer -/

theorem MacAddr.readAt_padded (h : Padded s t) (offset i : Nat) :
    Kept (readAt s offset i) (readAt t offset i) :=
  .bind (h.byteAt _ _) fun _ _ => .bind (h.byteAt _ _) fun _ _ =>
    .bind (h.byteAt _ _) fun _ _ => .bind (h.byteAt _ _) fun _ _ =>
      .bind (h.byteAt _ _) fun _ _ => .bind (h.byteAt _ _) fun _ _ => .refl _

namespace Ethernet

theorem vlanLoop_padded (h : Padded s t) (room : Nat) (st : Stack) :
    Kept (vlanLoop s room st) (vlanLoop t room st) := by
  have hlen := h.len_le
  induction room generalizing st with
  | zero =>
    unfold vlanLoop
    exact .refl _
  | succ room ih =>
    unfold vlanLoop
    split
    · refine .bind (.refl _) fun _ _ => .bind (.rejectIf (by omega)) fun _ _ => ?_
      refine .bind (h.be16At _ _) fun _ _ => .bind (h.be16At _ _) fun _ _ => ?_
      exact .bind (.refl _) fun _ _ => ih _
    · exact .refl _

/-- The header is the same; the padding is counted into the payload. -/
theorem parse_padded (h : Padded s t) {r : EthernetParseResult} (hr : parse s = .ok r) :
    parse t = .ok { r with payloadLength := t.len - r.payloadOffset } := by
  have hlen := h.len_le
  obtain ⟨_, hmin, hr⟩ := bind_eq_ok hr
  obtain ⟨destination, hdestination, hr⟩ := bind_eq_ok hr
  obtain ⟨source, hsource, hr⟩ := bind_eq_ok hr
  obtain ⟨etherType, htype, hr⟩ := bind_eq_ok hr
  obtain ⟨st, hst, hr⟩ := bind_eq_ok hr
  obtain ⟨_, hroom, hr⟩ := bind_eq_ok hr
  obtain ⟨_, -, hr⟩ := bind_eq_ok hr
  obtain rfl := Except.ok.inj hr
  have hmin' : ¬ t.len < 14 := fun hshort => rejectIf_eq_ok hmin (Nat.lt_of_le_of_lt hlen hshort)
  have hroom' : st.offset ≤ t.len := Nat.le_trans (Nat.not_lt.mp (rejectIf_eq_ok hroom)) hlen
  unfold parse
  rw [rejectIf, if_neg hmin', MacAddr.readAt_padded h _ _ _ hdestination,
    MacAddr.readAt_padded h _ _ _ hsource, h.be16At _ _ _ htype]
  simp only [bind, Except.bind, vlanLoop_padded h _ _ _ hst, rejectIf,
    if_neg (Nat.not_lt.mpr hroom'), subU, if_pos hroom']
  rfl

end Ethernet

namespace ParsedPacket

/-- An IP packet in a frame does not change. -/
theorem parseEthernet_padded (source : BackendSource) (h : Padded s t) {r : ParsedPacket}
    (hr : parseEthernet source s = .ok r) (hip : r.protocol = .ipv4 ∨ r.protocol = .ipv6) :
    parseEthernet source t = .ok r := by
  obtain ⟨ethernet, hparse, hr⟩ := bind_eq_ok hr
  obtain ⟨payload, -, hr⟩ := bind_eq_ok hr
  have hparse' := Ethernet.parse_padded h hparse
  obtain ⟨payload', hpayload, -⟩ :=
    EthernetParseResult.payload_eq_ok ((Ethernet.parse_safe t).of_ok hparse')
  unfold parseEthernet
  rw [hparse']
  simp only [bind, Except.bind, hpayload]
  cases htype : ethernet.header.etherType with
  | ipv4 =>
    rw [htype] at hr
    exact parseIpv4_padded source h _ r hr
  | ipv6 =>
    rw [htype] at hr
    exact parseIpv6_padded source h _ r hr
  | arp =>
    rw [htype] at hr
    obtain ⟨_, -, hr⟩ := bind_eq_ok hr
    obtain rfl := Except.ok.inj hr
    simp at hip
  | vlan | qinQ | qinQLegacy | unknown =>
    rw [htype] at hr
    cases hr

/-- What a packet of IP is parsed to does not depend on what follows it, at either layer. -/
theorem parseBytes_padded (source : BackendSource) (layer : PacketInputLayer) (raw padded : Bytes)
    (pad : List UInt8) (hpad : padded.toList = raw.toList ++ pad) (r : ParsedPacket)
    (hr : parseBytes source raw layer = .ok r) (hip : r.protocol = .ipv4 ∨ r.protocol = .ipv6) :
    parseBytes source padded layer = .ok r := by
  have h : Padded raw padded := ⟨pad, hpad⟩
  obtain ⟨_, hne, hr⟩ := bind_eq_ok hr
  have hlen : 0 < padded.len := Nat.lt_of_lt_of_le (isEmpty_eq_false (rejectIf_eq_ok hne)) h.len_le
  have hne' : ¬ padded.isEmpty = true := by
    rw [Bytes.isEmpty, List.isEmpty_iff]
    exact List.length_pos_iff.mp hlen
  unfold parseBytes
  rw [rejectIf, if_neg hne']
  cases layer with
  | ethernet => exact parseEthernet_padded source h hr hip
  | ip => exact parseIpLayer_padded source h r hr

/-- `udpFrame` filled up to sixty-four bytes. -/
def udpFramePadded : Bytes where
  toList := udpFrame.toList ++ List.replicate 14 0
  length_le := by decide

theorem parseBytes_padded_udp :
    parseBytes .npcap udpFramePadded .ethernet = .ok
      ⟨.npcap, .ipv4, .udp, 42, 8, some (.v4 ⟨10, 0, 0, 1⟩), some (.v4 ⟨10, 0, 0, 2⟩),
        some 53, some 4660⟩ :=
  parseBytes_padded .npcap .ethernet udpFrame udpFramePadded (List.replicate 14 0) rfl _
    (by decide +kernel) (.inl rfl)

end ParsedPacket

end NetworkEngine
