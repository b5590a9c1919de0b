import NetworkEngine.Parser.Network

/-!
# Link — Ethernet, VLAN stacks and ARP

`packet_parser::{ethernet, arp}`.  The Ethernet parser follows at most four stacked VLAN tags.
`Frame` writes a frame the way the wire carries it, and the last section reads it back.
-/

namespace NetworkEngine

open Rust

/-! ## 1. Ethernet -/

inductive EtherType where
  | ipv4
  | arp
  | ipv6
  | vlan
  | qinQ
  | qinQLegacy
  | unknown
  deriving DecidableEq, Repr

namespace EtherType

def fromU16 (value : UInt16) : EtherType :=
  if value = 0x0800 then .ipv4
  else if value = 0x0806 then .arp
  else if value = 0x86dd then .ipv6
  else if value = 0x8100 then .vlan
  else if value = 0x88a8 then .qinQ
  else if value = 0x9100 then .qinQLegacy
  else .unknown

def isVlan : EtherType → Bool
  | vlan | qinQ | qinQLegacy => true
  | _ => false

end EtherType

/-- `[u8; 6]`. -/
abbrev MacAddr := Vector UInt8 6

structure EthernetHeader where
  destination : MacAddr
  source : MacAddr
  etherType : EtherType
  deriving DecidableEq, Repr

structure VlanHeader where
  tci : UInt16
  etherType : EtherType
  deriving DecidableEq, Repr

structure EthernetParseResult where
  header : EthernetHeader
  vlanTags : List VlanHeader
  payloadOffset : Nat
  payloadLength : Nat
  deriving DecidableEq, Repr

/-- The six bytes from `packet[offset + i]` on. -/
def MacAddr.readAt (packet : Bytes) (offset i : Nat) : Checked EngineError MacAddr := do
  let a ← packet.byteAt offset i
  let b ← packet.byteAt offset (i + 1)
  let c ← packet.byteAt offset (i + 2)
  let d ← packet.byteAt offset (i + 3)
  let e ← packet.byteAt offset (i + 4)
  let f ← packet.byteAt offset (i + 5)
  return #v[a, b, c, d, e, f]

theorem MacAddr.readAt_safe {packet : Bytes} {offset i : Nat} {post : MacAddr → Prop}
    (hi : offset + i + 5 < packet.len) (h : ∀ a, post a) : Safe (readAt packet offset i) post :=
  .bind (.byteAt (by omega) fun _ => .bind (.byteAt (by omega) fun _ =>
    .bind (.byteAt (by omega) fun _ => .bind (.byteAt (by omega) fun _ =>
      .bind (.byteAt (by omega) fun _ => .bind (.byteAt hi fun _ => .pure (h _)))))))

namespace EthernetParseResult

def payload (r : EthernetParseResult) (packet : Bytes) : Checked EngineError Bytes :=
  let stop := min (saturatingAdd r.payloadOffset r.payloadLength) packet.len
  if stop ≤ r.payloadOffset then .ok ⟨[], Nat.zero_le _⟩ else packet.slice r.payloadOffset stop

end EthernetParseResult

namespace Ethernet

/-- The locals the VLAN loop updates. -/
structure Stack where
  etherType : EtherType
  offset : Nat
  vlanTags : List VlanHeader
  deriving DecidableEq, Repr

/-- `while ether_type.is_vlan()`, with `room = 4 - vlan_tags.len()` tags left to take. -/
def vlanLoop (packet : Bytes) : Nat → Stack → Checked EngineError Stack
  | room, st =>
    if st.etherType.isVlan then
      match room with
      | 0 => fail .packetMalformed
      | room + 1 => do
        let stop ← addU st.offset 4
        rejectIf (packet.len < stop) .packetTooShort
        let tci ← packet.be16At st.offset 0
        let nextType := EtherType.fromU16 (← packet.be16At st.offset 2)
        let offset ← addU st.offset 4
        vlanLoop packet room ⟨nextType, offset, st.vlanTags ++ [⟨tci, nextType⟩]⟩
    else
      .ok st

def parse (packet : Bytes) : Checked EngineError EthernetParseResult := do
  rejectIf (packet.len < 14) .packetTooShort
  let destination ← MacAddr.readAt packet 0 0
  let source ← MacAddr.readAt packet 0 6
  let etherType := EtherType.fromU16 (← packet.be16At 0 12)
  let st ← vlanLoop packet 4 ⟨etherType, 14, []⟩
  rejectIf (packet.len < st.offset) .packetTooShort
  let payloadLength ← subU packet.len st.offset
  return {
    header := { destination, source, etherType := st.etherType }
    vlanTags := st.vlanTags
    payloadOffset := st.offset
    payloadLength }

theorem vlanLoop_safe (packet : Bytes) (room : Nat) (st : Stack) (h : st.offset ≤ packet.len) :
    Safe (vlanLoop packet room st) fun st' => st'.offset ≤ packet.len := by
  have hlen := packet.len_le
  have hsize : isizeMax + 2000 < usizeSize := by decide
  induction room generalizing st with
  | zero =>
    unfold vlanLoop
    split
    · exact .fail _
    · exact h
  | succ room ih =>
    unfold vlanLoop
    split
    · refine .bind (.addU (by omega) <| .bind (.rejectIf fun hfit => ?_))
      refine .bind (.be16At (by omega) fun _ => .bind (.be16At (by omega) fun _ => ?_))
      refine .bind (.addU (by omega) <| ih _ ?_)
      simp only
      omega
    · exact h

theorem parse_safe (packet : Bytes) :
    Safe (parse packet) fun r => r.payloadOffset + r.payloadLength = packet.len := by
  refine .bind (.rejectIf fun hmin => ?_)
  refine .bind (MacAddr.readAt_safe (by omega) fun _ => ?_)
  refine .bind (MacAddr.readAt_safe (by omega) fun _ => .bind (.be16At (by omega) fun _ => ?_))
  refine .call (vlanLoop_safe packet 4 _ (by simp only; omega)) fun st hst => ?_
  refine .bind (.rejectIf fun _ => .bind (.subU hst <| .pure ?_))
  simp only
  omega

end Ethernet

theorem EthernetParseResult.payload_eq_ok {r : EthernetParseResult} {packet : Bytes}
    (h : r.payloadOffset + r.payloadLength = packet.len) :
    ∃ t, r.payload packet = .ok t ∧ r.payloadOffset + t.len = packet.len := by
  have hlen := packet.len_le
  have hsize : isizeMax < usizeSize := by decide
  have hstop : min (saturatingAdd r.payloadOffset r.payloadLength) packet.len = packet.len := by
    unfold saturatingAdd
    omega
  unfold payload
  simp only [hstop]
  split
  -- Nothing is left, so that the slice is not even tried.
  · refine ⟨_, rfl, ?_⟩
    simp only [Bytes.len, List.length_nil] at *
    omega
  · rw [Bytes.slice, if_pos ⟨by omega, Nat.le_refl _⟩]
    refine ⟨_, rfl, ?_⟩
    simp only [Bytes.len, List.length_take, List.length_drop] at *
    omega

/-! ## 2. ARP -/

inductive ArpHardwareType where
  | ethernet
  | unknown (value : UInt16)
  deriving DecidableEq, Repr

def ArpHardwareType.fromU16 (value : UInt16) : ArpHardwareType :=
  if value = 1 then .ethernet else .unknown value

inductive ArpOperation where
  | request
  | reply
  | unknown (value : UInt16)
  deriving DecidableEq, Repr

def ArpOperation.fromU16 (value : UInt16) : ArpOperation :=
  if value = 1 then .request else if value = 2 then .reply else .unknown value

structure ArpHeader where
  hardwareType : ArpHardwareType
  protocolType : UInt16
  hardwareAddressLength : UInt8
  protocolAddressLength : UInt8
  operation : ArpOperation
  deriving DecidableEq, Repr

structure ArpPacket where
  header : ArpHeader
  senderHardwareAddress : MacAddr
  senderProtocolAddress : Ipv4Addr
  targetHardwareAddress : MacAddr
  targetProtocolAddress : Ipv4Addr
  deriving DecidableEq, Repr

/-- `ArpPacket::ETHERNET_IPV4_SIZE`. -/
def ArpPacket.ethernetIpv4Size : Nat := 28

structure ArpParseResult where
  packet : ArpPacket
  headerOffset : Nat
  packetLength : Nat
  deriving DecidableEq, Repr

namespace Arp

def parseAt (packet : Bytes) (offset : Nat) : Checked EngineError ArpParseResult := do
  let remaining ← orFail (checkedSub packet.len offset) .packetTooShort
  rejectIf (remaining < ArpPacket.ethernetIpv4Size) .packetTooShort
  let hardwareType ← packet.be16At offset 0
  let protocolType ← packet.be16At offset 2
  let hardwareAddressLength ← packet.byteAt offset 4
  let protocolAddressLength ← packet.byteAt offset 5
  let operation ← packet.be16At offset 6
  rejectIf (hardwareType ≠ 1) .packetUnsupported
  rejectIf (protocolType ≠ 0x0800) .packetUnsupported
  rejectIf (hardwareAddressLength ≠ 6) .packetMalformed
  rejectIf (protocolAddressLength ≠ 4) .packetMalformed
  let senderHardwareAddress ← MacAddr.readAt packet offset 8
  let senderProtocolAddress ← Ipv4Addr.readAt packet offset 14
  let targetHardwareAddress ← MacAddr.readAt packet offset 18
  let targetProtocolAddress ← Ipv4Addr.readAt packet offset 24
  return {
    packet := {
      header := {
        hardwareType := .fromU16 hardwareType
        protocolType, hardwareAddressLength, protocolAddressLength
        operation := .fromU16 operation }
      senderHardwareAddress, senderProtocolAddress, targetHardwareAddress, targetProtocolAddress }
    headerOffset := offset
    packetLength := ArpPacket.ethernetIpv4Size }

theorem parseAt_safe (packet : Bytes) (offset : Nat) :
    Safe (parseAt packet offset) fun r => r.headerOffset + r.packetLength ≤ packet.len := by
  have hsize : ArpPacket.ethernetIpv4Size = 28 := rfl
  refine .bind (.orFail fun remaining hremaining => ?_)
  obtain ⟨hle, rfl⟩ := checkedSub_eq_some.mp hremaining
  refine .bind (.rejectIf fun hmin => ?_)
  refine .bind (.be16At (by omega) fun _ => .bind (.be16At (by omega) fun _ => ?_))
  refine .bind (.byteAt (by omega) fun _ => .bind (.byteAt (by omega) fun _ => ?_))
  refine .bind (.be16At (by omega) fun _ => ?_)
  refine .bind (.rejectIf fun _ => .bind (.rejectIf fun _ => ?_))
  refine .bind (.rejectIf fun _ => .bind (.rejectIf fun _ => ?_))
  refine .bind (MacAddr.readAt_safe (by omega) fun _ => ?_)
  refine .bind (Ipv4Addr.readAt_safe (by omega) fun _ => ?_)
  refine .bind (MacAddr.readAt_safe (by omega) fun _ => ?_)
  refine .bind (Ipv4Addr.readAt_safe (by omega) fun _ => .pure ?_)
  simp only
  omega

end Arp

/-! ## 3. Frames as the wire carries them -/

/-- The tag protocol identifiers the parser takes for a VLAN tag. -/
inductive Tpid where
  | vlan
  | qinQ
  | qinQLegacy
  deriving DecidableEq, Repr

def Tpid.toU16 : Tpid → UInt16
  | vlan => 0x8100
  | qinQ => 0x88a8
  | qinQLegacy => 0x9100

theorem Tpid.fromU16_isVlan (tpid : Tpid) : (EtherType.fromU16 tpid.toU16).isVlan = true := by
  cases tpid <;> decide

structure VlanTag where
  tpid : Tpid
  tci : UInt16
  deriving DecidableEq, Repr

namespace Frame

/-- The tags in order, each behind its identifier, then the ethertype of the payload. -/
def stackBytes (tags : List VlanTag) (etherType : UInt16) : List UInt8 :=
  match tags with
  | [] => Bytes.toBe16 etherType
  | tag :: tags => Bytes.toBe16 tag.tpid.toU16 ++ (Bytes.toBe16 tag.tci ++ stackBytes tags etherType)

/-- Everything of a frame before its payload. -/
def header (destination source : MacAddr) (tags : List VlanTag) (etherType : UInt16) :
    List UInt8 :=
  destination.toList ++ source.toList ++ stackBytes tags etherType

/-- The type field in front of a stack. -/
def typeField (tags : List VlanTag) (etherType : UInt16) : UInt16 :=
  match tags with
  | [] => etherType
  | tag :: _ => tag.tpid.toU16

theorem stackBytes_typeField (tags : List VlanTag) (etherType : UInt16) :
    ∃ rest, stackBytes tags etherType = Bytes.toBe16 (typeField tags etherType) ++ rest := by
  cases tags with
  | nil => exact ⟨[], (List.append_nil _).symm⟩
  | cons tag tags => exact ⟨_, rfl⟩

theorem stackBytes_length (tags : List VlanTag) (etherType : UInt16) :
    (stackBytes tags etherType).length = 4 * tags.length + 2 := by
  induction tags with
  | nil => rfl
  | cons tag tags ih =>
    simp only [stackBytes, Bytes.toBe16, List.length_append, List.length_cons, List.length_nil, ih]
    omega

theorem header_length (destination source : MacAddr) (tags : List VlanTag) (etherType : UInt16) :
    (header destination source tags etherType).length = 14 + 4 * tags.length := by
  simp only [header, List.length_append, Vector.length_toList, stackBytes_length]
  omega

end Frame

namespace Ethernet

open NetworkEngine.Frame

/-- One round of the loop on a written stack takes the first tag, and stands in front of the rest
as it stood in front of the whole. -/
theorem vlanLoop_tag {packet : Bytes} {pre p : List UInt8} {tag : VlanTag} {tags : List VlanTag}
    {etherType : UInt16} (h : packet.toList = pre ++ (stackBytes (tag :: tags) etherType ++ p))
    (room : Nat) (seen : List VlanHeader) :
    ∃ pre', packet.toList = pre' ++ (stackBytes tags etherType ++ p) ∧
      pre'.length = pre.length + 4 ∧
      vlanLoop packet (room + 1) ⟨.fromU16 tag.tpid.toU16, pre.length + 2, seen⟩ =
        vlanLoop packet room ⟨.fromU16 (typeField tags etherType), pre'.length + 2,
          seen ++ [⟨tag.tci, .fromU16 (typeField tags etherType)⟩]⟩ := by
  have hlen := packet.len_le
  have hsize : isizeMax < usizeSize := by decide
  have hfit : pre.length + 6 ≤ packet.len := by
    simp only [Bytes.len, h, List.length_append, stackBytes_length, List.length_cons]
    omega
  -- The word behind the tag is its own ethertype or the identifier of the next tag.
  obtain ⟨rest, hrest⟩ := stackBytes_typeField tags etherType
  let pre' := pre ++ Bytes.toBe16 tag.tpid.toU16 ++ Bytes.toBe16 tag.tci
  have hpre : pre'.length = pre.length + 2 + 2 := by
    simp only [pre', List.length_append]
    rfl
  have hnext : packet.toList = pre' ++ (stackBytes tags etherType ++ p) := by
    rw [h, stackBytes]
    simp only [pre', List.append_assoc]
  have htci : (packet.be16At (pre.length + 2) 0 : Checked EngineError UInt16) = .ok tag.tci := by
    refine Bytes.be16At_eq_ok (pre ++ Bytes.toBe16 tag.tpid.toU16)
      (stackBytes tags etherType ++ p) ?_ ?_
    · rw [hnext]
      simp only [pre', List.append_assoc]
    · rw [List.length_append]
      rfl
  have htype : (packet.be16At (pre.length + 2) 2 : Checked EngineError UInt16) =
      .ok (typeField tags etherType) := by
    refine Bytes.be16At_eq_ok pre' (rest ++ p) ?_ hpre.symm
    rw [hnext, hrest, List.append_assoc (Bytes.toBe16 _)]
  have hstop : (addU (pre.length + 2) 4 : Checked EngineError Nat) = .ok (pre'.length + 2) := by
    rw [hpre]
    exact if_pos (by omega)
  have hroom : (rejectIf (packet.len < pre'.length + 2) .packetTooShort :
      Checked EngineError Unit) = .ok () := if_neg (by omega)
  refine ⟨pre', hnext, hpre, ?_⟩
  rw [vlanLoop]
  simp only [tag.tpid.fromU16_isVlan, if_true, hstop, htci, htype, hroom, bind, Except.bind]

/-- A stack that fits is taken whole. -/
theorem vlanLoop_stack {packet : Bytes} {pre p : List UInt8} {tags : List VlanTag}
    {etherType : UInt16} (h : packet.toList = pre ++ (stackBytes tags etherType ++ p))
    (htype : (EtherType.fromU16 etherType).isVlan = false) {room : Nat}
    (hroom : tags.length ≤ room) (seen : List VlanHeader) :
    ∃ seen', vlanLoop packet room ⟨.fromU16 (typeField tags etherType), pre.length + 2, seen⟩ =
      .ok ⟨.fromU16 etherType, pre.length + 2 + 4 * tags.length, seen'⟩ := by
  -- On the stack; the prefix grows by a tag each round, and the room shrinks by one.
  induction tags generalizing pre room seen with
  | nil =>
    refine ⟨seen, ?_⟩
    unfold vlanLoop
    simp only [typeField, htype]
    rfl
  | cons tag tags ih =>
    obtain ⟨room, rfl⟩ := Nat.exists_eq_add_of_le' (Nat.one_le_of_lt hroom)
    obtain ⟨pre', hnext, hpre, hround⟩ := vlanLoop_tag h room seen
    obtain ⟨seen', hloop⟩ := ih hnext (Nat.le_of_succ_le_succ hroom)
      (seen ++ [⟨tag.tci, .fromU16 (typeField tags etherType)⟩])
    refine ⟨seen', ?_⟩
    rw [show typeField (tag :: tags) etherType = tag.tpid.toU16 from rfl, hround, hloop, hpre,
      List.length_cons]
    congr 2
    omega

/-- A stack that does not fit is rejected. -/
theorem vlanLoop_overflow {packet : Bytes} {pre p : List UInt8} {tags : List VlanTag}
    {etherType : UInt16} (h : packet.toList = pre ++ (stackBytes tags etherType ++ p)) {room : Nat}
    (hroom : room < tags.length) (seen : List VlanHeader) :
    vlanLoop packet room ⟨.fromU16 (typeField tags etherType), pre.length + 2, seen⟩ =
      fail .packetMalformed := by
  induction tags generalizing pre room seen with
  | nil => exact absurd hroom (Nat.not_lt_zero _)
  | cons tag tags ih =>
    cases room with
    | zero =>
      unfold vlanLoop
      simp only [typeField, tag.tpid.fromU16_isVlan]
      rfl
    | succ room =>
      obtain ⟨pre', hnext, -, hround⟩ := vlanLoop_tag h room seen
      rw [show typeField (tag :: tags) etherType = tag.tpid.toU16 from rfl, hround]
      exact ih hnext (Nat.lt_of_succ_lt_succ hroom) _

theorem readAt_mac {packet : Bytes} (pre : List UInt8) {post : List UInt8} {mac : MacAddr} {i : Nat}
    (h : packet.toList = pre ++ (mac.toList ++ post)) (hi : i = pre.length) :
    MacAddr.readAt packet 0 i = .ok mac := by
  have hbyte : ∀ j (hj : j < 6),
      (packet.byteAt 0 (i + j) : Checked EngineError UInt8) = .ok mac[j] := by
    intro j hj
    apply Bytes.byteAt_eq_ok
    rw [h, hi, Nat.zero_add, List.getElem?_append_right (Nat.le_add_right _ _),
      Nat.add_sub_cancel_left, List.getElem?_append_left (by rwa [Vector.length_toList])]
    simp only [Vector.getElem?_toList, Vector.getElem?_eq_getElem hj]
  -- The six bytes are read one by one, and make up the address again.
  have hread : MacAddr.readAt packet 0 i =
      .ok #v[mac[0], mac[1], mac[2], mac[3], mac[4], mac[5]] := by
    unfold MacAddr.readAt
    rw [show i = i + 0 from rfl, hbyte 0 (by decide), hbyte 1 (by decide), hbyte 2 (by decide),
      hbyte 3 (by decide), hbyte 4 (by decide), hbyte 5 (by decide)]
    rfl
  rw [hread]
  congr 1
  ext j hj
  match j, hj with
  | 0, _ | 1, _ | 2, _ | 3, _ | 4, _ | 5, _ => rfl

/-- What `parse` makes of a frame's fixed fields, up to the VLAN loop. -/
theorem parse_fields {packet : Bytes} {destination source : MacAddr} {tags : List VlanTag}
    {etherType : UInt16} {p : List UInt8}
    (h : packet.toList = header destination source tags etherType ++ p) :
    parse packet = do
      let st ← vlanLoop packet 4 ⟨.fromU16 (typeField tags etherType), 14, []⟩
      rejectIf (packet.len < st.offset) .packetTooShort
      let payloadLength ← subU packet.len st.offset
      return ⟨⟨destination, source, st.etherType⟩, st.vlanTags, st.offset, payloadLength⟩ := by
  have hlong : 14 ≤ packet.len := by
    simp only [Bytes.len, h, List.length_append, header_length]
    omega
  obtain ⟨rest, hrest⟩ := stackBytes_typeField tags etherType
  simp only [header, List.append_assoc] at h
  have hdestination : MacAddr.readAt packet 0 0 = .ok destination :=
    readAt_mac [] h rfl
  have hsource : MacAddr.readAt packet 0 6 = .ok source :=
    readAt_mac _ h (Vector.length_toList ..).symm
  have htype : (packet.be16At 0 12 : Checked EngineError UInt16) =
      .ok (typeField tags etherType) := by
    refine Bytes.be16At_eq_ok (destination.toList ++ source.toList) (rest ++ p) ?_ ?_
    · rw [h, hrest]
      simp only [List.append_assoc]
    · simp only [List.length_append, Vector.length_toList]
  unfold parse
  rw [hdestination, hsource, htype, rejectIf, if_neg (by omega)]
  rfl

/-- The header of a frame with at most four tags. -/
theorem parse_frame {packet : Bytes} {destination source : MacAddr} {tags : List VlanTag}
    {etherType : UInt16} {p : List UInt8}
    (h : packet.toList = header destination source tags etherType ++ p)
    (htype : (EtherType.fromU16 etherType).isVlan = false) (htags : tags.length ≤ 4) :
    ∃ r, parse packet = .ok r ∧ r.header = ⟨destination, source, .fromU16 etherType⟩ ∧
      r.payloadOffset = 14 + 4 * tags.length := by
  have hlong : 14 + 4 * tags.length ≤ packet.len := by
    simp only [Bytes.len, h, List.length_append, header_length]
    omega
  have hstack : packet.toList = (destination.toList ++ source.toList) ++
      (stackBytes tags etherType ++ p) := by
    rw [h, header, List.append_assoc]
  obtain ⟨seen, hloop⟩ := vlanLoop_stack hstack htype htags []
  simp only [List.length_append, Vector.length_toList, Nat.reduceAdd] at hloop
  rw [parse_fields h, hloop]
  simp only [bind, Except.bind, rejectIf, subU, if_pos hlong, if_neg (Nat.not_lt.mpr hlong)]
  exact ⟨_, rfl, rfl, rfl⟩

/-- More than four tags are rejected, whatever follows them. -/
theorem parse_frame_overflow {packet : Bytes} {destination source : MacAddr} {tags : List VlanTag}
    {etherType : UInt16} {p : List UInt8}
    (h : packet.toList = header destination source tags etherType ++ p)
    (htags : 4 < tags.length) : parse packet = fail .packetMalformed := by
  have hstack : packet.toList = (destination.toList ++ source.toList) ++
      (stackBytes tags etherType ++ p) := by
    rw [h, header, List.append_assoc]
  have hloop := vlanLoop_overflow hstack htags []
  simp only [List.length_append, Vector.length_toList, Nat.reduceAdd] at hloop
  rw [parse_fields h, hloop]
  rfl

/-! ### What is accepted is a frame -/

theorem exists_tpid {value : UInt16} (h : (EtherType.fromU16 value).isVlan = true) :
    ∃ tpid : Tpid, tpid.toU16 = value := by
  unfold EtherType.fromU16 at h
  split at h
  · nomatch h
  split at h
  · nomatch h
  split at h
  · nomatch h
  split at h
  · exact ⟨.vlan, Eq.symm ‹_›⟩
  split at h
  · exact ⟨.qinQ, Eq.symm ‹_›⟩
  split at h
  · exact ⟨.qinQLegacy, Eq.symm ‹_›⟩
  · nomatch h

/-- The bytes a successful loop went over are a stack of tags that had room. -/
theorem vlanLoop_sound {packet : Bytes} {pre rest : List UInt8} {value : UInt16} {room : Nat}
    {seen : List VlanHeader} {st : Stack}
    (h : packet.toList = pre ++ (Bytes.toBe16 value ++ rest))
    (hloop : vlanLoop packet room ⟨.fromU16 value, pre.length + 2, seen⟩ = .ok st) :
    ∃ tags etherType p, packet.toList = pre ++ (stackBytes tags etherType ++ p) ∧
      tags.length ≤ room ∧ st.etherType = .fromU16 etherType ∧
      st.offset = pre.length + 2 + 4 * tags.length := by
  -- On the room left: the loop either stops here, with no tag, or has gone over one more.
  induction room generalizing pre rest value seen with
  | zero =>
    unfold vlanLoop at hloop
    split at hloop
    · nomatch hloop
    · obtain rfl := Except.ok.inj hloop
      exact ⟨[], value, rest, h, Nat.zero_le _, rfl, rfl⟩
  | succ room ih =>
    unfold vlanLoop at hloop
    split at hloop
    · rename_i hvlan
      obtain ⟨tpid, rfl⟩ := exists_tpid hvlan
      obtain ⟨_, -, hloop⟩ := bind_eq_ok hloop
      obtain ⟨_, -, hloop⟩ := bind_eq_ok hloop
      obtain ⟨tci, htci, hloop⟩ := bind_eq_ok hloop
      obtain ⟨next, hnext, hloop⟩ := bind_eq_ok hloop
      obtain ⟨offset, hoffset, hloop⟩ := bind_eq_ok hloop
      obtain rfl := addU_eq_ok hoffset
      -- The tag is the word in front of the loop and the word behind it.
      obtain ⟨rest, rfl⟩ := Bytes.of_be16At (pre ++ Bytes.toBe16 tpid.toU16) htci
        (by rw [h, List.append_assoc]) (by rw [List.length_append]; rfl)
      let pre' := pre ++ Bytes.toBe16 tpid.toU16 ++ Bytes.toBe16 tci
      have hpre : pre'.length = pre.length + 2 + 2 := by
        simp only [pre', List.length_append]
        rfl
      have hrest : packet.toList = pre' ++ rest := by
        rw [h]
        simp only [pre', List.append_assoc]
      obtain ⟨rest, rfl⟩ := Bytes.of_be16At _ hnext hrest hpre.symm
      rw [show pre.length + 2 + 4 = pre'.length + 2 by omega] at hloop
      obtain ⟨tags, etherType, p, hp, htags, htype, hend⟩ := ih hrest hloop
      refine ⟨⟨tpid, tci⟩ :: tags, etherType, p, ?_, Nat.succ_le_succ htags, htype, ?_⟩
      · rw [hp]
        simp only [pre', stackBytes, List.append_assoc]
      · rw [hend, List.length_cons]
        omega
    · obtain rfl := Except.ok.inj hloop
      exact ⟨[], value, rest, h, Nat.zero_le _, rfl, rfl⟩

theorem exists_mac (bytes : List UInt8) (h : bytes.length = 6) :
    ∃ mac : MacAddr, mac.toList = bytes :=
  ⟨⟨bytes.toArray, h⟩, rfl⟩

/-- A packet the Ethernet parser accepts is a header with at most four tags and a payload. -/
theorem parse_sound {packet : Bytes} {r : EthernetParseResult} (h : parse packet = .ok r) :
    ∃ destination source tags etherType p,
      packet.toList = header destination source tags etherType ++ p ∧ tags.length ≤ 4 ∧
      r.header.etherType = .fromU16 etherType ∧ r.payloadOffset = 14 + 4 * tags.length := by
  obtain ⟨_, hmin, h⟩ := bind_eq_ok h
  have hlong : 14 ≤ packet.toList.length := Nat.not_lt.mp (rejectIf_eq_ok hmin)
  obtain ⟨_, -, h⟩ := bind_eq_ok h
  obtain ⟨_, -, h⟩ := bind_eq_ok h
  obtain ⟨value, hvalue, h⟩ := bind_eq_ok h
  obtain ⟨st, hst, h⟩ := bind_eq_ok h
  obtain ⟨_, -, h⟩ := bind_eq_ok h
  obtain ⟨_, -, h⟩ := bind_eq_ok h
  obtain rfl := Except.ok.inj h
  -- The addresses are the first twelve bytes, whatever they are.
  obtain ⟨destination, hdestination⟩ :=
    exists_mac (packet.toList.take 6) (by rw [List.length_take]; omega)
  obtain ⟨source, hsource⟩ := exists_mac ((packet.toList.drop 6).take 6)
    (by rw [List.length_take, List.length_drop]; omega)
  have hfixed : packet.toList =
      (destination.toList ++ source.toList) ++ (packet.toList.drop 6).drop 6 := by
    rw [hdestination, hsource, List.append_assoc, List.take_append_drop, List.take_append_drop]
  have hmacs : (destination.toList ++ source.toList).length = 12 := by
    rw [List.length_append, Vector.length_toList, Vector.length_toList]
  obtain ⟨rest, hrest⟩ := Bytes.of_be16At _ hvalue hfixed hmacs.symm
  rw [hrest] at hfixed
  rw [show 14 = (destination.toList ++ source.toList).length + 2 by rw [hmacs]] at hst
  obtain ⟨tags, etherType, p, hp, htags, htype, hend⟩ := vlanLoop_sound hfixed hst
  refine ⟨destination, source, tags, etherType, p, ?_, htags, htype, ?_⟩
  · rw [hp, header, List.append_assoc (destination.toList ++ source.toList)]
  · rw [hend, hmacs]

end Ethernet

end NetworkEngine
