import NetworkEngine.Parser.ExtensionWalk
import NetworkEngine.Parser.Packet

/-!
# UpperLayer — the protocol behind the network header

The upper-layer protocol of a packet, read off its bytes: the protocol field of IPv4, or what the
last of the IPv6 extension headers announces.  Of the packets that the parser accepts it classifies
that number, as long as it gets to the end of the extension headers.
-/

namespace NetworkEngine

open Rust

/-! ## 1. Chains of extension headers -/

namespace Ipv6Extension

/-- The types of extension headers that say where they end. -/
def known : List UInt8 := [0, 43, 44, 51, 60]

/-- The headers stand in the packet one behind the other, and no more follow a later fragment. -/
structure Spells (packet : Bytes) (header : UInt8) (start : Nat) (es : List Ipv6Extension) :
    Prop where
  chained : Chained header start es
  spelled : ∀ e ∈ es, e.Spelled packet
  laterIsLast : ∀ before e after, es = before ++ e :: after → e.IsLater packet → after = []

/-- No extension header follows: another protocol is announced, or the fragment is a later one. -/
def Complete (packet : Bytes) (header : UInt8) (es : List Ipv6Extension) : Prop :=
  announced header es ∉ known ∨ ∃ e ∈ es, e.IsLater packet

variable {packet : Bytes} {header : UInt8} {start : Nat} {es es' rest : List Ipv6Extension}
  {e e' : Ipv6Extension}

/-- A header is determined by its type and its place. -/
theorem Spelled.unique (h : e.Spelled packet) (h' : e'.Spelled packet)
    (htype : e.headerType = e'.headerType) (hoffset : e.offset = e'.offset) : e = e' := by
  obtain ⟨field, hfield, hlength⟩ := h.length
  obtain ⟨field', hfield', hlength'⟩ := h'.length
  have hnext := h.nextHeader
  rw [hoffset, h'.nextHeader] at hnext
  rw [hoffset, hfield'] at hfield
  cases e
  cases e'
  simp only at htype hoffset hlength hlength' hnext
  subst htype hoffset
  rw [hlength, hlength', Option.some.inj hfield, Option.some.inj hnext]

/-- Of two chains from one place one is the beginning of the other. -/
theorem Chained.comparable (h : Chained header start es) (h' : Chained header start es')
    (hs : ∀ e ∈ es, e.Spelled packet) (hs' : ∀ e ∈ es', e.Spelled packet) :
    es <+: es' ∨ es' <+: es := by
  induction es generalizing header start es' with
  | nil => exact .inl List.nil_prefix
  | cons e es ih =>
    cases es' with
    | nil => exact .inr List.nil_prefix
    | cons e' es' =>
      obtain rfl : e = e' := (hs e List.mem_cons_self).unique (hs' e' List.mem_cons_self)
        (h.1.trans h'.1.symm) (h.2.1.trans h'.2.1.symm)
      have htail := ih h.2.2 h'.2.2 (fun a ha => hs a (List.mem_cons_of_mem e ha))
        fun a ha => hs' a (List.mem_cons_of_mem e ha)
      exact htail.imp (List.prefix_cons_inj e).mpr (List.prefix_cons_inj e).mpr

theorem Chained.headerType_append (h : Chained header start (es ++ e :: rest)) :
    e.headerType = announced header es := by
  induction es generalizing header start with
  | nil => exact h.1
  | cons a es ih =>
    rw [ih h.2.2, announced, announced, List.getLast?_cons]
    cases es.getLast? <;> rfl

/-- Nothing follows a chain that is complete. -/
theorem Spells.eq_of_initial (h : Spells packet header start es')
    (hcomplete : Complete packet header es) (hinitial : es <+: es') : es = es' := by
  obtain ⟨rest, rfl⟩ := hinitial
  cases rest with
  | nil => exact (List.append_nil es).symm
  | cons e rest =>
    exfalso
    rcases hcomplete with hlast | ⟨later, hmem, hlater⟩
    · apply hlast
      rw [← h.chained.headerType_append]
      exact (h.spelled e (by simp)).headerType
    · obtain ⟨before, after, rfl⟩ := List.append_of_mem hmem
      have hnil := h.laterIsLast before later (after ++ e :: rest) (by simp) hlater
      simp at hnil

/-- A packet spells one complete chain. -/
theorem Spells.unique (h : Spells packet header start es) (h' : Spells packet header start es')
    (hcomplete : Complete packet header es) (hcomplete' : Complete packet header es') :
    es = es' := by
  rcases h.chained.comparable h'.chained h.spelled h'.spelled with hinitial | hinitial
  · exact h'.eq_of_initial hcomplete hinitial
  · exact (h.eq_of_initial hcomplete' hinitial).symm

theorem exists_later (h : opensPacket packet es = false) : ∃ e ∈ es, e.IsLater packet := by
  unfold opensPacket at h
  cases hlast : (es.filter (·.headerType = 44)).getLast? with
  | none =>
    rw [hlast] at h
    cases h
  | some e =>
    rw [hlast] at h
    have hmem := List.mem_filter.mp (List.mem_of_getLast? hlast)
    refine ⟨e, hmem.1, of_decide_eq_true hmem.2, fun hzero => ?_⟩
    rw [Option.map_some, hzero] at h
    cases h

end Ipv6Extension

open Ipv6Extension

/-! ## 2. Where the walk ends -/

namespace Ipv6

variable {packet : Bytes} {payloadEnd offset : Nat} {w w' : Walk} {r : Ipv6ParseResult}

theorem length_of_sizedExtension {bias unit : Nat}
    (h : sizedExtension packet payloadEnd bias unit w = .ok w') :
    w'.extensions.length = w.extensions.length + 1 := by
  obtain ⟨_, -, h⟩ := bind_eq_ok h
  obtain ⟨_, -, h⟩ := bind_eq_ok h
  obtain ⟨_, -, h⟩ := bind_eq_ok h
  obtain ⟨_, -, h⟩ := bind_eq_ok h
  obtain ⟨_, -, h⟩ := bind_eq_ok h
  obtain ⟨_, -, h⟩ := bind_eq_ok h
  obtain ⟨_, -, h⟩ := bind_eq_ok h
  obtain rfl := Except.ok.inj h
  rw [List.length_append, List.length_singleton]

theorem length_of_fragmentExtension (h : fragmentExtension packet payloadEnd w = .ok w') :
    w'.extensions.length = w.extensions.length + 1 := by
  obtain ⟨_, -, h⟩ := bind_eq_ok h
  obtain ⟨_, -, h⟩ := bind_eq_ok h
  obtain ⟨_, -, h⟩ := bind_eq_ok h
  obtain ⟨_, -, h⟩ := bind_eq_ok h
  obtain ⟨_, -, h⟩ := bind_eq_ok h
  obtain rfl := Except.ok.inj h
  rw [List.length_append, List.length_singleton]

/-- The loop leaves off at another protocol, behind a later fragment, or after all its rounds. -/
theorem walk_ends {fuel : Nat} (h : walk packet payloadEnd fuel w = .ok w') :
    w'.currentHeader ∉ known ∨ w'.firstFragment = false ∨
      w'.extensions.length = w.extensions.length + fuel := by
  induction fuel generalizing w with
  | zero =>
    obtain rfl := Except.ok.inj h
    exact .inr (.inr rfl)
  | succ fuel ih =>
    have round {next : Walk} (hlength : next.extensions.length = w.extensions.length + 1)
        (hrest : walk packet payloadEnd fuel next = .ok w') :
        w'.currentHeader ∉ known ∨ w'.firstFragment = false ∨
          w'.extensions.length = w.extensions.length + (fuel + 1) := by
      have hnext := ih hrest
      rw [hlength, Nat.add_right_comm, Nat.add_assoc] at hnext
      exact hnext
    unfold walk at h
    split at h
    · obtain ⟨next, hnext, hrest⟩ := bind_eq_ok h
      exact round (length_of_sizedExtension hnext) hrest
    rename_i hsized
    split at h
    · obtain ⟨next, hnext, hrest⟩ := bind_eq_ok h
      split at hrest
      · exact round (length_of_fragmentExtension hnext) hrest
      · rename_i hlater
        obtain rfl := Except.ok.inj hrest
        exact .inr (.inl (Bool.not_eq_true _ ▸ hlater))
    rename_i hfragment
    split at h
    · obtain ⟨next, hnext, hrest⟩ := bind_eq_ok h
      exact round (length_of_sizedExtension hnext) hrest
    · rename_i hauthentication
      obtain rfl := Except.ok.inj h
      left
      unfold known
      simp only [List.mem_cons, List.not_mem_nil, or_false]
      tauto

/-- The result is what the walk through the payload has come to. -/
theorem walk_of_parseAt (h : parseAt packet offset = .ok r) :
    packet.toList[offset + 6]? = some r.header.nextHeader ∧
      offset + 40 + r.header.payloadLength.toNat ≤ packet.len ∧
      ∃ w, walk packet (offset + 40 + r.header.payloadLength.toNat) 16
          ⟨offset + 40, r.header.nextHeader, [], false, true⟩ = .ok w ∧
        r.transportOffset = w.currentOffset ∧
        r.transportLength = offset + 40 + r.header.payloadLength.toNat - w.currentOffset ∧
        r.extensions = w.extensions ∧ r.fragmented = w.fragmented ∧
        r.firstFragment = w.firstFragment := by
  obtain ⟨_, -, h⟩ := bind_eq_ok h
  obtain ⟨_, -, h⟩ := bind_eq_ok h
  obtain ⟨first, -, h⟩ := bind_eq_ok h
  obtain ⟨_, -, h⟩ := bind_eq_ok h
  obtain ⟨second, -, h⟩ := bind_eq_ok h
  obtain ⟨third, -, h⟩ := bind_eq_ok h
  obtain ⟨fourth, -, h⟩ := bind_eq_ok h
  obtain ⟨payloadLength, -, h⟩ := bind_eq_ok h
  obtain ⟨nextHeader, hnext, h⟩ := bind_eq_ok h
  obtain ⟨hopLimit, -, h⟩ := bind_eq_ok h
  obtain ⟨source, -, h⟩ := bind_eq_ok h
  obtain ⟨destination, -, h⟩ := bind_eq_ok h
  obtain ⟨payloadStart, hstart, h⟩ := bind_eq_ok h
  obtain rfl := addU_eq_ok hstart
  obtain ⟨payloadEnd, hend, h⟩ := bind_eq_ok h
  obtain ⟨-, rfl⟩ := checkedAdd_eq_some.mp (orFail_eq_ok hend)
  obtain ⟨_, hfit, h⟩ := bind_eq_ok h
  obtain ⟨w, hwalk, h⟩ := bind_eq_ok h
  obtain rfl := Except.ok.inj h
  exact ⟨Bytes.of_byteAt hnext, Nat.not_lt.mp (rejectIf_eq_ok hfit), w, hwalk, rfl, rfl, rfl, rfl,
    rfl⟩

/-- What the parser reports is complete, unless it has gone over sixteen headers. -/
theorem parseAt_complete (h : parseAt packet offset = .ok r) :
    Complete packet r.header.nextHeader r.extensions ∨ r.extensions.length = 16 := by
  obtain ⟨-, -, w, hwalk, -, -, hextensions, -, -⟩ := walk_of_parseAt h
  obtain ⟨hw, -⟩ := walk_walked (walked_start (Nat.le_add_right _ _)) rfl hwalk
  rw [hextensions]
  rcases walk_ends hwalk with hother | hlater | hlength
  · exact .inl (.inl (hw.currentHeader ▸ hother))
  · exact .inl (.inr (exists_later (hw.firstFragment ▸ hlater)))
  · exact .inr (by simpa using hlength)

/-- The parser gets to the end of at most sixteen extension headers, and stops in front of another
one where there are more. -/
theorem parseAt_chain {nextHeader : UInt8} {es : List Ipv6Extension}
    (h : parseAt packet offset = .ok r) (hnext : packet.toList[offset + 6]? = some nextHeader)
    (hspells : Spells packet nextHeader (offset + 40) es)
    (hcomplete : Complete packet nextHeader es) :
    r.header.nextHeader = nextHeader ∧ (es.length ≤ 16 ∧ r.extensions = es ∨
      16 < es.length ∧ announced nextHeader r.extensions ∈ known) := by
  obtain ⟨hbyte, -, w, hwalk, -, -, hextensions, -, -⟩ := walk_of_parseAt h
  have hheader : r.header.nextHeader = nextHeader := Option.some.inj (hbyte.symm.trans hnext)
  obtain ⟨hw, hfew⟩ := walk_walked (walked_start (Nat.le_add_right _ _)) rfl hwalk
  have hsixteen : r.extensions.length ≤ 16 := by simpa [hextensions] using hfew
  have hparsed : Spells packet nextHeader (offset + 40) r.extensions := by
    rw [hextensions]
    exact ⟨hheader ▸ hw.chained, hw.spelled, hw.laterIsLast⟩
  refine ⟨hheader, ?_⟩
  rcases parseAt_complete h with hend | hfull
  · have heq := hparsed.unique hspells (hheader ▸ hend) hcomplete
    exact .inl ⟨heq ▸ hsixteen, heq⟩
  · rcases hparsed.chained.comparable hspells.chained hparsed.spelled hspells.spelled with
      hinitial | hinitial
    · obtain ⟨rest, rfl⟩ := hinitial
      cases rest with
      | nil =>
        rw [List.append_nil] at hspells ⊢
        exact .inl ⟨hsixteen, rfl⟩
      | cons e rest =>
        have hlength : 16 < (r.extensions ++ e :: rest).length := by
          rw [List.length_append, List.length_cons]
          omega
        refine .inr ⟨hlength, ?_⟩
        rw [← hspells.chained.headerType_append]
        exact (hspells.spelled e (by simp)).headerType
    · have heq := hparsed.eq_of_initial hcomplete hinitial
      exact .inl ⟨heq ▸ hsixteen, heq.symm⟩

end Ipv6

/-! ## 3. The protocol number of a packet -/

/-- The network header stands at `offset`. -/
inductive HeaderAt (raw : Bytes) : PacketInputLayer → Nat → Prop
  | ip : HeaderAt raw .ip 0
  | ethernet {frame : EthernetParseResult} (hframe : Ethernet.parse raw = .ok frame)
      (htype : frame.header.etherType = .ipv4 ∨ frame.header.etherType = .ipv6) :
      HeaderAt raw .ethernet frame.payloadOffset

/-- The upper-layer protocol of the packet at `offset`, with its network protocol and the number
of its extension headers. -/
inductive UpperLayer (raw : Bytes) (offset : Nat) : NetworkProtocol → Nat → UInt8 → Prop
  | ipv4 {first protocol : UInt8} (hfirst : raw.toList[offset]? = some first)
      (hversion : first >>> 4 = 4) (hprotocol : raw.toList[offset + 9]? = some protocol) :
      UpperLayer raw offset .ipv4 0 protocol
  | ipv6 {first nextHeader : UInt8} {payloadLength : UInt16} {es : List Ipv6Extension}
      (hfirst : raw.toList[offset]? = some first) (hversion : first >>> 4 = 6)
      (hlength : (raw.be16At offset 4 : Checked EngineError UInt16) = .ok payloadLength)
      (hnext : raw.toList[offset + 6]? = some nextHeader)
      (hspells : Spells raw nextHeader (offset + 40) es)
      (hinside : ∀ e ∈ es, e.stop ≤ offset + 40 + payloadLength.toNat)
      (hcomplete : Complete raw nextHeader es) :
      UpperLayer raw offset .ipv6 es.length (announced nextHeader es)

namespace ParsedPacket

variable {source : BackendSource} {raw : Bytes} {offset count : Nat} {protocol : UInt8}
  {family : NetworkProtocol} {r : ParsedPacket}

/-- The class that the parser gives to a protocol number behind `count` extension headers. -/
def classOf (family : NetworkProtocol) (count : Nat) (protocol : UInt8) : TransportProtocol :=
  match family with
  | .ipv4 => ipv4Transport protocol
  | .ipv6 => if count ≤ 16 then ipv6Transport protocol else .unknown
  | .arp | .unknown => .unknown

theorem version_of_ipv4 {parsed : Ipv4ParseResult} (h : Ipv4.parseAt raw offset = .ok parsed) :
    ∃ first, raw.toList[offset]? = some first ∧ first >>> 4 = 4 ∧
      raw.toList[offset + 9]? = some parsed.header.protocol := by
  obtain ⟨_, -, h⟩ := bind_eq_ok h
  obtain ⟨_, -, h⟩ := bind_eq_ok h
  obtain ⟨first, hfirst, h⟩ := bind_eq_ok h
  obtain ⟨_, hversion, h⟩ := bind_eq_ok h
  obtain ⟨_, -, h⟩ := bind_eq_ok h
  obtain ⟨_, -, h⟩ := bind_eq_ok h
  obtain ⟨_, -, h⟩ := bind_eq_ok h
  obtain ⟨_, -, h⟩ := bind_eq_ok h
  obtain ⟨_, -, h⟩ := bind_eq_ok h
  obtain ⟨_, -, h⟩ := bind_eq_ok h
  obtain ⟨_, -, h⟩ := bind_eq_ok h
  obtain ⟨_, -, h⟩ := bind_eq_ok h
  obtain ⟨_, -, h⟩ := bind_eq_ok h
  obtain ⟨_, -, h⟩ := bind_eq_ok h
  obtain ⟨_, -, h⟩ := bind_eq_ok h
  obtain ⟨_, -, h⟩ := bind_eq_ok h
  obtain ⟨protocol, hprotocol, h⟩ := bind_eq_ok h
  obtain ⟨_, -, h⟩ := bind_eq_ok h
  obtain ⟨_, -, h⟩ := bind_eq_ok h
  obtain ⟨_, -, h⟩ := bind_eq_ok h
  obtain ⟨_, -, h⟩ := bind_eq_ok h
  obtain ⟨_, -, h⟩ := bind_eq_ok h
  obtain rfl := Except.ok.inj h
  exact ⟨first, Bytes.of_index hfirst, not_not.mp (rejectIf_eq_ok hversion),
    Bytes.of_byteAt hprotocol⟩

theorem version_of_ipv6 {parsed : Ipv6ParseResult} (h : Ipv6.parseAt raw offset = .ok parsed) :
    ∃ first, raw.toList[offset]? = some first ∧ first >>> 4 = 6 := by
  obtain ⟨_, -, h⟩ := bind_eq_ok h
  obtain ⟨_, -, h⟩ := bind_eq_ok h
  obtain ⟨first, hfirst, h⟩ := bind_eq_ok h
  obtain ⟨_, hversion, -⟩ := bind_eq_ok h
  exact ⟨first, Bytes.of_index hfirst, not_not.mp (rejectIf_eq_ok hversion)⟩

theorem parseIpv4_class (h : parseIpv4 source raw offset = .ok r)
    (hupper : UpperLayer raw offset family count protocol) :
    r.transport = classOf family count protocol := by
  obtain ⟨parsed, hparsed, h⟩ := bind_eq_ok h
  obtain ⟨ports, -, h⟩ := bind_eq_ok h
  obtain rfl := Except.ok.inj h
  obtain ⟨first, hfirst, hversion, hbyte⟩ := version_of_ipv4 hparsed
  cases hupper with
  | ipv4 hfirst' hversion' hprotocol =>
    have heq := Option.some.inj (hbyte.symm.trans hprotocol)
    show ipv4Transport parsed.header.protocol = ipv4Transport protocol
    rw [heq]
  | ipv6 hfirst' hversion' =>
    rw [Option.some.inj (hfirst.symm.trans hfirst'), hversion'] at hversion
    exact absurd hversion (by decide)

/-- An extension header is no transport protocol. -/
theorem ipv6Transport_known (h : protocol ∈ known) : ipv6Transport protocol = .unknown := by
  unfold known at h
  simp only [List.mem_cons, List.not_mem_nil, or_false] at h
  rcases h with rfl | rfl | rfl | rfl | rfl <;> decide

theorem parseIpv6_class (h : parseIpv6 source raw offset = .ok r)
    (hupper : UpperLayer raw offset family count protocol) :
    r.transport = classOf family count protocol := by
  obtain ⟨parsed, hparsed, h⟩ := bind_eq_ok h
  obtain ⟨ports, -, h⟩ := bind_eq_ok h
  obtain rfl := Except.ok.inj h
  obtain ⟨first, hfirst, hversion⟩ := version_of_ipv6 hparsed
  cases hupper with
  | ipv4 hfirst' hversion' =>
    rw [Option.some.inj (hfirst.symm.trans hfirst'), hversion'] at hversion
    exact absurd hversion (by decide)
  | @ipv6 _ nextHeader _ es _ _ _ hnext hspells _ hcomplete =>
    obtain ⟨hheader, hchain⟩ := Ipv6.parseAt_chain hparsed hnext hspells hcomplete
    show ipv6Transport (announced parsed.header.nextHeader parsed.extensions) =
      if es.length ≤ 16 then ipv6Transport (announced nextHeader es) else .unknown
    rw [hheader]
    rcases hchain with ⟨hle, heq⟩ | ⟨hgt, hknown⟩
    · rw [if_pos hle, heq]
    · rw [if_neg (Nat.not_le.mpr hgt), ipv6Transport_known hknown]

/-- What the parser accepts it classifies by the protocol number of the packet. -/
theorem parseBytes_class {layer : PacketInputLayer} (h : parseBytes source raw layer = .ok r)
    (hat : HeaderAt raw layer offset) (hupper : UpperLayer raw offset family count protocol) :
    r.transport = classOf family count protocol := by
  obtain ⟨_, -, h⟩ := bind_eq_ok h
  cases hat with
  | ip =>
    obtain ⟨first, -, h⟩ := bind_eq_ok h
    dsimp only at h
    split at h
    · exact parseIpv4_class h hupper
    split at h
    · exact parseIpv6_class h hupper
    · cases h
  | @ethernet frame hframe htype =>
    obtain ⟨frame', hframe', h⟩ := bind_eq_ok h
    obtain rfl : frame' = frame := Except.ok.inj (hframe'.symm.trans hframe)
    obtain ⟨payload, -, h⟩ := bind_eq_ok h
    rcases htype with hfour | hsix
    · rw [hfour] at h
      exact parseIpv4_class h hupper
    · rw [hsix] at h
      exact parseIpv6_class h hupper

end ParsedPacket

end NetworkEngine
