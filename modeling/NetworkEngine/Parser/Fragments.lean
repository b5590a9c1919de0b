import NetworkEngine.Parser.Datagram

/-!
# Fragments — a datagram cut in pieces, and what the parser makes of each

An IP layer may cut a datagram: every fragment is an IP packet of its own, with the place of its
piece in the header, and only the first carries the transport header.  The layouts are written
from the formats, as in `Datagram`.  `parse_bytes` reads the ports of a first fragment and none of
a later one, but `udp::parse_at_with_length` compares the length of the whole datagram with the
bytes of the fragment, so that a UDP datagram that was really cut loses its first fragment.
-/

namespace NetworkEngine

open Rust

/-! ## 1. Cutting a message -/

/-- A message cut in pieces, each under header fields `E` of its own.  Every piece but the last is
a whole number of eight-byte words, and the first one holds the `header` bytes in front. -/
structure Cut (E : Type) (header : Nat) (message : List UInt8) where
  first : E × List UInt8
  later : List (E × List UInt8)
  join : first.2 ++ (later.map Prod.snd).flatten = message
  header_le : header ≤ first.2.length
  -- Offsets count words, so only the piece at the end may have a part of one.
  words : ∀ piece ∈ (first :: later).dropLast, piece.2.length % 8 = 0
  -- An empty fragment would take a place that the next one has.
  nonempty : ∀ piece ∈ later, piece.2 ≠ []

/-- A piece with its place in the message, in words of eight bytes. -/
structure Piece (E : Type) where
  envelope : E
  data : List UInt8
  offset : Nat
  more : Bool

/-- The pieces of a message, the first of them at the word `offset`. -/
def Piece.place {E : Type} (offset : Nat) : List (E × List UInt8) → List (Piece E)
  | [] => []
  | (envelope, data) :: rest =>
    -- The flag tells whether anything follows.
    ⟨envelope, data, offset, !rest.isEmpty⟩ :: place (offset + data.length / 8) rest

namespace Cut

variable {E : Type} {header : Nat} {message : List UInt8}

def firstPiece (c : Cut E header message) : Piece E :=
  ⟨c.first.1, c.first.2, 0, !c.later.isEmpty⟩

def laterPieces (c : Cut E header message) : List (Piece E) :=
  Piece.place (c.first.2.length / 8) c.later

end Cut

/-- A placed piece is one of the pieces, and ends before the message does. -/
theorem Piece.of_mem_place {E : Type} {pieces : List (E × List UInt8)} {offset : Nat} {p : Piece E}
    (h : p ∈ place offset pieces) :
    (p.envelope, p.data) ∈ pieces ∧ offset ≤ p.offset ∧
      8 * p.offset + p.data.length ≤ 8 * offset + (pieces.map Prod.snd).flatten.length := by
  induction pieces generalizing offset with
  | nil => cases h
  | cons piece rest ih =>
    simp only [List.map_cons, List.flatten_cons, List.length_append]
    rcases List.mem_cons.mp h with rfl | hrest
    · exact ⟨List.mem_cons_self, Nat.le_refl _, by simp only; omega⟩
    · obtain ⟨hmem, hle, hend⟩ := ih hrest
      exact ⟨List.mem_cons_of_mem _ hmem, by omega, by omega⟩

/-- Behind `pre`, each piece is the part of the message that its offset says. -/
theorem Piece.place_split {E : Type} {pieces : List (E × List UInt8)} (pre : List UInt8)
    {p : Piece E} (hpre : pre.length % 8 = 0)
    (hwords : ∀ piece ∈ pieces.dropLast, piece.2.length % 8 = 0)
    (h : p ∈ place (pre.length / 8) pieces) :
    ∃ post, pre ++ (pieces.map Prod.snd).flatten =
      (pre ++ (pieces.map Prod.snd).flatten).take (8 * p.offset) ++ (p.data ++ post) := by
  induction pieces generalizing pre with
  | nil => cases h
  | cons piece rest ih =>
    rcases List.mem_cons.mp h with rfl | hrest
    · have hoffset : 8 * (pre.length / 8) = pre.length := by omega
      refine ⟨(rest.map Prod.snd).flatten, ?_⟩
      simp only [hoffset, List.take_left', List.map_cons, List.flatten_cons]
    · -- A piece with one behind it is a whole number of words, so the offsets add up.
      have hne : rest ≠ [] := by
        intro hnil
        rw [hnil] at hrest
        cases hrest
      rw [List.dropLast_cons_of_ne_nil hne] at hwords
      have hpiece := hwords piece List.mem_cons_self
      have hlength : (pre ++ piece.2).length = pre.length + piece.2.length := List.length_append
      have hplace : (pre ++ piece.2).length / 8 = pre.length / 8 + piece.2.length / 8 := by omega
      obtain ⟨post, hpost⟩ := ih (pre ++ piece.2) (by omega)
        (fun q hq => hwords q (List.mem_cons_of_mem _ hq)) (by rwa [hplace])
      refine ⟨post, ?_⟩
      simpa only [List.map_cons, List.flatten_cons, List.append_assoc] using hpost

namespace Cut

variable {E : Type} {header : Nat} {message : List UInt8} (c : Cut E header message)

/-- Each piece is the part of the message that its offset says. -/
theorem piece_in_place {p : Piece E} (h : p ∈ c.firstPiece :: c.laterPieces) :
    ∃ post, message = message.take (8 * p.offset) ++ (p.data ++ post) := by
  have hmem : p ∈ Piece.place (([] : List UInt8).length / 8) (c.first :: c.later) := by
    rw [firstPiece, laterPieces] at h
    unfold Piece.place
    rwa [List.length_nil, Nat.zero_div, Nat.zero_add]
  have hplace := Piece.place_split [] rfl c.words hmem
  simpa only [List.map_cons, List.flatten_cons, List.nil_append, c.join] using hplace

theorem length_eq : message.length = c.first.2.length + (c.later.map Prod.snd).flatten.length := by
  have hjoin := congrArg List.length c.join
  rw [List.length_append] at hjoin
  exact hjoin.symm

/-- The first piece is the whole message exactly when it is the only one. -/
theorem later_eq_nil_iff : c.later = [] ↔ message.length ≤ c.first.2.length := by
  have hlength := c.length_eq
  constructor
  · intro hnil
    rw [hnil] at hlength
    exact Nat.le_of_eq hlength
  · intro hle
    -- Nothing is left for the later pieces, and none of them is empty.
    have hflat : (c.later.map Prod.snd).flatten = [] := by
      apply List.eq_nil_of_length_eq_zero
      omega
    apply List.eq_nil_iff_forall_not_mem.mpr
    intro piece hpiece
    exact c.nonempty piece hpiece
      (List.flatten_eq_nil_iff.mp hflat _ (List.mem_map_of_mem hpiece))

theorem laterPieces_eq_nil_iff : c.laterPieces = [] ↔ c.later = [] := by
  unfold laterPieces
  cases c.later with
  | nil => exact iff_of_true rfl rfl
  | cons piece rest => exact iff_of_false (List.cons_ne_nil _ _) (List.cons_ne_nil _ _)

/-- A later piece stands behind the first word, and its offset fits the thirteen bits it gets. -/
theorem of_mem_laterPieces {p : Piece E} (hheader : 8 ≤ header) (hlt : message.length < 2 ^ 16)
    (h : p ∈ c.laterPieces) :
    (p.envelope, p.data) ∈ c.later ∧ 0 < p.offset ∧ p.offset < 2 ^ 13 := by
  obtain ⟨hmem, hle, hend⟩ := Piece.of_mem_place h
  have hfirst := c.header_le
  have hlength := c.length_eq
  have hdata := List.length_pos_iff.mpr (c.nonempty _ hmem)
  exact ⟨hmem, by omega, by omega⟩

end Cut

/-- The bytes of the transport header, its options included. -/
def Segment.headerLength : Segment → Nat
  | tcp s => 20 + s.options.length
  | udp _ => 8

theorem Segment.eight_le_headerLength (s : Segment) : 8 ≤ s.headerLength := by
  cases s with
  | tcp s => exact Nat.le_trans (by decide) (Nat.le_add_right 20 _)
  | udp s => exact Nat.le_refl _

/-! ## 2. IPv4 fragments -/

/-- The header fields that a fragment does not share with its datagram: routers count down the
`ttl`, and only some of the options are copied to later fragments. -/
structure Ipv4Envelope where
  service : UInt8
  ttl : UInt8
  checksum : UInt16
  options : List UInt8
  options_words : options.length % 4 = 0
  options_length : options.length ≤ 40

namespace Ipv4Datagram

def fragmentFlags (d : Ipv4Datagram) (p : Piece Ipv4Envelope) : UInt16 :=
  -- The flags stand above the thirteen bits of the offset.
  (if d.dontFragment then 0x4000 else 0) ||| (if p.more then 0x2000 else 0) |||
    UInt16.ofNat p.offset

def fragment (d : Ipv4Datagram) (p : Piece Ipv4Envelope) : List UInt8 :=
  UInt8.ofNat (64 + (5 + p.envelope.options.length / 4)) :: p.envelope.service ::
    -- The total length and the options are those of the fragment.
    (Bytes.toBe16 (UInt16.ofNat (20 + p.envelope.options.length + p.data.length)) ++
      (Bytes.toBe16 d.identification ++ (Bytes.toBe16 (d.fragmentFlags p) ++
        (p.envelope.ttl :: d.segment.protocol :: (Bytes.toBe16 p.envelope.checksum ++
          (d.source.bytes ++ (d.destination.bytes ++ (p.envelope.options ++ p.data))))))))

end Ipv4Datagram

/-- A legal fragmentation of a datagram that is no fragment itself. -/
structure Ipv4Fragmentation (d : Ipv4Datagram) where
  cut : Cut Ipv4Envelope d.segment.headerLength d.segment.bytes
  whole : d.moreFragments = false
  total_lt : ∀ piece ∈ cut.first :: cut.later,
    20 + piece.1.options.length + piece.2.length < 2 ^ 16

/-! ## 3. IPv6 fragments -/

/-- The header fields that a fragment does not share with its datagram, the extension headers in
front of the fragment header among them. -/
structure Ipv6Envelope where
  trafficClass : UInt8
  hopLimit : UInt8
  extensions : List Extension
  reserved : UInt8
  reservedBits : Fin 4
  plain : extensions.any Extension.isFragment = false

/-- A legal fragmentation: the datagram is no fragment itself, the headers `rest` are cut with its
segment, and those in front of them travel with every fragment. -/
structure Ipv6Fragmentation (d : Ipv6Datagram) where
  identification : Vector UInt8 4
  rest : List Extension
  cut : Cut Ipv6Envelope
    ((Extension.chainBytes d.segment.protocol rest).length + d.segment.headerLength)
    (Extension.chainBytes d.segment.protocol rest ++ d.segment.bytes)
  -- A datagram that is itself a fragment could have an offset of its own.
  whole : d.extensions.any Extension.isFragment = false
  extensions_eq : cut.first.1.extensions ++ rest = d.extensions
  payload_lt : ∀ piece ∈ cut.first :: cut.later,
    -- Every fragment has its own chain, ended by the eight bytes of the fragment header.
    (Extension.chainBytes 44 piece.1.extensions).length + 8 + piece.2.length < 2 ^ 16

namespace Ipv6Fragmentation

variable {d : Ipv6Datagram}

/-- The fragment offset above two reserved bits and the `M` flag. -/
def fragmentField (p : Piece Ipv6Envelope) : UInt16 :=
  UInt16.ofNat (8 * p.offset + 2 * p.envelope.reservedBits + p.more.toNat)

def fragmentHeader (f : Ipv6Fragmentation d) (p : Piece Ipv6Envelope) : List UInt8 :=
  Extension.chainType d.segment.protocol f.rest :: p.envelope.reserved ::
    (Bytes.toBe16 (fragmentField p) ++ f.identification.toList)

def payloadLength (p : Piece Ipv6Envelope) : UInt16 :=
  UInt16.ofNat ((Extension.chainBytes 44 p.envelope.extensions).length + 8 + p.data.length)

def fragment (f : Ipv6Fragmentation d) (p : Piece Ipv6Envelope) : List UInt8 :=
  ({ d with trafficClass := p.envelope.trafficClass } : Ipv6Datagram).versionBytes ++
    (Bytes.toBe16 (payloadLength p) ++
      (Extension.chainType 44 p.envelope.extensions :: p.envelope.hopLimit ::
        (d.source.octets.toList ++ (d.destination.octets.toList ++
          (Extension.chainBytes 44 p.envelope.extensions ++ (f.fragmentHeader p ++ p.data))))))

end Ipv6Fragmentation

/-! ## 4. Fragmentations and their delivery -/

namespace Datagram

def segment : Datagram → Segment
  | ipv4 d => d.segment
  | ipv6 d => d.segment

def etherType : Datagram → UInt16
  | ipv4 _ => 0x0800
  | ipv6 _ => 0x86dd

def extensionCount : Datagram → Nat
  | ipv4 _ => 0
  | ipv6 d => d.extensions.length

end Datagram

inductive Fragmentation : Datagram → Type where
  | ipv4 {d : Ipv4Datagram} (f : Ipv4Fragmentation d) : Fragmentation (.ipv4 d)
  | ipv6 {d : Ipv6Datagram} (f : Ipv6Fragmentation d) : Fragmentation (.ipv6 d)

namespace Fragmentation

/-- The first fragment, as a packet. -/
def first {d : Datagram} : Fragmentation d → List UInt8
  | ipv4 (d := d) f => d.fragment f.cut.firstPiece
  | ipv6 f => f.fragment f.cut.firstPiece

/-- The later fragments, as packets. -/
def later {d : Datagram} : Fragmentation d → List (List UInt8)
  | ipv4 (d := d) f => f.cut.laterPieces.map d.fragment
  | ipv6 f => f.cut.laterPieces.map f.fragment

end Fragmentation

/-- How a packet reaches `parse_bytes`: alone, or in an Ethernet frame with at most four VLAN tags,
where bytes of padding may follow it. -/
inductive Delivered (etherType : UInt16) (packet : List UInt8) : Bytes → PacketInputLayer → Prop
  | ip {raw : Bytes} (h : raw.toList = packet) : Delivered etherType packet raw .ip
  | ethernet {raw : Bytes} (destination source : MacAddr) (tags : List VlanTag)
      (padding : List UInt8) (htags : tags.length ≤ 4)
      (h : raw.toList = Frame.header destination source tags etherType ++ (packet ++ padding)) :
      Delivered etherType packet raw .ethernet

def ParsedPacket.ports (r : ParsedPacket) : Ports := (r.sourcePort, r.destinationPort)

/-- Wherever the packet is delivered, `parse_bytes` accepts it and reports these ports. -/
def YieldsPorts (source : BackendSource) (etherType : UInt16) (packet : List UInt8)
    (ports : Ports) : Prop :=
  ∀ raw layer, Delivered etherType packet raw layer →
    ParsedPacket.ports <$> ParsedPacket.parseBytes source raw layer = .ok ports

/-- Every fragment is accepted, the first with the ports of the datagram and the later ones with
none. -/
def Fragmentation.Accepted {d : Datagram} (source : BackendSource) (f : Fragmentation d) : Prop :=
  YieldsPorts source d.etherType f.first
      (some d.segment.sourcePort, some d.segment.destinationPort) ∧
    ∀ packet ∈ f.later, YieldsPorts source d.etherType packet (none, none)

end NetworkEngine
