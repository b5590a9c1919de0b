import NetworkEngine.Flow.FlowTable
import NetworkEngine.Parser.Packet

/-!
# Datagram — TCP and UDP packets as the wire carries them

The packets a network layer delivers: an IPv4 or IPv6 header with its options or extension headers,
and a TCP or UDP segment.  The layouts are written from the formats and name no parser.  A first
fragment belongs here too: it carries the transport header, and only then may the length field of
UDP announce more bytes than follow.
-/

namespace NetworkEngine

open Rust

/-! ## 1. Segments -/

structure TcpSegment where
  sourcePort : UInt16
  destinationPort : UInt16
  sequenceNumber : Vector UInt8 4
  acknowledgmentNumber : Vector UInt8 4
  reserved : Fin 16
  flags : UInt8
  windowSize : UInt16
  checksum : UInt16
  urgentPointer : UInt16
  options : List UInt8
  payload : List UInt8
  options_words : options.length % 4 = 0
  options_length : options.length ≤ 40

namespace TcpSegment

/-- The data offset, in words of four bytes, above the four reserved bits. -/
def offsetByte (s : TcpSegment) : UInt8 :=
  UInt8.ofNat (16 * (5 + s.options.length / 4) + s.reserved)

def bytes (s : TcpSegment) : List UInt8 :=
  Bytes.toBe16 s.sourcePort ++ (Bytes.toBe16 s.destinationPort ++ (s.sequenceNumber.toList ++
    (s.acknowledgmentNumber.toList ++ (s.offsetByte :: s.flags :: (Bytes.toBe16 s.windowSize ++
      (Bytes.toBe16 s.checksum ++ (Bytes.toBe16 s.urgentPointer ++ (s.options ++ s.payload))))))))

end TcpSegment

structure UdpSegment where
  sourcePort : UInt16
  destinationPort : UInt16
  length : UInt16
  checksum : UInt16
  payload : List UInt8
  length_le : 8 + payload.length ≤ length.toNat

def UdpSegment.bytes (s : UdpSegment) : List UInt8 :=
  Bytes.toBe16 s.sourcePort ++ (Bytes.toBe16 s.destinationPort ++ (Bytes.toBe16 s.length ++
    (Bytes.toBe16 s.checksum ++ s.payload)))

inductive Segment where
  | tcp (s : TcpSegment)
  | udp (s : UdpSegment)

namespace Segment

def bytes : Segment → List UInt8
  | tcp s => s.bytes
  | udp s => s.bytes

/-- The IP protocol number. -/
def protocol : Segment → UInt8
  | tcp _ => 6
  | udp _ => 17

def sourcePort : Segment → UInt16
  | tcp s => s.sourcePort
  | udp s => s.sourcePort

def destinationPort : Segment → UInt16
  | tcp s => s.destinationPort
  | udp s => s.destinationPort

/-- The segment is whole: it was not cut by fragmentation. -/
def Complete : Segment → Prop
  | tcp _ => True
  | udp s => s.length.toNat = 8 + s.payload.length

end Segment

/-! ## 2. IPv4 -/

structure Ipv4Datagram where
  service : UInt8
  identification : UInt16
  dontFragment : Bool
  moreFragments : Bool
  ttl : UInt8
  checksum : UInt16
  source : Ipv4Addr
  destination : Ipv4Addr
  options : List UInt8
  segment : Segment
  options_words : options.length % 4 = 0
  options_length : options.length ≤ 40
  total_lt : 20 + options.length + segment.bytes.length < 2 ^ 16
  complete : moreFragments = false → segment.Complete

def Ipv4Addr.bytes (addr : Ipv4Addr) : List UInt8 := [addr.a, addr.b, addr.c, addr.d]

namespace Ipv4Datagram

/-- Version 4 above the header length, in words of four bytes. -/
def versionByte (d : Ipv4Datagram) : UInt8 := UInt8.ofNat (64 + (5 + d.options.length / 4))

def totalLength (d : Ipv4Datagram) : UInt16 :=
  UInt16.ofNat (20 + d.options.length + d.segment.bytes.length)

/-- The flags above a fragment offset of zero. -/
def flagsFragment (d : Ipv4Datagram) : UInt16 :=
  (if d.dontFragment then 0x4000 else 0) ||| (if d.moreFragments then 0x2000 else 0)

def bytes (d : Ipv4Datagram) : List UInt8 :=
  d.versionByte :: d.service :: (Bytes.toBe16 d.totalLength ++ (Bytes.toBe16 d.identification ++
    (Bytes.toBe16 d.flagsFragment ++ (d.ttl :: d.segment.protocol :: (Bytes.toBe16 d.checksum ++
      (d.source.bytes ++ (d.destination.bytes ++ (d.options ++ d.segment.bytes))))))))

end Ipv4Datagram

/-! ## 3. IPv6 -/

inductive OptionsKind where
  | hopByHop
  | routing
  | destination
  deriving DecidableEq, Repr

/-- An extension header, without the type of the header that follows it. -/
inductive Extension where
  | options (kind : OptionsKind) (words : UInt8) (body : List UInt8)
      (length_eq : 2 + body.length = 8 * (words.toNat + 1))
  | authentication (words : UInt8) (body : List UInt8)
      (length_eq : 2 + body.length = 4 * (words.toNat + 2))
  /-- The fragment header of a first fragment: the offset above `flags` is zero. -/
  | fragment (reserved flags : UInt8) (identification : Vector UInt8 4) (flags_lt : flags < 8)

namespace Extension

def headerType : Extension → UInt8
  | options .hopByHop .. => 0
  | options .routing .. => 43
  | options .destination .. => 60
  | authentication .. => 51
  | fragment .. => 44

def bytes (next : UInt8) : Extension → List UInt8
  | options _ words body _ => next :: words :: body
  | authentication words body _ => next :: words :: body
  | fragment reserved flags identification _ =>
    next :: reserved :: 0 :: flags :: identification.toList

def isFragment : Extension → Bool
  | fragment .. => true
  | _ => false

/-- The type in front of a chain of extensions that ends at a header of type `last`. -/
def chainType (last : UInt8) : List Extension → UInt8
  | [] => last
  | e :: _ => e.headerType

def chainBytes (last : UInt8) : List Extension → List UInt8
  | [] => []
  | e :: es => e.bytes (chainType last es) ++ chainBytes last es

end Extension

structure Ipv6Datagram where
  trafficClass : UInt8
  flowLabel : Fin (2 ^ 20)
  hopLimit : UInt8
  source : Ipv6Addr
  destination : Ipv6Addr
  extensions : List Extension
  segment : Segment
  payload_lt :
    (Extension.chainBytes segment.protocol extensions).length + segment.bytes.length < 2 ^ 16
  complete : extensions.any Extension.isFragment = false → segment.Complete

namespace Ipv6Datagram

def payloadLength (d : Ipv6Datagram) : UInt16 :=
  UInt16.ofNat
    ((Extension.chainBytes d.segment.protocol d.extensions).length + d.segment.bytes.length)

/-- Version 6, the traffic class and the flow label. -/
def versionBytes (d : Ipv6Datagram) : List UInt8 :=
  [UInt8.ofNat (96 + d.trafficClass.toNat / 16),
    UInt8.ofNat (16 * (d.trafficClass.toNat % 16) + d.flowLabel / 2 ^ 16),
    UInt8.ofNat (d.flowLabel / 2 ^ 8), UInt8.ofNat d.flowLabel]

def bytes (d : Ipv6Datagram) : List UInt8 :=
  d.versionBytes ++ (Bytes.toBe16 d.payloadLength ++
    (Extension.chainType d.segment.protocol d.extensions :: d.hopLimit ::
      (d.source.octets.toList ++ (d.destination.octets.toList ++
        (Extension.chainBytes d.segment.protocol d.extensions ++ d.segment.bytes)))))

end Ipv6Datagram

/-! ## 4. Datagrams -/

inductive Datagram where
  | ipv4 (d : Ipv4Datagram)
  | ipv6 (d : Ipv6Datagram)

namespace Datagram

def bytes : Datagram → List UInt8
  | ipv4 d => d.bytes
  | ipv6 d => d.bytes

theorem bytes_length_lt (d : Datagram) : d.bytes.length < 2 ^ 17 := by
  cases d with
  | ipv4 d =>
    have hlt := d.total_lt
    simp only [bytes, Ipv4Datagram.bytes, Bytes.toBe16, Ipv4Addr.bytes, List.length_cons,
      List.length_append, List.length_nil] at *
    omega
  | ipv6 d =>
    have hlt := d.payload_lt
    simp only [bytes, Ipv6Datagram.bytes, Ipv6Datagram.versionBytes, Bytes.toBe16,
      List.length_cons, List.length_append, List.length_nil, Vector.length_toList] at *
    omega

def toBytes (d : Datagram) : Bytes where
  toList := d.bytes
  length_le := by
    have hlt := d.bytes_length_lt
    have hsize : 2 ^ 17 < isizeMax := by decide
    omega

/-- The packet as a flow of the addresses and ports in its headers. -/
def fiveTuple : Datagram → FlowKey
  | ipv4 d => ⟨.v4 d.source, .v4 d.destination, d.segment.sourcePort, d.segment.destinationPort,
      d.segment.protocol⟩
  | ipv6 d => ⟨.v6 d.source, .v6 d.destination, d.segment.sourcePort, d.segment.destinationPort,
      d.segment.protocol⟩

end Datagram

end NetworkEngine
