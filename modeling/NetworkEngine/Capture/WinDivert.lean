import NetworkEngine.Core.Observation

/-!
# WinDivert — intercepted packets and the observations built from them

`backend_windivert::{ffi, actions}` and the observation that both `capture_worker_loop` and
`ingest_windivert_packet` build.  The native address travels with the observation as an opaque
context of eighty bytes, so that a later action can hand it back to the driver.
-/

namespace NetworkEngine

open Rust

/-! ## 1. The native address -/

/-- `u32::to_ne_bytes` on a little-endian target. -/
def le32 (w : UInt32) : List UInt8 :=
  [w.toUInt8, (w >>> 8).toUInt8, (w >>> 16).toUInt8, (w >>> 24).toUInt8]

/-- `u32::from_ne_bytes` on a little-endian target. -/
def ofLe32 (a b c d : UInt8) : UInt32 :=
  a.toUInt32 + b.toUInt32 * 256 + c.toUInt32 * 65536 + d.toUInt32 * 16777216

theorem ofLe32_le32 (w : UInt32) :
    ofLe32 w.toUInt8 (w >>> 8).toUInt8 (w >>> 16).toUInt8 (w >>> 24).toUInt8 = w := by
  apply UInt32.toNat_inj.mp
  have hw := w.toNat_lt
  simp only [ofLe32, UInt32.toNat_add, UInt32.toNat_mul, UInt8.toNat_toUInt32,
    UInt32.toNat_toUInt8, UInt32.toNat_shiftRight, UInt32.reduceToNat, Nat.reduceMod,
    Nat.shiftRight_eq_div_pow, Nat.reducePow] at *
  omega

theorem toNat_ofLe32 (a b c d : UInt8) :
    (ofLe32 a b c d).toNat = a.toNat + b.toNat * 256 + c.toNat * 65536 + d.toNat * 16777216 := by
  have ha := a.toNat_lt
  have hb := b.toNat_lt
  have hc := c.toNat_lt
  have hd := d.toNat_lt
  simp only [ofLe32, UInt32.toNat_add, UInt32.toNat_mul, UInt8.toNat_toUInt32,
    UInt32.reduceToNat, Nat.reducePow] at *
  omega

theorem le32_ofLe32 (a b c d : UInt8) : le32 (ofLe32 a b c d) = [a, b, c, d] := by
  have ha := a.toNat_lt
  have hb := b.toNat_lt
  have hc := c.toNat_lt
  have hd := d.toNat_lt
  simp only [le32, List.cons.injEq, ← UInt8.toNat_inj, UInt32.toNat_toUInt8,
    UInt32.toNat_shiftRight, UInt32.reduceToNat, Nat.reduceMod, Nat.shiftRight_eq_div_pow,
    toNat_ofLe32, Nat.reducePow, and_true] at *
  omega

/-- The four bytes of a word inside a longer list. -/
theorem le32_word {l : List UInt8} (h : 4 ≤ l.length) :
    le32 (ofLe32 (l.getD 0 0) (l.getD 1 0) (l.getD 2 0) (l.getD 3 0)) = l.take 4 := by
  match l, h with
  | a :: b :: c :: d :: rest, _ => exact le32_ofLe32 a b c d

/-- `WinDivertAddress`; the timestamp is only ever copied and is kept as its bytes. -/
structure WinDivertAddress where
  timestamp : Vector UInt8 8
  flagsRaw : UInt32
  reserved2 : UInt32
  data : Vector UInt8 64
  deriving DecidableEq, Repr

namespace WinDivertAddress

def serializedLen : Nat := 80

def layer (a : WinDivertAddress) : UInt8 := (a.flagsRaw &&& 0xff).toUInt8

def isOutbound (a : WinDivertAddress) : Bool := (a.flagsRaw >>> 17) &&& 1 == 1

def isLoopback (a : WinDivertAddress) : Bool := (a.flagsRaw >>> 18) &&& 1 == 1

def isImpostor (a : WinDivertAddress) : Bool := (a.flagsRaw >>> 19) &&& 1 == 1

def interfaceIndex (a : WinDivertAddress) : UInt32 :=
  ofLe32 a.data[0] a.data[1] a.data[2] a.data[3]

def toList (a : WinDivertAddress) : List UInt8 :=
  a.timestamp.toList ++ (le32 a.flagsRaw ++ (le32 a.reserved2 ++ a.data.toList))

theorem toList_length (a : WinDivertAddress) : a.toList.length = serializedLen := by
  simp only [toList, le32, List.length_append, Vector.length_toList, List.length_cons,
    List.length_nil]
  rfl

def toBytes (a : WinDivertAddress) : Bytes where
  toList := a.toList
  length_le := by
    rw [toList_length]
    decide

/-- `WinDivertAddress::from_bytes`. -/
def fromBytes (bytes : Bytes) : Option WinDivertAddress :=
  if h : bytes.toList.length = serializedLen then
    let word (s : List UInt8) : UInt32 := ofLe32 (s.getD 0 0) (s.getD 1 0) (s.getD 2 0) (s.getD 3 0)
    some {
      timestamp := ⟨(bytes.toList.take 8).toArray, by simp [h, serializedLen]⟩
      flagsRaw := word (bytes.toList.drop 8)
      reserved2 := word (bytes.toList.drop 12)
      data := ⟨(bytes.toList.drop 16).toArray, by simp [h, serializedLen]⟩ }
  else
    none

/-- The context an observation keeps is read back as the address it was made from. -/
theorem fromBytes_toBytes (a : WinDivertAddress) : fromBytes a.toBytes = some a := by
  have htime : a.timestamp.toList.length = 8 := Vector.length_toList ..
  have htake : a.toList.take 8 = a.timestamp.toList := List.take_left' htime
  have hflags : a.toList.drop 8 = le32 a.flagsRaw ++ (le32 a.reserved2 ++ a.data.toList) :=
    List.drop_left' htime
  have hreserved : a.toList.drop 12 = le32 a.reserved2 ++ a.data.toList := by
    rw [show 12 = 8 + 4 from rfl, ← List.drop_drop, hflags]
    rfl
  have hdata : a.toList.drop 16 = a.data.toList := by
    rw [show 16 = 12 + 4 from rfl, ← List.drop_drop, hreserved]
    rfl
  unfold fromBytes
  rw [dif_pos (show a.toBytes.toList.length = serializedLen from a.toList_length)]
  simp only [toBytes, htake, hflags, hreserved, hdata, le32, List.cons_append, List.nil_append,
    List.getD_cons_zero, List.getD_cons_succ, ofLe32_le32]
  rfl

/-- A context of any other length is refused. -/
theorem fromBytes_eq_none {bytes : Bytes} : fromBytes bytes = none ↔ bytes.len ≠ serializedLen := by
  unfold fromBytes
  split
  · rename_i hlen
    exact iff_of_false nofun fun hne => hne hlen
  · rename_i hlen
    exact iff_of_true rfl hlen

/-- Nothing of a context of the right length is lost. -/
theorem toBytes_fromBytes {bytes : Bytes} {a : WinDivertAddress} (h : fromBytes bytes = some a) :
    a.toBytes = bytes := by
  have hequal (hlist : a.toList = bytes.toList) : a.toBytes = bytes := by
    cases bytes
    simp only [toBytes, hlist]
  apply hequal
  unfold fromBytes at h
  split at h
  · rename_i hlen
    obtain rfl := Option.some.inj h
    have hflags : 4 ≤ (bytes.toList.drop 8).length := by
      rw [List.length_drop, hlen]
      decide
    have hreserved : 4 ≤ (bytes.toList.drop 12).length := by
      rw [List.length_drop, hlen]
      decide
    show bytes.toList.take 8 ++ (le32 _ ++ (le32 _ ++ bytes.toList.drop 16)) = bytes.toList
    rw [le32_word hflags, le32_word hreserved]
    have h16 : bytes.toList.drop 16 = (bytes.toList.drop 12).drop 4 := by rw [List.drop_drop]
    have h12 : bytes.toList.drop 12 = (bytes.toList.drop 8).drop 4 := by rw [List.drop_drop]
    rw [h16, List.take_append_drop, h12, List.take_append_drop, List.take_append_drop]
  · cases h

end WinDivertAddress

/-! ## 2. Intercepted packets -/

inductive PacketDirection where
  | inbound
  | outbound
  deriving DecidableEq, Repr

structure InterceptedPacket where
  data : Bytes
  direction : PacketDirection
  interfaceIndex : UInt32
  loopback : Bool
  impostor : Bool
  address : WinDivertAddress
  deriving DecidableEq, Repr

namespace InterceptedPacket

/-- What `recv_packet` makes of the bytes and the address the driver returned. -/
def fromNative (data : Bytes) (address : WinDivertAddress) : InterceptedPacket where
  data := data
  direction := if address.isOutbound then .outbound else .inbound
  interfaceIndex := address.interfaceIndex
  loopback := address.isLoopback
  impostor := address.isImpostor
  address := address

/-- The observation of a packet, at the clock readings of its capture and its ingestion. -/
def toObservation (packet : InterceptedPacket) (observationId : ObservationId)
    (captured ingested : Timestamp) : PacketObservation :=
  (PacketObservation.new observationId .windivert captured ingested
    (match packet.direction with | .inbound => .inbound | .outbound => .outbound)
    (toString packet.address.interfaceIndex) ⟨packet.data⟩)
  |>.withNativeContext ⟨.windivert, packet.address.toBytes⟩
  |>.withNativeMetadata "layer" (toString packet.address.layer)
  |>.withNativeMetadata "loopback" (toString packet.address.isLoopback)
  |>.withNativeMetadata "impostor" (toString packet.address.isImpostor)
  |>.withProvenance "backend-windivert"

end InterceptedPacket

end NetworkEngine
