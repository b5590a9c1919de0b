import NetworkEngine.Core.Error
import NetworkEngine.Core.Observation

/-!
# Network — IPv4 and IPv6 headers

`packet_parser::{ipv4, ipv6}`.  Both parsers take the offset of their header in the whole packet.
The IPv6 parser walks at most sixteen extension headers; the walk is a function of its own here.
-/

namespace NetworkEngine

open Rust

/-! ## 1. IPv4 -/

structure Ipv4Header where
  version : UInt8
  ihl : UInt8
  dscp : UInt8
  ecn : UInt8
  totalLength : UInt16
  identification : UInt16
  dontFragment : Bool
  moreFragments : Bool
  fragmentOffset : UInt16
  ttl : UInt8
  protocol : UInt8
  checksum : UInt16
  source : Ipv4Addr
  destination : Ipv4Addr
  deriving DecidableEq, Repr

structure Ipv4ParseResult where
  header : Ipv4Header
  headerOffset : Nat
  payloadOffset : Nat
  payloadLength : Nat
  deriving DecidableEq, Repr

/-- `Ipv4Addr::new` of the four bytes from `packet[offset + i]` on. -/
def Ipv4Addr.readAt (packet : Bytes) (offset i : Nat) : Checked EngineError Ipv4Addr := do
  let a ← packet.byteAt offset i
  let b ← packet.byteAt offset (i + 1)
  let c ← packet.byteAt offset (i + 2)
  let d ← packet.byteAt offset (i + 3)
  return ⟨a, b, c, d⟩

theorem Ipv4Addr.readAt_safe {packet : Bytes} {offset i : Nat} {post : Ipv4Addr → Prop}
    (hi : offset + i + 3 < packet.len) (h : ∀ a, post a) : Safe (readAt packet offset i) post :=
  .bind (.byteAt (by omega) fun _ => .bind (.byteAt (by omega) fun _ =>
    .bind (.byteAt (by omega) fun _ => .bind (.byteAt hi fun _ => .pure (h _)))))

theorem Ipv4Addr.readAt_returns {packet : Bytes} {offset i : Nat}
    (hi : offset + i + 3 < packet.len) : Returns (readAt packet offset i) fun _ => True :=
  .bind (.byteAt (by omega) fun _ => .bind (.byteAt (by omega) fun _ =>
    .bind (.byteAt (by omega) fun _ => .bind (.byteAt hi fun _ => .pure trivial))))

theorem Ipv4Addr.readAt_behind {pre : List UInt8} {s t : Bytes} (h : Behind pre s t)
    {offset i : Nat} (hb : pre.length + offset + i + 3 < usizeSize) :
    Moved id (readAt s offset i) (readAt t (pre.length + offset) i) :=
  .bind (h.byteAt (by omega)) fun _ _ => .bind (h.byteAt (by omega)) fun _ _ =>
    .bind (h.byteAt (by omega)) fun _ _ => .bind (h.byteAt (by omega)) fun _ _ => .pure rfl

namespace Ipv4

def parseAt (packet : Bytes) (offset : Nat) : Checked EngineError Ipv4ParseResult := do
  let minimum ← addU offset 20
  rejectIf (packet.len < minimum) .packetTooShort
  let first ← packet.index offset
  let version := first >>> 4
  let ihl := first &&& 0x0f
  rejectIf (version ≠ 4) .packetMalformed
  rejectIf (ihl < 5) .packetMalformed
  let headerLength ← orFail (checkedMul ihl.toNat 4) .integerOverflow
  let headerEnd ← addU offset headerLength
  rejectIf (packet.len < headerEnd) .packetTooShort
  let serviceByte ← packet.byteAt offset 1
  let dscp := serviceByte >>> 2
  let ecn := serviceByte &&& 0x03
  let totalLength ← packet.be16At offset 2
  rejectIf (totalLength.toNat < headerLength) .packetMalformed
  let totalEnd ← orFail (checkedAdd offset totalLength.toNat) .integerOverflow
  rejectIf (packet.len < totalEnd) .packetTooShort
  let identification ← packet.be16At offset 4
  let flagsFragment ← packet.be16At offset 6
  let dontFragment := (flagsFragment &&& 0x4000) != 0
  let moreFragments := (flagsFragment &&& 0x2000) != 0
  let fragmentOffset := flagsFragment &&& 0x1fff
  let ttl ← packet.byteAt offset 8
  let protocol ← packet.byteAt offset 9
  let checksum ← packet.be16At offset 10
  let source ← Ipv4Addr.readAt packet offset 12
  let destination ← Ipv4Addr.readAt packet offset 16
  let payloadOffset ← addU offset headerLength
  let payloadLength ← subU totalLength.toNat headerLength
  return {
    header := {
      version, ihl, dscp, ecn, totalLength, identification, dontFragment, moreFragments,
      fragmentOffset, ttl, protocol, checksum, source, destination }
    headerOffset := offset
    payloadOffset, payloadLength }

theorem parseAt_safe (packet : Bytes) (offset : Nat) (h : offset ≤ packet.len) :
    Safe (parseAt packet offset) fun r =>
      r.payloadOffset + r.payloadLength ≤ packet.len ∧ r.payloadLength < 2 ^ 16 := by
  have hlen := packet.len_le
  have hsize : isizeMax + 2000 < usizeSize := by decide
  refine .bind (.addU (by omega) <| .bind (.rejectIf fun hmin => ?_))
  refine .bind (.index (by omega) fun first => ?_)
  refine .bind (.rejectIf fun _ => .bind (.rejectIf fun _ => .bind (.orFail fun n hn => ?_)))
  obtain ⟨-, rfl⟩ := checkedMul_eq_some.mp hn
  have hihl := (first &&& 0x0f).toNat_lt
  refine .bind (.addU (by omega) <| .bind (.rejectIf fun hheader => ?_))
  refine .bind (.byteAt (by omega) fun _ => .bind (.be16At (by omega) fun totalLength => ?_))
  refine .bind (.rejectIf fun htotal => .bind (.orFail fun totalEnd hend => ?_))
  obtain ⟨-, rfl⟩ := checkedAdd_eq_some.mp hend
  refine .bind (.rejectIf fun hfit => ?_)
  refine .bind (.be16At (by omega) fun _ => .bind (.be16At (by omega) fun _ => ?_))
  refine .bind (.byteAt (by omega) fun _ => .bind (.byteAt (by omega) fun _ => ?_))
  refine .bind (.be16At (by omega) fun _ => ?_)
  refine .bind (Ipv4Addr.readAt_safe (by omega) fun _ => ?_)
  refine .bind (Ipv4Addr.readAt_safe (by omega) fun _ => ?_)
  refine .bind (.addU (by omega) <| .bind (.subU (by omega) <| .pure ?_))
  have hword := totalLength.toNat_lt
  simp only
  omega

/-- The result of the same datagram read `k` bytes further into its packet. -/
def shift (k : Nat) (r : Ipv4ParseResult) : Ipv4ParseResult :=
  { r with headerOffset := k + r.headerOffset, payloadOffset := k + r.payloadOffset }

theorem parseAt_behind {pre : List UInt8} {s t : Bytes} (h : Behind pre s t) (offset : Nat)
    (hb : pre.length + offset + 70000 < usizeSize) :
    Moved (shift pre.length) (parseAt s offset) (parseAt t (pre.length + offset)) := by
  have hlen := h.len
  refine .bind (Behind.addU (by omega)) fun minimum _ => .bind (.rejectIf (by omega)) fun _ _ => ?_
  refine .bind (h.index _) fun first _ => ?_
  refine .bind (.rejectIf Iff.rfl) fun _ _ => .bind (.rejectIf Iff.rfl) fun _ _ => ?_
  refine .bind (.refl _) fun headerLength hheader => ?_
  obtain ⟨-, rfl⟩ := checkedMul_eq_some.mp (orFail_eq_ok hheader)
  have hihl := (first &&& 0x0f).toNat_lt
  refine .bind (Behind.addU (by omega)) fun _ _ => .bind (.rejectIf (by omega)) fun _ _ => ?_
  refine .bind (h.byteAt (by omega)) fun _ _ => .bind (h.be16At (by omega)) fun totalLength _ => ?_
  have hword := totalLength.toNat_lt
  refine .bind (.rejectIf Iff.rfl) fun _ _ => ?_
  refine .bind (Behind.checkedAdd (by omega)) fun _ _ => .bind (.rejectIf (by omega)) fun _ _ => ?_
  refine .bind (h.be16At (by omega)) fun _ _ => .bind (h.be16At (by omega)) fun _ _ => ?_
  refine .bind (h.byteAt (by omega)) fun _ _ => .bind (h.byteAt (by omega)) fun _ _ => ?_
  refine .bind (h.be16At (by omega)) fun _ _ => ?_
  refine .bind (Ipv4Addr.readAt_behind h (by omega)) fun _ _ => ?_
  refine .bind (Ipv4Addr.readAt_behind h (by omega)) fun _ _ => ?_
  refine .bind (Behind.addU (by omega)) fun _ _ => .bind (.refl _) fun _ _ => ?_
  exact .pure rfl

end Ipv4

/-! ## 2. IPv6 -/

structure Ipv6Header where
  version : UInt8
  trafficClass : UInt8
  flowLabel : UInt32
  payloadLength : UInt16
  nextHeader : UInt8
  hopLimit : UInt8
  source : Ipv6Addr
  destination : Ipv6Addr
  deriving DecidableEq, Repr

structure Ipv6Extension where
  headerType : UInt8
  nextHeader : UInt8
  offset : Nat
  length : Nat
  deriving DecidableEq, Repr

structure Ipv6ParseResult where
  header : Ipv6Header
  headerOffset : Nat
  transportOffset : Nat
  transportLength : Nat
  extensions : List Ipv6Extension
  fragmented : Bool
  firstFragment : Bool
  deriving DecidableEq, Repr

/-- The sixteen bytes `&packet[offset + lo..offset + hi]` as an address. -/
def Ipv6Addr.readAt (packet : Bytes) (offset lo hi : Nat) : Checked EngineError Ipv6Addr := do
  let start ← addU offset lo
  let stop ← addU offset hi
  let octets ← packet.slice start stop
  orFail (Ipv6Addr.tryFrom octets) .packetMalformed

theorem Ipv6Addr.readAt_safe {packet : Bytes} {offset lo hi : Nat} {post : Ipv6Addr → Prop}
    (hle : lo ≤ hi) (hin : offset + hi ≤ packet.len) (h : ∀ a, post a) :
    Safe (readAt packet offset lo hi) post := by
  have hlen := packet.len_le
  have hsize : isizeMax < usizeSize := by decide
  refine .bind (.addU (by omega) <| .bind (.addU (by omega) ?_))
  exact .bind (.slice (by omega) hin fun _ _ => .orFail fun a _ => h a)

theorem Ipv6Addr.readAt_returns {packet : Bytes} {offset lo hi : Nat} (hlo : hi = lo + 16)
    (hin : offset + hi ≤ packet.len) : Returns (readAt packet offset lo hi) fun _ => True := by
  have hlen := packet.len_le
  have hsize : isizeMax < usizeSize := by decide
  refine .bind (.addU (by omega) <| .bind (.addU (by omega) ?_))
  refine .bind (.slice (by omega) hin fun t ht => ?_)
  have hoctets : t.toList.toArray.size = 16 := by
    rw [List.size_toArray]
    show t.len = 16
    omega
  exact .orFail (dif_pos hoctets) trivial

theorem Ipv6Addr.readAt_behind {pre : List UInt8} {s t : Bytes} (h : Behind pre s t)
    {offset lo hi : Nat} (hlo : pre.length + offset + lo < usizeSize)
    (hhi : pre.length + offset + hi < usizeSize) :
    Moved id (readAt s offset lo hi) (readAt t (pre.length + offset) lo hi) :=
  .bind (Behind.addU hlo) fun start _ => .bind (Behind.addU hhi) fun stop _ =>
    .bind (h.slice start stop) fun _ _ => .refl _

namespace Ipv6

/-- Where the extension walk stands: the locals the `for` loop of `parse_at` updates. -/
structure Walk where
  currentOffset : Nat
  currentHeader : UInt8
  extensions : List Ipv6Extension
  fragmented : Bool
  firstFragment : Bool
  deriving DecidableEq, Repr

/-- An extension header whose length field counts `unit`-byte words less `bias`: hop-by-hop,
routing and destination options (`1`, `8`), authentication (`2`, `4`). -/
def sizedExtension (packet : Bytes) (payloadEnd bias unit : Nat) (w : Walk) :
    Checked EngineError Walk := do
  let fixedEnd ← addU w.currentOffset 2
  rejectIf (payloadEnd < fixedEnd) .packetTooShort
  let next ← packet.index w.currentOffset
  let lengthField ← packet.byteAt w.currentOffset 1
  -- Neither overflows: the field is a byte, and the source checks all the same.
  let length ← orFail ((checkedAdd lengthField.toNat bias).bind (checkedMul · unit)) .integerOverflow
  let stop ← orFail (checkedAdd w.currentOffset length) .integerOverflow
  rejectIf (payloadEnd < stop) .packetTooShort
  return {
    w with
    currentOffset := stop
    currentHeader := next
    extensions := w.extensions ++ [⟨w.currentHeader, next, w.currentOffset, length⟩] }

/-- The fragment extension header. -/
def fragmentExtension (packet : Bytes) (payloadEnd : Nat) (w : Walk) :
    Checked EngineError Walk := do
  let headerEnd ← addU w.currentOffset 8
  rejectIf (payloadEnd < headerEnd) .packetTooShort
  let next ← packet.index w.currentOffset
  let fragmentField ← packet.be16At w.currentOffset 2
  let fragmentOffset := (fragmentField >>> 3) &&& 0x1fff
  let stop ← addU w.currentOffset 8
  return {
    currentOffset := stop
    currentHeader := next
    extensions := w.extensions ++ [⟨44, next, w.currentOffset, 8⟩]
    fragmented := true
    firstFragment := fragmentOffset == 0 }

/-- `for _ in 0..fuel`: each round consumes one extension header, or leaves the loop. -/
def walk (packet : Bytes) (payloadEnd : Nat) : Nat → Walk → Checked EngineError Walk
  | 0, w => .ok w
  | fuel + 1, w =>
    if w.currentHeader = 0 ∨ w.currentHeader = 43 ∨ w.currentHeader = 60 then do
      let next ← sizedExtension packet payloadEnd 1 8 w
      walk packet payloadEnd fuel next
    else if w.currentHeader = 44 then do
      let next ← fragmentExtension packet payloadEnd w
      if next.firstFragment then walk packet payloadEnd fuel next else .ok next
    else if w.currentHeader = 51 then do
      let next ← sizedExtension packet payloadEnd 2 4 w
      walk packet payloadEnd fuel next
    else
      -- `50` and `59` return what the `break` of every other value falls through to.
      .ok w

def parseAt (packet : Bytes) (offset : Nat) : Checked EngineError Ipv6ParseResult := do
  let minimum ← addU offset 40
  rejectIf (packet.len < minimum) .packetTooShort
  let first ← packet.index offset
  rejectIf (first >>> 4 ≠ 6) .packetMalformed
  let second ← packet.byteAt offset 1
  let trafficClass := ((first &&& 0x0f) <<< 4) ||| (second >>> 4)
  let third ← packet.byteAt offset 2
  let fourth ← packet.byteAt offset 3
  let flowLabel :=
    ((second.toUInt32 &&& 0x0f) <<< 16) ||| (third.toUInt32 <<< 8) ||| fourth.toUInt32
  let payloadLength ← packet.be16At offset 4
  let nextHeader ← packet.byteAt offset 6
  let hopLimit ← packet.byteAt offset 7
  let source ← Ipv6Addr.readAt packet offset 8 24
  let destination ← Ipv6Addr.readAt packet offset 24 40
  let payloadStart ← addU offset 40
  let payloadEnd ← orFail (checkedAdd payloadStart payloadLength.toNat) .integerOverflow
  rejectIf (packet.len < payloadEnd) .packetTooShort
  let w ← walk packet payloadEnd 16 ⟨payloadStart, nextHeader, [], false, true⟩
  return {
    header := {
      version := 6, trafficClass, flowLabel, payloadLength, nextHeader, hopLimit, source,
      destination }
    headerOffset := offset
    transportOffset := w.currentOffset
    transportLength := payloadEnd - w.currentOffset
    extensions := w.extensions
    fragmented := w.fragmented
    firstFragment := w.firstFragment }

/-! ### The walk stays inside the payload -/

theorem sizedExtension_safe {packet : Bytes} {payloadEnd : Nat} (hend : payloadEnd ≤ packet.len)
    (bias unit : Nat) (w : Walk) (hw : w.currentOffset ≤ payloadEnd) :
    Safe (sizedExtension packet payloadEnd bias unit w) fun w' =>
      w.currentOffset ≤ w'.currentOffset ∧ w'.currentOffset ≤ payloadEnd := by
  have hlen := packet.len_le
  have hsize : isizeMax + 2000 < usizeSize := by decide
  refine .bind (.addU (by omega) <| .bind (.rejectIf fun hfixed => ?_))
  refine .bind (.index (by omega) fun _ => .bind (.byteAt (by omega) fun _ => ?_))
  refine .bind (.orFail fun length _ => .bind (.orFail fun stop hstop => ?_))
  obtain ⟨-, rfl⟩ := checkedAdd_eq_some.mp hstop
  refine .bind (.rejectIf fun hfit => .pure ?_)
  simp only
  omega

theorem fragmentExtension_safe {packet : Bytes} {payloadEnd : Nat}
    (hend : payloadEnd ≤ packet.len) (w : Walk) (hw : w.currentOffset ≤ payloadEnd) :
    Safe (fragmentExtension packet payloadEnd w) fun w' =>
      w.currentOffset ≤ w'.currentOffset ∧ w'.currentOffset ≤ payloadEnd := by
  have hlen := packet.len_le
  have hsize : isizeMax + 2000 < usizeSize := by decide
  refine .bind (.addU (by omega) <| .bind (.rejectIf fun hfixed => ?_))
  refine .bind (.index (by omega) fun _ => .bind (.be16At (by omega) fun _ => ?_))
  refine .bind (.addU (by omega) <| .pure ?_)
  simp only
  omega

theorem walk_safe {packet : Bytes} {payloadEnd : Nat} (hend : payloadEnd ≤ packet.len)
    (fuel : Nat) (w : Walk) (hw : w.currentOffset ≤ payloadEnd) :
    Safe (walk packet payloadEnd fuel w) fun w' =>
      w.currentOffset ≤ w'.currentOffset ∧ w'.currentOffset ≤ payloadEnd := by
  induction fuel generalizing w with
  | zero => exact ⟨Nat.le_refl _, hw⟩
  | succ fuel ih =>
    -- What is left of the walk starts no earlier than this header, and stays in the payload.
    have step : ∀ next : Walk, w.currentOffset ≤ next.currentOffset ∧
        next.currentOffset ≤ payloadEnd → Safe (walk packet payloadEnd fuel next) fun w' =>
          w.currentOffset ≤ w'.currentOffset ∧ w'.currentOffset ≤ payloadEnd :=
      fun next hnext => (ih next hnext.2).mono fun _ hw' => ⟨Nat.le_trans hnext.1 hw'.1, hw'.2⟩
    unfold walk
    split
    · exact .call (sizedExtension_safe hend 1 8 w hw) step
    split
    · refine .call (fragmentExtension_safe hend w hw) fun next hnext => ?_
      split
      · exact step next hnext
      · exact hnext
    split
    · exact .call (sizedExtension_safe hend 2 4 w hw) step
    · exact ⟨Nat.le_refl _, hw⟩

theorem parseAt_safe (packet : Bytes) (offset : Nat) (h : offset ≤ packet.len) :
    Safe (parseAt packet offset) fun r =>
      r.transportOffset + r.transportLength ≤ packet.len ∧ r.transportLength < 2 ^ 16 := by
  have hlen := packet.len_le
  have hsize : isizeMax + 2000 < usizeSize := by decide
  refine .bind (.addU (by omega) <| .bind (.rejectIf fun hmin => ?_))
  refine .bind (.index (by omega) fun _ => .bind (.rejectIf fun _ => ?_))
  refine .bind (.byteAt (by omega) fun _ => .bind (.byteAt (by omega) fun _ => ?_))
  refine .bind (.byteAt (by omega) fun _ => .bind (.be16At (by omega) fun payloadLength => ?_))
  refine .bind (.byteAt (by omega) fun _ => .bind (.byteAt (by omega) fun _ => ?_))
  refine .bind (Ipv6Addr.readAt_safe (by omega) (by omega) fun _ => ?_)
  refine .bind (Ipv6Addr.readAt_safe (by omega) (by omega) fun _ => ?_)
  refine .bind (.addU (by omega) <| .bind (.orFail fun payloadEnd hend => ?_))
  -- `payloadEnd` is `offset + 40` and the length field, and the check that follows bounds it.
  obtain ⟨-, rfl⟩ := checkedAdd_eq_some.mp hend
  refine .bind (.rejectIf fun hfit => ?_)
  refine .call (walk_safe (by omega) 16 _ (Nat.le_add_right _ _)) fun w hw => .pure ?_
  have hword := payloadLength.toNat_lt
  simp only at hw ⊢
  omega

/-! ### The walk behind a prefix -/

/-- The same extension header `k` bytes further into its packet. -/
def shiftExtension (k : Nat) (e : Ipv6Extension) : Ipv6Extension := { e with offset := k + e.offset }

def shiftWalk (k : Nat) (w : Walk) : Walk :=
  { w with
    currentOffset := k + w.currentOffset
    extensions := w.extensions.map (shiftExtension k) }

theorem sizedExtension_behind {pre : List UInt8} {s t : Bytes} (h : Behind pre s t)
    {payloadEnd : Nat} (hb : pre.length + payloadEnd + 5000 < usizeSize) {bias unit : Nat}
    (hbias : bias ≤ 2) (hunit : unit ≤ 8) (w : Walk) (hw : w.currentOffset ≤ payloadEnd) :
    Moved (shiftWalk pre.length) (sizedExtension s payloadEnd bias unit w)
      (sizedExtension t (pre.length + payloadEnd) bias unit (shiftWalk pre.length w)) := by
  refine .bind (Behind.addU (by omega)) fun _ _ => .bind (.rejectIf (by omega)) fun _ _ => ?_
  refine .bind (h.index _) fun next _ => .bind (h.byteAt (by omega)) fun lengthField _ => ?_
  refine .bind (.refl _) fun length hlength => ?_
  -- The length field is a byte, so that the length of the header is at most `257 * 8`.
  obtain ⟨words, hwords, hlength⟩ := Option.bind_eq_some_iff.mp (orFail_eq_ok hlength)
  obtain ⟨-, rfl⟩ := checkedAdd_eq_some.mp hwords
  obtain ⟨-, rfl⟩ := checkedMul_eq_some.mp hlength
  have hfield := lengthField.toNat_lt
  have hbound : (lengthField.toNat + bias) * unit ≤ 257 * 8 := Nat.mul_le_mul (by omega) hunit
  refine .bind (Behind.checkedAdd (by omega)) fun stop _ => .bind (.rejectIf (by omega)) fun _ _ => ?_
  exact .pure (by simp [shiftWalk, shiftExtension])

theorem fragmentExtension_behind {pre : List UInt8} {s t : Bytes} (h : Behind pre s t)
    {payloadEnd : Nat} (hb : pre.length + payloadEnd + 5000 < usizeSize) (w : Walk)
    (hw : w.currentOffset ≤ payloadEnd) :
    Moved (shiftWalk pre.length) (fragmentExtension s payloadEnd w)
      (fragmentExtension t (pre.length + payloadEnd) (shiftWalk pre.length w)) := by
  refine .bind (Behind.addU (by omega)) fun _ _ => .bind (.rejectIf (by omega)) fun _ _ => ?_
  refine .bind (h.index _) fun next _ => .bind (h.be16At (by omega)) fun field _ => ?_
  refine .bind (Behind.addU (by omega)) fun stop _ => ?_
  exact .pure (by simp [shiftWalk, shiftExtension])

theorem walk_behind {pre : List UInt8} {s t : Bytes} (h : Behind pre s t) {payloadEnd : Nat}
    (hend : payloadEnd ≤ s.len) (hb : pre.length + payloadEnd + 5000 < usizeSize) (fuel : Nat)
    (w : Walk) (hw : w.currentOffset ≤ payloadEnd) :
    Moved (shiftWalk pre.length) (walk s payloadEnd fuel w)
      (walk t (pre.length + payloadEnd) fuel (shiftWalk pre.length w)) := by
  induction fuel generalizing w with
  | zero => rfl
  | succ fuel ih =>
    unfold walk
    -- The branches only look at the header's number, which does not move.
    simp only [show (shiftWalk pre.length w).currentHeader = w.currentHeader from rfl]
    split
    · refine .bind (sizedExtension_behind h hb (by decide) (by decide) w hw) fun next hnext => ?_
      exact ih next ((sizedExtension_safe hend 1 8 w hw).of_ok hnext).2
    split
    · refine .bind (fragmentExtension_behind h hb w hw) fun next hnext => ?_
      simp only [show (shiftWalk pre.length next).firstFragment = next.firstFragment from rfl]
      split
      · exact ih next ((fragmentExtension_safe hend w hw).of_ok hnext).2
      · rfl
    split
    · refine .bind (sizedExtension_behind h hb (by decide) (by decide) w hw) fun next hnext => ?_
      exact ih next ((sizedExtension_safe hend 2 4 w hw).of_ok hnext).2
    · rfl

/-- The result of the same datagram read `k` bytes further into its packet. -/
def shift (k : Nat) (r : Ipv6ParseResult) : Ipv6ParseResult :=
  { r with
    headerOffset := k + r.headerOffset
    transportOffset := k + r.transportOffset
    extensions := r.extensions.map (shiftExtension k) }

theorem parseAt_behind {pre : List UInt8} {s t : Bytes} (h : Behind pre s t) (offset : Nat)
    (hb : pre.length + offset + 80000 < usizeSize) :
    Moved (shift pre.length) (parseAt s offset) (parseAt t (pre.length + offset)) := by
  have hlen := h.len
  refine .bind (Behind.addU (by omega)) fun minimum _ => .bind (.rejectIf (by omega)) fun _ _ => ?_
  refine .bind (h.index _) fun _ _ => .bind (.rejectIf Iff.rfl) fun _ _ => ?_
  refine .bind (h.byteAt (by omega)) fun _ _ => .bind (h.byteAt (by omega)) fun _ _ => ?_
  refine .bind (h.byteAt (by omega)) fun _ _ => ?_
  refine .bind (h.be16At (by omega)) fun payloadLength _ => ?_
  have hword := payloadLength.toNat_lt
  refine .bind (h.byteAt (by omega)) fun _ _ => .bind (h.byteAt (by omega)) fun _ _ => ?_
  refine .bind (Ipv6Addr.readAt_behind h (by omega) (by omega)) fun _ _ => ?_
  refine .bind (Ipv6Addr.readAt_behind h (by omega) (by omega)) fun _ _ => ?_
  refine .bind (Behind.addU (by omega)) fun payloadStart hstart => ?_
  obtain rfl := addU_eq_ok hstart
  refine .bind (Behind.checkedAdd (by omega)) fun payloadEnd hpayload => ?_
  obtain ⟨-, rfl⟩ := checkedAdd_eq_some.mp (orFail_eq_ok hpayload)
  refine .bind (.rejectIf (by omega)) fun _ hfit => ?_
  have hfit := rejectIf_eq_ok hfit
  refine .bind (walk_behind h (by omega) (by omega) 16
    ⟨offset + 40, _, [], false, true⟩ (Nat.le_add_right _ _)) fun w _ => ?_
  exact .pure (by simp only [shift, shiftWalk, Nat.add_sub_add_left, id_eq])

end Ipv6

end NetworkEngine
