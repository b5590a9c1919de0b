import NetworkEngine.Parser.Headers
import NetworkEngine.Parser.UpperLayer

/-!
# Ipv6Format — what the IPv6 parser accepts

The fixed header has its layout, like the headers of the other formats.  The extension headers that
follow it are a chain, and the parser goes over a chain exactly where it lies in the payload and
comes to an end, or fills the sixteen rounds that the walk has.
-/

namespace NetworkEngine

open Rust Ipv6Extension

variable {packet : Bytes} {offset : Nat}

/-! ## 1. The fixed header -/

theorem Ipv6Addr.tryFrom_eq_some {octets : Bytes} {addr : Ipv6Addr} :
    tryFrom octets = some addr ↔ octets.toList = addr.octets.toList := by
  obtain ⟨⟨⟨bytes⟩, hsize⟩⟩ := addr
  unfold tryFrom
  constructor
  · intro h
    split at h
    · cases h
      rfl
    · nomatch h
  · intro h
    have hlist : octets.toList = bytes := h
    subst hlist
    exact dif_pos hsize

theorem Ipv6Addr.readAt_eq_ok {lo hi : Nat} {addr : Ipv6Addr} (hlo : hi = lo + 16) :
    readAt packet offset lo hi = .ok addr ↔ packet.Shown (offset + lo) addr.octets.toList := by
  have hlen := packet.len_le
  have hsize : isizeMax < usizeSize := by decide
  have hoctets : addr.octets.toList.length = 16 := Vector.length_toList ..
  unfold readAt
  simp only [bind_eq_ok_iff, addU_eq_ok_iff, Bytes.slice_eq_ok_iff, orFail_eq_ok_iff,
    Ipv6Addr.tryFrom_eq_some]
  constructor
  · rintro ⟨_, ⟨-, rfl⟩, _, ⟨-, rfl⟩, octets, ⟨-, -, -, hshown⟩, heq⟩
    rwa [heq] at hshown
  · intro h
    have hroom := h.length_le
    have hle : addr.octets.toList.length ≤ isizeMax := by omega
    refine ⟨_, ⟨by omega, rfl⟩, _, ⟨by omega, rfl⟩, ⟨addr.octets.toList, hle⟩,
      ⟨by omega, by omega, ?_, h⟩, rfl⟩
    show addr.octets.toList.length = _
    omega

namespace Ipv6Header

def versionByte (h : Ipv6Header) : UInt8 :=
  .ofNat (16 * h.version.toNat + h.trafficClass.toNat / 16)

/-- The rest of the traffic class, and the upper four bits of the flow label. -/
def classByte (h : Ipv6Header) : UInt8 :=
  .ofNat (16 * (h.trafficClass.toNat % 16) + h.flowLabel.toNat / 65536)

def labelBytes (h : Ipv6Header) : List UInt8 :=
  [.ofNat (h.flowLabel.toNat / 256), .ofNat h.flowLabel.toNat]

def bytes (h : Ipv6Header) : List UInt8 :=
  [h.versionByte] ++ ([h.classByte] ++ (h.labelBytes ++ (Bytes.toBe16 h.payloadLength ++
    ([h.nextHeader] ++ ([h.hopLimit] ++ (h.source.octets.toList ++ h.destination.octets.toList))))))

structure WellFormed (h : Ipv6Header) : Prop where
  version : h.version = 6
  flowLabel_lt : h.flowLabel.toNat < 2 ^ 20

theorem length_bytes (h : Ipv6Header) : h.bytes.length = 40 := by
  simp only [bytes, labelBytes, List.length_append, List.length_cons, List.length_nil,
    Bytes.length_toBe16, Vector.length_toList]

theorem shown_bytes {h : Ipv6Header} : packet.Shown offset h.bytes ↔
    packet.Shown offset [h.versionByte] ∧ packet.Shown (offset + 1) [h.classByte] ∧
    packet.Shown (offset + 2) h.labelBytes ∧
    packet.Shown (offset + 4) (Bytes.toBe16 h.payloadLength) ∧
    packet.Shown (offset + 6) [h.nextHeader] ∧ packet.Shown (offset + 7) [h.hopLimit] ∧
    packet.Shown (offset + 8) h.source.octets.toList ∧
    packet.Shown (offset + 24) h.destination.octets.toList := by
  simp only [bytes, Bytes.shown_append, Bytes.length_toBe16, Vector.length_toList,
    Nat.add_assoc, Nat.reduceAdd, labelBytes, List.length_cons, List.length_nil]

end Ipv6Header

namespace Ipv6

/-! ### The traffic class and the flow label -/

def classOfBytes (a b : UInt8) : UInt8 := ((a &&& 0x0f) <<< 4) ||| (b >>> 4)

def labelOfBytes (b c d : UInt8) : UInt32 :=
  ((b.toUInt32 &&& 0x0f) <<< 16) ||| (c.toUInt32 <<< 8) ||| d.toUInt32

theorem toNat_classOfBytes (a b : UInt8) :
    (classOfBytes a b).toNat = 16 * (a.toNat % 16) + b.toNat / 16 := by
  have hlow : (a &&& 0x0f).toNat = a.toNat % 16 := toNat_and_mask 4 rfl
  have hhigh : (b >>> 4).toNat = b.toNat / 16 := toNat_high 4 rfl
  have hb := b.toNat_lt
  have hshift : ((a &&& 0x0f) <<< (4 : UInt8)).toNat = a.toNat % 16 * 2 ^ 4 := by
    rw [UInt8.toNat_shiftLeft, hlow]
    show (a.toNat % 16) <<< 4 % 2 ^ 8 = _
    rw [Nat.shiftLeft_eq]
    exact Nat.mod_eq_of_lt (by omega)
  rw [classOfBytes, UInt8.toNat_or, hshift, hhigh, Bytes.or_eq_add (by omega)]
  omega

theorem toNat_labelOfBytes (b c d : UInt8) : (labelOfBytes b c d).toNat =
    65536 * (b.toNat % 16) + 256 * c.toNat + d.toNat := by
  have hc := c.toNat_lt
  have hd := d.toNat_lt
  have hlow : (b.toUInt32 &&& 0x0f).toNat = b.toNat % 16 := by
    rw [UInt32.toNat_and, UInt8.toNat_toUInt32]
    exact Nat.and_two_pow_sub_one_eq_mod b.toNat 4
  have hfirst : ((b.toUInt32 &&& 0x0f) <<< (16 : UInt32)).toNat = b.toNat % 16 * 2 ^ 16 := by
    rw [UInt32.toNat_shiftLeft, hlow]
    show (b.toNat % 16) <<< 16 % 2 ^ 32 = _
    rw [Nat.shiftLeft_eq]
    exact Nat.mod_eq_of_lt (by omega)
  have hsecond : (c.toUInt32 <<< (8 : UInt32)).toNat = c.toNat * 2 ^ 8 := by
    rw [UInt32.toNat_shiftLeft, UInt8.toNat_toUInt32]
    show c.toNat <<< 8 % 2 ^ 32 = _
    rw [Nat.shiftLeft_eq]
    exact Nat.mod_eq_of_lt (by omega)
  have hboth : b.toNat % 16 * 2 ^ 16 ||| c.toNat * 2 ^ 8 = (b.toNat % 16 * 256 + c.toNat) * 2 ^ 8 := by
    rw [Bytes.or_eq_add (by omega)]
    omega
  rw [labelOfBytes, UInt32.toNat_or, UInt32.toNat_or, UInt8.toNat_toUInt32, hfirst, hsecond, hboth,
    Bytes.or_eq_add hd]
  omega

/-- The first four bytes are what their fields are written as. -/
theorem bytes_of_fields {h : Ipv6Header} {a b c d : UInt8} (hversion : a >>> 4 = 6)
    (hsix : h.version = 6) (hclass : h.trafficClass = classOfBytes a b)
    (hlabel : h.flowLabel = labelOfBytes b c d) :
    h.versionByte = a ∧ h.classByte = b ∧ h.labelBytes = [c, d] ∧ h.flowLabel.toNat < 2 ^ 20 := by
  have ha := a.toNat_lt
  have hb := b.toNat_lt
  have hc := c.toNat_lt
  have hd := d.toNat_lt
  have hhigh : a.toNat / 16 = 6 := by
    have hshift : (a >>> 4).toNat = a.toNat / 16 := toNat_high 4 rfl
    rw [← hshift, hversion]
    rfl
  have hsixteen : h.version.toNat = 6 := by
    rw [hsix]
    rfl
  unfold Ipv6Header.versionByte Ipv6Header.classByte Ipv6Header.labelBytes
  rw [hclass, hlabel, toNat_classOfBytes, toNat_labelOfBytes, hsixteen]
  refine ⟨?_, ?_, ?_, by omega⟩
  · apply UInt8.toNat_inj.mp
    rw [UInt8.toNat_ofNat']
    omega
  · apply UInt8.toNat_inj.mp
    rw [UInt8.toNat_ofNat']
    omega
  · congr 1
    · apply UInt8.toNat_inj.mp
      rw [UInt8.toNat_ofNat']
      omega
    congr 1
    · apply UInt8.toNat_inj.mp
      rw [UInt8.toNat_ofNat']
      omega

/-- The fields are taken out of the bytes that they are written as. -/
theorem fields_of_bytes {h : Ipv6Header} {c d : UInt8} (hwell : h.WellFormed)
    (hlow : h.labelBytes = [c, d]) :
    h.versionByte >>> 4 = 6 ∧ classOfBytes h.versionByte h.classByte = h.trafficClass ∧
      labelOfBytes h.classByte c d = h.flowLabel := by
  obtain ⟨hversion, hlabel⟩ := hwell
  have hclass := h.trafficClass.toNat_lt
  have hfirst : h.versionByte.toNat = 16 * 6 + h.trafficClass.toNat / 16 := by
    rw [Ipv6Header.versionByte, hversion, UInt8.toNat_ofNat']
    show (16 * 6 + h.trafficClass.toNat / 16) % 256 = _
    omega
  have hsecond : h.classByte.toNat =
      16 * (h.trafficClass.toNat % 16) + h.flowLabel.toNat / 65536 := by
    rw [Ipv6Header.classByte, UInt8.toNat_ofNat']
    omega
  obtain ⟨rfl, hd⟩ := List.cons.inj hlow
  obtain rfl := (List.cons.inj hd).1
  refine ⟨UInt8.toNat_inj.mp ?_, UInt8.toNat_inj.mp ?_, UInt32.toNat_inj.mp ?_⟩
  · rw [toNat_high 4 rfl, hfirst]
    show (16 * 6 + h.trafficClass.toNat / 16) / 16 = 6
    omega
  · rw [toNat_classOfBytes, hfirst, hsecond]
    omega
  · rw [toNat_labelOfBytes, hsecond, UInt8.toNat_ofNat', UInt8.toNat_ofNat']
    omega

/-! ## 2. The walk goes over every chain it has room for -/

variable {payloadEnd : Nat} {w w' : Walk} {e : Ipv6Extension} {es : List Ipv6Extension}

/-- The round takes the header that stands in front of the walk. -/
theorem Takes.eq_of_spelled {e' : Ipv6Extension} (h : Takes packet payloadEnd w w' e')
    (he : e.Spelled packet) (htype : e.headerType = w.currentHeader)
    (hoffset : e.offset = w.currentOffset) : e' = e :=
  h.spelled.unique he (h.headerType.trans htype.symm) (h.offset.trans hoffset.symm)

theorem sizedExtension_of_spelled (bias unit : Nat) (hend : payloadEnd ≤ packet.len)
    (hsmall : 0 < bias ∧ bias ≤ 2) (hunit : 2 ≤ unit ∧ unit ≤ 8)
    (hknown : w.currentHeader ∈ [0, 43, 51, 60])
    (hlength : ∀ field : UInt8, (field.toNat + bias) * unit = encodedLength w.currentHeader field)
    (he : e.Spelled packet) (htype : e.headerType = w.currentHeader)
    (hoffset : e.offset = w.currentOffset) (hinside : e.stop ≤ payloadEnd) :
    ∃ w', sizedExtension packet payloadEnd bias unit w = .ok w' ∧ Takes packet payloadEnd w w' e := by
  have hlen := packet.len_le
  have hsize : isizeMax + 3000 < usizeSize := by decide
  obtain ⟨field, hfield, hspan⟩ := he.length
  have hnext := he.nextHeader
  unfold stop at hinside
  rw [hspan, htype, ← hlength, hoffset] at hinside
  rw [hoffset] at hfield hnext
  have hbyte := field.toNat_lt
  have hbound : (field.toNat + bias) * unit ≤ 257 * 8 := Nat.mul_le_mul (by omega) hunit.2
  have hmin : 1 * 2 ≤ (field.toNat + bias) * unit := Nat.mul_le_mul (by omega) hunit.1
  have hwords : (checkedAdd field.toNat bias).bind (checkedMul · unit) =
      some ((field.toNat + bias) * unit) :=
    Option.bind_eq_some_iff.mpr ⟨_, checkedAdd_eq_some.mpr ⟨by omega, rfl⟩,
      checkedMul_eq_some.mpr ⟨by omega, rfl⟩⟩
  obtain ⟨w', hw'⟩ : ∃ w', sizedExtension packet payloadEnd bias unit w = .ok w' := by
    unfold sizedExtension
    simp only [bind_eq_ok_iff, addU_eq_ok_iff, rejectIf_eq_ok_iff, Bytes.index_eq_ok_iff,
      Bytes.byteAt_eq_ok_iff, orFail_eq_ok_iff, checkedAdd_eq_some (a := w.currentOffset),
      pure_eq_ok_iff, Bytes.shown_singleton]
    exact ⟨_, _, ⟨by omega, rfl⟩, (), by omega, _, hnext, _, hfield, _, hwords, _,
      ⟨by omega, rfl⟩, (), by omega, rfl⟩
  obtain ⟨e', ht⟩ := sizedExtension_takes hknown hlength hw'
  obtain rfl := ht.eq_of_spelled he htype hoffset
  exact ⟨w', hw', ht⟩

theorem fragmentExtension_of_spelled (hend : payloadEnd ≤ packet.len) (he : e.Spelled packet)
    (htype : e.headerType = w.currentHeader) (hfragment : w.currentHeader = 44)
    (hoffset : e.offset = w.currentOffset) (hinside : e.stop ≤ payloadEnd) :
    ∃ w', fragmentExtension packet payloadEnd w = .ok w' ∧ Takes packet payloadEnd w w' e := by
  have hlen := packet.len_le
  have hsize : isizeMax + 3000 < usizeSize := by decide
  obtain ⟨field, hfield, hspan⟩ := he.length
  have hnext := he.nextHeader
  rw [hoffset] at hnext
  have height : e.length = 8 := by
    rw [hspan, htype, hfragment]
    rfl
  unfold stop at hinside
  rw [height, hoffset] at hinside
  obtain ⟨w', hw'⟩ : ∃ w', fragmentExtension packet payloadEnd w = .ok w' := by
    obtain ⟨word, hword⟩ : ∃ word,
        (packet.be16At w.currentOffset 2 : Checked EngineError UInt16) = .ok word := by
      obtain ⟨bytes, hbytes, hshown⟩ :=
        Bytes.exists_shown (show w.currentOffset + 2 + 2 ≤ packet.len by omega)
      match bytes, hbytes with
      | [hi, lo], _ =>
        refine ⟨Bytes.be16 hi lo, Bytes.be16At_eq_ok_iff.mpr ?_⟩
        rwa [Bytes.toBe16_be16]
    unfold fragmentExtension
    simp only [bind_eq_ok_iff, addU_eq_ok_iff, rejectIf_eq_ok_iff, Bytes.index_eq_ok_iff,
      pure_eq_ok_iff, Bytes.shown_singleton]
    exact ⟨_, _, ⟨by omega, rfl⟩, (), by omega, _, hnext, _, hword, _, ⟨by omega, rfl⟩, rfl⟩
  obtain ⟨e', ht⟩ := fragmentExtension_takes hfragment hw'
  obtain rfl := ht.eq_of_spelled he htype hoffset
  exact ⟨w', hw', ht⟩

/-- A chain goes on behind its first header, unless that one is a later fragment. -/
theorem spells_tail (h : Spells packet w.currentHeader w.currentOffset (e :: es))
    (ht : Takes packet payloadEnd w w' e) : Spells packet w'.currentHeader w'.currentOffset es := by
  refine ⟨?_, fun a ha => h.spelled a (List.mem_cons_of_mem e ha), fun before a after hsplit => ?_⟩
  · rw [ht.currentHeader, ht.currentOffset]
    exact h.chained.2.2
  · exact h.laterIsLast (e :: before) a after (congrArg (e :: ·) hsplit)

theorem announced_cons : announced w.currentHeader (e :: es) = announced e.nextHeader es := by
  rw [announced, announced, List.getLast?_cons]
  cases es.getLast? <;> rfl

/-- What ends a chain ends what is left of it. -/
theorem complete_tail (h : Complete packet w.currentHeader (e :: es)) (hopen : ¬ e.IsLater packet)
    (ht : Takes packet payloadEnd w w' e) : Complete packet w'.currentHeader es := by
  rcases h with hlast | ⟨later, hmem, hlater⟩
  · left
    rwa [ht.currentHeader, ← announced_cons (w := w)]
  · rcases List.mem_cons.mp hmem with rfl | hmem
    · exact absurd hlater hopen
    · exact .inr ⟨later, hmem, hlater⟩

theorem Takes.firstFragment_iff (ht : Takes packet payloadEnd w w' e)
    (hfirst : w.firstFragment = true) : w'.firstFragment = true ↔ ¬ e.IsLater packet := by
  rw [ht.firstFragment, IsLater]
  by_cases htype : e.headerType = 44
  · simp [htype]
  · simp [htype, hfirst]

/-- One round of the loop. -/
theorem walk_step (hend : payloadEnd ≤ packet.len) (he : e.Spelled packet)
    (htype : e.headerType = w.currentHeader) (hoffset : e.offset = w.currentOffset)
    (hinside : e.stop ≤ payloadEnd) (hfirst : w.firstFragment = true) (fuel : Nat) :
    ∃ w', Takes packet payloadEnd w w' e ∧ walk packet payloadEnd (fuel + 1) w =
      if w'.firstFragment then walk packet payloadEnd fuel w' else .ok w' := by
  have hknown := he.headerType
  rw [htype] at hknown
  rw [walk]
  by_cases hsized : w.currentHeader = 0 ∨ w.currentHeader = 43 ∨ w.currentHeader = 60
  · have hplain : w.currentHeader ≠ 44 ∧ w.currentHeader ≠ 51 := by
      rcases hsized with heq | heq | heq <;> rw [heq] <;> decide
    obtain ⟨w', hw', ht⟩ := sizedExtension_of_spelled 1 8 hend (by decide) (by decide)
      (by simp only [List.mem_cons, List.not_mem_nil, or_false]; tauto)
      (fun field => by rw [encodedLength, if_neg hplain.1, if_neg hplain.2]) he htype hoffset hinside
    have hgo := ht.firstFragment_of_ne hfirst hplain.1
    exact ⟨w', ht, by rw [if_pos hsized, hw', hgo]; rfl⟩
  by_cases hfragment : w.currentHeader = 44
  · obtain ⟨w', hw', ht⟩ := fragmentExtension_of_spelled hend he htype hfragment hoffset hinside
    exact ⟨w', ht, by rw [if_neg hsized, if_pos hfragment, hw']; rfl⟩
  have hauthentication : w.currentHeader = 51 := by
    simp only [List.mem_cons, List.not_mem_nil, or_false] at hknown
    tauto
  obtain ⟨w', hw', ht⟩ := sizedExtension_of_spelled 2 4 hend (by decide) (by decide)
    (by rw [hauthentication]; decide) (fun field => by rw [hauthentication]; rfl) he htype hoffset
    hinside
  have hgo := ht.firstFragment_of_ne hfirst hfragment
  exact ⟨w', ht, by rw [if_neg hsized, if_neg hfragment, if_pos hauthentication, hw', hgo]; rfl⟩

/-- The loop goes over a chain in the payload that is complete or takes all the rounds. -/
theorem walk_of_spelled (hend : payloadEnd ≤ packet.len) {fuel : Nat}
    (hspells : Spells packet w.currentHeader w.currentOffset es)
    (hinside : ∀ e ∈ es, e.stop ≤ payloadEnd) (hfew : es.length ≤ fuel)
    (hdone : Complete packet w.currentHeader es ∨ es.length = fuel)
    (hfirst : w.firstFragment = true) :
    ∃ w', walk packet payloadEnd fuel w = .ok w' ∧ w'.extensions = w.extensions ++ es := by
  -- On the chain: a round for its first header, and behind a later fragment there is none.
  induction es generalizing w fuel with
  | nil =>
    refine ⟨w, ?_, (List.append_nil _).symm⟩
    cases fuel with
    | zero => rfl
    | succ fuel =>
      rcases hdone with (hother | ⟨_, hmem, -⟩) | hlength
      · have hnone : w.currentHeader ∉ known := hother
        unfold known at hnone
        simp only [List.mem_cons, List.not_mem_nil, or_false, not_or] at hnone
        obtain ⟨hzero, hrouting, hfragment, hauthentication, hdestination⟩ := hnone
        rw [walk, if_neg (by tauto), if_neg hfragment, if_neg hauthentication]
      · nomatch hmem
      · nomatch hlength
  | cons e es ih =>
    obtain ⟨fuel, rfl⟩ := Nat.exists_eq_add_of_le' (Nat.one_le_of_lt hfew)
    obtain ⟨w', ht, hround⟩ := walk_step hend (hspells.spelled e List.mem_cons_self) hspells.chained.1
      hspells.chained.2.1 (hinside e List.mem_cons_self) hfirst fuel
    rw [hround]
    by_cases hlater : e.IsLater packet
    · obtain rfl := hspells.laterIsLast [] e es rfl hlater
      have hstop : ¬ w'.firstFragment = true := fun h => (ht.firstFragment_iff hfirst).mp h hlater
      exact ⟨w', if_neg hstop, ht.extensions⟩
    · have hgo := (ht.firstFragment_iff hfirst).mpr hlater
      have hdone' : Complete packet w'.currentHeader es ∨ es.length = fuel :=
        hdone.imp (fun h => complete_tail h hlater ht) fun h => by simpa using h
      obtain ⟨last, hwalk, hextensions⟩ := ih (spells_tail hspells ht)
        (fun a ha => hinside a (List.mem_cons_of_mem e ha)) (Nat.le_of_succ_le_succ hfew) hdone' hgo
      refine ⟨last, by rw [if_pos hgo]; exact hwalk, ?_⟩
      rw [hextensions, ht.extensions, List.append_assoc, List.singleton_append]

/-! ## 3. What is accepted -/

/-- The result says what the packet shows from `offset` on: the fixed header, the extension headers
that stand in its payload, and the place of what is left of the payload. -/
structure Reads (packet : Bytes) (offset : Nat) (r : Ipv6ParseResult) : Prop where
  headerOffset : r.headerOffset = offset
  header : packet.Shown offset r.header.bytes
  wellFormed : r.header.WellFormed
  inPacket : offset + 40 + r.header.payloadLength.toNat ≤ packet.len
  spells : Spells packet r.header.nextHeader (offset + 40) r.extensions
  inside : ∀ e ∈ r.extensions, e.stop ≤ offset + 40 + r.header.payloadLength.toNat
  atMostSixteen : r.extensions.length ≤ 16
  done : Complete packet r.header.nextHeader r.extensions ∨ r.extensions.length = 16
  transportOffset : r.transportOffset = chainEnd (offset + 40) r.extensions
  transportEnd : r.transportOffset + r.transportLength =
    offset + 40 + r.header.payloadLength.toNat
  fragmented : r.fragmented = true ↔ ∃ e ∈ r.extensions, e.headerType = 44
  firstFragment : r.firstFragment = opensPacket packet r.extensions

/-- The fields of the fixed header are what the packet shows. -/
theorem header_of_parseAt {r : Ipv6ParseResult} (h : parseAt packet offset = .ok r) :
    r.headerOffset = offset ∧ packet.Shown offset r.header.bytes ∧ r.header.WellFormed := by
  unfold parseAt at h
  simp only [bind_eq_ok_iff, addU_eq_ok_iff, rejectIf_eq_ok_iff, Bytes.index_eq_ok_iff,
    Bytes.byteAt_eq_ok_iff, Bytes.be16At_eq_ok_iff, Ipv6Addr.readAt_eq_ok,
    pure_eq_ok_iff, not_not] at h
  obtain ⟨_, -, -, -, a, ha, -, hversion, b, hb, c, hc, d, hd, payloadLength, hpayload, nextHeader,
    hnext, hopLimit, hhop, source, hsource, destination, hdestination, -, -, -, -, -, -, w, -,
    rfl⟩ := h
  let header : Ipv6Header := ⟨6, classOfBytes a b, labelOfBytes b c d, payloadLength, nextHeader,
    hopLimit, source, destination⟩
  have hfields : header.versionByte = a ∧ header.classByte = b ∧ header.labelBytes = [c, d] ∧ _ :=
    bytes_of_fields hversion rfl rfl rfl
  obtain ⟨hfirst, hsecond, hlow, hlabel⟩ := hfields
  refine ⟨rfl, Ipv6Header.shown_bytes.mpr ?_, ⟨rfl, hlabel⟩⟩
  show packet.Shown offset [header.versionByte] ∧ packet.Shown (offset + 1) [header.classByte] ∧
    packet.Shown (offset + 2) header.labelBytes ∧ _
  rw [hfirst, hsecond, hlow]
  exact ⟨ha, hb, Bytes.shown_cons.mpr ⟨hc, hd⟩, hpayload, hnext, hhop, hsource, hdestination⟩

/-- A packet that shows what a result says is accepted with that result. -/
theorem parseAt_of_reads {r : Ipv6ParseResult} (h : Reads packet offset r) :
    parseAt packet offset = .ok r := by
  have hlen := packet.len_le
  have hsize : isizeMax + 100000 < usizeSize := by decide
  have hword := r.header.payloadLength.toNat_lt
  have hroom := h.inPacket
  obtain ⟨hfirst, hsecond, hlow, hpayload, hnext, hhop, hsource, hdestination⟩ :=
    Ipv6Header.shown_bytes.mp h.header
  obtain ⟨c, d, hlabel⟩ : ∃ c d, r.header.labelBytes = [c, d] := ⟨_, _, rfl⟩
  obtain ⟨hversion, hclass, hflow⟩ := fields_of_bytes h.wellFormed hlabel
  rw [hlabel] at hlow
  obtain ⟨hc, hd⟩ := Bytes.shown_cons.mp hlow
  -- The walk takes the chain, and what it says of itself is what the result says.
  let start : Walk := ⟨offset + 40, r.header.nextHeader, [], false, true⟩
  obtain ⟨w, hwalk, hextensions⟩ : ∃ w, walk packet (offset + 40 + r.header.payloadLength.toNat) 16
      start = .ok w ∧ w.extensions = [] ++ r.extensions :=
    walk_of_spelled hroom h.spells h.inside h.atMostSixteen h.done rfl
  rw [List.nil_append] at hextensions
  obtain ⟨hw, -⟩ := walk_walked (walked_start (Nat.le_add_right _ _)) rfl hwalk
  have htransport : w.currentOffset = r.transportOffset := by
    rw [hw.currentOffset, hextensions, h.transportOffset]
  have hfragmented : w.fragmented = r.fragmented := by
    rw [Bool.eq_iff_iff, hw.fragmented, hextensions, h.fragmented]
  have hopen : w.firstFragment = r.firstFragment := by
    rw [hw.firstFragment, hextensions, h.firstFragment]
  unfold parseAt
  simp only [bind_eq_ok_iff, addU_eq_ok_iff, rejectIf_eq_ok_iff, Bytes.index_eq_ok_iff,
    Bytes.byteAt_eq_ok_iff, Bytes.be16At_eq_ok_iff, Ipv6Addr.readAt_eq_ok,
    pure_eq_ok_iff, not_not, orFail_eq_ok_iff, checkedAdd_eq_some]
  refine ⟨_, ⟨by omega, rfl⟩, (), by omega, _, hfirst, (), hversion, _, hsecond, c, hc, d, hd, _,
    hpayload, _, hnext, _, hhop, _, hsource, _, hdestination, _, ⟨by omega, rfl⟩, _,
    ⟨by omega, rfl⟩, (), by omega, w, hwalk, ?_⟩
  have hend := h.transportEnd
  have hplace := h.headerOffset
  have hsix := h.wellFormed.version
  obtain ⟨⟨version, trafficClass, flowLabel, payloadLength, nextHeader, hopLimit, source,
    destination⟩, headerOffset, transportOffset, transportLength, extensions, fragmented,
    firstFragment⟩ := r
  dsimp only at hclass hflow htransport hfragmented hopen hextensions hend hplace hsix ⊢
  unfold classOfBytes at hclass
  unfold labelOfBytes at hflow
  rw [hclass, hflow, htransport, hfragmented, hopen, hextensions, hplace, hsix, ← hend,
    Nat.add_sub_cancel_left]

/-- The IPv6 parser accepts a datagram with its extension headers, and returns what it says. -/
theorem parseAt_iff_reads (packet : Bytes) (offset : Nat) (r : Ipv6ParseResult) :
    parseAt packet offset = .ok r ↔ Reads packet offset r := by
  constructor
  · intro h
    obtain ⟨hplace, hheader, hwell⟩ := header_of_parseAt h
    obtain ⟨-, hroom, w, hwalk, htransport, hlength, hextensions, hfragmented, hopen⟩ :=
      walk_of_parseAt h
    obtain ⟨hw, hfew⟩ := walk_walked (walked_start (Nat.le_add_right _ _)) rfl hwalk
    have hdone := parseAt_complete h
    rw [hextensions] at hdone
    constructor
    case headerOffset => exact hplace
    case header => exact hheader
    case wellFormed => exact hwell
    case inPacket => exact hroom
    case done => rwa [hextensions]
    case spells =>
      rw [hextensions]
      exact ⟨hw.chained, hw.spelled, hw.laterIsLast⟩
    case inside =>
      intro e he
      rw [hextensions] at he
      exact Nat.le_trans (hw.within e he).2 hw.inside
    case atMostSixteen => simpa [hextensions] using hfew
    case transportOffset => rw [htransport, hextensions, hw.currentOffset]
    case transportEnd =>
      rw [htransport, hlength]
      exact Nat.add_sub_of_le hw.inside
    case fragmented => rw [hfragmented, hextensions, hw.fragmented]
    case firstFragment => rw [hopen, hextensions, hw.firstFragment]
  · exact parseAt_of_reads

end Ipv6

end NetworkEngine
