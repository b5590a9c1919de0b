import NetworkEngine.Parser.Datagram

/-!
# ExtensionChain — the walk over a written chain

`ipv6::parse_at` walks from the fixed header to the transport header.  Each round takes one header
as it was written; sixteen rounds are all there are, and a later fragment ends the walk at its
fragment header.
-/

namespace NetworkEngine

open Rust

/-! ## 1. Chains -/

namespace Extension

theorem chainType_append (last : UInt8) (xs ys : List Extension) :
    chainType last (xs ++ ys) = chainType (chainType last ys) xs := by
  cases xs with
  | nil => rfl
  | cons x xs => rfl

theorem chainBytes_append (last : UInt8) (xs ys : List Extension) :
    chainBytes last (xs ++ ys) = chainBytes (chainType last ys) xs ++ chainBytes last ys := by
  induction xs with
  | nil => rfl
  | cons x xs ih =>
    simp only [List.cons_append, chainBytes, chainType_append, ih, List.append_assoc]

end Extension

/-! ## 2. One round -/

namespace Ipv6

/-- The walk stands at `offset` in front of a header of type `header`, and has seen no later
fragment.  `nextHeader` is the type in the fixed header. -/
structure StandsAt (nextHeader : UInt8) (offset : Nat) (header : UInt8) (w : Walk) : Prop where
  offset_eq : w.currentOffset = offset
  header_eq : w.currentHeader = header
  announced : (w.extensions.getLast?.map (·.nextHeader)).getD nextHeader = header
  first : w.firstFragment = true

variable {raw : Bytes} {payloadEnd : Nat} {nextHeader header next : UInt8} {pre post : List UInt8}
  {w : Walk}

theorem sizedExtension_stands {words : UInt8} {body : List UInt8} {bias unit : Nat}
    (h : raw.toList = pre ++ (next :: words :: body ++ post)) (hbias : bias ≤ 2) (hunit : unit ≤ 8)
    (hlength : 2 + body.length = (words.toNat + bias) * unit)
    (hend : pre.length + (2 + body.length) ≤ payloadEnd) (hin : payloadEnd ≤ raw.len)
    (hw : StandsAt nextHeader pre.length header w) :
    Returns (sizedExtension raw payloadEnd bias unit w)
      (StandsAt nextHeader (pre.length + (2 + body.length)) next) := by
  have hlen := raw.len_le
  have hsize : isizeMax + 5000 < usizeSize := by decide
  -- The two bytes in front tell the type behind this header and how long it is.
  have hoffset := hw.offset_eq
  have hnext : raw.toList[w.currentOffset]? = some next := by
    rw [h, hoffset, List.getElem?_append_right (Nat.le_refl _), Nat.sub_self]
    rfl
  have hwords : raw.toList[w.currentOffset + 1]? = some words := by
    rw [h, hoffset, List.getElem?_append_right (Nat.le_add_right _ _), Nat.add_sub_cancel_left]
    rfl
  have hfield := words.toNat_lt
  -- No length a byte can announce overflows the product.
  have hbound : (words.toNat + bias) * unit ≤ 257 * 8 := Nat.mul_le_mul (by omega) hunit
  have hsum : checkedAdd words.toNat bias = some (words.toNat + bias) :=
    checkedAdd_eq_some.mpr ⟨by omega, rfl⟩
  refine .bind (.addU (by omega) <| .bind (.rejectIf (by omega) ?_))
  refine .bind (.read (Bytes.index_eq_ok hnext) <| .bind (.read (Bytes.byteAt_eq_ok hwords) ?_))
  refine .bind (.orFail (a := (words.toNat + bias) * unit) ?_ ?_)
  · rw [hsum]
    exact checkedMul_eq_some.mpr ⟨by omega, rfl⟩
  refine .bind (.checkedAdd (by omega) <| .bind (.rejectIf (by omega) <| .pure ?_))
  -- The announced length is the written one, so the walk ends behind the header.
  exact ⟨by rw [hoffset, hlength], rfl, by simp, hw.first⟩

/-- The fragment header is taken, whatever its offset. -/
theorem fragmentExtension_returns {reserved : UInt8} {field : UInt16} {identification : List UInt8}
    (h : raw.toList = pre ++ (next :: reserved :: (Bytes.toBe16 field ++ identification) ++ post))
    (hend : pre.length + 8 ≤ payloadEnd) (hin : payloadEnd ≤ raw.len)
    (hw : StandsAt nextHeader pre.length header w) :
    Returns (fragmentExtension raw payloadEnd w) fun w' =>
      w'.currentOffset = pre.length + 8 ∧ w'.currentHeader = next ∧
        (w'.extensions.getLast?.map (·.nextHeader)).getD nextHeader = next ∧
        w'.fragmented = true ∧ w'.firstFragment = ((field >>> 3) &&& 0x1fff == 0) := by
  have hlen := raw.len_le
  have hsize : isizeMax + 5000 < usizeSize := by decide
  have hoffset := hw.offset_eq
  have hnext : raw.toList[w.currentOffset]? = some next := by
    rw [h, hoffset, List.getElem?_append_right (Nat.le_refl _), Nat.sub_self]
    rfl
  -- The field is read behind the type and the reserved byte.
  have hfield : (raw.be16At w.currentOffset 2 : Checked EngineError UInt16) = .ok field := by
    refine Bytes.be16At_eq_ok (pre ++ [next, reserved]) (identification ++ post) ?_ ?_
    · rw [h]
      simp only [List.append_assoc, List.cons_append, List.nil_append]
    · rw [hoffset, List.length_append]
      rfl
  refine .bind (.addU (by omega) <| .bind (.rejectIf (by omega) ?_))
  refine .bind (.read (Bytes.index_eq_ok hnext) <| .bind (.read hfield ?_))
  refine .bind (.addU (by omega) <| .pure ?_)
  exact ⟨by rw [hoffset], rfl, by simp, rfl, rfl⟩

/-- A fragment field below eight has the offset zero. -/
theorem fragmentField_zero {flags : UInt8} (h : flags < 8) :
    Bytes.toBe16 flags.toUInt16 = [0, flags] ∧ (flags.toUInt16 >>> 3) &&& 0x1fff = 0 := by
  have hall : ∀ n : Fin 8, Bytes.toBe16 (UInt8.ofNat n).toUInt16 = [0, UInt8.ofNat n] ∧
      ((UInt8.ofNat n).toUInt16 >>> 3) &&& 0x1fff = 0 := by decide
  have hflags := hall ⟨flags.toNat, UInt8.lt_iff_toNat_lt.mp h⟩
  rwa [UInt8.ofNat_toNat] at hflags

/-- One round of the walk takes one written header. -/
theorem walk_extension (e : Extension) (h : raw.toList = pre ++ (e.bytes next ++ post))
    (hend : pre.length + (e.bytes next).length ≤ payloadEnd) (hin : payloadEnd ≤ raw.len)
    (hw : StandsAt nextHeader pre.length e.headerType w) (fuel : Nat) :
    ∃ w', StandsAt nextHeader (pre.length + (e.bytes next).length) next w' ∧
      walk raw payloadEnd (fuel + 1) w = walk raw payloadEnd fuel w' := by
  have hheader := hw.header_eq
  cases e with
  | options kind words body hlength =>
    have hbytes : (Extension.bytes next (.options kind words body hlength)).length =
        2 + body.length := by
      simp only [Extension.bytes, List.length_cons]
      omega
    -- The length of an options header counts words behind the first.
    rw [hbytes] at hend ⊢
    obtain ⟨w', hstep, hw'⟩ := sizedExtension_stands h (by decide) (by decide)
      (show 2 + body.length = (words.toNat + 1) * 8 by omega) hend hin hw
    have htype : w.currentHeader = 0 ∨ w.currentHeader = 43 ∨ w.currentHeader = 60 := by
      rw [hheader]
      cases kind with
      | hopByHop => exact .inl rfl
      | routing => exact .inr (.inl rfl)
      | destination => exact .inr (.inr rfl)
    refine ⟨w', hw', ?_⟩
    rw [walk, if_pos htype, hstep]
    rfl
  | authentication words body hlength =>
    have hbytes : (Extension.bytes next (.authentication words body hlength)).length =
        2 + body.length := by
      simp only [Extension.bytes, List.length_cons]
      omega
    rw [hbytes] at hend ⊢
    obtain ⟨w', hstep, hw'⟩ := sizedExtension_stands h (by decide) (by decide)
      (show 2 + body.length = (words.toNat + 2) * 4 by omega) hend hin hw
    refine ⟨w', hw', ?_⟩
    -- Authentication counts in words of four and two more.
    rw [walk, hheader]
    simp only [Extension.headerType, hstep]
    rfl
  | fragment reserved flags identification hflags =>
    have hbytes : (Extension.bytes next (.fragment reserved flags identification hflags)).length =
        8 := by
      simp only [Extension.bytes, List.length_cons, Vector.length_toList]
    rw [hbytes] at hend ⊢
    obtain ⟨hfield, hzero⟩ := fragmentField_zero hflags
    obtain ⟨w', hstep, hoffset, hnext, hannounced, -, hfirst⟩ := fragmentExtension_returns
      (h.trans (by rw [hfield]; rfl)) hend hin hw
    rw [hzero] at hfirst
    refine ⟨w', ⟨hoffset, hnext, hannounced, hfirst⟩, ?_⟩
    rw [walk, hheader]
    simp only [Extension.headerType, hstep, bind, Except.bind, hfirst]
    rfl

/-! ## 3. Whole chains -/

/-- A chain is taken header by header, as long as the walk has rounds left. -/
theorem walk_chain {last : UInt8} {es : List Extension}
    (h : raw.toList = pre ++ (Extension.chainBytes last es ++ post))
    (hend : pre.length + (Extension.chainBytes last es).length ≤ payloadEnd)
    (hin : payloadEnd ≤ raw.len)
    (hw : StandsAt nextHeader pre.length (Extension.chainType last es) w) (fuel : Nat) :
    ∃ w', StandsAt nextHeader (pre.length + (Extension.chainBytes last es).length) last w' ∧
      walk raw payloadEnd (es.length + fuel) w = walk raw payloadEnd fuel w' := by
  -- By induction on the chain: `pre` grows by the header that a round takes.
  induction es generalizing pre w with
  | nil => exact ⟨w, hw, by rw [List.length_nil, Nat.zero_add]⟩
  | cons e es ih =>
    simp only [Extension.chainBytes, List.length_append, List.append_assoc] at h hend ⊢
    obtain ⟨w₁, hw₁, hstep⟩ := walk_extension e h (by omega) hin hw (es.length + fuel)
    -- The header just taken joins what is behind the walk.
    have hpre : (pre ++ e.bytes (Extension.chainType last es)).length =
        pre.length + (e.bytes (Extension.chainType last es)).length := List.length_append
    rw [← hpre] at hw₁
    obtain ⟨w', hw', hwalk⟩ := ih (h.trans (List.append_assoc ..).symm) (by omega) hw₁
    refine ⟨w', ?_, ?_⟩
    · rwa [hpre, Nat.add_assoc] at hw'
    · rw [← hwalk, ← hstep, List.length_cons, Nat.add_right_comm]

/-- When the rounds run out, the walk stands in front of the headers it did not take. -/
theorem walk_rounds {last : UInt8} {es : List Extension} {fuel : Nat}
    (h : raw.toList = pre ++ (Extension.chainBytes last es ++ post))
    (hend : pre.length + (Extension.chainBytes last es).length ≤ payloadEnd)
    (hin : payloadEnd ≤ raw.len)
    (hw : StandsAt nextHeader pre.length (Extension.chainType last es) w)
    (hfuel : fuel ≤ es.length) :
    ∃ w' offset, StandsAt nextHeader offset (Extension.chainType last (es.drop fuel)) w' ∧
      walk raw payloadEnd fuel w = .ok w' := by
  -- The headers that the rounds reach are a chain of their own.
  rw [← List.take_append_drop fuel es, Extension.chainBytes_append] at h hend
  rw [← List.take_append_drop fuel es, Extension.chainType_append] at hw
  rw [List.append_assoc] at h
  rw [List.length_append] at hend
  obtain ⟨w', hw', hwalk⟩ := walk_chain h (by omega) hin hw 0
  rw [List.length_take_of_le hfuel] at hwalk
  exact ⟨w', _, hw', hwalk⟩

/-- The walk stops at the fragment header of a later fragment. -/
theorem walk_later {reserved : UInt8} {field : UInt16} {identification : List UInt8}
    (h : raw.toList = pre ++ (next :: reserved :: (Bytes.toBe16 field ++ identification) ++ post))
    (hend : pre.length + 8 ≤ payloadEnd) (hin : payloadEnd ≤ raw.len)
    (hfield : (field >>> 3) &&& 0x1fff ≠ 0) (hw : StandsAt nextHeader pre.length 44 w)
    (fuel : Nat) :
    ∃ w', walk raw payloadEnd (fuel + 1) w = .ok w' ∧
      (w'.extensions.getLast?.map (·.nextHeader)).getD nextHeader = next ∧
      w'.fragmented = true ∧ w'.firstFragment = false := by
  obtain ⟨w', hstep, -, -, hannounced, hfragmented, hfirst⟩ :=
    fragmentExtension_returns h hend hin hw
  rw [beq_eq_false_iff_ne.mpr hfield] at hfirst
  refine ⟨w', ?_, hannounced, hfragmented, hfirst⟩
  rw [walk, hw.header_eq]
  simp only [hstep, bind, Except.bind, hfirst]
  rfl

/-- The walk ends in front of a transport header. -/
theorem walk_transport (s : Segment) (h : w.currentHeader = s.protocol) (fuel : Nat) :
    walk raw payloadEnd fuel w = .ok w := by
  cases fuel with
  | zero => rfl
  | succ fuel =>
    rw [walk, h]
    cases s with
    -- Neither protocol number is one of a header that the walk takes.
    | tcp s => rfl
    | udp s => rfl

end Ipv6

end NetworkEngine
