import NetworkEngine.Parser.Network

/-!
# ExtensionWalk — what the walk of the IPv6 parser reports

`ipv6::parse_at` collects the extension headers it goes over.  On every packet that it accepts, the
list is the chain of headers that the packet spells, from the fixed header on: each is announced by
the one in front, has the length its own field gives and lies in the payload.
-/

namespace NetworkEngine

open Rust

/-! ## 1. Headers as the packet spells them -/

namespace Ipv6Extension

/-- The length that a header of this type gives itself in its second byte. -/
def encodedLength (headerType field : UInt8) : Nat :=
  if headerType = 44 then 8
  else if headerType = 51 then (field.toNat + 2) * 4
  else (field.toNat + 1) * 8

/-- The header is of a type that the walk knows, and its fields are those of the packet. -/
structure Spelled (packet : Bytes) (e : Ipv6Extension) : Prop where
  headerType : e.headerType ∈ [0, 43, 44, 51, 60]
  nextHeader : packet.toList[e.offset]? = some e.nextHeader
  length : ∃ field, packet.toList[e.offset + 1]? = some field ∧
    e.length = encodedLength e.headerType field

/-- The thirteen bits of the fragment offset. -/
def fragmentOffset (packet : Bytes) (e : Ipv6Extension) : Option UInt16 :=
  (packet.be16At e.offset 2 : Checked EngineError UInt16).toOption.map fun field : UInt16 =>
    field >>> 3

/-- A fragment header that does not open its packet. -/
def IsLater (packet : Bytes) (e : Ipv6Extension) : Prop :=
  e.headerType = 44 ∧ e.fragmentOffset packet ≠ some 0

/-- Where the header ends. -/
def stop (e : Ipv6Extension) : Nat := e.offset + e.length

/-- Each header has the type that is announced in front of it, and begins where that one ends. -/
def Chained (header : UInt8) (start : Nat) : List Ipv6Extension → Prop
  | [] => True
  | e :: es => e.headerType = header ∧ e.offset = start ∧ Chained e.nextHeader e.stop es

/-- The type that is announced behind the headers. -/
def announced (header : UInt8) (es : List Ipv6Extension) : UInt8 :=
  (es.getLast?.map (·.nextHeader)).getD header

/-- Where the headers end. -/
def chainEnd (start : Nat) (es : List Ipv6Extension) : Nat := (es.getLast?.map stop).getD start

/-- The last fragment header, if there is one, has the offset zero. -/
def opensPacket (packet : Bytes) (es : List Ipv6Extension) : Bool :=
  ((es.filter (·.headerType = 44)).getLast?.map fun e => e.fragmentOffset packet == some 0).getD true

variable {packet : Bytes} {header : UInt8} {start : Nat} {es : List Ipv6Extension}
  {e : Ipv6Extension}

@[simp] theorem announced_concat : announced header (es ++ [e]) = e.nextHeader := by
  simp [announced]

@[simp] theorem chainEnd_concat : chainEnd start (es ++ [e]) = e.stop := by
  simp [chainEnd]

theorem Chained.concat (h : Chained header start es) (htype : e.headerType = announced header es)
    (hoffset : e.offset = chainEnd start es) : Chained header start (es ++ [e]) := by
  induction es generalizing header start with
  | nil => exact ⟨htype, hoffset, trivial⟩
  | cons a es ih =>
    refine ⟨h.1, h.2.1, ih h.2.2 ?_ ?_⟩
    · rw [htype, announced, announced, List.getLast?_cons]
      cases es.getLast? <;> rfl
    · rw [hoffset, chainEnd, chainEnd, List.getLast?_cons]
      cases es.getLast? <;> rfl

theorem opensPacket_concat :
    opensPacket packet (es ++ [e]) =
      if e.headerType = 44 then e.fragmentOffset packet == some 0 else opensPacket packet es := by
  unfold opensPacket
  rw [List.filter_append, List.filter_singleton]
  by_cases htype : e.headerType = 44
  · rw [if_pos htype, decide_eq_true htype, cond_true, List.getLast?_concat]
    rfl
  · rw [if_neg htype, decide_eq_false htype, cond_false, List.append_nil]

/-- Three more bits than the shift leaves are none. -/
theorem shift_mask (field : UInt16) :
    (field >>> (3 : UInt16)) &&& 0x1fff = field >>> (3 : UInt16) := by
  apply UInt16.toNat_inj.mp
  have hfield := field.toNat_lt
  have hmask : (0x1fff : UInt16).toNat = 2 ^ 13 - 1 := rfl
  have hshift : (field >>> 3).toNat = field.toNat / 2 ^ 3 := by
    rw [UInt16.toNat_shiftRight, Nat.shiftRight_eq_div_pow]
    rfl
  rw [UInt16.toNat_and, hmask, Nat.and_two_pow_sub_one_eq_mod, hshift]
  apply Nat.mod_eq_of_lt
  omega

end Ipv6Extension

open Ipv6Extension

namespace Ipv6

/-! ## 2. One round -/

/-- One round takes the header in front of the walk. -/
structure Takes (packet : Bytes) (payloadEnd : Nat) (w w' : Walk) (e : Ipv6Extension) : Prop where
  extensions : w'.extensions = w.extensions ++ [e]
  headerType : e.headerType = w.currentHeader
  offset : e.offset = w.currentOffset
  spelled : e.Spelled packet
  currentOffset : w'.currentOffset = e.stop
  currentHeader : w'.currentHeader = e.nextHeader
  inside : e.stop ≤ payloadEnd
  fragmented : w'.fragmented = (w.fragmented || e.headerType == 44)
  firstFragment : w'.firstFragment =
    if e.headerType = 44 then e.fragmentOffset packet == some 0 else w.firstFragment

variable {packet : Bytes} {payloadEnd : Nat} {w w' : Walk}

theorem sizedExtension_takes {bias unit : Nat} (htype : w.currentHeader ∈ [0, 43, 51, 60])
    (hlength : ∀ field : UInt8,
      (field.toNat + bias) * unit = encodedLength w.currentHeader field)
    (h : sizedExtension packet payloadEnd bias unit w = .ok w') :
    ∃ e, Takes packet payloadEnd w w' e := by
  obtain ⟨_, -, h⟩ := bind_eq_ok h
  obtain ⟨_, -, h⟩ := bind_eq_ok h
  obtain ⟨next, hnext, h⟩ := bind_eq_ok h
  obtain ⟨field, hfield, h⟩ := bind_eq_ok h
  obtain ⟨length, hwords, h⟩ := bind_eq_ok h
  obtain ⟨stop, hstop, h⟩ := bind_eq_ok h
  obtain ⟨_, hfit, h⟩ := bind_eq_ok h
  obtain rfl := Except.ok.inj h
  obtain ⟨words, hsum, hproduct⟩ := Option.bind_eq_some_iff.mp (orFail_eq_ok hwords)
  obtain ⟨-, rfl⟩ := checkedAdd_eq_some.mp hsum
  obtain ⟨-, rfl⟩ := checkedMul_eq_some.mp hproduct
  obtain ⟨-, rfl⟩ := checkedAdd_eq_some.mp (orFail_eq_ok hstop)
  have hknown : w.currentHeader ∈ [0, 43, 44, 51, 60] := by
    simp only [List.mem_cons, List.not_mem_nil, or_false] at htype ⊢
    tauto
  have hplain : w.currentHeader ≠ 44 := by
    intro hfragment
    rw [hfragment] at htype
    exact absurd htype (by decide)
  have hspelled : Spelled packet ⟨w.currentHeader, next, w.currentOffset,
      (field.toNat + bias) * unit⟩ :=
    ⟨hknown, Bytes.of_index hnext, field, Bytes.of_byteAt hfield, hlength field⟩
  refine ⟨_, rfl, rfl, rfl, hspelled, rfl, rfl, Nat.not_lt.mp (rejectIf_eq_ok hfit), ?_, ?_⟩
  · rw [beq_eq_false_iff_ne.mpr hplain, Bool.or_false]
  · rw [if_neg hplain]

theorem fragmentExtension_takes (htype : w.currentHeader = 44)
    (h : fragmentExtension packet payloadEnd w = .ok w') :
    ∃ e, Takes packet payloadEnd w w' e := by
  obtain ⟨_, hadd, h⟩ := bind_eq_ok h
  obtain rfl := addU_eq_ok hadd
  obtain ⟨_, hfit, h⟩ := bind_eq_ok h
  obtain ⟨next, hnext, h⟩ := bind_eq_ok h
  obtain ⟨field, hfield, h⟩ := bind_eq_ok h
  obtain ⟨stop, hstop, h⟩ := bind_eq_ok h
  obtain rfl := addU_eq_ok hstop
  obtain rfl := Except.ok.inj h
  -- The second byte is reserved; it is there because the field behind it is.
  obtain ⟨high, hhigh, -⟩ := bind_eq_ok hfield
  have hin : w.currentOffset + 2 < packet.toList.length :=
    (List.getElem?_eq_some_iff.mp (Bytes.of_byteAt hhigh)).1
  have hreserved : packet.toList[w.currentOffset + 1]? =
      some (packet.toList.get ⟨w.currentOffset + 1, by omega⟩) := List.getElem?_eq_getElem _
  have hoffset : fragmentOffset packet ⟨44, next, w.currentOffset, 8⟩ = some (field >>> 3) := by
    rw [fragmentOffset, hfield]
    rfl
  have hknown : (44 : UInt8) ∈ [0, 43, 44, 51, 60] := by decide
  refine ⟨⟨44, next, w.currentOffset, 8⟩, rfl, htype.symm, rfl,
    ⟨hknown, Bytes.of_index hnext, _, hreserved, rfl⟩, rfl, rfl,
    Nat.not_lt.mp (rejectIf_eq_ok hfit), (Bool.or_true _).symm, ?_⟩
  rw [if_pos rfl, hoffset, shift_mask]
  rfl

/-! ## 3. The whole walk -/

/-- What the walk has collected is the chain of headers from `start` to where it stands. -/
structure Walked (packet : Bytes) (nextHeader : UInt8) (start payloadEnd : Nat) (w : Walk) :
    Prop where
  chained : Chained nextHeader start w.extensions
  currentOffset : w.currentOffset = chainEnd start w.extensions
  currentHeader : w.currentHeader = announced nextHeader w.extensions
  spelled : ∀ e ∈ w.extensions, e.Spelled packet
  within : ∀ e ∈ w.extensions, start ≤ e.offset ∧ e.stop ≤ w.currentOffset
  le_currentOffset : start ≤ w.currentOffset
  inside : w.currentOffset ≤ payloadEnd
  fragmented : w.fragmented = true ↔ ∃ e ∈ w.extensions, e.headerType = 44
  firstFragment : w.firstFragment = opensPacket packet w.extensions
  laterIsLast : ∀ before e after, w.extensions = before ++ e :: after → e.IsLater packet → after = []

variable {nextHeader : UInt8} {start : Nat} {e : Ipv6Extension}

/-- A walk that has not met a later fragment has none behind it. -/
theorem Walked.not_later (h : Walked packet nextHeader start payloadEnd w)
    (hfirst : w.firstFragment = true) (he : e ∈ w.extensions) : ¬ e.IsLater packet := by
  intro hlater
  obtain ⟨before, after, hsplit⟩ := List.append_of_mem he
  obtain rfl := h.laterIsLast before e after hsplit hlater
  rw [h.firstFragment, hsplit, opensPacket_concat, if_pos hlater.1, beq_iff_eq] at hfirst
  exact hlater.2 hfirst

theorem Walked.step (h : Walked packet nextHeader start payloadEnd w)
    (hfirst : w.firstFragment = true) (ht : Takes packet payloadEnd w w' e) :
    Walked packet nextHeader start payloadEnd w' := by
  have hstop : w.currentOffset ≤ w'.currentOffset := by
    rw [ht.currentOffset, stop, ht.offset]
    exact Nat.le_add_right _ _
  have hmem {a : Ipv6Extension} (ha : a ∈ w'.extensions) : a ∈ w.extensions ∨ a = e := by
    rwa [ht.extensions, List.mem_append, List.mem_singleton] at ha
  refine ⟨?_, ?_, ?_, fun a ha => ?_, fun a ha => ?_, Nat.le_trans h.le_currentOffset hstop, ?_,
    ?_, ?_, fun before a after hsplit hlater => ?_⟩
  · rw [ht.extensions]
    exact h.chained.concat (ht.headerType.trans h.currentHeader) (ht.offset.trans h.currentOffset)
  · rw [ht.extensions, chainEnd_concat, ht.currentOffset]
  · rw [ht.extensions, announced_concat, ht.currentHeader]
  · rcases hmem ha with ha | rfl
    · exact h.spelled a ha
    · exact ht.spelled
  · rcases hmem ha with ha | rfl
    · exact ⟨(h.within a ha).1, Nat.le_trans (h.within a ha).2 hstop⟩
    · rw [ht.offset, ht.currentOffset]
      exact ⟨h.le_currentOffset, Nat.le_refl _⟩
  · rw [ht.currentOffset]
    exact ht.inside
  · rw [ht.fragmented, ht.extensions, Bool.or_eq_true, h.fragmented, beq_iff_eq]
    simp only [List.mem_append, List.mem_singleton, or_and_right, exists_or, exists_eq_left]
  · rw [ht.extensions, opensPacket_concat, ← h.firstFragment, ht.firstFragment]
  · -- A later fragment in front of the new header would have ended the walk.
    rw [ht.extensions] at hsplit
    rcases List.eq_nil_or_concat after with rfl | ⟨rest, last, rfl⟩
    · rfl
    · rw [List.concat_eq_append, ← List.cons_append, ← List.append_assoc] at hsplit
      have hfront := (List.append_inj' hsplit rfl).1
      have hbehind : a ∈ w.extensions := hfront ▸ List.mem_append_right _ List.mem_cons_self
      exact absurd hlater (h.not_later hfirst hbehind)

/-- Only a fragment header can make the loop stop early. -/
theorem Takes.firstFragment_of_ne (h : Takes packet payloadEnd w w' e)
    (hfirst : w.firstFragment = true) (hplain : w.currentHeader ≠ 44) :
    w'.firstFragment = true := by
  rw [h.firstFragment, h.headerType, if_neg hplain, hfirst]

/-- The loop goes on as long as it has met no later fragment. -/
theorem walk_walked {fuel : Nat} (h : Walked packet nextHeader start payloadEnd w)
    (hfirst : w.firstFragment = true) (hwalk : walk packet payloadEnd fuel w = .ok w') :
    Walked packet nextHeader start payloadEnd w' ∧
      w'.extensions.length ≤ w.extensions.length + fuel := by
  induction fuel generalizing w with
  | zero =>
    obtain rfl := Except.ok.inj hwalk
    exact ⟨h, Nat.le_refl _⟩
  | succ fuel ih =>
    -- What one round leaves to the others.
    have round {next : Walk} {e : Ipv6Extension} (ht : Takes packet payloadEnd w next e)
        (hopen : next.firstFragment = true) (hrest : walk packet payloadEnd fuel next = .ok w') :
        Walked packet nextHeader start payloadEnd w' ∧
          w'.extensions.length ≤ w.extensions.length + (fuel + 1) := by
      have hlength : next.extensions.length = w.extensions.length + 1 := by
        rw [ht.extensions, List.length_append, List.length_singleton]
      obtain ⟨hwalked, hle⟩ := ih (h.step hfirst ht) hopen hrest
      exact ⟨hwalked, by omega⟩
    unfold walk at hwalk
    split at hwalk
    · rename_i hsized
      obtain ⟨next, hnext, hrest⟩ := bind_eq_ok hwalk
      have hplain : w.currentHeader ≠ 44 ∧ w.currentHeader ≠ 51 := by
        rcases hsized with heq | heq | heq <;> rw [heq] <;> decide
      obtain ⟨e, ht⟩ := sizedExtension_takes (by
        simp only [List.mem_cons, List.not_mem_nil, or_false]
        tauto) (fun field => by
          rw [encodedLength, if_neg hplain.1, if_neg hplain.2]) hnext
      exact round ht (ht.firstFragment_of_ne hfirst hplain.1) hrest
    split at hwalk
    · rename_i hfragment
      obtain ⟨next, hnext, hrest⟩ := bind_eq_ok hwalk
      obtain ⟨e, ht⟩ := fragmentExtension_takes hfragment hnext
      split at hrest
      · rename_i hopen
        exact round ht hopen hrest
      · obtain rfl := Except.ok.inj hrest
        refine ⟨h.step hfirst ht, ?_⟩
        rw [ht.extensions, List.length_append, List.length_singleton]
        omega
    split at hwalk
    · rename_i hauthentication
      obtain ⟨next, hnext, hrest⟩ := bind_eq_ok hwalk
      obtain ⟨e, ht⟩ := sizedExtension_takes (by rw [hauthentication]; decide)
        (fun field => by rw [hauthentication]; rfl) hnext
      exact round ht (ht.firstFragment_of_ne hfirst (by rw [hauthentication]; decide)) hrest
    · obtain rfl := Except.ok.inj hwalk
      exact ⟨h, Nat.le_add_right _ _⟩

/-! ## 4. The result -/

/-- The result tells the chain of extension headers that the packet spells behind the fixed header
at `offset`. -/
structure Faithful (packet : Bytes) (offset : Nat) (r : Ipv6ParseResult) : Prop where
  nextHeader : packet.toList[offset + 6]? = some r.header.nextHeader
  payloadLength : (packet.be16At offset 4 : Checked EngineError UInt16) = .ok r.header.payloadLength
  atMostSixteen : r.extensions.length ≤ 16
  chained : Chained r.header.nextHeader (offset + 40) r.extensions
  spelled : ∀ e ∈ r.extensions, e.Spelled packet
  inside : ∀ e ∈ r.extensions,
    offset + 40 ≤ e.offset ∧ e.offset + e.length ≤ offset + 40 + r.header.payloadLength.toNat
  transportOffset : r.transportOffset = chainEnd (offset + 40) r.extensions
  transportEnd : r.transportOffset + r.transportLength =
    offset + 40 + r.header.payloadLength.toNat
  inPacket : offset + 40 + r.header.payloadLength.toNat ≤ packet.len
  fragmented : r.fragmented = true ↔ ∃ e ∈ r.extensions, e.headerType = 44
  firstFragment : r.firstFragment = opensPacket packet r.extensions
  laterIsLast : ∀ before e after, r.extensions = before ++ e :: after → e.IsLater packet → after = []

theorem walked_start (h : start ≤ payloadEnd) :
    Walked packet nextHeader start payloadEnd ⟨start, nextHeader, [], false, true⟩ where
  chained := trivial
  currentOffset := rfl
  currentHeader := rfl
  spelled := List.forall_mem_nil _
  within := List.forall_mem_nil _
  le_currentOffset := Nat.le_refl _
  inside := h
  fragmented := by simp
  firstFragment := rfl
  laterIsLast before e after hsplit _ := by simp at hsplit

/-- Whatever `parse_at` accepts, it reports the chain of extension headers as it is. -/
theorem parseAt_faithful (packet : Bytes) (offset : Nat) (r : Ipv6ParseResult)
    (h : parseAt packet offset = .ok r) : Faithful packet offset r := by
  obtain ⟨_, -, h⟩ := bind_eq_ok h
  obtain ⟨_, -, h⟩ := bind_eq_ok h
  obtain ⟨first, -, h⟩ := bind_eq_ok h
  obtain ⟨_, -, h⟩ := bind_eq_ok h
  obtain ⟨second, -, h⟩ := bind_eq_ok h
  obtain ⟨third, -, h⟩ := bind_eq_ok h
  obtain ⟨fourth, -, h⟩ := bind_eq_ok h
  obtain ⟨payloadLength, hpayload, h⟩ := bind_eq_ok h
  obtain ⟨nextHeader, hnext, h⟩ := bind_eq_ok h
  obtain ⟨hopLimit, -, h⟩ := bind_eq_ok h
  obtain ⟨source, -, h⟩ := bind_eq_ok h
  obtain ⟨destination, -, h⟩ := bind_eq_ok h
  obtain ⟨payloadStart, hstart, h⟩ := bind_eq_ok h
  obtain rfl := addU_eq_ok hstart
  obtain ⟨payloadEnd, hend, h⟩ := bind_eq_ok h
  obtain ⟨-, rfl⟩ := checkedAdd_eq_some.mp (orFail_eq_ok hend)
  obtain ⟨_, hfit, h⟩ := bind_eq_ok h
  obtain ⟨w, hwalk, h⟩ := bind_eq_ok h
  obtain rfl := Except.ok.inj h
  obtain ⟨hw, hlength⟩ := walk_walked (walked_start (Nat.le_add_right _ _)) rfl hwalk
  have hinside := hw.inside
  exact {
    nextHeader := Bytes.of_byteAt hnext
    payloadLength := hpayload
    atMostSixteen := by simpa using hlength
    chained := hw.chained
    spelled := hw.spelled
    inside := fun e he => ⟨(hw.within e he).1, Nat.le_trans (hw.within e he).2 hinside⟩
    transportOffset := hw.currentOffset
    transportEnd := Nat.add_sub_of_le hinside
    inPacket := Nat.not_lt.mp (rejectIf_eq_ok hfit)
    fragmented := hw.fragmented
    firstFragment := hw.firstFragment
    laterIsLast := hw.laterIsLast }

/-- Hop-by-hop options and the fragment header of a later fragment of UDP, in front of four bytes. -/
def laterFragment : Bytes where
  toList := [0x60, 0, 0, 0, 0, 20, 0, 64] ++ List.replicate 32 0 ++
    [44, 0, 1, 4, 0, 0, 0, 0, 17, 0, 0x05, 0xb8, 0, 0, 0, 1] ++ List.replicate 4 0xff
  length_le := by decide

theorem parseAt_faithful_later :
    ∃ r, parseAt laterFragment 0 = .ok r ∧
      r.extensions = [⟨0, 44, 40, 8⟩, ⟨44, 17, 48, 8⟩] ∧ r.transportOffset = 56 ∧
      r.transportLength = 4 ∧ r.firstFragment = false ∧ Faithful laterFragment 0 r := by
  obtain ⟨r, hr⟩ : ∃ r, (parseAt laterFragment 0).toOption = some r :=
    Option.isSome_iff_exists.mp (by decide +kernel)
  have hok : parseAt laterFragment 0 = .ok r := toOption_eq_some hr
  have hfields : (parseAt laterFragment 0).toOption.map (fun r =>
      (r.extensions, r.transportOffset, r.transportLength, r.firstFragment)) =
      some ([⟨0, 44, 40, 8⟩, ⟨44, 17, 48, 8⟩], 56, 4, false) := by decide +kernel
  rw [hr, Option.map_some, Option.some.injEq, Prod.mk.injEq, Prod.mk.injEq, Prod.mk.injEq] at hfields
  exact ⟨r, hok, hfields.1, hfields.2.1, hfields.2.2.1, hfields.2.2.2,
    parseAt_faithful laterFragment 0 r hok⟩

end Ipv6

end NetworkEngine
