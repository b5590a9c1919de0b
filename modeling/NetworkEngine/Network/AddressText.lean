import NetworkEngine.Lib.Fields
import NetworkEngine.Lib.OnesComplement
import NetworkEngine.Network.Cidr

/-!
# AddressText — addresses as text

The `Display` of `std::net`: dotted decimal octets, and for IPv6 hexadecimal segments of which the
longest run of zeros is left out.  No two addresses have the same text.
-/

namespace NetworkEngine

open Rust Fields

/-! ## 1. Texts -/

def Ipv4Addr.text (ip : Ipv4Addr) : List Char :=
  ['.'].intercalate (ip.octets.map fun octet => Nat.toDigits 10 octet.toNat)

namespace Ipv6Addr

def segments (ip : Ipv6Addr) : List UInt16 :=
  (chunksExact2 ip.octets.toList).map fun pair => Bytes.be16 pair.1 pair.2

def toIpv4Mapped (ip : Ipv6Addr) : Option Ipv4Addr :=
  match ip.octets.toList with
  | [0, 0, 0, 0, 0, 0, 0, 0, 0, 0, 0xff, 0xff, a, b, c, d] => some ⟨a, b, c, d⟩
  | _ => none

/-- A run of zero segments. -/
structure Span where
  start : Nat
  len : Nat
  deriving DecidableEq, Repr

/-- The locals of the search: the longest run and the one that ends here. -/
structure Spans where
  longest : Span
  current : Span
  deriving DecidableEq, Repr

/-- The body of `for (i, &segment) in segments.iter().enumerate()`. -/
def Spans.next (spans : Spans) (entry : UInt16 × Nat) : Spans :=
  if entry.1 = 0 then
    let current : Span :=
      { start := if spans.current.len = 0 then entry.2 else spans.current.start
        len := spans.current.len + 1 }
    { longest := if spans.longest.len < current.len then current else spans.longest, current }
  else
    { spans with current := ⟨0, 0⟩ }

def searchZeroes (segments : List UInt16) : Spans :=
  segments.zipIdx.foldl Spans.next ⟨⟨0, 0⟩, ⟨0, 0⟩⟩

def hex (segment : UInt16) : List Char := Nat.toDigits 16 segment.toNat

def fmtSubslice : List UInt16 → List Char
  | [] => []
  | first :: tail => hex first ++ tail.flatMap fun segment => ':' :: hex segment

def text (ip : Ipv6Addr) : List Char :=
  match ip.toIpv4Mapped with
  | some ipv4 => [':', ':', 'f', 'f', 'f', 'f', ':'] ++ ipv4.text
  | none =>
    let zeroes := (searchZeroes ip.segments).longest
    if 1 < zeroes.len then
      fmtSubslice (ip.segments.take zeroes.start) ++ [':', ':'] ++
        fmtSubslice (ip.segments.drop (zeroes.start + zeroes.len))
    else
      fmtSubslice ip.segments

end Ipv6Addr

def IpAddr.text : IpAddr → List Char
  | .v4 addr => addr.text
  | .v6 addr => addr.text

/-- A run in the middle, and one address of the other family. -/
example : (Ipv6Addr.mk #v[0x20, 1, 0x0d, 0xb8, 0, 0, 0, 0, 0, 0, 0, 0, 0, 0, 0, 1]).text =
    "2001:db8::1".toList := by decide +kernel

/-! ## 2. IPv4 -/

theorem digits_of_decimal {n : Nat} {c : Char} (h : c ∈ Nat.toDigits 10 n) : c ∈ digits :=
  mem_toDigits (by decide) (by decide) h

namespace Ipv4Addr

variable {ip : Ipv4Addr} {c : Char}

theorem fields_mem {f : List Char}
    (hf : f ∈ ip.octets.map fun octet => Nat.toDigits 10 octet.toNat) (hc : c ∈ f) : c ∈ digits := by
  obtain ⟨octet, -, rfl⟩ := List.mem_map.mp hf
  exact digits_of_decimal hc

theorem text_mem (h : c ∈ ip.text) : c = '.' ∨ c ∈ digits := by
  obtain hdot | ⟨f, hf, hc⟩ := mem_intercalate h
  · exact .inl hdot
  · exact .inr (fields_mem hf hc)

theorem dot_mem_text (ip : Ipv4Addr) : '.' ∈ ip.text := delimiter_mem (by decide : 1 < 4)

theorem text_injective : Function.Injective text := by
  intro ip ip' h
  have hdot : ∀ ip : Ipv4Addr, ∀ f ∈ ip.octets.map fun octet => Nat.toDigits 10 octet.toNat,
      '.' ∉ f := fun ip f hf hc => absurd (fields_mem hf hc) (by decide)
  have hfields := intercalate_injective (hdot ip) (List.cons_ne_nil _ _) (hdot ip')
    (List.cons_ne_nil _ _) h
  have hoctets : ip.octets = ip'.octets := by
    refine List.map_injective_iff.mpr (fun octet octet' hoctet => ?_) hfields
    exact UInt8.toNat_inj.mp (toDigits_injective (by decide) (by decide) hoctet)
  obtain ⟨a, b, c, d⟩ := ip
  obtain ⟨a', b', c', d'⟩ := ip'
  simpa [octets] using hoctets

end Ipv4Addr

/-! ## 3. IPv6 -/

namespace Ipv6Addr

theorem hex_injective : Function.Injective hex := by
  intro segment segment' h
  exact UInt16.toNat_inj.mp (toDigits_injective (by decide) (by decide) h)

theorem hex_ne_nil (segment : UInt16) : hex segment ≠ [] := Nat.toDigits_ne_nil

theorem hex_mem {segment : UInt16} {c : Char} (h : c ∈ hex segment) : c ∈ digits :=
  mem_toDigits (by decide) (by decide) h

theorem fmtSubslice_eq (chunk : List UInt16) :
    fmtSubslice chunk = [':'].intercalate (chunk.map hex) := by
  cases chunk with
  | nil => rfl
  | cons first tail =>
    rw [fmtSubslice]
    induction tail generalizing first with
    | nil => simp
    | cons second tail ih =>
      rw [List.flatMap_cons, List.map_cons, List.map_cons, List.intercalate_cons_cons,
        ← List.map_cons, ← ih second]
      simp

/-- The segments hold the octets. -/
theorem flatMap_chunks {l : List UInt8} (h : l.length % 2 = 0) :
    ((chunksExact2 l).map fun pair => Bytes.be16 pair.1 pair.2).flatMap Bytes.toBe16 = l := by
  induction l using chunksExact2.induct with
  | case1 a b rest ih =>
    rw [List.length_cons, List.length_cons] at h
    rw [chunksExact2, List.map_cons, List.flatMap_cons, ih (by omega), Bytes.toBe16_be16]
    rfl
  | case2 rest hshort =>
    rw [chunksExact2_rest hshort h]
    rfl

theorem length_flatMap_toBe16 (l : List UInt16) : (l.flatMap Bytes.toBe16).length = 2 * l.length := by
  induction l with
  | nil => rfl
  | cons w l ih =>
    have hword : (Bytes.toBe16 w).length = 2 := rfl
    rw [List.flatMap_cons, List.length_append, List.length_cons, ih, hword]
    omega

theorem flatMap_segments (ip : Ipv6Addr) : ip.segments.flatMap Bytes.toBe16 = ip.octets.toList :=
  flatMap_chunks (by rw [Vector.length_toList])

theorem segments_length (ip : Ipv6Addr) : ip.segments.length = 8 := by
  have hlen := length_flatMap_toBe16 ip.segments
  rw [flatMap_segments, Vector.length_toList] at hlen
  omega

theorem segments_injective : Function.Injective segments := by
  intro ip ip' h
  have hoctets : ip.octets.toList = ip'.octets.toList := by
    rw [← flatMap_segments, h, flatMap_segments]
  exact congrArg mk (Vector.toList_inj.mp hoctets)

/-- `span` is a run of zeros. -/
def Zeroes (segments : List UInt16) (span : Span) : Prop :=
  ∃ front back, segments = front ++ (List.replicate span.len 0 ++ back) ∧
    front.length = span.start

/-- What the search has found in `segments`. -/
structure Found (segments : List UInt16) (spans : Spans) : Prop where
  longest : Zeroes segments spans.longest
  current : spans.current.len ≠ 0 →
    ∃ front, segments = front ++ List.replicate spans.current.len 0 ∧
      front.length = spans.current.start

theorem Zeroes.concat {segments : List UInt16} {span : Span} (h : Zeroes segments span)
    (segment : UInt16) : Zeroes (segments ++ [segment]) span := by
  obtain ⟨front, back, hsplit, hstart⟩ := h
  refine ⟨front, back ++ [segment], ?_, hstart⟩
  rw [hsplit]
  simp only [List.append_assoc]

theorem Found.next {segments : List UInt16} {spans : Spans} (h : Found segments spans)
    (segment : UInt16) : Found (segments ++ [segment]) (spans.next (segment, segments.length)) := by
  unfold Spans.next
  by_cases hzero : segment = 0
  · rw [if_pos hzero]
    -- The run that ends at the new segment.
    have hcurrent : ∃ front, segments ++ [segment] =
        front ++ List.replicate (spans.current.len + 1) 0 ∧
        front.length = if spans.current.len = 0 then segments.length else spans.current.start := by
      by_cases hlen : spans.current.len = 0
      · refine ⟨segments, ?_, (if_pos hlen).symm⟩
        rw [hlen, hzero]
        rfl
      · obtain ⟨front, hsplit, hstart⟩ := h.current hlen
        refine ⟨front, ?_, hstart.trans (if_neg hlen).symm⟩
        rw [List.replicate_succ', ← List.append_assoc, ← hsplit, hzero]
    refine ⟨?_, fun _ => hcurrent⟩
    simp only
    split
    · obtain ⟨front, hsplit, hstart⟩ := hcurrent
      exact ⟨front, [], by rw [List.append_nil]; exact hsplit, hstart⟩
    · exact h.longest.concat segment
  · rw [if_neg hzero]
    exact ⟨h.longest.concat segment, fun hne => absurd rfl hne⟩

theorem found_searchZeroes (segments : List UInt16) : Found segments (searchZeroes segments) := by
  induction segments using List.reverseRecOn with
  | nil => exact ⟨⟨[], [], rfl, rfl⟩, fun hne => absurd rfl hne⟩
  | append_singleton segments segment ih =>
    have hstep : searchZeroes (segments ++ [segment]) =
        (searchZeroes segments).next (segment, segments.length) := by
      rw [searchZeroes, List.zipIdx_append, List.foldl_append, Nat.zero_add]
      rfl
    rw [hstep]
    exact ih.next segment

/-- The texts between the colons. -/
def fields (ip : Ipv6Addr) : List (List Char) :=
  let zeroes := (searchZeroes ip.segments).longest
  if 1 < zeroes.len then
    compressed ((ip.segments.take zeroes.start).map hex)
      ((ip.segments.drop (zeroes.start + zeroes.len)).map hex)
  else
    ip.segments.map hex

variable {ip ip' : Ipv6Addr} {c : Char}

theorem text_eq (h : ip.toIpv4Mapped = none) : ip.text = [':'].intercalate ip.fields := by
  unfold text fields
  rw [h]
  simp only
  split
  · rw [intercalate_compressed, fmtSubslice_eq, fmtSubslice_eq, List.append_assoc]
    rfl
  · rw [fmtSubslice_eq]

theorem nil_notMem_map (l : List UInt16) : [] ∉ l.map hex := by
  intro h
  obtain ⟨segment, -, hnil⟩ := List.mem_map.mp h
  exact hex_ne_nil segment hnil

theorem fields_mem {f : List Char} (hf : f ∈ ip.fields) (hc : c ∈ f) : c ∈ digits := by
  have hmap : ∀ l : List UInt16, f ∈ l.map hex → c ∈ digits := by
    intro l hl
    obtain ⟨segment, -, rfl⟩ := List.mem_map.mp hl
    exact hex_mem hc
  unfold fields at hf
  simp only at hf
  split at hf
  · obtain hfront | rfl | hback := mem_compressed hf
    · exact hmap _ hfront
    · cases hc
    · exact hmap _ hback
  · exact hmap _ hf

theorem fields_ne_nil (ip : Ipv6Addr) : ip.fields ≠ [] := by
  unfold fields
  simp only
  split
  · exact List.append_ne_nil_of_right_ne_nil _ (List.cons_ne_nil _ _)
  · intro hnil
    have hlen := ip.segments_length
    rw [List.map_eq_nil_iff.mp hnil] at hlen
    cases hlen

/-- What is left out of the segments is as long as what is missing, and zero. -/
theorem Zeroes.split {segments : List UInt16} {span : Span} (h : Zeroes segments span) :
    segments = segments.take span.start ++
      (List.replicate (segments.length - (segments.take span.start).length -
        (segments.drop (span.start + span.len)).length) 0 ++
        segments.drop (span.start + span.len)) := by
  obtain ⟨front, back, rfl, hstart⟩ := h
  have htake : (front ++ (List.replicate span.len 0 ++ back)).take span.start = front :=
    List.take_left' hstart
  have hdrop : (front ++ (List.replicate span.len 0 ++ back)).drop (span.start + span.len) =
      back := by
    rw [← List.append_assoc]
    exact List.drop_left' (by rw [List.length_append, List.length_replicate, hstart])
  rw [htake, hdrop]
  congr 3
  rw [List.length_append, List.length_append, List.length_replicate]
  omega

theorem fields_injective : Function.Injective fields := by
  intro ip ip' h
  apply segments_injective
  have hmap : Function.Injective (List.map hex) := List.map_injective_iff.mpr hex_injective
  unfold fields at h
  simp only at h
  split at h
  · split at h
    · obtain ⟨hfront, hback⟩ := compressed_inj (nil_notMem_map _) (nil_notMem_map _)
        (nil_notMem_map _) (nil_notMem_map _) h
      have hsplit := (found_searchZeroes ip.segments).longest.split
      have hsplit' := (found_searchZeroes ip'.segments).longest.split
      rw [segments_length, hmap hfront, hmap hback] at hsplit
      rw [segments_length] at hsplit'
      exact hsplit.trans hsplit'.symm
    · exact absurd (h ▸ nil_mem_compressed) (nil_notMem_map _)
  · split at h
    · exact absurd (h ▸ nil_mem_compressed) (nil_notMem_map _)
    · exact hmap h

/-- The last four octets, behind ten of zero and two of ones. -/
theorem octets_of_mapped {ipv4 : Ipv4Addr} (h : ip.toIpv4Mapped = some ipv4) :
    ip.octets.toList = List.replicate 10 0 ++ 0xff :: 0xff :: ipv4.octets := by
  unfold toIpv4Mapped at h
  split at h
  · rename_i hoctets
    obtain rfl := Option.some.inj h
    exact hoctets
  · cases h

theorem text_of_mapped {ipv4 : Ipv4Addr} (h : ip.toIpv4Mapped = some ipv4) :
    ip.text = [':', ':', 'f', 'f', 'f', 'f', ':'] ++ ipv4.text := by
  rw [text, h]

theorem text_mem (h : c ∈ ip.text) :
    c = ':' ∨ c ∈ digits ∨ c = '.' ∧ ip.toIpv4Mapped ≠ none := by
  cases hmapped : ip.toIpv4Mapped with
  | none =>
    rw [text_eq hmapped] at h
    obtain hcolon | ⟨f, hf, hc⟩ := mem_intercalate h
    · exact .inl hcolon
    · exact .inr (.inl (fields_mem hf hc))
  | some ipv4 =>
    rw [text_of_mapped hmapped] at h
    obtain hmark | hc := List.mem_append.mp h
    · have hchars : [':', ':', 'f', 'f', 'f', 'f', ':'].all (fun c => c = ':' ∨ c ∈ digits) := by
        decide
      obtain hcolon | hdigit := of_decide_eq_true (List.all_eq_true.mp hchars c hmark)
      · exact .inl hcolon
      · exact .inr (.inl hdigit)
    · obtain hdot | hdigit := Ipv4Addr.text_mem hc
      · exact .inr (.inr ⟨hdot, Option.some_ne_none ipv4⟩)
      · exact .inr (.inl hdigit)

/-- Only an embedded IPv4 address brings dots. -/
theorem dot_mem_text_iff (ip : Ipv6Addr) : '.' ∈ ip.text ↔ ip.toIpv4Mapped ≠ none := by
  constructor
  · intro h
    obtain hcolon | hdigit | ⟨-, hmapped⟩ := text_mem h
    · exact absurd hcolon (by decide)
    · exact absurd hdigit (by decide)
    · exact hmapped
  · intro h
    obtain ⟨ipv4, hmapped⟩ := Option.ne_none_iff_exists'.mp h
    rw [text_of_mapped hmapped]
    exact List.mem_append_right _ ipv4.dot_mem_text

theorem colon_mem_text (ip : Ipv6Addr) : ':' ∈ ip.text := by
  cases hmapped : ip.toIpv4Mapped with
  | none =>
    have hlen : 1 < ip.fields.length := by
      unfold fields
      simp only
      split
      · have hfront := List.length_pos_iff.mpr
          (shown_ne_nil ((ip.segments.take (searchZeroes ip.segments).longest.start).map hex))
        rw [compressed, List.length_append, List.length_cons]
        omega
      · rw [List.length_map, segments_length]
        decide
    rw [text_eq hmapped]
    exact delimiter_mem hlen
  | some ipv4 =>
    rw [text_of_mapped hmapped]
    exact List.mem_cons_self

theorem text_injective : Function.Injective text := by
  intro ip ip' h
  have hdots : ip.toIpv4Mapped ≠ none ↔ ip'.toIpv4Mapped ≠ none := by
    rw [← dot_mem_text_iff, h, dot_mem_text_iff]
  have hcolon : ∀ ip : Ipv6Addr, ∀ f ∈ ip.fields, ':' ∉ f := fun ip f hf hc =>
    absurd (fields_mem hf hc) (by decide)
  cases hmapped : ip.toIpv4Mapped with
  | none =>
    have hmapped' : ip'.toIpv4Mapped = none := by
      by_contra hne
      exact hdots.mpr hne hmapped
    rw [text_eq hmapped, text_eq hmapped'] at h
    exact fields_injective (intercalate_injective (hcolon ip) ip.fields_ne_nil (hcolon ip')
      ip'.fields_ne_nil h)
  | some ipv4 =>
    rw [hmapped] at hdots
    obtain ⟨ipv4', hmapped'⟩ :=
      Option.ne_none_iff_exists'.mp (hdots.mp (Option.some_ne_none ipv4))
    rw [text_of_mapped hmapped, text_of_mapped hmapped'] at h
    have hsame : ipv4 = ipv4' := Ipv4Addr.text_injective (List.append_cancel_left h)
    have hoctets : ip.octets.toList = ip'.octets.toList := by
      rw [octets_of_mapped hmapped, octets_of_mapped hmapped', hsame]
    exact congrArg mk (Vector.toList_inj.mp hoctets)

end Ipv6Addr

/-! ## 4. Both families -/

namespace IpAddr

theorem text_mem {ip : IpAddr} {c : Char} (h : c ∈ ip.text) : c = ':' ∨ c = '.' ∨ c ∈ digits := by
  cases ip with
  | v4 addr => exact .inr (Ipv4Addr.text_mem h)
  | v6 addr =>
    obtain hcolon | hdigit | ⟨hdot, -⟩ := Ipv6Addr.text_mem h
    · exact .inl hcolon
    · exact .inr (.inr hdigit)
    · exact .inr (.inl hdot)

/-- An IPv6 text has a colon, an IPv4 text has none. -/
theorem text_v4_ne_v6 (addr : Ipv4Addr) (addr' : Ipv6Addr) : addr.text ≠ addr'.text := by
  intro h
  have hcolon := addr'.colon_mem_text
  rw [← h] at hcolon
  obtain hdot | hdigit := Ipv4Addr.text_mem hcolon
  · exact absurd hdot (by decide)
  · exact absurd hdigit (by decide)

/-- No two addresses have the same text. -/
theorem text_injective : Function.Injective text := by
  intro ip ip' h
  cases ip with
  | v4 addr =>
    cases ip' with
    | v4 addr' => exact congrArg v4 (Ipv4Addr.text_injective h)
    | v6 addr' => exact absurd h (text_v4_ne_v6 addr addr')
  | v6 addr =>
    cases ip' with
    | v4 addr' => exact absurd h.symm (text_v4_ne_v6 addr' addr)
    | v6 addr' => exact congrArg v6 (Ipv6Addr.text_injective h)

end IpAddr

end NetworkEngine
