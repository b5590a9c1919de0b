import NetworkEngine.Backend.Manager
import NetworkEngine.Core.Observation
import NetworkEngine.Lib.Masked

/-!
# WfpCondition — filter conditions and what the kernel makes of them

`backend_wfp::filter`: a condition is a value with a mask, both in network byte order.  `matches`
compares them with packet bytes; `NativeCondition::from_condition` hands them to WFP, which compares
ports and IPv4 addresses as integers in host order and IPv6 addresses by a prefix.  The machine is
little-endian.
-/

namespace NetworkEngine

open Masked

/-! ## 1. Conditions -/

structure WfpFilterCondition where
  field : String
  value : List UInt8
  mask : Option (List UInt8)
  deriving DecidableEq, Repr

namespace WfpFilterCondition

/-- `s.trim()`. -/
def trim (s : List Char) : List Char :=
  ((s.dropWhile BackendManager.isWhitespace).reverse.dropWhile BackendManager.isWhitespace).reverse

def new (field : String) (value : List UInt8) : EngineResult WfpFilterCondition :=
  if field.toList.all BackendManager.isWhitespace ∨ value = [] then
    .error (.code .invalidArgument)
  else .ok ⟨field, value, none⟩

def withMask (c : WfpFilterCondition) (mask : List UInt8) : EngineResult WfpFilterCondition :=
  if mask.length ≠ c.value.length then .error (.code .invalidArgument)
  else .ok { c with mask := some mask }

/-- `matches`. -/
def matchesBytes (c : WfpFilterCondition) (data : List UInt8) : Bool :=
  if data.length < c.value.length then false
  else
    match c.mask with
    | some mask => ((c.value.zip mask).zip data).all fun p => p.2 &&& p.1.2 == p.1.1 &&& p.1.2
    | none => data.take c.value.length == c.value

end WfpFilterCondition

/-! ## 2. Native conditions -/

/-- The `FWPM_CONDITION_*` keys in use. -/
inductive FieldKey where
  | ipProtocol
  | ipLocalPort
  | ipRemotePort
  | direction
  | ipLocalAddress
  | ipRemoteAddress
  | ipLocalAddressV4
  | ipRemoteAddressV4
  | ipLocalAddressV6
  | ipRemoteAddressV6
  deriving DecidableEq, Repr

/-- The keys whose conditions are addresses. -/
def FieldKey.isAddress : FieldKey → Bool
  | .ipProtocol | .ipLocalPort | .ipRemotePort | .direction => false
  | .ipLocalAddress | .ipRemoteAddress | .ipLocalAddressV4 | .ipRemoteAddressV4
  | .ipLocalAddressV6 | .ipRemoteAddressV6 => true

/-- `FWP_CONDITION_VALUE0` with what it points to. -/
inductive ConditionValue where
  | uint8 (value : UInt8)
  | uint16 (value : UInt16)
  | uint32 (value : UInt32)
  | v4AddrMask (addr mask : UInt32)
  | v6AddrMask (addr : List UInt8) (prefixLength : UInt8)
  deriving DecidableEq, Repr

/-- The match type is always `FWP_MATCH_EQUAL`. -/
structure NativeCondition where
  fieldKey : FieldKey
  conditionValue : ConditionValue
  deriving DecidableEq, Repr

/-- `u16::from_ne_bytes([b0, b1])`. -/
def u16FromNeBytes (b0 b1 : UInt8) : UInt16 := ⟨word16 b1 b0⟩

def u32FromNeBytes (b0 b1 b2 b3 : UInt8) : UInt32 := ⟨word32 b3 b2 b1 b0⟩

namespace NativeCondition

/-- The loop over the bits of a byte looks at `b & (1 << bit)`. -/
def bitsOf (b : UInt8) : List Bool :=
  [7, 6, 5, 4, 3, 2, 1, 0].map fun bit : UInt8 => b &&& (1 <<< bit) != 0

/-- One bit, with the ones counted so far and whether a zero has been seen. -/
def prefixStep (state : UInt8 × Bool) (bit : Bool) : Option (UInt8 × Bool) :=
  if bit then if state.2 then none else some (state.1 + 1, state.2)
  else some (state.1, true)

/-- `prefix`. -/
def prefixOf (mask : List UInt8) : Option UInt8 :=
  (mask.foldlM (fun state b => (bitsOf b).foldlM prefixStep state) (0, false)).map (·.1)

def address (c : WfpFilterCondition) : EngineResult ConditionValue :=
  match c.value with
  | [v0, v1, v2, v3] =>
    match c.mask.getD (List.replicate 4 0xff) with
    | [m0, m1, m2, m3] =>
      .ok (.v4AddrMask (u32FromNeBytes v0 v1 v2 v3) (u32FromNeBytes m0 m1 m2 m3))
    | _ => .error (.code .invalidArgument)
  | value =>
    if value.length ≠ 16 then .error (.code .invalidArgument)
    else
      let mask := c.mask.getD (List.replicate 16 0xff)
      if mask.length ≠ 16 then .error (.code .invalidArgument)
      else
        match prefixOf mask with
        | some n => .ok (.v6AddrMask value n)
        | none => .error (.code .invalidArgument)

def port (c : WfpFilterCondition) : EngineResult ConditionValue :=
  match c.value with
  | [v0, v1] => .ok (.uint16 (u16FromNeBytes v0 v1))
  | _ => .error (.code .invalidArgument)

/-- A value of one byte. -/
def single (c : WfpFilterCondition) (wrap : UInt8 → ConditionValue) :
    EngineResult ConditionValue :=
  match c.value with
  | [b] => .ok (wrap b)
  | _ => .error (.code .invalidArgument)

/-- `field.trim().to_ascii_lowercase()` as a key. -/
def keyOf (field : String) : Option FieldKey :=
  match String.ofList ((WfpFilterCondition.trim field.toList).map Char.toLower) with
  | "protocol" | "ip_protocol" => some .ipProtocol
  | "local_port" | "ip_local_port" => some .ipLocalPort
  | "remote_port" | "ip_remote_port" => some .ipRemotePort
  | "direction" => some .direction
  | "local_address" | "ip_local_address" => some .ipLocalAddress
  | "remote_address" | "ip_remote_address" => some .ipRemoteAddress
  | "local_address_v4" | "ip_local_address_v4" => some .ipLocalAddressV4
  | "remote_address_v4" | "ip_remote_address_v4" => some .ipRemoteAddressV4
  | "local_address_v6" | "ip_local_address_v6" => some .ipLocalAddressV6
  | "remote_address_v6" | "ip_remote_address_v6" => some .ipRemoteAddressV6
  | _ => none

def valueOf (key : FieldKey) (c : WfpFilterCondition) : EngineResult ConditionValue :=
  match key with
  | .ipProtocol => single c .uint8
  | .ipLocalPort | .ipRemotePort => port c
  | .direction => single c fun b => .uint32 b.toUInt32
  | .ipLocalAddress | .ipRemoteAddress | .ipLocalAddressV4 | .ipRemoteAddressV4
  | .ipLocalAddressV6 | .ipRemoteAddressV6 => address c

def fromCondition (c : WfpFilterCondition) : EngineResult NativeCondition :=
  match keyOf c.field with
  | none => .error (.message .invalidArgument "unsupported WFP filter condition")
  | some key =>
    match valueOf key c with
    | .error e => .error e
    | .ok value => .ok ⟨key, value⟩

/-! ## 3. What WFP compares -/

/-- A port or an address of a packet. -/
inductive Operand where
  | port (port : UInt16)
  | v4 (addr : Ipv4Addr)
  | v6 (addr : Ipv6Addr)
  deriving DecidableEq, Repr

/-- In network byte order. -/
def Operand.bytes : Operand → List UInt8
  | .port p => [(p >>> 8).toUInt8, p.toUInt8]
  | .v4 ⟨a, b, c, d⟩ => [a, b, c, d]
  | .v6 addr => addr.octets.toList

/-- The integer of an IPv4 address in host order. -/
def hostOrder (addr : Ipv4Addr) : UInt32 := ⟨word32 addr.a addr.b addr.c addr.d⟩

/-- WFP compares ports and IPv4 addresses as integers, IPv6 addresses by their first bits. -/
def Matches (native : NativeCondition) (x : Operand) : Prop :=
  match native.conditionValue, x with
  | .uint16 value, .port p => p = value
  | .v4AddrMask addr mask, .v4 x => hostOrder x &&& mask = addr &&& mask
  | .v6AddrMask addr n, .v6 x =>
    (bits x.octets.toList).take n.toNat = (bits addr).take n.toNat
  | _, _ => False

/-- WFP and `matches` agree on every operand of the condition's kind. -/
def Preserves (c : WfpFilterCondition) (native : NativeCondition) : Prop :=
  ∀ x : Operand, x.bytes.length = c.value.length → (native.Matches x ↔ c.matchesBytes x.bytes = true)

/-- The bytes of the value and of the mask read the same from both ends. -/
def Palindromic (c : WfpFilterCondition) : Prop :=
  match c.value with
  | [v0, v1] => v0 = v1 ∧ ∀ mask ∈ c.mask, mask.take 2 = [0xff, 0xff]
  | [v0, v1, v2, v3] =>
    match c.mask.getD (List.replicate 4 0xff) with
    | [m0, m1, m2, m3] =>
      (m0 = m3 ∧ m1 = m2) ∧ v0 &&& m0 = v3 &&& m3 ∧ v1 &&& m1 = v2 &&& m2
    | _ => True
  | _ => True

/-! ## 4. Masks of ones -/

theorem bitsOf_eq (b : UInt8) : bitsOf b = byteBits b := by
  obtain ⟨b⟩ := b
  revert b
  decide +kernel

variable {state : UInt8 × Bool} {l : List Bool} {mask : List UInt8} {n : UInt8}

theorem foldlM_bits (mask : List UInt8) (state : UInt8 × Bool) :
    mask.foldlM (fun state b => (bitsOf b).foldlM prefixStep state) state =
      (bits mask).foldlM prefixStep state := by
  induction mask generalizing state with
  | nil => rfl
  | cons b mask ih =>
    show _ = (byteBits b ++ bits mask).foldlM prefixStep state
    rw [List.foldlM_cons, List.foldlM_append, ← bitsOf_eq]
    congr 1
    funext state
    exact ih state

/-- After a zero there are only zeros. -/
theorem foldlM_zero (l : List Bool) (ones : UInt8) :
    (l.foldlM prefixStep (ones, true)).map (·.1) = some n ↔
      l = List.replicate l.length false ∧ n = ones := by
  induction l with
  | nil => simp [eq_comm]
  | cons bit l ih =>
    cases bit with
    | true => simp [prefixStep, List.replicate_succ]
    | false =>
      simp only [List.foldlM_cons, prefixStep, Bool.false_eq_true, if_false, List.length_cons,
        List.replicate_succ, List.cons.injEq, true_and]
      exact ih

theorem foldlM_ones (l : List Bool) (ones : UInt8) :
    (l.foldlM prefixStep (ones, false)).map (·.1) = some n ↔
      ∃ k, IsOnes k l ∧ n = ones + UInt8.ofNat k := by
  induction l generalizing ones with
  | nil =>
    simp only [List.foldlM_nil, Option.pure_def, Option.map_some, Option.some.injEq]
    constructor
    · exact fun h => ⟨0, ⟨Nat.le_refl 0, rfl⟩, by rw [← h]; exact (UInt8.add_zero ones).symm⟩
    · intro h
      obtain ⟨k, hk, rfl⟩ := h
      obtain rfl : k = 0 := Nat.le_zero.mp hk.1
      exact (UInt8.add_zero ones).symm
  | cons bit l ih =>
    cases bit with
    | true =>
      simp only [List.foldlM_cons, prefixStep, if_true, Bool.false_eq_true, if_false]
      refine (ih (ones + 1)).trans ?_
      constructor
      · intro h
        obtain ⟨k, hk, rfl⟩ := h
        refine ⟨k + 1, isOnes_succ.mpr hk, ?_⟩
        rw [UInt8.ofNat_add, UInt8.add_assoc, UInt8.add_comm (UInt8.ofNat k)]
        rfl
      · intro h
        obtain ⟨k, hk, rfl⟩ := h
        cases k with
        | zero => exact absurd hk.2 (by simp [List.replicate_succ])
        | succ k =>
          refine ⟨k, isOnes_succ.mp hk, ?_⟩
          rw [UInt8.ofNat_add, UInt8.add_assoc, UInt8.add_comm (UInt8.ofNat k)]
          rfl
    | false =>
      simp only [List.foldlM_cons, prefixStep, Bool.false_eq_true, if_false]
      refine (foldlM_zero l ones).trans ?_
      constructor
      · intro h
        refine ⟨0, ⟨Nat.zero_le _, ?_⟩, ?_⟩
        · simpa [List.replicate_succ] using h.1
        · rw [h.2]
          exact (UInt8.add_zero ones).symm
      · intro h
        obtain ⟨k, hk, rfl⟩ := h
        cases k with
        | zero =>
          refine ⟨?_, UInt8.add_zero ones⟩
          simpa [List.replicate_succ] using hk.2
        | succ k => exact absurd hk.2 (by simp [List.replicate_succ])

/-- The accepted masks are ones followed by zeros. -/
theorem prefixOf_eq_some : prefixOf mask = some n ↔ ∃ k, IsOnes k (bits mask) ∧ n = UInt8.ofNat k := by
  rw [prefixOf, foldlM_bits, foldlM_ones]
  simp only [UInt8.zero_add]

/-! ## 5. The byte-wise comparison -/

variable {c : WfpFilterCondition} {native : NativeCondition} {value data : List UInt8}

theorem all_zip_iff {mask : List UInt8} (hdata : data.length = value.length)
    (hmask : value.length ≤ mask.length) :
    (((value.zip mask).zip data).all fun p => p.2 &&& p.1.2 == p.1.1 &&& p.1.2) = true ↔
      List.zipWith (· &&& ·) data mask = List.zipWith (· &&& ·) value mask := by
  induction value generalizing data mask with
  | nil => simp [List.eq_nil_of_length_eq_zero hdata]
  | cons v value ih =>
    cases data with
    | nil => simp at hdata
    | cons a data =>
      cases mask with
      | nil => simp at hmask
      | cons m mask =>
        have hdata' : data.length = value.length := by simpa using hdata
        have htail := ih hdata' (show value.length ≤ mask.length by simpa using hmask)
        simp only [List.zip_cons_cons, List.all_cons, Bool.and_eq_true, beq_iff_eq, htail,
          List.zipWith_cons_cons, List.cons.injEq]

theorem and_ones (a : UInt8) : a &&& 0xff = a := by
  rw [← UInt8.toBitVec_inj]
  exact BitVec.and_allOnes

theorem zipWith_ones (l : List UInt8) :
    List.zipWith (· &&& ·) l (List.replicate l.length 0xff) = l := by
  induction l with
  | nil => rfl
  | cons a l ih =>
    rw [List.length_cons, List.replicate_succ, List.zipWith_cons_cons, ih, and_ones]

/-- Without a mask every bit counts. -/
theorem matchesBytes_iff (hdata : data.length = c.value.length)
    (hmask : ∀ mask ∈ c.mask, c.value.length ≤ mask.length) :
    c.matchesBytes data = true ↔
      List.zipWith (· &&& ·) data (c.mask.getD (List.replicate c.value.length 0xff)) =
        List.zipWith (· &&& ·) c.value (c.mask.getD (List.replicate c.value.length 0xff)) := by
  rw [WfpFilterCondition.matchesBytes, if_neg (by omega)]
  cases hc : c.mask with
  | some mask =>
    rw [Option.getD_some]
    exact all_zip_iff hdata (hmask mask hc)
  | none =>
    have hself := zipWith_ones data
    rw [hdata] at hself
    rw [Option.getD_none, hself, zipWith_ones, beq_iff_eq, List.take_of_length_le (by omega)]

/-! ### IPv4 addresses -/

theorem ipv4_iff {v0 v1 v2 v3 m0 m1 m2 m3 : UInt8} (hvalue : c.value = [v0, v1, v2, v3])
    (hmask : c.mask.getD (List.replicate 4 0xff) = [m0, m1, m2, m3]) (a b d e : UInt8) :
    c.matchesBytes [a, b, d, e] = true ↔
      word32 a b d e &&& word32 m0 m1 m2 m3 = word32 v0 v1 v2 v3 &&& word32 m0 m1 m2 m3 := by
  have hlen : ∀ mask ∈ c.mask, c.value.length ≤ mask.length := by
    intro mask hc
    rw [Option.mem_def.mp hc, Option.getD_some] at hmask
    simp [hmask, hvalue]
  have hlength : c.value.length = 4 := by rw [hvalue]; rfl
  rw [matchesBytes_iff (by rw [hlength]; rfl) hlen, hlength, hmask, hvalue, word32_and, word32_and,
    word32_inj]
  simp [and_assoc]

theorem preserves_ipv4_iff {v0 v1 v2 v3 m0 m1 m2 m3 : UInt8} (hvalue : c.value = [v0, v1, v2, v3])
    (hmask : c.mask.getD (List.replicate 4 0xff) = [m0, m1, m2, m3])
    (hnative : native.conditionValue =
      .v4AddrMask (u32FromNeBytes v0 v1 v2 v3) (u32FromNeBytes m0 m1 m2 m3)) :
    Preserves c native ↔ Palindromic c := by
  have hmatches (a b d e : UInt8) : native.Matches (.v4 ⟨a, b, d, e⟩) ↔
      word32 a b d e &&& word32 m3 m2 m1 m0 = word32 v3 v2 v1 v0 &&& word32 m3 m2 m1 m0 := by
    unfold Matches
    rw [hnative]
    exact UInt32.toBitVec_inj.symm
  -- The question WFP answers and the one `matches` answers, for all addresses.
  have hquestions : Preserves c native ↔
      ∀ x, x &&& word32 m3 m2 m1 m0 = word32 v3 v2 v1 v0 &&& word32 m3 m2 m1 m0 ↔
        x &&& word32 m0 m1 m2 m3 = word32 v0 v1 v2 v3 &&& word32 m0 m1 m2 m3 := by
    constructor
    · intro h x
      rcases exists_word32 x with ⟨a, b, d, e, rfl⟩
      rw [← hmatches, ← ipv4_iff hvalue hmask]
      exact h (.v4 ⟨a, b, d, e⟩) (by rw [hvalue]; rfl)
    · intro h x hx
      rw [hvalue] at hx
      cases x with
      | port p => simp [Operand.bytes] at hx
      | v4 addr => exact (hmatches _ _ _ _).trans ((h _).trans (ipv4_iff hvalue hmask _ _ _ _).symm)
      | v6 addr => simp [Operand.bytes] at hx
  rw [hquestions, forall_agree_iff, word32_and, word32_and, word32_inj, word32_inj, Palindromic,
    hvalue]
  dsimp only
  rw [hmask]
  constructor
  · intro h
    exact ⟨⟨h.1.2.2, h.1.2.1⟩, h.2.2.2, h.2.2.1⟩
  · intro h
    exact ⟨⟨⟨h.1.1.symm, h.1.2.symm⟩, h.1.2, h.1.1⟩, ⟨h.2.1.symm, h.2.2.symm⟩, h.2.2, h.2.1⟩

/-! ### Ports -/

/-- What a mask of any length makes of two bytes. -/
def portMask (mask : Option (List UInt8)) : BitVec 16 :=
  match mask with
  | none => word16 0xff 0xff
  | some mask => word16 (mask.getD 0 0) (mask.getD 1 0)

theorem port_iff {v0 v1 : UInt8} (hvalue : c.value = [v0, v1]) (hi lo : UInt8) :
    c.matchesBytes [hi, lo] = true ↔
      word16 hi lo &&& portMask c.mask = word16 v0 v1 &&& portMask c.mask := by
  rw [WfpFilterCondition.matchesBytes, hvalue, if_neg (by simp)]
  cases hc : c.mask with
  | none => simp [portMask, word16_and, word16_inj, and_ones]
  | some mask =>
    cases mask with
    | nil => simp [portMask, word16_and]
    | cons m0 mask =>
      cases mask with
      | nil => simp [portMask, word16_and, word16_inj]
      | cons m1 mask => simp [portMask, word16_and, word16_inj]

theorem portMask_eq_ones_iff {mask : Option (List UInt8)} :
    word16 0xff 0xff = portMask mask ↔ ∀ m ∈ mask, m.take 2 = [0xff, 0xff] := by
  cases mask with
  | none => simp [portMask]
  | some mask =>
    cases mask with
    | nil => simp [portMask, word16_inj]
    | cons m0 mask =>
      cases mask with
      | nil => simp [portMask, word16_inj]
      | cons m1 mask => simp [portMask, word16_inj, eq_comm]

theorem port_bytes (p : UInt16) : word16 (p >>> 8).toUInt8 p.toUInt8 = p.toBitVec := by
  apply BitVec.eq_of_getLsbD_eq
  intro i hi
  rw [word16, BitVec.getLsbD_append]
  by_cases h : i < 8
  · rw [if_pos h]
    simp [h]
  · rw [if_neg h]
    simp [show i - 8 < 8 by omega, show 8 + (i - 8) = i by omega]

theorem preserves_port_iff {v0 v1 : UInt8} (hvalue : c.value = [v0, v1])
    (hnative : native.conditionValue = .uint16 (u16FromNeBytes v0 v1)) :
    Preserves c native ↔ Palindromic c := by
  have hmatches (p : UInt16) : native.Matches (.port p) ↔
      p.toBitVec &&& word16 0xff 0xff = word16 v1 v0 &&& word16 0xff 0xff := by
    unfold Matches
    rw [hnative, ← port_bytes, word16_and, word16_and, and_ones, and_ones, and_ones, and_ones,
      port_bytes]
    exact UInt16.toBitVec_inj.symm
  have hquestions : Preserves c native ↔
      ∀ x, x &&& word16 0xff 0xff = word16 v1 v0 &&& word16 0xff 0xff ↔
        x &&& portMask c.mask = word16 v0 v1 &&& portMask c.mask := by
    constructor
    · intro h x
      have hp := h (.port ⟨x⟩) (by rw [hvalue]; rfl)
      rw [Operand.bytes, port_iff hvalue, port_bytes] at hp
      exact (hmatches ⟨x⟩).symm.trans hp
    · intro h x hx
      rw [hvalue] at hx
      cases x with
      | port p =>
        rw [Operand.bytes, port_iff hvalue, port_bytes]
        exact (hmatches p).trans (h p.toBitVec)
      | v4 addr => simp [Operand.bytes] at hx
      | v6 addr => simp [Operand.bytes] at hx
  rw [hquestions, forall_agree_iff, portMask_eq_ones_iff, Palindromic, hvalue]
  constructor
  · intro h
    have hvalue := h.2
    rw [← portMask_eq_ones_iff.mpr h.1, word16_and, word16_and, word16_inj] at hvalue
    simp only [and_ones] at hvalue
    exact ⟨hvalue.2, h.1⟩
  · intro h
    obtain ⟨rfl, hmask⟩ := h
    refine ⟨hmask, ?_⟩
    rw [portMask_eq_ones_iff.mpr hmask]

/-! ### IPv6 addresses -/

theorem preserves_ipv6 {mask : List UInt8} (hvalue : c.value.length = 16)
    (hgetD : c.mask.getD (List.replicate 16 0xff) = mask) (hmask : mask.length = 16)
    (hlen : prefixOf mask = some n)
    (hnative : native.conditionValue = .v6AddrMask c.value n) : Preserves c native := by
  obtain ⟨k, hones, rfl⟩ := prefixOf_eq_some.mp hlen
  have hk : (UInt8.ofNat k).toNat = k := by
    have hle := hones.1
    rw [length_bits, hmask] at hle
    rw [UInt8.toNat_ofNat']
    omega
  have hmasks : ∀ m ∈ c.mask, c.value.length ≤ m.length := by
    intro m hm
    rw [Option.mem_def.mp hm, Option.getD_some] at hgetD
    rw [hgetD]
    omega
  intro x hx
  rw [hvalue] at hx
  cases x with
  | port p => simp [Operand.bytes] at hx
  | v4 addr => simp [Operand.bytes] at hx
  | v6 addr =>
    rw [matchesBytes_iff (hx.trans hvalue.symm) hmasks, hvalue, hgetD,
      agree_ones_iff (hx.trans hmask.symm) (hvalue.trans hmask.symm) hones]
    unfold Matches
    rw [hnative]
    dsimp only
    rw [hk]
    rfl

/-! ## 6. The translation -/

/-- What is no port and no IPv4 address has no order of bytes. -/
theorem palindromic_of_length (h2 : c.value.length ≠ 2) (h4 : c.value.length ≠ 4) :
    Palindromic c := by
  unfold Palindromic
  split
  · rename_i hvalue
    exact absurd (congrArg List.length hvalue) h2
  · rename_i hvalue
    exact absurd (congrArg List.length hvalue) h4
  · trivial

/-- The translation of an IPv6 condition. -/
theorem address_ipv6 (hvalue : c.value.length = 16) :
    address c =
      let mask := c.mask.getD (List.replicate 16 0xff)
      if mask.length ≠ 16 then .error (.code .invalidArgument)
      else
        match prefixOf mask with
        | some n => .ok (.v6AddrMask c.value n)
        | none => .error (.code .invalidArgument) := by
  unfold address
  split
  · rename_i heq
    rw [heq] at hvalue
    nomatch hvalue
  · rw [if_neg (not_not.mpr hvalue)]

theorem address_preserves (h : address c = .ok native.conditionValue) :
    Preserves c native ↔ Palindromic c := by
  by_cases hlength : c.value.length = 16
  · rw [address_ipv6 hlength] at h
    dsimp only at h
    split_ifs at h with hmask
    split at h
    · rename_i n hprefix
      have hnative := Except.ok.inj h
      refine iff_of_true ?_ (palindromic_of_length (by omega) (by omega))
      exact preserves_ipv6 hlength rfl (not_not.mp hmask) hprefix hnative.symm
    · nomatch h
  · unfold address at h
    split at h
    · rename_i v0 v1 v2 v3 hvalue
      split at h
      · rename_i hmask
        exact preserves_ipv4_iff hvalue hmask (Except.ok.inj h).symm
      · nomatch h
    · rw [if_pos hlength] at h
      nomatch h

theorem port_preserves (h : port c = .ok native.conditionValue) :
    Preserves c native ↔ Palindromic c := by
  unfold port at h
  split at h
  · rename_i v0 v1 hvalue
    exact preserves_port_iff hvalue (Except.ok.inj h).symm
  · nomatch h

/-- A condition on one byte is neither on a port nor on an address. -/
theorem single_preserves {wrap : UInt8 → ConditionValue}
    (h : single c wrap = .ok native.conditionValue) : Preserves c native ↔ Palindromic c := by
  unfold single at h
  split at h
  · rename_i b hvalue
    have hlength : c.value.length = 1 := congrArg List.length hvalue
    refine iff_of_true ?_ (palindromic_of_length (by omega) (by omega))
    intro x hx
    rw [hlength] at hx
    cases x with
    | port p => simp [Operand.bytes] at hx
    | v4 addr => simp [Operand.bytes] at hx
    | v6 addr => simp [Operand.bytes] at hx
  · nomatch h

theorem fromCondition_eq_ok : fromCondition c = .ok native ↔
    keyOf c.field = some native.fieldKey ∧
      valueOf native.fieldKey c = .ok native.conditionValue := by
  unfold fromCondition
  cases hkey : keyOf c.field with
  | none => simp
  | some key =>
    obtain ⟨key', value'⟩ := native
    dsimp only
    cases hvalue : valueOf key c with
    | error e =>
      constructor
      · exact fun h => nomatch h
      · intro h
        obtain rfl := Option.some.inj h.1
        rw [hvalue] at h
        nomatch h.2
    | ok value =>
      constructor
      · intro h
        obtain ⟨rfl, rfl⟩ := NativeCondition.mk.inj (Except.ok.inj h)
        exact ⟨rfl, hvalue⟩
      · intro h
        obtain rfl := Option.some.inj h.1
        rw [hvalue] at h
        rw [Except.ok.inj h.2]

theorem preserves_iff (h : fromCondition c = .ok native) : Preserves c native ↔ Palindromic c := by
  have hvalue := (fromCondition_eq_ok.mp h).2
  cases hkey : native.fieldKey <;> rw [hkey] at hvalue
  case ipProtocol => exact single_preserves hvalue
  case direction => exact single_preserves hvalue
  case ipLocalPort => exact port_preserves hvalue
  case ipRemotePort => exact port_preserves hvalue
  all_goals exact address_preserves hvalue

theorem valueOf_address {key : FieldKey} (h : key.isAddress = true) : valueOf key c = address c := by
  cases key <;> first | rfl | nomatch h

/-- A condition means to WFP what it means to `matches` exactly when no order of bytes tells; the
IPv6 masks accepted are ones followed by zeros, and their number is the length of the prefix. -/
theorem condition_translation (c : WfpFilterCondition) :
    (∀ native, fromCondition c = .ok native → (Preserves c native ↔ Palindromic c)) ∧
      ∀ key mask, keyOf c.field = some key → key.isAddress = true → c.value.length = 16 →
        c.mask = some mask → mask.length = 16 → ∀ native, fromCondition c = .ok native ↔
          ∃ n, IsOnes n (bits mask) ∧ native = ⟨key, .v6AddrMask c.value (UInt8.ofNat n)⟩ := by
  refine ⟨fun native h => preserves_iff h, ?_⟩
  intro key mask hkey haddress hvalue hsome hmask native
  have haddr : address c =
      match prefixOf mask with
      | some n => .ok (.v6AddrMask c.value n)
      | none => .error (.code .invalidArgument) := by
    rw [address_ipv6 hvalue, hsome]
    exact if_neg (not_not.mpr hmask)
  rw [fromCondition_eq_ok, hkey]
  constructor
  · intro h
    obtain ⟨hfield, hok⟩ := h
    obtain rfl := Option.some.inj hfield
    rw [valueOf_address haddress, haddr] at hok
    split at hok
    · rename_i n hprefix
      obtain ⟨k, hones, rfl⟩ := prefixOf_eq_some.mp hprefix
      refine ⟨k, hones, ?_⟩
      rw [Except.ok.inj hok]
    · nomatch hok
  · intro h
    obtain ⟨k, hones, rfl⟩ := h
    have hprefix := prefixOf_eq_some.mpr ⟨k, hones, rfl⟩
    refine ⟨rfl, ?_⟩
    rw [valueOf_address haddress, haddr, hprefix]

/-- A prefix of 32 bits, asked for in a field name with blanks and capitals. -/
theorem condition_translation_prefix :
    let addr := [0x20, 0x01, 0x0d, 0xb8, 0, 0, 0, 0, 0, 0, 0, 0, 0, 0, 0, 0]
    let mask := List.replicate 4 0xff ++ List.replicate 12 0
    let c : WfpFilterCondition := ⟨" Remote_Address", addr, some mask⟩
    fromCondition c = .ok ⟨.ipRemoteAddress, .v6AddrMask addr 32⟩ ∧
      Preserves c ⟨.ipRemoteAddress, .v6AddrMask addr 32⟩ := by
  intro addr mask c
  have hones : IsOnes 32 (bits mask) := ⟨by decide +kernel, by decide +kernel⟩
  have hok : fromCondition c = .ok ⟨.ipRemoteAddress, .v6AddrMask addr 32⟩ :=
    ((condition_translation c).2 .ipRemoteAddress mask (by decide) rfl rfl rfl rfl _).mpr
      ⟨32, hones, rfl⟩
  exact ⟨hok, ((condition_translation c).1 _ hok).mpr trivial⟩

/-- Port 80 becomes port 20480, and the network 10.0.0.0/8 the addresses that end in 10. -/
theorem port_and_network_swapped :
    (fromCondition ⟨"remote_port", [0, 80], none⟩ = .ok ⟨.ipRemotePort, .uint16 20480⟩ ∧
      ¬ Preserves ⟨"remote_port", [0, 80], none⟩ ⟨.ipRemotePort, .uint16 20480⟩) ∧
    (fromCondition ⟨"remote_address", [10, 0, 0, 0], some [255, 0, 0, 0]⟩ =
        .ok ⟨.ipRemoteAddress, .v4AddrMask 10 255⟩ ∧
      ¬ Preserves ⟨"remote_address", [10, 0, 0, 0], some [255, 0, 0, 0]⟩
        ⟨.ipRemoteAddress, .v4AddrMask 10 255⟩) := by
  refine ⟨⟨by decide, ?_⟩, by decide, ?_⟩
  · intro h
    have hport : (80 : UInt16) = 20480 := (h (.port 80) rfl).mpr (by decide)
    exact absurd hport (by decide)
  · intro h
    have haddr : hostOrder ⟨10, 1, 2, 3⟩ &&& 255 = 10 &&& 255 :=
      (h (.v4 ⟨10, 1, 2, 3⟩) rfl).mpr (by decide)
    exact absurd haddr (by decide)

end NativeCondition

end NetworkEngine
