import NetworkEngine.Core.Observation
import NetworkEngine.Lib.Prefix

/-!
# Cidr — networks of addresses

An address covers another when both are of one family and begin with the same bits.  The code
decides it by mask arithmetic, in two ways that differ in what they do with the empty prefix: some
matchers return before they make a mask, some take a mask of zeros.
-/

namespace NetworkEngine

open Rust Prefix

def Ipv4Addr.octets (ip : Ipv4Addr) : List UInt8 := [ip.a, ip.b, ip.c, ip.d]

/-- `u32::from(ip)`, and `u32::from_be_bytes(ip.octets())`. -/
def Ipv4Addr.toU32 (ip : Ipv4Addr) : BitVec 32 := ofBeBytes 32 ip.octets

/-- `u128::from(ip)`, and `u128::from_be_bytes(ip.octets())`. -/
def Ipv6Addr.toU128 (ip : Ipv6Addr) : BitVec 128 := ofBeBytes 128 ip.octets.toList

namespace IpAddr

def isIpv4 : IpAddr → Bool
  | .v4 _ => true
  | .v6 _ => false

def isUnspecified (ip : IpAddr) : Bool :=
  match ip with
  | .v4 ip => ip.octets.all (· = 0)
  | .v6 ip => ip.octets.toList.all (· = 0)

/-- What every constructor compares its prefix length with. -/
def maxPrefix : IpAddr → UInt8
  | .v4 _ => 32
  | .v6 _ => 128

/-- The bits of an address, the most significant one first. -/
def bits : IpAddr → List Bool
  | .v4 ip => Masked.bits ip.octets
  | .v6 ip => Masked.bits ip.octets.toList

/-- The candidate is of the family of the network and has its first `n` bits. -/
def Covers (network : IpAddr) (n : Nat) (candidate : IpAddr) : Prop :=
  network.isIpv4 = candidate.isIpv4 ∧ network.bits.take n = candidate.bits.take n

instance (network : IpAddr) (n : Nat) (candidate : IpAddr) :
    Decidable (network.Covers n candidate) :=
  inferInstanceAs (Decidable (_ ∧ _))

variable {network network' candidate : IpAddr} {n m : Nat} {a b : Ipv4Addr} {c d : Ipv6Addr}

theorem Covers.symm (h : network.Covers n candidate) : candidate.Covers n network :=
  ⟨h.1.symm, h.2.symm⟩

theorem Covers.trans (h : network.Covers n candidate) (h' : candidate.Covers n network') :
    network.Covers n network' :=
  ⟨h.1.trans h'.1, h.2.trans h'.2⟩

theorem Covers.mono (h : network.Covers n candidate) (hle : m ≤ n) :
    network.Covers m candidate := by
  refine ⟨h.1, ?_⟩
  have htake := congrArg (List.take m) h.2
  rwa [List.take_take, List.take_take, Nat.min_eq_left hle] at htake

theorem covers_v4 : (v4 a).Covers n (v4 b) ↔ Agree n a.toU32 b.toU32 := by
  have hlen (ip : Ipv4Addr) : 32 = 8 * ip.octets.length := rfl
  have hbits := agree_ofBeBytes_iff (n := n) (hlen a) (hlen b)
  unfold Covers
  exact (and_iff_right rfl).trans hbits.symm

theorem covers_v6 : (v6 c).Covers n (v6 d) ↔ Agree n c.toU128 d.toU128 := by
  have hlen (ip : Ipv6Addr) : 128 = 8 * ip.octets.toList.length := by
    rw [Vector.length_toList]
  have hbits := agree_ofBeBytes_iff (n := n) (hlen c) (hlen d)
  unfold Covers
  exact (and_iff_right rfl).trans hbits.symm

theorem not_covers_v4_v6 : ¬ (v4 a).Covers n (v6 d) := fun h => Bool.noConfusion h.1

theorem not_covers_v6_v4 : ¬ (v6 c).Covers n (v4 b) := fun h => Bool.noConfusion h.1

end IpAddr

/-! ## Comparing under a mask -/

variable {ε : Type} {w : Nat} {prefixLen : UInt8} (network address : BitVec w)

/-- A comparison under the mask of the prefix, which an empty prefix does not get to. -/
def matchesUnlessZero (prefixLen : UInt8) : Checked ε Bool :=
  if prefixLen = 0 then pure true
  else do
    let mask ← shiftedOnes w prefixLen.toNat
    pure (network &&& mask = address &&& mask)

/-- `if prefix == 0 { 0 } else { MAX << (w - prefix) }`. -/
def prefixMask (w : Nat) (prefixLen : UInt8) : Checked ε (BitVec w) :=
  if prefixLen = 0 then pure 0#w else shiftedOnes w prefixLen.toNat

/-- A comparison under the mask of the prefix, which is zero for an empty prefix. -/
def matchesUnder (prefixLen : UInt8) : Checked ε Bool := do
  let mask ← prefixMask w prefixLen
  pure (network &&& mask = address &&& mask)

theorem toNat_pos_of_ne_zero (h : prefixLen ≠ 0) : 0 < prefixLen.toNat := by
  rw [Nat.pos_iff_ne_zero]
  exact fun hzero => h (UInt8.toNat_inj.mp hzero)

/-- No shift is as wide as the word. -/
theorem matchesUnlessZero_eq (h : prefixLen.toNat ≤ w) :
    (matchesUnlessZero network address prefixLen : Checked ε Bool) =
      .ok (Agree prefixLen.toNat network address) := by
  unfold matchesUnlessZero
  by_cases hzero : prefixLen = 0
  · rw [if_pos hzero, hzero]
    exact congrArg Except.ok (decide_eq_true (agree_zero network address)).symm
  · rw [if_neg hzero, shiftedOnes_eq (toNat_pos_of_ne_zero hzero) h]
    exact congrArg Except.ok (decide_eq_decide.mpr (and_ones_eq_iff h network address))

theorem prefixMask_eq (h : prefixLen.toNat ≤ w) :
    (prefixMask w prefixLen : Checked ε (BitVec w)) = .ok (ones w prefixLen.toNat) := by
  unfold prefixMask
  by_cases hzero : prefixLen = 0
  · rw [if_pos hzero, hzero]
    exact congrArg Except.ok (ones_zero w).symm
  · rw [if_neg hzero, shiftedOnes_eq (toNat_pos_of_ne_zero hzero) h]

theorem matchesUnder_eq (h : prefixLen.toNat ≤ w) :
    (matchesUnder network address prefixLen : Checked ε Bool) =
      .ok (Agree prefixLen.toNat network address) := by
  rw [matchesUnder, prefixMask_eq h]
  exact congrArg Except.ok (decide_eq_decide.mpr (and_ones_eq_iff h network address))

/-- `match (network, address)`, where addresses of two families do not match. -/
def inFamily (v4 : Ipv4Addr → Ipv4Addr → Checked ε Bool) (v6 : Ipv6Addr → Ipv6Addr → Checked ε Bool) :
    IpAddr → IpAddr → Checked ε Bool
  | .v4 network, .v4 address => v4 network address
  | .v6 network, .v6 address => v6 network address
  | .v4 _, .v6 _ | .v6 _, .v4 _ => pure false

/-- A matcher is right when it compares words within each family. -/
theorem inFamily_eq {v4 : Ipv4Addr → Ipv4Addr → Checked ε Bool}
    {v6 : Ipv6Addr → Ipv6Addr → Checked ε Bool} {network address : IpAddr}
    (h : prefixLen ≤ network.maxPrefix)
    (hv4 : ∀ a b, prefixLen.toNat ≤ 32 → v4 a b = .ok (Agree prefixLen.toNat a.toU32 b.toU32))
    (hv6 : ∀ a b, prefixLen.toNat ≤ 128 → v6 a b = .ok (Agree prefixLen.toNat a.toU128 b.toU128)) :
    inFamily v4 v6 network address = .ok (network.Covers prefixLen.toNat address) := by
  have hle := UInt8.le_iff_toNat_le.mp h
  cases network with
  | v4 a =>
    cases address with
    | v4 b =>
      rw [inFamily, hv4 a b hle]
      exact congrArg Except.ok (decide_eq_decide.mpr IpAddr.covers_v4.symm)
    | v6 b => exact congrArg Except.ok (decide_eq_false IpAddr.not_covers_v4_v6).symm
  | v6 a =>
    cases address with
    | v4 b => exact congrArg Except.ok (decide_eq_false IpAddr.not_covers_v6_v4).symm
    | v6 b =>
      rw [inFamily, hv6 a b hle]
      exact congrArg Except.ok (decide_eq_decide.mpr IpAddr.covers_v6.symm)

end NetworkEngine
