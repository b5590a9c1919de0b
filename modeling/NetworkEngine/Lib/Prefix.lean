import Mathlib.Data.List.GetD
import Mathlib.Data.List.Induction
import NetworkEngine.Lib.Checked
import NetworkEngine.Lib.Masked

/-!
# Prefix — words that begin alike

Two words agree on a prefix when their first bits are the same, the most significant bit first.  A
mask of ones followed by zeros asks just that.  The mask is made by a shift, which panics when it
is as wide as the word.
-/

namespace Prefix

open Rust

variable {w n m : Nat} {x y z : BitVec w}

/-! ## 1. Words -/

/-- The first `n` bits are the same. -/
def Agree (n : Nat) (x y : BitVec w) : Prop := ∀ i < n, x.getMsbD i = y.getMsbD i

instance (n : Nat) (x y : BitVec w) : Decidable (Agree n x y) :=
  inferInstanceAs (Decidable (∀ i < n, x.getMsbD i = y.getMsbD i))

theorem Agree.refl (n : Nat) (x : BitVec w) : Agree n x x := fun _ _ => rfl

theorem Agree.symm (h : Agree n x y) : Agree n y x := fun i hi => (h i hi).symm

theorem Agree.trans (h : Agree n x y) (h' : Agree n y z) : Agree n x z := fun i hi =>
  (h i hi).trans (h' i hi)

/-- A longer prefix asks for more. -/
theorem Agree.mono (h : Agree n x y) (hle : m ≤ n) : Agree m x y := fun i hi =>
  h i (Nat.lt_of_lt_of_le hi hle)

theorem agree_zero (x y : BitVec w) : Agree 0 x y := fun i hi => absurd hi (Nat.not_lt_zero i)

/-- `n` ones and then zeros. -/
def ones (w n : Nat) : BitVec w := BitVec.allOnes w <<< (w - n)

theorem getMsbD_ones (hn : n ≤ w) (i : Nat) : (ones w n).getMsbD i = decide (i < n) := by
  have hbit : i + (w - n) < w ↔ i < n := by omega
  rw [ones, BitVec.getMsbD_shiftLeft, BitVec.getMsbD_allOnes]
  exact decide_eq_decide.mpr hbit

@[simp] theorem ones_zero (w : Nat) : ones w 0 = 0#w := by
  apply BitVec.eq_of_getMsbD_eq
  intro i _
  rw [getMsbD_ones (Nat.zero_le w)]
  simp

/-- Under the mask words are equal when they agree on the prefix. -/
theorem and_ones_eq_iff (hn : n ≤ w) (x y : BitVec w) :
    x &&& ones w n = y &&& ones w n ↔ Agree n x y := by
  constructor
  · intro h i hi
    have hbit := congrArg (·.getMsbD i) h
    simpa only [BitVec.getMsbD_and, getMsbD_ones hn, decide_eq_true hi, Bool.and_true] using hbit
  · intro h
    apply BitVec.eq_of_getMsbD_eq
    intro i _
    rw [BitVec.getMsbD_and, BitVec.getMsbD_and, getMsbD_ones hn]
    by_cases hi : i < n
    · rw [h i hi]
    · rw [decide_eq_false hi, Bool.and_false, Bool.and_false]

/-! ## 2. Shifts -/

variable {ε : Type}

/-- `x << s`: a shift by the width of the word, or by more, panics. -/
def shl (x : BitVec w) (s : Nat) : Checked ε (BitVec w) :=
  if s < w then .ok (x <<< s) else .error .panic

/-- `MAX << (w - n)`. -/
def shiftedOnes (w n : Nat) : Checked ε (BitVec w) := do
  let shift ← subU w n
  shl (BitVec.allOnes w) shift

/-- Every prefix of the word can be shifted to, but for the empty one. -/
theorem shiftedOnes_eq (hpos : 0 < n) (hn : n ≤ w) :
    (shiftedOnes w n : Checked ε (BitVec w)) = .ok (ones w n) := by
  have hshift : w - n < w := by omega
  have hsub : (subU w n : Checked ε Nat) = .ok (w - n) := if_pos hn
  rw [shiftedOnes, hsub]
  exact if_pos hshift

/-- The shift by the whole width. -/
theorem shiftedOnes_zero (w : Nat) : (shiftedOnes w 0 : Checked ε (BitVec w)) = .error .panic :=
  if_neg (Nat.lt_irrefl w)

/-! ## 3. Strings of bytes -/

/-- The number with these bytes, the most significant one first. -/
def beNat (bytes : List UInt8) : Nat := bytes.foldl (fun acc b => 2 ^ 8 * acc + b.toNat) 0

/-- `from_be_bytes`. -/
def ofBeBytes (w : Nat) (bytes : List UInt8) : BitVec w := BitVec.ofNat w (beNat bytes)

theorem beNat_concat (bytes : List UInt8) (b : UInt8) :
    beNat (bytes ++ [b]) = 2 ^ 8 * beNat bytes + b.toNat := by
  rw [beNat, List.foldl_append]
  rfl

theorem bits_concat (bytes : List UInt8) (b : UInt8) :
    Masked.bits (bytes ++ [b]) = Masked.bits bytes ++ Masked.byteBits b := by
  simp [Masked.bits]

theorem getD_byteBits_reverse (b : UInt8) (j : Nat) :
    (Masked.byteBits b).reverse.getD j false = b.toNat.testBit j := by
  have hreverse : (Masked.byteBits b).reverse = (List.range 8).map b.toNat.testBit := rfl
  rw [hreverse]
  by_cases hj : j < 8
  · rw [List.getD_eq_getElem _ _ (by simpa using hj)]
    simp
  · have hlt : b.toNat < 2 ^ j :=
      Nat.lt_of_lt_of_le b.toNat_lt (Nat.pow_le_pow_right (by decide) (Nat.not_lt.mp hj))
    rw [List.getD_eq_default _ _ (by simpa using Nat.not_lt.mp hj), Nat.testBit_lt_two_pow hlt]

/-- The bits of the number, the last one first. -/
theorem testBit_beNat (bytes : List UInt8) (j : Nat) :
    (beNat bytes).testBit j = (Masked.bits bytes).reverse.getD j false := by
  induction bytes using List.reverseRecOn generalizing j with
  | nil => simp [beNat, Masked.bits]
  | append_singleton bytes b ih =>
    rw [beNat_concat, Nat.testBit_two_pow_mul_add _ b.toNat_lt, bits_concat, List.reverse_append]
    by_cases hj : j < 8
    · rw [if_pos hj, List.getD_append _ _ _ _ (by simpa using hj), getD_byteBits_reverse]
    · rw [if_neg hj, List.getD_append_right _ _ _ _ (by simpa using Nat.not_lt.mp hj), ih]
      rw [List.length_reverse, Masked.length_byteBits]

theorem getMsbD_ofBeBytes {bytes : List UInt8} (hlen : w = 8 * bytes.length) (i : Nat) :
    (ofBeBytes w bytes).getMsbD i = (Masked.bits bytes).getD i false := by
  have hbits : (Masked.bits bytes).length = w := by rw [Masked.length_bits, hlen]
  rw [BitVec.getMsbD_eq_getLsbD, ofBeBytes, BitVec.getLsbD_ofNat]
  by_cases hi : i < w
  · have hlast : w - 1 - i < w := by omega
    have hback : (Masked.bits bytes).length - 1 - (w - 1 - i) = i := by omega
    rw [decide_eq_true hi, decide_eq_true hlast, Bool.true_and, Bool.true_and, testBit_beNat]
    rw [List.getD_eq_getElem _ _ (by simpa [hbits] using hlast),
      List.getD_eq_getElem _ _ (hbits ▸ hi), List.getElem_reverse]
    simp only [hback]
  · rw [decide_eq_false hi, Bool.false_and,
      List.getD_eq_default _ _ (hbits ▸ Nat.not_lt.mp hi)]

/-- Numbers agree on a prefix when their strings of bytes have the same bits in front. -/
theorem agree_ofBeBytes_iff {bytes bytes' : List UInt8} (hlen : w = 8 * bytes.length)
    (hlen' : w = 8 * bytes'.length) :
    Agree n (ofBeBytes w bytes) (ofBeBytes w bytes') ↔
      (Masked.bits bytes).take n = (Masked.bits bytes').take n := by
  have hbits : (Masked.bits bytes).length = w := by rw [Masked.length_bits, hlen]
  have hbits' : (Masked.bits bytes').length = w := by rw [Masked.length_bits, hlen']
  unfold Agree
  simp only [getMsbD_ofBeBytes hlen, getMsbD_ofBeBytes hlen']
  constructor
  · intro h
    apply List.ext_getElem
    · rw [List.length_take, List.length_take, hbits, hbits']
    · intro i hi hi'
      rw [List.length_take, Nat.lt_min] at hi hi'
      have hbit := h i hi.1
      rw [List.getD_eq_getElem _ _ hi.2, List.getD_eq_getElem _ _ hi'.2] at hbit
      rw [List.getElem_take, List.getElem_take]
      exact hbit
  · intro h i hi
    have hget := congrArg (·[i]?.getD false) h
    simp only [List.getElem?_take, if_pos hi] at hget
    simpa only [List.getD_eq_getElem?_getD] using hget

end Prefix
