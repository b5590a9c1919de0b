import Mathlib.Data.Nat.ModEq
import NetworkEngine.Lib.Checked

/-!
# OnesComplement — the Internet checksum

The words of a byte string are added up, and the carries out of sixteen bits are added back in until
none is left.  Since `2 ^ 16` is one modulo `65535`, that reduces the sum modulo `65535`, with
`65535` in the place of zero unless the sum itself is zero.  The second half is about the loops that
do so in a `u32`, whose additions panic when they overflow.
-/

namespace OnesComplement

open Rust

/-! ## 1. Sums of words -/

/-- The sum of the 16-bit big-endian words, padded with a zero byte to an even length. -/
def wordSum : List UInt8 → Nat
  | [] => 0
  | [a] => a.toNat * 256
  | a :: b :: rest => a.toNat * 256 + b.toNat + wordSum rest

/-- The sum is a multiple of `65535`, and not zero. -/
def Complete (sum : Nat) : Prop := 0 < sum ∧ 65535 ∣ sum

instance (sum : Nat) : Decidable (Complete sum) := inferInstanceAs (Decidable (_ ∧ _))

/-- The carries are added back in. -/
def endAround (sum : Nat) : Nat :=
  if sum < 2 ^ 16 then sum else endAround (sum % 2 ^ 16 + sum / 2 ^ 16)
termination_by sum
decreasing_by omega

/-- The ones' complement of a sum. -/
def complement (sum : Nat) : UInt16 := UInt16.ofNat (65535 - endAround sum)

variable {l l' : List UInt8} {sum : Nat}

theorem wordSum_append (h : l.length % 2 = 0) : wordSum (l ++ l') = wordSum l + wordSum l' := by
  induction l using wordSum.induct with
  | case1 => simp [wordSum]
  | case2 a => simp at h
  | case3 a b rest ih =>
    rw [List.length_cons, List.length_cons] at h
    rw [List.cons_append, List.cons_append, wordSum, wordSum, ih (by omega)]
    omega

theorem wordSum_pad (h : l.length % 2 = 1) : wordSum (l ++ [0]) = wordSum l := by
  induction l using wordSum.induct with
  | case1 => simp at h
  | case2 a => simp [wordSum]
  | case3 a b rest ih =>
    rw [List.length_cons, List.length_cons] at h
    rw [List.cons_append, List.cons_append, wordSum, wordSum, ih (by omega)]

theorem wordSum_le (l : List UInt8) : wordSum l ≤ 65535 * ((l.length + 1) / 2) := by
  induction l using wordSum.induct with
  | case1 => simp [wordSum]
  | case2 a =>
    have ha := a.toNat_lt
    simp only [wordSum, List.length_singleton]
    omega
  | case3 a b rest ih =>
    have ha := a.toNat_lt
    have hb := b.toNat_lt
    simp only [wordSum, List.length_cons]
    omega

/-- The bytes of a word add the word to the sum. -/
theorem wordSum_toBe16 (w : UInt16) : wordSum (Bytes.toBe16 w ++ l) = w.toNat + wordSum l := by
  have hword := Bytes.toNat_be16 (w >>> 8).toUInt8 w.toUInt8
  rw [Bytes.be16_toBe16] at hword
  rw [hword]
  rfl

/-! ## 2. Folding -/

theorem endAround_lt (sum : Nat) : endAround sum < 2 ^ 16 := by
  induction sum using endAround.induct with
  | case1 sum h =>
    rw [endAround, if_pos h]
    exact h
  | case2 sum h ih =>
    rw [endAround, if_neg h]
    exact ih

theorem endAround_modEq (sum : Nat) : endAround sum ≡ sum [MOD 65535] := by
  induction sum using endAround.induct with
  | case1 sum h => rw [endAround, if_pos h]
  | case2 sum h ih =>
    rw [endAround, if_neg h]
    have hfold : sum % 2 ^ 16 + sum / 2 ^ 16 ≡ sum [MOD 65535] := by
      unfold Nat.ModEq
      omega
    exact ih.trans hfold

theorem endAround_eq_zero_iff (sum : Nat) : endAround sum = 0 ↔ sum = 0 := by
  induction sum using endAround.induct with
  | case1 sum h => rw [endAround, if_pos h]
  | case2 sum h ih =>
    rw [endAround, if_neg h, ih]
    omega

/-- Folding ends in `65535` when the sum is complete. -/
theorem endAround_eq_iff (sum : Nat) : endAround sum = 65535 ↔ Complete sum := by
  have hlt := endAround_lt sum
  have hzero := endAround_eq_zero_iff sum
  have hmod : endAround sum % 65535 = sum % 65535 := endAround_modEq sum
  unfold Complete
  rw [Nat.dvd_iff_mod_eq_zero]
  omega

/-- A sum that is not zero is completed by its complement. -/
theorem complete_add_complement (h : 0 < sum) : Complete (sum + (complement sum).toNat) := by
  have hlt := endAround_lt sum
  have hmod : endAround sum % 65535 = sum % 65535 := endAround_modEq sum
  have hcomplement : (complement sum).toNat = 65535 - endAround sum :=
    UInt16.toNat_ofNat_of_lt' (by
      show _ < 2 ^ 16
      omega)
  unfold Complete
  rw [Nat.dvd_iff_mod_eq_zero, hcomplement]
  omega

/-- So it is by `65535` where the complement is zero. -/
theorem complete_add_ones (h : 0 < sum) (hzero : complement sum = 0) : Complete (sum + 65535) := by
  have hsum := complete_add_complement h
  rw [hzero] at hsum
  exact ⟨Nat.add_pos_left h _, Nat.dvd_add hsum.2 (Nat.dvd_refl 65535)⟩

end OnesComplement

/-! ## 3. In a `u32` -/

namespace Rust

open OnesComplement

variable {ε : Type}

/-- `a + b` on `u32`: an overflow panics. -/
def addU32 (a b : UInt32) : Checked ε UInt32 :=
  if a.toNat + b.toNat < 2 ^ 32 then .ok (a + b) else .error .panic

theorem toNat_addU32 {a b : UInt32} (h : a.toNat + b.toNat < 2 ^ 32) :
    (a + b).toNat = a.toNat + b.toNat := by
  rw [UInt32.toNat_add]
  exact Nat.mod_eq_of_lt h

theorem Returns.addU32 {a b : UInt32} {post : UInt32 → Prop} (h : a.toNat + b.toNat < 2 ^ 32)
    (hpost : post (a + b)) : Returns (Rust.addU32 a b : Checked ε UInt32) post :=
  ⟨a + b, if_pos h, hpost⟩

theorem toNat_shiftRight_sixteen (sum : UInt32) : (sum >>> 16).toNat = sum.toNat / 2 ^ 16 := by
  rw [UInt32.toNat_shiftRight, Nat.shiftRight_eq_div_pow]
  rfl

theorem toNat_low_word (sum : UInt32) : (sum &&& (0xffff : UInt32)).toNat = sum.toNat % 2 ^ 16 := by
  rw [UInt32.toNat_and]
  exact Nat.and_two_pow_sub_one_eq_mod _ 16

theorem toNat_fold_lt {sum : UInt32} (h : sum >>> 16 ≠ 0) :
    ((sum &&& (0xffff : UInt32)) + (sum >>> 16)).toNat < sum.toNat := by
  have hhigh : sum.toNat / 2 ^ 16 ≠ 0 := by
    rw [← toNat_shiftRight_sixteen]
    exact fun hzero => h (UInt32.toNat_inj.mp hzero)
  have hle := sum.toNat_lt
  have hfit : sum.toNat % 2 ^ 16 + sum.toNat / 2 ^ 16 < 2 ^ 32 := by omega
  rw [UInt32.toNat_add, toNat_low_word, toNat_shiftRight_sixteen, Nat.mod_eq_of_lt hfit]
  omega

/-- `while (sum >> 16) != 0 { sum = (sum & 0xffff) + (sum >> 16); }`. -/
def foldCarries (sum : UInt32) : Checked ε UInt32 :=
  if sum >>> 16 ≠ 0 then
    if (sum &&& (0xffff : UInt32)).toNat + (sum >>> 16).toNat < 2 ^ 32 then
      foldCarries ((sum &&& (0xffff : UInt32)) + (sum >>> 16))
    else
      .error .panic
  else
    .ok sum
termination_by sum.toNat
decreasing_by exact toNat_fold_lt (by assumption)

/-- The loop ends without an overflow, and folds. -/
theorem foldCarries_returns (sum : UInt32) :
    Returns (foldCarries sum : Checked ε UInt32) fun s => s.toNat = endAround sum.toNat := by
  have hlt := sum.toNat_lt
  have hhigh := toNat_shiftRight_sixteen sum
  have hlow := toNat_low_word sum
  unfold foldCarries
  by_cases h : sum >>> 16 ≠ 0
  · have hne : sum.toNat / 2 ^ 16 ≠ 0 := by
      rw [← hhigh]
      exact fun hzero => h (UInt32.toNat_inj.mp hzero)
    have hfit : (sum &&& (0xffff : UInt32)).toNat + (sum >>> 16).toNat < 2 ^ 32 := by
      rw [hhigh, hlow]
      omega
    rw [if_pos h, if_pos hfit]
    refine (foldCarries_returns _).mono fun s hs => ?_
    rw [hs, toNat_addU32 hfit, hhigh, hlow, endAround.eq_def sum.toNat, if_neg (by omega)]
  · have hzero : sum.toNat / 2 ^ 16 = 0 := by
      rw [← hhigh, not_not.mp h]
      rfl
    rw [if_neg h]
    refine ⟨sum, rfl, ?_⟩
    rw [endAround, if_pos (by omega)]
termination_by sum.toNat
decreasing_by exact toNat_fold_lt h

/-- What the validators end with. -/
theorem foldCarries_eq_ones (sum : UInt32) :
    (do
      let folded ← (foldCarries sum : Checked ε UInt32)
      return folded.toUInt16 == 0xffff) = .ok (decide (Complete sum.toNat)) := by
  obtain ⟨s, hs, hfold⟩ := foldCarries_returns (ε := ε) sum
  have hlt := endAround_lt sum.toNat
  have hword : s.toUInt16.toNat = endAround sum.toNat := by
    rw [UInt32.toNat_toUInt16, hfold]
    exact Nat.mod_eq_of_lt hlt
  rw [hs]
  refine congrArg Except.ok (Bool.eq_iff_iff.mpr ?_)
  rw [beq_iff_eq, decide_eq_true_iff, ← endAround_eq_iff, ← hword, ← UInt16.toNat_inj]
  rfl

/-- `chunks_exact(2)`. -/
def chunksExact2 : List UInt8 → List (UInt8 × UInt8)
  | a :: b :: rest => (a, b) :: chunksExact2 rest
  | _ => []

/-- A loop over `chunks_exact(2)` that adds up the words. -/
def sumChunks (bytes : List UInt8) (sum : UInt32) : Checked ε UInt32 :=
  (chunksExact2 bytes).foldlM
    (fun sum chunk => addU32 sum (Bytes.be16 chunk.1 chunk.2).toUInt32) sum

/-- Nothing is left over of an even number of bytes. -/
theorem chunksExact2_rest {bytes : List UInt8}
    (hshort : ∀ a b rest, bytes = a :: b :: rest → False) (heven : bytes.length % 2 = 0) :
    bytes = [] := by
  cases bytes with
  | nil => rfl
  | cons a rest =>
    cases rest with
    | nil => simp at heven
    | cons b rest => exact absurd rfl (hshort a b rest)

theorem toNat_word32 (a b : UInt8) :
    (Bytes.be16 a b).toUInt32.toNat = a.toNat * 256 + b.toNat := by
  rw [UInt16.toNat_toUInt32, Bytes.toNat_be16]

theorem sumChunks_returns {bytes : List UInt8} (heven : bytes.length % 2 = 0) (sum : UInt32)
    (h : sum.toNat + wordSum bytes < 2 ^ 32) :
    Returns (sumChunks bytes sum : Checked ε UInt32) fun s =>
      s.toNat = sum.toNat + wordSum bytes := by
  induction bytes using chunksExact2.induct generalizing sum with
  | case1 a b rest ih =>
    rw [List.length_cons, List.length_cons] at heven
    rw [wordSum] at h
    have hword := toNat_word32 a b
    have hfit : sum.toNat + (Bytes.be16 a b).toUInt32.toNat < 2 ^ 32 := by omega
    have hnext := toNat_addU32 hfit
    unfold sumChunks
    rw [chunksExact2, List.foldlM_cons]
    refine .bind (.addU32 hfit ?_)
    have hrest : (sum + (Bytes.be16 a b).toUInt32).toNat + wordSum rest < 2 ^ 32 := by omega
    refine (ih (by omega) _ hrest).mono fun s hs => ?_
    rw [hs, hnext, hword, wordSum]
    omega
  | case2 rest hshort =>
    have hnil := chunksExact2_rest hshort heven
    subst hnil
    exact ⟨sum, rfl, rfl⟩

end Rust
