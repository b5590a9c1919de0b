import Mathlib.Data.List.Basic

/-!
# Masked — comparisons under a mask

`x &&& m = v &&& m` asks whether `x` agrees with `v` on the bits of `m`.  Two such questions have
the same answer for every `x` only when they are the same question.  On strings of bytes the
question can be asked byte by byte, and a mask of ones followed by zeros asks for a common prefix.
-/

namespace Masked

/-! ## 1. Words -/

section Words

variable {w v : Nat}

/-- Bits outside the mask are free. -/
theorem flip_agrees (x m : BitVec w) : (x ^^^ ~~~m) &&& m = x &&& m := by
  ext i hi
  simp only [BitVec.getElem_and, BitVec.getElem_xor, BitVec.getElem_not]
  cases x[i] <;> cases m[i] <;> rfl

theorem le_of_flip {x y m m' : BitVec w} (h : (x ^^^ ~~~m) &&& m' = y &&& m')
    (hx : x &&& m' = y &&& m') : m' &&& m = m' := by
  rw [← hx] at h
  ext i hi
  have hbit := congrArg (·.getLsbD i) h
  simp only [BitVec.getLsbD_eq_getElem hi, BitVec.getElem_and, BitVec.getElem_xor,
    BitVec.getElem_not] at hbit ⊢
  revert hbit
  cases x[i] <;> cases m[i] <;> cases m'[i] <;> decide

/-- Two questions with the same answers have one mask, and one value under it. -/
theorem forall_agree_iff {a m a' m' : BitVec w} :
    (∀ x, x &&& m = a &&& m ↔ x &&& m' = a' &&& m') ↔ m = m' ∧ a &&& m = a' &&& m' := by
  constructor
  · intro h
    have ha : a &&& m' = a' &&& m' := (h a).mp rfl
    have ha' : a' &&& m = a &&& m := (h a').mpr rfl
    have hflip := (h (a ^^^ ~~~m)).mp (flip_agrees a m)
    have hflip' := (h (a' ^^^ ~~~m')).mpr (flip_agrees a' m')
    have hle := le_of_flip hflip ha
    have hle' := le_of_flip hflip' ha'
    have hmask : m = m' := by
      rw [← hle, BitVec.and_comm]
      exact hle'.symm
    exact ⟨hmask, hmask ▸ ha⟩
  · intro h x
    rw [h.2, h.1]

theorem append_inj {x x' : BitVec w} {y y' : BitVec v} :
    x ++ y = x' ++ y' ↔ x = x' ∧ y = y' := by
  constructor
  · intro h
    have hleft := congrArg (BitVec.extractLsb' v w) h
    have hright := congrArg (BitVec.extractLsb' 0 v) h
    rw [BitVec.extractLsb'_append_eq_left, BitVec.extractLsb'_append_eq_left] at hleft
    rw [BitVec.extractLsb'_append_eq_right, BitVec.extractLsb'_append_eq_right] at hright
    exact ⟨hleft, hright⟩
  · intro h
    rw [h.1, h.2]

end Words

/-! ## 2. Words of bytes -/

/-- The word with these bytes, the most significant one first. -/
def word16 (hi lo : UInt8) : BitVec 16 := hi.toBitVec ++ lo.toBitVec

def word32 (a b c d : UInt8) : BitVec 32 := word16 a b ++ word16 c d

variable {a b c d a' b' c' d' : UInt8}

theorem word16_and (a b a' b' : UInt8) :
    word16 a b &&& word16 a' b' = word16 (a &&& a') (b &&& b') :=
  BitVec.and_append

theorem word32_and (a b c d a' b' c' d' : UInt8) :
    word32 a b c d &&& word32 a' b' c' d' =
      word32 (a &&& a') (b &&& b') (c &&& c') (d &&& d') := by
  rw [word32, word32, word32, ← word16_and, ← word16_and]
  exact BitVec.and_append

theorem word16_inj : word16 a b = word16 a' b' ↔ a = a' ∧ b = b' := by
  rw [word16, word16, append_inj, UInt8.toBitVec_inj, UInt8.toBitVec_inj]

theorem word32_inj :
    word32 a b c d = word32 a' b' c' d' ↔ (a = a' ∧ b = b') ∧ c = c' ∧ d = d' := by
  rw [word32, word32, append_inj, word16_inj, word16_inj]

/-- Every word has its bytes. -/
theorem exists_word16 (x : BitVec 16) : ∃ hi lo, word16 hi lo = x := by
  refine ⟨⟨x.extractLsb' 8 8⟩, ⟨x.extractLsb' 0 8⟩, ?_⟩
  exact (BitVec.extractLsb'_append_extractLsb'_eq_extractLsb' rfl).trans
    BitVec.extractLsb'_eq_self

theorem exists_word32 (x : BitVec 32) : ∃ a b c d, word32 a b c d = x := by
  rcases exists_word16 (x.extractLsb' 16 16) with ⟨a, b, hhi⟩
  rcases exists_word16 (x.extractLsb' 0 16) with ⟨c, d, hlo⟩
  refine ⟨a, b, c, d, ?_⟩
  rw [word32, hhi, hlo]
  exact (BitVec.extractLsb'_append_extractLsb'_eq_extractLsb' rfl).trans
    BitVec.extractLsb'_eq_self

/-! ## 3. Strings of bytes -/

/-- The bits of a byte, the most significant one first. -/
def byteBits (b : UInt8) : List Bool :=
  [7, 6, 5, 4, 3, 2, 1, 0].map fun i => b.toBitVec.getLsbD i

def bits (bytes : List UInt8) : List Bool := bytes.flatMap byteBits

/-- `n` ones and then zeros. -/
def IsOnes (n : Nat) (mask : List Bool) : Prop :=
  n ≤ mask.length ∧ mask = List.replicate n true ++ List.replicate (mask.length - n) false

@[simp] theorem length_byteBits (b : UInt8) : (byteBits b).length = 8 := rfl

@[simp] theorem length_bits (bytes : List UInt8) : (bits bytes).length = 8 * bytes.length := by
  induction bytes with
  | nil => rfl
  | cons b bytes ih =>
    rw [bits, List.flatMap_cons, List.length_append, length_byteBits, ← bits, ih, List.length_cons]
    omega

theorem byteBits_inj (h : byteBits a = byteBits b) : a = b := by
  rw [← UInt8.toBitVec_inj]
  apply BitVec.eq_of_getLsbD_eq
  intro i hi
  apply List.map_inj_left.mp h
  simp only [List.mem_cons, List.not_mem_nil, or_false]
  omega

theorem byteBits_and (a b : UInt8) :
    byteBits (a &&& b) = List.zipWith (· && ·) (byteBits a) (byteBits b) := by
  simp [byteBits]

variable {x y m : List UInt8}

theorem bits_inj (hlen : x.length = y.length) (h : bits x = bits y) : x = y := by
  induction x generalizing y with
  | nil => exact (List.eq_nil_of_length_eq_zero hlen.symm).symm
  | cons a x ih =>
    cases y with
    | nil => simp at hlen
    | cons b y =>
      have hblocks : byteBits a ++ bits x = byteBits b ++ bits y := h
      obtain ⟨hhead, htail⟩ := List.append_inj hblocks rfl
      rw [byteBits_inj hhead, ih (by simpa using hlen) htail]

theorem bits_and (hlen : x.length = m.length) :
    bits (List.zipWith (· &&& ·) x m) = List.zipWith (· && ·) (bits x) (bits m) := by
  induction x generalizing m with
  | nil => rfl
  | cons a x ih =>
    cases m with
    | nil => simp at hlen
    | cons b m =>
      have htail := ih (m := m) (by simpa using hlen)
      show byteBits (a &&& b) ++ bits (List.zipWith (· &&& ·) x m) =
        List.zipWith (· && ·) (byteBits a ++ bits x) (byteBits b ++ bits m)
      have happend : List.zipWith (· && ·) (byteBits a ++ bits x) (byteBits b ++ bits m) =
          List.zipWith (· && ·) (byteBits a) (byteBits b) ++
            List.zipWith (· && ·) (bits x) (bits m) := List.zipWith_append rfl
      rw [happend, ← byteBits_and, htail]

theorem isOnes_succ {n : Nat} {l : List Bool} : IsOnes (n + 1) (true :: l) ↔ IsOnes n l := by
  simp [IsOnes, List.replicate_succ]

/-- Ones ask for a common beginning. -/
theorem zipWith_ones_iff {u v : List Bool} {n k : Nat} (hu : u.length = n + k)
    (hv : v.length = n + k) :
    List.zipWith (· && ·) u (List.replicate n true ++ List.replicate k false) =
        List.zipWith (· && ·) v (List.replicate n true ++ List.replicate k false) ↔
      u.take n = v.take n := by
  induction n generalizing u v with
  | zero =>
    have hzero {u : List Bool} (hu : u.length = 0 + k) :
        List.zipWith (· && ·) u (List.replicate k false) = List.replicate k false := by
      apply List.ext_getElem
      · simp [hu]
      · intro i hi hi'
        simp
    simp only [List.replicate_zero, List.nil_append, hzero hu, hzero hv, List.take_zero]
  | succ n ih =>
    cases u with
    | nil => simp at hu; omega
    | cons a u =>
      cases v with
      | nil => simp at hv; omega
      | cons b v =>
        have htail := ih (u := u) (v := v) (by simp at hu; omega) (by simp at hv; omega)
        simp only [List.replicate_succ, List.cons_append, List.zipWith_cons_cons, Bool.and_true,
          List.cons.injEq, List.take_succ_cons, htail]

/-- A mask of ones and zeros compares the bits in front. -/
theorem agree_ones_iff {n : Nat} (hx : x.length = m.length) (hy : y.length = m.length)
    (hm : IsOnes n (bits m)) :
    List.zipWith (· &&& ·) x m = List.zipWith (· &&& ·) y m ↔
      (bits x).take n = (bits y).take n := by
  have hlen := hm.1
  rw [length_bits] at hlen
  rw [← zipWith_ones_iff (k := (bits m).length - n) (by simp; omega) (by simp; omega), ← hm.2,
    ← bits_and hx, ← bits_and hy]
  constructor
  · exact congrArg bits
  · intro h
    exact bits_inj (by simp [hx, hy]) h

end Masked
