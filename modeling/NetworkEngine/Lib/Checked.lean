import Mathlib.Algebra.Group.Nat.Defs
import Mathlib.Data.List.Basic

/-!
# Checked — computations that may fail or panic

A Rust function over a byte slice ends in one of three ways: it returns a value, it returns an
error, or it panics (an index or a slice out of range, an overflow in plain `usize` arithmetic).
`Checked ε α` keeps the three apart.  `Safe x post` is the partial-correctness triple of this
monad: `x` does not panic, and a value it returns satisfies `post`.  The rules below follow the
shape of the code, one for each primitive, and never look inside a caller.
-/

namespace Rust

variable {ε α β : Type}

/-! ## 1. The monad -/

/-- How a checked computation misses a value: the error it returns, or a panic. -/
inductive Fault (ε : Type) where
  | err (e : ε)
  | panic
  deriving DecidableEq, Repr

abbrev Checked (ε α : Type) := Except (Fault ε) α

/-- `return Err(e)`. -/
def fail (e : ε) : Checked ε α := .error (.err e)

/-- `if c { return Err(e) }`. -/
def rejectIf (c : Prop) [Decidable c] (e : ε) : Checked ε Unit :=
  if c then fail e else .ok ()

/-- `Option::ok_or_else(..)?`. -/
def orFail (o : Option α) (e : ε) : Checked ε α :=
  match o with
  | some a => .ok a
  | none => fail e

/-- `Result::map_err(f)`; a panic passes through. -/
def mapFault {ε' : Type} (f : ε → ε') : Checked ε α → Checked ε' α
  | .ok a => .ok a
  | .error (.err e) => fail (f e)
  | .error .panic => .error .panic

/-! ## 2. `usize` arithmetic -/

/-- The number of `usize` values on a 64-bit target. -/
def usizeSize : Nat := 2 ^ 64

/-- No allocation, hence no slice, is longer than `isize::MAX` bytes. -/
def isizeMax : Nat := 2 ^ 63 - 1

/-- `a + b`: an overflow panics. -/
def addU (a b : Nat) : Checked ε Nat :=
  if a + b < usizeSize then .ok (a + b) else .error .panic

/-- `a - b`: an underflow panics. -/
def subU (a b : Nat) : Checked ε Nat :=
  if b ≤ a then .ok (a - b) else .error .panic

def checkedAdd (a b : Nat) : Option Nat :=
  if a + b < usizeSize then some (a + b) else none

def checkedSub (a b : Nat) : Option Nat :=
  if b ≤ a then some (a - b) else none

def checkedMul (a b : Nat) : Option Nat :=
  if a * b < usizeSize then some (a * b) else none

def saturatingAdd (a b : Nat) : Nat := min (a + b) (usizeSize - 1)

def saturatingMul (a b : Nat) : Nat := min (a * b) (usizeSize - 1)

/-- `a.saturating_add(b)` on `u64`. -/
def saturatingAdd64 (a b : UInt64) : UInt64 :=
  if a.toNat + b.toNat < 2 ^ 64 then a + b else UInt64.ofNat (2 ^ 64 - 1)

theorem toNat_saturatingAdd64 (a b : UInt64) :
    (saturatingAdd64 a b).toNat = min (a.toNat + b.toNat) (2 ^ 64 - 1) := by
  unfold saturatingAdd64
  split
  · rename_i h
    rw [UInt64.toNat_add, Nat.mod_eq_of_lt h]
    omega
  · rename_i h
    have hmax : (UInt64.ofNat (2 ^ 64 - 1)).toNat = 2 ^ 64 - 1 := by decide
    omega

/-- `fetch_add(1)` and `fetch_sub(1)` of a counter that does not wrap. -/
theorem toNat_succ {a : UInt64} (h : a.toNat + 1 < 2 ^ 64) : (a + 1).toNat = a.toNat + 1 := by
  rw [UInt64.toNat_add, UInt64.toNat_one, Nat.mod_eq_of_lt h]

theorem toNat_pred {a : UInt64} (h : 0 < a.toNat) : (a - 1).toNat = a.toNat - 1 :=
  UInt64.toNat_sub_of_le _ _ (UInt64.le_iff_toNat_le.mpr h)

/-- `a.saturating_sub(b)` on `u64`. -/
def saturatingSub64 (a b : UInt64) : UInt64 := if b ≤ a then a - b else 0

theorem toNat_saturatingSub64 (a b : UInt64) :
    (saturatingSub64 a b).toNat = a.toNat - b.toNat := by
  unfold saturatingSub64
  split
  · rename_i h
    exact UInt64.toNat_sub_of_le _ _ h
  · rename_i h
    have hlt : a.toNat < b.toNat := by
      rw [← UInt64.lt_iff_toNat_lt]
      exact UInt64.not_le.mp h
    show 0 = a.toNat - b.toNat
    omega

/-! ## 3. Byte slices -/

/-- A byte slice or vector, with the bound the allocator puts on its length. -/
structure Bytes where
  toList : List UInt8
  length_le : toList.length ≤ isizeMax
  deriving DecidableEq, Repr

namespace Bytes

def len (s : Bytes) : Nat := s.toList.length

def isEmpty (s : Bytes) : Bool := s.toList.isEmpty

theorem len_le (s : Bytes) : s.len ≤ isizeMax := s.length_le

/-- `s[i]`. -/
def index (s : Bytes) (i : Nat) : Checked ε UInt8 :=
  match s.toList[i]? with
  | some b => .ok b
  | none => .error .panic

/-- `&s[lo..hi]`. -/
def slice (s : Bytes) (lo hi : Nat) : Checked ε Bytes :=
  if lo ≤ hi ∧ hi ≤ s.len then
    .ok ⟨(s.toList.drop lo).take (hi - lo), by
      have h := s.length_le
      simp only [List.length_take, List.length_drop]
      omega⟩
  else
    .error .panic

/-- `s[offset + i]`. -/
def byteAt (s : Bytes) (offset i : Nat) : Checked ε UInt8 := do
  s.index (← addU offset i)

/-- `u16::from_be_bytes([hi, lo])`. -/
def be16 (hi lo : UInt8) : UInt16 := hi.toUInt16 <<< 8 ||| lo.toUInt16

/-- `u32::from_be_bytes([a, b, c, d])`. -/
def be32 (a b c d : UInt8) : UInt32 :=
  a.toUInt32 <<< 24 ||| b.toUInt32 <<< 16 ||| c.toUInt32 <<< 8 ||| d.toUInt32

/-- `w.to_be_bytes()`. -/
def toBe16 (w : UInt16) : List UInt8 := [(w >>> 8).toUInt8, w.toUInt8]

/-- `u16::from_be_bytes([s[offset + i], s[offset + i + 1]])`. -/
def be16At (s : Bytes) (offset i : Nat) : Checked ε UInt16 := do
  let hi ← s.byteAt offset i
  let lo ← s.byteAt offset (i + 1)
  return be16 hi lo

/-- `u32::from_be_bytes` of the four bytes from `s[offset + i]` on. -/
def be32At (s : Bytes) (offset i : Nat) : Checked ε UInt32 := do
  let a ← s.byteAt offset i
  let b ← s.byteAt offset (i + 1)
  let c ← s.byteAt offset (i + 2)
  let d ← s.byteAt offset (i + 3)
  return be32 a b c d

end Bytes

/-! ## 4. Absence of panics -/

/-- `x` does not panic, and its value, when it has one, satisfies `post`. -/
def Safe (x : Checked ε α) (post : α → Prop) : Prop :=
  match x with
  | .ok a => post a
  | .error (.err _) => True
  | .error .panic => False

namespace Safe

variable {post post' : α → Prop} {x : Checked ε α}

theorem ok {a : α} (h : post a) : Safe (.ok a : Checked ε α) post := h

theorem pure {a : α} (h : post a) : Safe (Pure.pure a : Checked ε α) post := h

theorem fail (e : ε) : Safe (Rust.fail e : Checked ε α) post := trivial

theorem bind {f : α → Checked ε β} {post : β → Prop}
    (h : Safe x fun a => Safe (f a) post) : Safe (x >>= f) post := by
  match x, h with
  | .ok _, h => exact h
  | .error (.err _), _ => trivial

theorem of_ok {a : α} (h : Safe x post) (hx : x = .ok a) : post a := by
  subst hx
  exact h

theorem mono (h : Safe x post) (himp : ∀ a, post a → post' a) : Safe x post' := by
  match x, h with
  | .ok a, h => exact himp a h
  | .error (.err _), _ => trivial

/-- The rule of consequence at a call: what the callee guarantees feeds the rest of the body. -/
theorem call {f : α → Checked ε β} {postf : β → Prop} (h : Safe x post)
    (hf : ∀ a, post a → Safe (f a) postf) : Safe (x >>= f) postf :=
  bind (h.mono hf)

theorem rejectIf {c : Prop} [Decidable c] {e : ε} {post : Unit → Prop} (h : ¬ c → post ()) :
    Safe (Rust.rejectIf c e) post := by
  unfold Rust.rejectIf
  split
  · exact Safe.fail e
  · exact Safe.ok (h ‹_›)

theorem orFail {o : Option α} {e : ε} (h : ∀ a, o = some a → post a) :
    Safe (Rust.orFail o e) post := by
  match o, h with
  | some a, h => exact h a rfl
  | none, _ => exact Safe.fail e

theorem addU {a b : Nat} {post : Nat → Prop} (hb : a + b < usizeSize) (h : post (a + b)) :
    Safe (Rust.addU a b : Checked ε Nat) post := by
  unfold Rust.addU
  rw [if_pos hb]
  exact h

theorem subU {a b : Nat} {post : Nat → Prop} (hb : b ≤ a) (h : post (a - b)) :
    Safe (Rust.subU a b : Checked ε Nat) post := by
  unfold Rust.subU
  rw [if_pos hb]
  exact h

theorem index {s : Bytes} {i : Nat} {post : UInt8 → Prop} (hi : i < s.len) (h : ∀ b, post b) :
    Safe (s.index i : Checked ε UInt8) post := by
  unfold Bytes.index
  rw [List.getElem?_eq_getElem hi]
  exact h _

theorem byteAt {s : Bytes} {offset i : Nat} {post : UInt8 → Prop} (hi : offset + i < s.len)
    (h : ∀ b, post b) : Safe (s.byteAt offset i : Checked ε UInt8) post := by
  have hlen := s.len_le
  have hsize : isizeMax < usizeSize := by decide
  exact bind (addU (by omega) (index hi h))

theorem be16At {s : Bytes} {offset i : Nat} {post : UInt16 → Prop} (hi : offset + i + 1 < s.len)
    (h : ∀ w, post w) : Safe (s.be16At offset i : Checked ε UInt16) post :=
  bind (byteAt (by omega) fun _ => bind (byteAt hi fun _ => pure (h _)))

theorem be32At {s : Bytes} {offset i : Nat} {post : UInt32 → Prop} (hi : offset + i + 3 < s.len)
    (h : ∀ w, post w) : Safe (s.be32At offset i : Checked ε UInt32) post :=
  bind (byteAt (by omega) fun _ => bind (byteAt (by omega) fun _ =>
    bind (byteAt (by omega) fun _ => bind (byteAt hi fun _ => pure (h _)))))

theorem slice {s : Bytes} {lo hi : Nat} {post : Bytes → Prop} (hlo : lo ≤ hi) (hhi : hi ≤ s.len)
    (h : ∀ t : Bytes, t.len = hi - lo → post t) : Safe (s.slice lo hi : Checked ε Bytes) post := by
  unfold Bytes.slice
  rw [if_pos ⟨hlo, hhi⟩]
  apply h
  simp only [Bytes.len] at hhi ⊢
  simp only [List.length_take, List.length_drop]
  omega

end Safe

theorem checkedAdd_eq_some {a b c : Nat} :
    checkedAdd a b = some c ↔ a + b < usizeSize ∧ c = a + b := by
  rw [checkedAdd, Option.ite_none_right_eq_some, Option.some.injEq, eq_comm (b := c)]

theorem checkedMul_eq_some {a b c : Nat} :
    checkedMul a b = some c ↔ a * b < usizeSize ∧ c = a * b := by
  rw [checkedMul, Option.ite_none_right_eq_some, Option.some.injEq, eq_comm (b := c)]

theorem checkedSub_eq_some {a b c : Nat} :
    checkedSub a b = some c ↔ b ≤ a ∧ c = a - b := by
  rw [checkedSub, Option.ite_none_right_eq_some, Option.some.injEq, eq_comm (b := c)]

/-! ## 5. Two runs in step

`Moved f x y` relates two computations that differ in the values they pass on only: they panic
together, return the same error, and where `x` returns `a`, `y` returns `f a`. -/

def Moved (f : α → β) (x : Checked ε α) (y : Checked ε β) : Prop := y = f <$> x

theorem rejectIf_eq_ok {c : Prop} [Decidable c] {e : ε} {u : Unit} (h : rejectIf c e = .ok u) :
    ¬ c := by
  intro hc
  rw [rejectIf, if_pos hc] at h
  nomatch h

theorem orFail_eq_ok {o : Option α} {e : ε} {a : α} (h : orFail o e = .ok a) : o = some a := by
  match o, h with
  | some _, h => exact congrArg some (Except.ok.inj h)

theorem addU_eq_ok {a b c : Nat} (h : (addU a b : Checked ε Nat) = .ok c) : c = a + b := by
  unfold addU at h
  split at h
  · exact (Except.ok.inj h).symm
  · nomatch h

theorem mapFault_eq_ok {ε' : Type} {f : ε → ε'} {x : Checked ε α} {a : α}
    (h : mapFault f x = .ok a) : x = .ok a := by
  match x, h with
  | .ok b, h =>
    have hab : b = a := Except.ok.inj h
    rw [hab]

theorem bind_eq_ok {x : Except ε α} {f : α → Except ε β} {b : β} (h : (x >>= f) = .ok b) :
    ∃ a, x = .ok a ∧ f a = .ok b := by
  match x, h with
  | .ok a, h => exact ⟨a, rfl, h⟩

theorem toOption_eq_some {x : Checked ε α} {a : α} (h : x.toOption = some a) : x = .ok a := by
  match x, h with
  | .ok a', h => rw [Option.some.inj h]

theorem map_eq_ok {x : Checked ε α} {f : α → β} {b : β} (h : f <$> x = .ok b) :
    ∃ a, x = .ok a ∧ f a = b := by
  match x, h with
  | .ok a, h => exact ⟨a, rfl, Except.ok.inj h⟩

namespace Moved

variable {γ δ : Type} {f : α → β} {g : γ → δ} {x : Checked ε α} {y : Checked ε β}

theorem refl (x : Checked ε α) : Moved id x x := (id_map x).symm

theorem pure {a : α} {b : β} (h : b = f a) :
    Moved f (Pure.pure a : Checked ε α) (Pure.pure b) := congrArg Except.ok h

theorem bind {k : α → Checked ε γ} {k' : β → Checked ε δ} (h : Moved f x y)
    (hk : ∀ a, x = .ok a → Moved g (k a) (k' (f a))) : Moved g (x >>= k) (y >>= k') := by
  unfold Moved at h
  subst h
  match x, hk with
  | .ok a, hk => exact hk a rfl
  | .error _, _ => rfl

theorem rejectIf {c c' : Prop} [Decidable c] [Decidable c'] {e : ε} (h : c' ↔ c) :
    Moved id (Rust.rejectIf c e) (Rust.rejectIf c' e) := by
  unfold Moved Rust.rejectIf
  by_cases hc : c
  · rw [if_pos hc, if_pos (h.mpr hc)]
    rfl
  · rw [if_neg hc, if_neg (fun hc' => hc (h.mp hc'))]
    rfl

theorem of_ok {a : α} (h : Moved f x y) (hx : x = .ok a) : y = .ok (f a) := by
  unfold Moved at h
  rw [h, hx]
  rfl

end Moved

/-! ## 6. Reading behind a prefix -/

/-- `t` is `s` behind the bytes `pre`. -/
def Behind (pre : List UInt8) (s t : Bytes) : Prop := t.toList = pre ++ s.toList

namespace Behind

variable {pre : List UInt8} {s t : Bytes}

theorem len (h : Behind pre s t) : t.len = pre.length + s.len := by
  unfold Bytes.len
  rw [h, List.length_append]

theorem addU {k a b : Nat} (hb : k + a + b < usizeSize) :
    Moved (k + ·) (Rust.addU a b : Checked ε Nat) (Rust.addU (k + a) b) := by
  unfold Moved Rust.addU
  rw [if_pos hb, if_pos (by omega), Nat.add_assoc]
  rfl

theorem checkedAdd {k a b : Nat} {e : ε} (hb : k + a + b < usizeSize) :
    Moved (k + ·) (orFail (Rust.checkedAdd a b) e) (orFail (Rust.checkedAdd (k + a) b) e) := by
  unfold Moved Rust.checkedAdd
  rw [if_pos hb, if_pos (by omega), Nat.add_assoc]
  rfl

theorem index (h : Behind pre s t) (i : Nat) :
    Moved id (s.index i : Checked ε UInt8) (t.index (pre.length + i)) := by
  unfold Moved Bytes.index
  rw [h, List.getElem?_append_right (Nat.le_add_right _ _), Nat.add_sub_cancel_left, id_map]

theorem byteAt (h : Behind pre s t) {offset i : Nat} (hb : pre.length + offset + i < usizeSize) :
    Moved id (s.byteAt offset i : Checked ε UInt8) (t.byteAt (pre.length + offset) i) :=
  (addU hb).bind fun j _ => h.index j

theorem be16At (h : Behind pre s t) {offset i : Nat}
    (hb : pre.length + offset + i + 1 < usizeSize) :
    Moved id (s.be16At offset i : Checked ε UInt16) (t.be16At (pre.length + offset) i) :=
  (h.byteAt (by omega)).bind fun _ _ => (h.byteAt (by omega)).bind fun _ _ => .pure rfl

theorem be32At (h : Behind pre s t) {offset i : Nat}
    (hb : pre.length + offset + i + 3 < usizeSize) :
    Moved id (s.be32At offset i : Checked ε UInt32) (t.be32At (pre.length + offset) i) :=
  (h.byteAt (by omega)).bind fun _ _ => (h.byteAt (by omega)).bind fun _ _ =>
    (h.byteAt (by omega)).bind fun _ _ => (h.byteAt (by omega)).bind fun _ _ => .pure rfl

theorem slice (h : Behind pre s t) (lo hi : Nat) :
    Moved id (s.slice lo hi : Checked ε Bytes) (t.slice (pre.length + lo) (pre.length + hi)) := by
  unfold Moved Bytes.slice
  have hc : (pre.length + lo ≤ pre.length + hi ∧ pre.length + hi ≤ t.len) ↔
      (lo ≤ hi ∧ hi ≤ s.len) := by
    rw [h.len]
    omega
  by_cases hin : lo ≤ hi ∧ hi ≤ s.len
  · rw [if_pos (hc.mpr hin), if_pos hin, id_map]
    congr 2
    rw [h, List.drop_append, List.drop_eq_nil_of_le (Nat.le_add_right _ _),
      Nat.add_sub_cancel_left, Nat.add_sub_add_left, List.nil_append]
  · rw [if_neg (fun hout => hin (hc.mp hout)), if_neg hin, id_map]

end Behind

/-! ## 7. Reading what was written -/

namespace Bytes

theorem be16_toBe16 (w : UInt16) : be16 (w >>> 8).toUInt8 w.toUInt8 = w := by
  apply UInt16.toNat_inj.mp
  have hw := w.toNat_lt
  have hhi : w.toNat >>> 8 % 256 * 256 % 65536 = (w.toNat >>> 8) <<< 8 := by
    rw [Nat.shiftLeft_eq, Nat.shiftRight_eq_div_pow]
    omega
  simp only [be16, UInt16.toUInt16_toUInt8, UInt16.toNat_or, UInt16.toNat_shiftLeft,
    UInt16.toNat_mod, UInt16.toNat_shiftRight, UInt16.reduceToNat, Nat.reduceMod, Nat.shiftLeft_eq,
    Nat.reducePow]
  show w.toNat >>> 8 % 256 * 256 % 65536 ||| w.toNat % 256 = w.toNat
  rw [hhi, ← Nat.shiftLeft_add_eq_or_of_lt (Nat.mod_lt _ (by decide)), Nat.shiftLeft_eq,
    Nat.shiftRight_eq_div_pow]
  omega

theorem toNat_be16 (hi lo : UInt8) : (be16 hi lo).toNat = hi.toNat * 256 + lo.toNat := by
  have hhi := hi.toNat_lt
  have hlo := lo.toNat_lt
  -- Shifted into the high byte, `hi` leaves the low byte free for `lo`.
  have hor : hi.toNat * 256 ||| lo.toNat = hi.toNat * 256 + lo.toNat := by
    have hfree := Nat.shiftLeft_add_eq_or_of_lt (show lo.toNat < 2 ^ 8 from hlo) hi.toNat
    simpa only [Nat.shiftLeft_eq, Nat.reducePow] using hfree.symm
  have hshift : hi.toNat * 256 % 65536 = hi.toNat * 256 := by omega
  simp only [be16, UInt16.toNat_or, UInt16.toNat_shiftLeft, UInt8.toNat_toUInt16,
    UInt16.reduceToNat, Nat.reduceMod, Nat.shiftLeft_eq, Nat.reducePow, hshift, hor]

theorem toBe16_be16 (hi lo : UInt8) : toBe16 (be16 hi lo) = [hi, lo] := by
  have hhi := hi.toNat_lt
  have hlo := lo.toNat_lt
  have hword := toNat_be16 hi lo
  have hfirst : (be16 hi lo >>> 8).toUInt8 = hi := by
    apply UInt8.toNat_inj.mp
    simp only [UInt16.toNat_toUInt8, UInt16.toNat_shiftRight, hword, UInt16.reduceToNat,
      Nat.reduceMod, Nat.shiftRight_eq_div_pow, Nat.reducePow]
    omega
  have hsecond : (be16 hi lo).toUInt8 = lo := by
    apply UInt8.toNat_inj.mp
    simp only [UInt16.toNat_toUInt8, hword, Nat.reducePow]
    exact Nat.mul_add_mod_of_lt hlo
  rw [toBe16, hfirst, hsecond]

theorem index_eq_ok {s : Bytes} {i : Nat} {b : UInt8} (h : s.toList[i]? = some b) :
    (s.index i : Checked ε UInt8) = .ok b := by
  unfold index
  rw [h]

theorem byteAt_eq_ok {s : Bytes} {offset i : Nat} {b : UInt8}
    (h : s.toList[offset + i]? = some b) : (s.byteAt offset i : Checked ε UInt8) = .ok b := by
  have hin : offset + i < s.len := (List.getElem?_eq_some_iff.mp h).1
  have hlen := s.len_le
  have hsize : isizeMax < usizeSize := by decide
  unfold byteAt addU
  rw [if_pos (by omega)]
  exact index_eq_ok h

theorem be16At_eq_ok_of_bytes {s : Bytes} {w : UInt16} {offset i : Nat}
    (hhi : s.toList[offset + i]? = some (w >>> 8).toUInt8)
    (hlo : s.toList[offset + (i + 1)]? = some w.toUInt8) :
    (s.be16At offset i : Checked ε UInt16) = .ok w := by
  unfold be16At
  rw [byteAt_eq_ok hhi, byteAt_eq_ok hlo]
  exact congrArg Except.ok (be16_toBe16 w)

theorem be16At_eq_ok {s : Bytes} (pre post : List UInt8) {w : UInt16} {offset i : Nat}
    (h : s.toList = pre ++ (toBe16 w ++ post)) (hi : offset + i = pre.length) :
    (s.be16At offset i : Checked ε UInt16) = .ok w := by
  apply be16At_eq_ok_of_bytes
  · rw [h, hi, List.getElem?_append_right (Nat.le_refl _), Nat.sub_self]
    rfl
  · rw [h, ← Nat.add_assoc, hi, List.getElem?_append_right (Nat.le_add_right _ _),
      Nat.add_sub_cancel_left]
    rfl

theorem of_index {s : Bytes} {i : Nat} {b : UInt8}
    (h : (s.index i : Checked ε UInt8) = .ok b) : s.toList[i]? = some b := by
  unfold index at h
  split at h
  · rename_i hget
    rw [hget, Except.ok.inj h]
  · nomatch h

theorem of_byteAt {s : Bytes} {offset i : Nat} {b : UInt8}
    (h : (s.byteAt offset i : Checked ε UInt8) = .ok b) : s.toList[offset + i]? = some b := by
  obtain ⟨j, hj, hindex⟩ := bind_eq_ok h
  obtain rfl := addU_eq_ok hj
  exact of_index hindex

/-- Reading a word back gives the bytes it was read from. -/
theorem of_be16At {s : Bytes} (pre : List UInt8) {rest : List UInt8} {w : UInt16}
    {offset i : Nat} (h : (s.be16At offset i : Checked ε UInt16) = .ok w)
    (hs : s.toList = pre ++ rest)
    (hi : offset + i = pre.length) : ∃ post, rest = toBe16 w ++ post := by
  obtain ⟨hi', hhi, h⟩ := bind_eq_ok h
  obtain ⟨lo, hlo, h⟩ := bind_eq_ok h
  obtain rfl := Except.ok.inj h
  have hfirst := of_byteAt hhi
  have hsecond := of_byteAt hlo
  rw [hs, hi, List.getElem?_append_right (Nat.le_refl _), Nat.sub_self] at hfirst
  rw [hs, ← Nat.add_assoc, hi, List.getElem?_append_right (Nat.le_add_right _ _),
    Nat.add_sub_cancel_left] at hsecond
  match rest, hfirst, hsecond with
  | a :: b :: post, hfirst, hsecond =>
    obtain rfl : a = hi' := Option.some.inj hfirst
    obtain rfl : b = lo := Option.some.inj hsecond
    exact ⟨post, by rw [toBe16_be16]; rfl⟩

/-- From `offset` on, `s` shows the first `length` bytes of `message`. -/
def Shows (s : Bytes) (offset length : Nat) (message : List UInt8) : Prop :=
  offset + length ≤ s.len ∧ ∀ i < length, s.toList[offset + i]? = message[i]?

namespace Shows

variable {s : Bytes} {offset length : Nat} {message : List UInt8}

theorem self (s : Bytes) : Shows s 0 s.len s.toList := by
  refine ⟨by omega, fun i _ => ?_⟩
  rw [Nat.zero_add]

theorem of_append {pre data post rest : List UInt8} (h : s.toList = pre ++ (data ++ post))
    (hmessage : data ++ rest = message) : Shows s pre.length data.length message := by
  subst hmessage
  refine ⟨?_, fun i hi => ?_⟩
  · rw [len, h, List.length_append, List.length_append]
    omega
  · rw [h, List.getElem?_append_right (Nat.le_add_right _ _), Nat.add_sub_cancel_left,
      List.getElem?_append_left hi, List.getElem?_append_left hi]

theorem byteAt {i : Nat} {b : UInt8} (h : Shows s offset length message) (hi : i < length)
    (hb : message[i]? = some b) : (s.byteAt offset i : Checked ε UInt8) = .ok b :=
  byteAt_eq_ok ((h.2 i hi).trans hb)

theorem be16At {i : Nat} {w : UInt16} (h : Shows s offset length message) (hi : i + 1 < length)
    (hhi : message[i]? = some (w >>> 8).toUInt8) (hlo : message[i + 1]? = some w.toUInt8) :
    (s.be16At offset i : Checked ε UInt16) = .ok w :=
  be16At_eq_ok_of_bytes ((h.2 i (by omega)).trans hhi) ((h.2 (i + 1) hi).trans hlo)

end Shows

end Bytes

/-! ## 8. Total correctness

`Returns x post`: `x` returns a value, and the value satisfies `post`.  The rules are those of
`Safe`, with the checks that must pass as premises. -/

def Returns (x : Checked ε α) (post : α → Prop) : Prop := ∃ a, x = .ok a ∧ post a

namespace Returns

variable {post : α → Prop} {x : Checked ε α}

theorem pure {a : α} (h : post a) : Returns (Pure.pure a : Checked ε α) post := ⟨a, rfl, h⟩

theorem bind {f : α → Checked ε β} {postf : β → Prop}
    (h : Returns x fun a => Returns (f a) postf) : Returns (x >>= f) postf := by
  obtain ⟨a, rfl, b, hb, hpost⟩ := h
  exact ⟨b, hb, hpost⟩

theorem mono {post' : α → Prop} (h : Returns x post) (himp : ∀ a, post a → post' a) :
    Returns x post' := by
  obtain ⟨a, ha, hpost⟩ := h
  exact ⟨a, ha, himp a hpost⟩

theorem call {f : α → Checked ε β} {postf : β → Prop} (h : Returns x post)
    (hf : ∀ a, post a → Returns (f a) postf) : Returns (x >>= f) postf :=
  bind (h.mono hf)

/-- What is read is known. -/
theorem read {a : α} (hx : x = .ok a) (h : post a) : Returns x post := ⟨a, hx, h⟩

theorem rejectIf {c : Prop} [Decidable c] {e : ε} {post : Unit → Prop} (hc : ¬ c) (h : post ()) :
    Returns (Rust.rejectIf c e) post := ⟨(), if_neg hc, h⟩

theorem addU {a b : Nat} {post : Nat → Prop} (hb : a + b < usizeSize) (h : post (a + b)) :
    Returns (Rust.addU a b : Checked ε Nat) post := ⟨a + b, if_pos hb, h⟩

theorem subU {a b : Nat} {post : Nat → Prop} (hb : b ≤ a) (h : post (a - b)) :
    Returns (Rust.subU a b : Checked ε Nat) post := ⟨a - b, if_pos hb, h⟩

theorem orFail {o : Option α} {e : ε} {a : α} (ho : o = some a) (h : post a) :
    Returns (Rust.orFail o e) post := ⟨a, by rw [ho]; rfl, h⟩

theorem checkedAdd {a b : Nat} {e : ε} {post : Nat → Prop} (hb : a + b < usizeSize)
    (h : post (a + b)) : Returns (Rust.orFail (Rust.checkedAdd a b) e) post :=
  orFail (checkedAdd_eq_some.mpr ⟨hb, rfl⟩) h

theorem checkedMul {a b : Nat} {e : ε} {post : Nat → Prop} (hb : a * b < usizeSize)
    (h : post (a * b)) : Returns (Rust.orFail (Rust.checkedMul a b) e) post :=
  orFail (checkedMul_eq_some.mpr ⟨hb, rfl⟩) h

theorem byteAt {s : Bytes} {offset i : Nat} {post : UInt8 → Prop} (hi : offset + i < s.len)
    (h : ∀ b, post b) : Returns (s.byteAt offset i : Checked ε UInt8) post :=
  ⟨s.toList[offset + i], Bytes.byteAt_eq_ok (List.getElem?_eq_getElem hi), h _⟩

theorem be16At {s : Bytes} {offset i : Nat} {post : UInt16 → Prop} (hi : offset + i + 1 < s.len)
    (h : ∀ w, post w) : Returns (s.be16At offset i : Checked ε UInt16) post :=
  bind (byteAt (by omega) fun _ => bind (byteAt hi fun _ => pure (h _)))

theorem be32At {s : Bytes} {offset i : Nat} {post : UInt32 → Prop} (hi : offset + i + 3 < s.len)
    (h : ∀ w, post w) : Returns (s.be32At offset i : Checked ε UInt32) post :=
  bind (byteAt (by omega) fun _ => bind (byteAt (by omega) fun _ =>
    bind (byteAt (by omega) fun _ => bind (byteAt hi fun _ => pure (h _)))))

theorem slice {s : Bytes} {lo hi : Nat} {post : Bytes → Prop} (hlo : lo ≤ hi) (hhi : hi ≤ s.len)
    (h : ∀ t : Bytes, t.len = hi - lo → post t) :
    Returns (s.slice lo hi : Checked ε Bytes) post := by
  refine ⟨_, if_pos ⟨hlo, hhi⟩, h _ ?_⟩
  simp only [Bytes.len] at hhi ⊢
  rw [List.length_take, List.length_drop]
  omega

end Returns

/-! ## 9. Iterators -/

/-- `iter().filter(p)`, where the predicate may fail. -/
def filterChecked (p : α → Checked ε Bool) : List α → Checked ε (List α)
  | [] => pure []
  | a :: l => do
    let keep ← p a
    let rest ← filterChecked p l
    pure (if keep then a :: rest else rest)

theorem filterChecked_eq {p : α → Checked ε Bool} {q : α → Bool} {l : List α}
    (h : ∀ a ∈ l, p a = .ok (q a)) : filterChecked p l = .ok (l.filter q) := by
  induction l with
  | nil => rfl
  | cons a l ih =>
    have htail := ih fun b hb => h b (List.mem_cons_of_mem a hb)
    rw [filterChecked, h a List.mem_cons_self, htail, List.filter_cons]
    rfl

/-- `filter(|a| a.enabled && a.matches(..))`, where `matches` does not fail. -/
theorem filterChecked_guarded {enabled : α → Bool} {p : α → Checked ε Bool} {q : α → Prop}
    [∀ a, Decidable (q a)] (h : ∀ a, p a = .ok (q a)) (l : List α) :
    filterChecked (fun a => if enabled a then p a else pure false) l =
      .ok (l.filter fun a => enabled a = true ∧ q a) := by
  apply filterChecked_eq
  intro a _
  by_cases henabled : enabled a = true
  · rw [if_pos henabled, h a]
    exact congrArg Except.ok (decide_eq_decide.mpr (and_iff_right henabled).symm)
  · rw [if_neg henabled]
    exact congrArg Except.ok (decide_eq_false fun hboth => henabled hboth.1).symm

end Rust
