import NetworkEngine.Lib.Checked

/-!
# Wire — reading is the inverse of writing

A parser takes its fields from fixed places of a packet; a format writes them one behind the other.
`Shown` says that a packet shows what was written from some place on.  Each read returns exactly the
value whose bytes are shown there, so that a parser that returns a value turns, rule by rule, into
what the packet shows.
-/

namespace Rust

variable {ε α β : Type}

/-! ## 1. Computations that return a value -/

theorem bind_eq_ok_iff {x : Checked ε α} {f : α → Checked ε β} {b : β} :
    (x >>= f) = .ok b ↔ ∃ a, x = .ok a ∧ f a = .ok b := by
  constructor
  · exact bind_eq_ok
  · rintro ⟨a, rfl, h⟩
    exact h

theorem pure_eq_ok_iff {a b : α} : (pure a : Checked ε α) = .ok b ↔ a = b := by
  show Except.ok a = .ok b ↔ a = b
  rw [Except.ok.injEq]

theorem rejectIf_eq_ok_iff {c : Prop} [Decidable c] {e : ε} {u : Unit} :
    rejectIf c e = .ok u ↔ ¬ c := by
  constructor
  · exact rejectIf_eq_ok
  · exact fun hc => if_neg hc

theorem orFail_eq_ok_iff {o : Option α} {e : ε} {a : α} : orFail o e = .ok a ↔ o = some a := by
  constructor
  · exact orFail_eq_ok
  · rintro rfl
    rfl

theorem addU_eq_ok_iff {a b c : Nat} :
    (addU a b : Checked ε Nat) = .ok c ↔ a + b < usizeSize ∧ c = a + b := by
  unfold addU
  constructor
  · intro h
    split at h
    · exact ⟨‹_›, (Except.ok.inj h).symm⟩
    · nomatch h
  · rintro ⟨hlt, rfl⟩
    exact if_pos hlt

theorem subU_eq_ok_iff {a b c : Nat} :
    (subU a b : Checked ε Nat) = .ok c ↔ b ≤ a ∧ c = a - b := by
  unfold subU
  constructor
  · intro h
    split at h
    · exact ⟨‹_›, (Except.ok.inj h).symm⟩
    · nomatch h
  · rintro ⟨hle, rfl⟩
    exact if_pos hle

namespace Bytes

/-! ## 2. What a packet shows -/

/-- The packet shows the bytes from `pos` on. -/
def Shown (s : Bytes) (pos : Nat) (written : List UInt8) : Prop := written <+: s.toList.drop pos

instance (s : Bytes) (pos : Nat) (written : List UInt8) : Decidable (s.Shown pos written) :=
  inferInstanceAs (Decidable (written <+: s.toList.drop pos))

variable {s : Bytes} {pos offset i : Nat} {a b : List UInt8}

theorem shown_append :
    s.Shown pos (a ++ b) ↔ s.Shown pos a ∧ s.Shown (pos + a.length) b := by
  unfold Shown
  rw [← List.drop_drop]
  constructor
  · rintro ⟨rest, h⟩
    rw [List.append_assoc] at h
    refine ⟨⟨b ++ rest, h⟩, rest, ?_⟩
    rw [← h, List.drop_left]
  · rintro ⟨⟨rest, h⟩, hb⟩
    rw [← h, List.drop_left] at hb
    rw [← h]
    exact (List.prefix_append_right_inj a).mpr hb

theorem shown_cons {x : UInt8} :
    s.Shown pos (x :: a) ↔ s.Shown pos [x] ∧ s.Shown (pos + 1) a :=
  shown_append (a := [x])

theorem shown_nil : s.Shown pos [] := List.nil_prefix

theorem shown_singleton {x : UInt8} : s.Shown pos [x] ↔ s.toList[pos]? = some x := by
  unfold Shown
  rw [← List.head?_drop]
  cases s.toList.drop pos with
  | nil => simp
  | cons y rest =>
    rw [List.cons_prefix_cons, List.head?_cons, Option.some.injEq, and_iff_left List.nil_prefix,
      eq_comm]

@[simp] theorem length_toBe16 (w : UInt16) : (toBe16 w).length = 2 := rfl

theorem Shown.length_le (h : s.Shown pos a) : a.length ≤ s.len - pos := by
  have hle := List.IsPrefix.length_le h
  rwa [List.length_drop] at hle

/-- Where a packet has room it shows something. -/
theorem exists_shown {n : Nat} (h : pos + n ≤ s.len) : ∃ a, a.length = n ∧ s.Shown pos a := by
  refine ⟨(s.toList.drop pos).take n, ?_, List.take_prefix _ _⟩
  rw [List.length_take, List.length_drop]
  unfold len at h
  omega

theorem Shown.unique (h : s.Shown pos a) (h' : s.Shown pos b) (hlen : a.length = b.length) :
    a = b := by
  obtain ⟨rest, h⟩ := h
  obtain ⟨rest', h'⟩ := h'
  exact (List.append_inj (h.trans h'.symm) hlen).1

/-! ## 3. Reads -/

theorem index_eq_ok_iff {x : UInt8} : (s.index i : Checked ε UInt8) = .ok x ↔ s.Shown i [x] := by
  rw [shown_singleton]
  constructor
  · exact of_index
  · exact index_eq_ok

theorem byteAt_eq_ok_iff {x : UInt8} :
    (s.byteAt offset i : Checked ε UInt8) = .ok x ↔ s.Shown (offset + i) [x] := by
  rw [shown_singleton]
  constructor
  · exact of_byteAt
  · exact byteAt_eq_ok

theorem be16At_eq_ok_iff {w : UInt16} :
    (s.be16At offset i : Checked ε UInt16) = .ok w ↔ s.Shown (offset + i) (toBe16 w) := by
  unfold be16At
  simp only [bind_eq_ok_iff, byteAt_eq_ok_iff, pure_eq_ok_iff]
  constructor
  · rintro ⟨hi, hhi, lo, hlo, rfl⟩
    rw [toBe16_be16]
    exact shown_cons.mpr ⟨hhi, hlo⟩
  · intro h
    have hboth := shown_cons.mp h
    exact ⟨_, hboth.1, _, hboth.2, be16_toBe16 w⟩

/-- `w.to_be_bytes()`. -/
def toBe32 (w : UInt32) : List UInt8 :=
  [(w >>> 24).toUInt8, (w >>> 16).toUInt8, (w >>> 8).toUInt8, w.toUInt8]

@[simp] theorem length_toBe32 (w : UInt32) : (toBe32 w).length = 4 := rfl

/-- Shifted past another number, the bits of a number are added to it. -/
theorem or_eq_add {x y k : Nat} (h : y < 2 ^ k) : x * 2 ^ k ||| y = x * 2 ^ k + y := by
  rw [← Nat.shiftLeft_eq, Nat.shiftLeft_add_eq_or_of_lt h]

theorem toNat_be32 (a b c d : UInt8) : (be32 a b c d).toNat =
    a.toNat * 2 ^ 24 + b.toNat * 2 ^ 16 + c.toNat * 2 ^ 8 + d.toNat := by
  have ha := a.toNat_lt
  have hb := b.toNat_lt
  have hc := c.toNat_lt
  have hd := d.toNat_lt
  have hfits {x k : Nat} (hx : x < 2 ^ 8) (hk : k ≤ 24) : x * 2 ^ k % 2 ^ 32 = x * 2 ^ k := by
    apply Nat.mod_eq_of_lt
    calc x * 2 ^ k < 2 ^ 8 * 2 ^ k := Nat.mul_lt_mul_of_pos_right hx (Nat.two_pow_pos k)
      _ = 2 ^ (8 + k) := (Nat.pow_add 2 8 k).symm
      _ ≤ 2 ^ 32 := Nat.pow_le_pow_right (by decide) (by omega)
  -- From the left: each byte is below the bits that are there already.
  have hab : a.toNat * 2 ^ 24 ||| b.toNat * 2 ^ 16 = (a.toNat * 2 ^ 8 + b.toNat) * 2 ^ 16 := by
    rw [or_eq_add (by omega)]
    omega
  have habc : (a.toNat * 2 ^ 8 + b.toNat) * 2 ^ 16 ||| c.toNat * 2 ^ 8 =
      (a.toNat * 2 ^ 16 + b.toNat * 2 ^ 8 + c.toNat) * 2 ^ 8 := by
    rw [or_eq_add (by omega)]
    omega
  simp only [be32, UInt32.toNat_or, UInt32.toNat_shiftLeft, UInt8.toNat_toUInt32,
    UInt32.reduceToNat, Nat.reduceMod, Nat.shiftLeft_eq, hfits ha (k := 24) (by decide),
    hfits hb (k := 16) (by decide), hfits hc (k := 8) (by decide), hab, habc]
  rw [or_eq_add hd]
  omega

theorem toBe32_be32 (a b c d : UInt8) : toBe32 (be32 a b c d) = [a, b, c, d] := by
  have ha := a.toNat_lt
  have hb := b.toNat_lt
  have hc := c.toNat_lt
  have hd := d.toNat_lt
  have hword := toNat_be32 a b c d
  unfold toBe32
  congr 1
  · apply UInt8.toNat_inj.mp
    simp only [UInt32.toNat_toUInt8, UInt32.toNat_shiftRight, hword, UInt32.reduceToNat,
      Nat.reduceMod, Nat.shiftRight_eq_div_pow]
    omega
  congr 1
  · apply UInt8.toNat_inj.mp
    simp only [UInt32.toNat_toUInt8, UInt32.toNat_shiftRight, hword, UInt32.reduceToNat,
      Nat.reduceMod, Nat.shiftRight_eq_div_pow]
    omega
  congr 1
  · apply UInt8.toNat_inj.mp
    simp only [UInt32.toNat_toUInt8, UInt32.toNat_shiftRight, hword, UInt32.reduceToNat,
      Nat.reduceMod, Nat.shiftRight_eq_div_pow]
    omega
  congr 1
  · apply UInt8.toNat_inj.mp
    simp only [UInt32.toNat_toUInt8, hword]
    omega

theorem be32_toBe32 (w : UInt32) :
    be32 (w >>> 24).toUInt8 (w >>> 16).toUInt8 (w >>> 8).toUInt8 w.toUInt8 = w := by
  have hw := w.toNat_lt
  apply UInt32.toNat_inj.mp
  simp only [toNat_be32, UInt32.toNat_toUInt8, UInt32.toNat_shiftRight, UInt32.reduceToNat,
    Nat.reduceMod, Nat.shiftRight_eq_div_pow]
  omega

theorem be32At_eq_ok_iff {w : UInt32} :
    (s.be32At offset i : Checked ε UInt32) = .ok w ↔ s.Shown (offset + i) (toBe32 w) := by
  unfold be32At
  simp only [bind_eq_ok_iff, byteAt_eq_ok_iff, pure_eq_ok_iff]
  constructor
  · rintro ⟨a, ha, b, hb, c, hc, d, hd, rfl⟩
    rw [toBe32_be32]
    exact shown_cons.mpr ⟨ha, shown_cons.mpr ⟨hb, shown_cons.mpr ⟨hc, hd⟩⟩⟩
  · intro h
    obtain ⟨ha, h⟩ := shown_cons.mp h
    obtain ⟨hb, h⟩ := shown_cons.mp h
    obtain ⟨hc, hd⟩ := shown_cons.mp h
    exact ⟨_, ha, _, hb, _, hc, _, hd, be32_toBe32 w⟩

theorem slice_eq_ok_iff {lo hi : Nat} {t : Bytes} :
    (s.slice lo hi : Checked ε Bytes) = .ok t ↔
      lo ≤ hi ∧ hi ≤ s.len ∧ t.len = hi - lo ∧ s.Shown lo t.toList := by
  unfold slice
  constructor
  · intro h
    split at h
    · rename_i hin
      obtain rfl := Except.ok.inj h
      refine ⟨hin.1, hin.2, ?_, List.take_prefix _ _⟩
      unfold len at hin ⊢
      rw [List.length_take, List.length_drop]
      omega
    · nomatch h
  · rintro ⟨hlo, hhi, hlen, hshown⟩
    rw [if_pos ⟨hlo, hhi⟩]
    obtain ⟨rest, hrest⟩ := hshown
    congr 1
    obtain ⟨bytes, hle⟩ := t
    unfold len at hlen
    dsimp only at hlen hrest
    congr 1
    rw [← hrest, ← hlen, List.take_left]

end Bytes

/-! ## 4. Fields inside a byte -/

theorem toNat_and_mask {b : UInt8} {m : UInt8} (k : Nat) (hm : m.toNat = 2 ^ k - 1) :
    (b &&& m).toNat = b.toNat % 2 ^ k := by
  rw [UInt8.toNat_and, hm, Nat.and_two_pow_sub_one_eq_mod]

theorem toNat_high {b : UInt8} {n : UInt8} (k : Nat) (hn : n.toNat % 8 = k) :
    (b >>> n).toNat = b.toNat / 2 ^ k := by
  rw [UInt8.toNat_shiftRight, hn, Nat.shiftRight_eq_div_pow]

theorem byte_of_parts {b high low : UInt8} {k : Nat} (hhigh : high.toNat = b.toNat / k)
    (hlow : low.toNat = b.toNat % k) : UInt8.ofNat (k * high.toNat + low.toNat) = b := by
  rw [hhigh, hlow, Nat.div_add_mod, UInt8.ofNat_toNat]

end Rust
