import NetworkEngine.Lib.Checked

/-!
# Padded — reading a slice that was changed elsewhere

A computation that bounds itself by what it has read, and not by the length of its slice, returns
the same value when bytes are put behind the slice.  Where it failed it may then succeed: `Kept` is
about the values alone.  When a word is written over, what is read beside it is the same, failures
included.  The rules follow the shape of the code.
-/

namespace Rust

variable {ε α β : Type}

/-- Where `x` returns a value, `y` returns it too. -/
def Kept (x y : Checked ε α) : Prop := ∀ a, x = .ok a → y = .ok a

namespace Kept

variable {x y : Checked ε α}

theorem refl (x : Checked ε α) : Kept x x := fun _ h => h

theorem bind {k k' : α → Checked ε β} (h : Kept x y) (hk : ∀ a, x = .ok a → Kept (k a) (k' a)) :
    Kept (x >>= k) (y >>= k') := by
  intro b hb
  obtain ⟨a, ha, hka⟩ := bind_eq_ok hb
  rw [h a ha]
  exact hk a ha b hka

theorem rejectIf {c c' : Prop} [Decidable c] [Decidable c'] {e : ε} (h : ¬ c → ¬ c') :
    Kept (Rust.rejectIf c e) (Rust.rejectIf c' e) := by
  intro u hu
  rw [Rust.rejectIf, if_neg (h (rejectIf_eq_ok hu))]

end Kept

/-! ## Reading in front of padding -/

/-- `t` begins with `s`. -/
def Padded (s t : Bytes) : Prop := ∃ pad, t.toList = s.toList ++ pad

namespace Padded

variable {s t : Bytes}

theorem len_le (h : Padded s t) : s.len ≤ t.len := by
  obtain ⟨pad, hpad⟩ := h
  unfold Bytes.len
  rw [hpad, List.length_append]
  exact Nat.le_add_right _ _

theorem index (h : Padded s t) (i : Nat) :
    Kept (s.index i : Checked ε UInt8) (t.index i) := by
  obtain ⟨pad, hpad⟩ := h
  intro b hb
  have hget := Bytes.of_index hb
  apply Bytes.index_eq_ok
  rw [hpad, List.getElem?_append_left (List.getElem?_eq_some_iff.mp hget).1, hget]

theorem byteAt (h : Padded s t) (offset i : Nat) :
    Kept (s.byteAt offset i : Checked ε UInt8) (t.byteAt offset i) :=
  .bind (.refl _) fun j _ => h.index j

theorem be16At (h : Padded s t) (offset i : Nat) :
    Kept (s.be16At offset i : Checked ε UInt16) (t.be16At offset i) :=
  .bind (h.byteAt _ _) fun _ _ => .bind (h.byteAt _ _) fun _ _ => .refl _

theorem be32At (h : Padded s t) (offset i : Nat) :
    Kept (s.be32At offset i : Checked ε UInt32) (t.be32At offset i) :=
  .bind (h.byteAt _ _) fun _ _ => .bind (h.byteAt _ _) fun _ _ =>
    .bind (h.byteAt _ _) fun _ _ => .bind (h.byteAt _ _) fun _ _ => .refl _

theorem slice (h : Padded s t) (lo hi : Nat) :
    Kept (s.slice lo hi : Checked ε Bytes) (t.slice lo hi) := by
  have hle := h.len_le
  obtain ⟨pad, hpad⟩ := h
  intro body hbody
  unfold Bytes.slice at hbody ⊢
  by_cases hin : lo ≤ hi ∧ hi ≤ s.len
  · rw [if_pos hin] at hbody
    obtain rfl := Except.ok.inj hbody
    rw [if_pos ⟨hin.1, Nat.le_trans hin.2 hle⟩]
    congr 2
    have hlo : lo ≤ s.toList.length := Nat.le_trans hin.1 hin.2
    have htake : hi - lo ≤ (s.toList.drop lo).length := by
      rw [List.length_drop]
      exact Nat.sub_le_sub_right hin.2 lo
    rw [hpad, List.drop_append_of_le_length hlo, List.take_append_of_le_length htake]
  · rw [if_neg hin] at hbody
    cases hbody

end Padded

/-! ## Reading beside a word that is written over -/

namespace Bytes

/-- `s[p..p + 2]` is written over with `w.to_be_bytes()`. -/
def write16 (s : Bytes) (p : Nat) (w : UInt16) : Bytes where
  toList := (s.toList.set p (w >>> 8).toUInt8).set (p + 1) w.toUInt8
  length_le := by
    rw [List.length_set, List.length_set]
    exact s.length_le

variable {s : Bytes} {p offset i : Nat} {w : UInt16}

theorem len_write16 : (s.write16 p w).len = s.len := by
  show ((s.toList.set p _).set (p + 1) _).length = _
  rw [List.length_set, List.length_set]
  rfl

theorem write16_toList (h : p + 2 ≤ s.len) :
    (s.write16 p w).toList = s.toList.take p ++ (toBe16 w ++ s.toList.drop (p + 2)) := by
  have hlen : p + 2 ≤ s.toList.length := h
  have htake : (s.toList.take p).length = p := List.length_take_of_le (by omega)
  have hsplit : s.toList = s.toList.take p ++
      (s.toList[p] :: s.toList[p + 1] :: s.toList.drop (p + 2)) := by
    rw [← List.drop_eq_getElem_cons, ← List.drop_eq_getElem_cons, List.take_append_drop]
  show (s.toList.set p _).set (p + 1) _ = _
  conv_lhs => rw [hsplit]
  rw [List.set_append_right _ _ (by omega), List.set_append_right _ _ (by omega), htake,
    Nat.sub_self, Nat.add_sub_cancel_left]
  rfl

theorem index_write16 (hp : i ≠ p) (hp' : i ≠ p + 1) :
    ((s.write16 p w).index i : Checked ε UInt8) = s.index i := by
  have hget : (s.write16 p w).toList[i]? = s.toList[i]? := by
    show ((s.toList.set p _).set (p + 1) _)[i]? = _
    rw [List.getElem?_set_ne (Ne.symm hp'), List.getElem?_set_ne (Ne.symm hp)]
  unfold index
  rw [hget]

theorem byteAt_write16 (hp : offset + i ≠ p) (hp' : offset + i ≠ p + 1) :
    Moved id (s.byteAt offset i : Checked ε UInt8) ((s.write16 p w).byteAt offset i) := by
  refine .bind (.refl _) fun j hj => ?_
  obtain rfl := addU_eq_ok hj
  unfold Moved
  rw [id_map, id_eq, index_write16 hp hp']

theorem be16At_write16 (h : offset + i + 2 ≤ p ∨ p + 2 ≤ offset + i) :
    Moved id (s.be16At offset i : Checked ε UInt16) ((s.write16 p w).be16At offset i) :=
  .bind (byteAt_write16 (by omega) (by omega)) fun _ _ =>
    .bind (byteAt_write16 (by omega) (by omega)) fun _ _ => .pure rfl

theorem be32At_write16 (h : offset + i + 4 ≤ p ∨ p + 2 ≤ offset + i) :
    Moved id (s.be32At offset i : Checked ε UInt32) ((s.write16 p w).be32At offset i) :=
  .bind (byteAt_write16 (by omega) (by omega)) fun _ _ =>
    .bind (byteAt_write16 (by omega) (by omega)) fun _ _ =>
      .bind (byteAt_write16 (by omega) (by omega)) fun _ _ =>
        .bind (byteAt_write16 (by omega) (by omega)) fun _ _ => .pure rfl

/-- The word is read back where it was written. -/
theorem be16At_written (hp : offset + i = p) (hin : p + 2 ≤ s.len) :
    Moved (fun _ => w) (s.be16At offset i : Checked ε UInt16)
      ((s.write16 p w).be16At offset i) := by
  have hread : ((s.write16 p w).be16At offset i : Checked ε UInt16) = .ok w := by
    apply be16At_eq_ok (s.toList.take p) (s.toList.drop (p + 2)) (write16_toList hin)
    have hlen : p ≤ s.toList.length := Nat.le_of_add_right_le hin
    rw [List.length_take_of_le hlen, hp]
  obtain ⟨old, hold, -⟩ : Returns (s.be16At offset i : Checked ε UInt16) fun _ => True :=
    .be16At (by omega) fun _ => trivial
  unfold Moved
  rw [hread, hold]
  rfl

end Bytes

end Rust
