import Mathlib.Data.List.Basic

/-!
# Fields — texts that can be read back

Numerals in a base up to sixteen, and fields with a delimiter between them that none of them holds.
A run of equal fields may be left out and marked by an empty field in its place: what stands before
the mark and what stands behind it are found again.
-/

namespace Fields

/-! ## 1. Numerals -/

/-- `{}` in base ten and `{:x}` in base sixteen. -/
def digits : List Char :=
  ['0', '1', '2', '3', '4', '5', '6', '7', '8', '9', 'a', 'b', 'c', 'd', 'e', 'f']

variable {b n m : Nat} {c : Char}

theorem digitChar_mem (h : n < 16) : Nat.digitChar n ∈ digits :=
  (by decide : ∀ n < 16, Nat.digitChar n ∈ digits) n h

theorem digitChar_injective (hn : n < 16) (hm : m < 16) (h : Nat.digitChar n = Nat.digitChar m) :
    n = m :=
  (by decide : ∀ n < 16, ∀ m < 16, Nat.digitChar n = Nat.digitChar m → n = m) n hn m hm h

theorem mem_toDigits (hb : 1 < b) (hb' : b ≤ 16) (h : c ∈ Nat.toDigits b n) : c ∈ digits := by
  induction n using Nat.strongRecOn with
  | ind n ih =>
    rw [Nat.toDigits_eq_if hb] at h
    split at h
    · rename_i hn
      rw [List.mem_singleton.mp h]
      exact digitChar_mem (by omega)
    · obtain hold | hlast := List.mem_append.mp h
      · exact ih (n / b) (Nat.div_lt_self (by omega) hb) hold
      · have hmod := Nat.mod_lt n (Nat.lt_of_succ_lt hb)
        rw [List.mem_singleton.mp hlast]
        exact digitChar_mem (by omega)

theorem toDigits_length_le_one (hb : 1 < b) : (Nat.toDigits b n).length ≤ 1 ↔ n < b := by
  rw [Nat.length_toDigits_le_iff hb Nat.one_pos, Nat.pow_one]

/-- A numeral stands for one number. -/
theorem toDigits_injective (hb : 1 < b) (hb' : b ≤ 16) :
    Function.Injective (Nat.toDigits b) := by
  intro n
  induction n using Nat.strongRecOn with
  | ind n ih =>
    intro m h
    have hn := Nat.mod_lt n (Nat.lt_of_succ_lt hb)
    have hm := Nat.mod_lt m (Nat.lt_of_succ_lt hb)
    have hsmall : n < b ↔ m < b := by
      rw [← toDigits_length_le_one hb, h, toDigits_length_le_one hb]
    by_cases hnb : n < b
    · rw [Nat.toDigits_of_lt_base hnb, Nat.toDigits_of_lt_base (hsmall.mp hnb)] at h
      exact digitChar_injective (by omega) (by omega) (List.singleton_inj.mp h)
    -- The last digit is the remainder, and the others are the numeral of the quotient.
    · have hmb : b ≤ m := Nat.le_of_not_lt fun hmb => hnb (hsmall.mpr hmb)
      rw [Nat.toDigits_of_base_le hb (Nat.le_of_not_lt hnb), Nat.toDigits_of_base_le hb hmb] at h
      obtain ⟨hdiv, hmod⟩ := List.append_inj' h rfl
      have hquotient := ih (n / b) (Nat.div_lt_self (by omega) hb) hdiv
      have hrest := digitChar_injective (by omega) (by omega) (List.singleton_inj.mp hmod)
      rw [← Nat.div_add_mod n b, hquotient, hrest, Nat.div_add_mod]

/-! ## 2. Delimiters -/

variable {α : Type} {x : α} {l l' r r' : List α} {ls ls' : List (List α)}

section

variable [DecidableEq α]

/-- The fields between the delimiters. -/
theorem intercalate_injective (hx : ∀ f ∈ ls, x ∉ f) (hls : ls ≠ []) (hx' : ∀ f ∈ ls', x ∉ f)
    (hls' : ls' ≠ []) (h : [x].intercalate ls = [x].intercalate ls') : ls = ls' := by
  rw [← List.splitOn_intercalate x hx hls, h, List.splitOn_intercalate x hx' hls']

/-- No field holds the delimiter. -/
theorem notMem_of_mem_splitOn {f : List α} (h : f ∈ l.splitOn x) : x ∉ f := by
  induction l generalizing f with
  | nil =>
    rw [List.splitOn_nil, List.mem_singleton] at h
    rw [h]
    exact List.not_mem_nil
  | cons a l ih =>
    rw [List.splitOn_cons_eq_if_modifyHead] at h
    split_ifs at h with ha
    · obtain rfl | h := List.mem_cons.mp h
      · exact List.not_mem_nil
      · exact ih h
    · cases hsplit : l.splitOn x with
      | nil => exact absurd hsplit (List.splitOn_ne_nil x l)
      | cons g fields =>
        rw [hsplit] at h ih
        obtain rfl | h := List.mem_cons.mp h
        · have hne : x ≠ a := fun heq => ha (beq_iff_eq.mpr heq.symm)
          exact fun hx => (List.mem_cons.mp hx).elim hne (ih List.mem_cons_self)
        · exact ih (List.mem_cons_of_mem g h)

/-- The last field, in front of which anything may stand. -/
theorem append_cons_inj (hr : x ∉ r) (hr' : x ∉ r') (h : l ++ x :: r = l' ++ x :: r') :
    l = l' ∧ r = r' := by
  have hsplit := congrArg (List.splitOn x) h
  rw [List.splitOn_append_cons_self, List.splitOn_append_cons_self, List.splitOn_eq_singleton hr,
    List.splitOn_eq_singleton hr'] at hsplit
  obtain ⟨hfront, hlast⟩ := List.append_inj' hsplit rfl
  have hjoin := congrArg [x].intercalate hfront
  rw [List.intercalate_splitOn, List.intercalate_splitOn] at hjoin
  exact ⟨hjoin, List.singleton_inj.mp hlast⟩

end

theorem intercalate_append (hls : ls ≠ []) (hls' : ls' ≠ []) :
    [x].intercalate (ls ++ ls') = [x].intercalate ls ++ x :: [x].intercalate ls' := by
  induction ls with
  | nil => exact absurd rfl hls
  | cons f ls ih =>
    cases ls with
    | nil => rw [List.singleton_append, List.intercalate_cons_of_ne_nil hls',
        List.intercalate_singleton, List.append_assoc, List.singleton_append]
    | cons g ls =>
      rw [List.cons_append, List.cons_append, List.intercalate_cons_cons, ← List.cons_append,
        ih (List.cons_ne_nil _ _), List.intercalate_cons_cons]
      simp only [List.append_assoc]

theorem mem_intercalate {a : α} (h : a ∈ [x].intercalate ls) : a = x ∨ ∃ f ∈ ls, a ∈ f := by
  induction ls with
  | nil => cases h
  | cons f ls ih =>
    by_cases hls : ls = []
    · rw [hls, List.intercalate_singleton] at h
      exact .inr ⟨f, List.mem_cons_self, h⟩
    · rw [List.intercalate_cons_of_ne_nil hls, List.append_assoc, List.singleton_append] at h
      obtain hf | h := List.mem_append.mp h
      · exact .inr ⟨f, List.mem_cons_self, hf⟩
      · obtain hx | h := List.mem_cons.mp h
        · exact .inl hx
        · obtain hx | ⟨g, hg, ha⟩ := ih h
          · exact .inl hx
          · exact .inr ⟨g, List.mem_cons_of_mem f hg, ha⟩

theorem delimiter_mem (h : 1 < ls.length) : x ∈ [x].intercalate ls := by
  cases ls with
  | nil => exact absurd h (Nat.not_lt_zero 1)
  | cons f ls =>
    cases ls with
    | nil => exact absurd h (Nat.lt_irrefl 1)
    | cons g ls =>
      rw [List.intercalate_cons_cons, List.append_assoc]
      exact List.mem_append_right _ List.mem_cons_self

/-! ## 3. Runs that are left out -/

/-- The fields of a part; an empty part is one empty field. -/
def shown : List (List α) → List (List α)
  | [] => [[]]
  | f :: ls => f :: ls

/-- The fields in front of the mark, the mark, and the fields behind it. -/
def compressed (front back : List (List α)) : List (List α) := shown front ++ [] :: shown back

variable {front back front' back' : List (List α)}

theorem shown_ne_nil (ls : List (List α)) : shown ls ≠ [] := by
  cases ls <;> exact List.cons_ne_nil _ _

theorem intercalate_shown (ls : List (List α)) : [x].intercalate (shown ls) = [x].intercalate ls := by
  cases ls with
  | nil => rfl
  | cons f ls => rfl

theorem intercalate_compressed (front back : List (List α)) :
    [x].intercalate (compressed front back) =
      [x].intercalate front ++ x :: x :: [x].intercalate back := by
  have hmark : [x].intercalate ([] :: shown back) = x :: [x].intercalate back := by
    rw [List.intercalate_cons_of_ne_nil (shown_ne_nil back), intercalate_shown]
    rfl
  rw [compressed, intercalate_append (shown_ne_nil front) (List.cons_ne_nil _ _),
    intercalate_shown, hmark]

theorem mem_shown {f : List α} (h : f ∈ shown ls) : f ∈ ls ∨ f = [] := by
  cases ls with
  | nil => exact .inr (List.mem_singleton.mp h)
  | cons g ls => exact .inl h

theorem mem_compressed {f : List α} (h : f ∈ compressed front back) :
    f ∈ front ∨ f = [] ∨ f ∈ back := by
  obtain hfront | hback := List.mem_append.mp h
  · exact (mem_shown hfront).imp_right .inl
  · obtain hmark | hback := List.mem_cons.mp hback
    · exact .inr (.inl hmark)
    · exact .inr (mem_shown hback).symm

theorem nil_mem_compressed : [] ∈ compressed front back :=
  List.mem_append_right _ List.mem_cons_self

theorem reverse_shown (ls : List (List α)) : (shown ls).reverse = shown ls.reverse := by
  cases ls with
  | nil => rfl
  | cons f ls =>
    cases hreverse : (f :: ls).reverse with
    | nil => exact absurd (List.reverse_eq_nil_iff.mp hreverse) (List.cons_ne_nil _ _)
    | cons g ls' => exact hreverse

theorem reverse_compressed (front back : List (List α)) :
    (compressed front back).reverse = compressed back.reverse front.reverse := by
  rw [compressed, List.reverse_append, List.reverse_cons, reverse_shown, reverse_shown, compressed,
    List.append_assoc, List.singleton_append]

/-- No field in front is empty, so that the first empty one ends the front. -/
theorem takeWhile_compressed (back : List (List α)) (hfront : [] ∉ front) :
    (compressed front back).takeWhile (fun f => !f.isEmpty) = front := by
  have hstop : ([] :: shown back).takeWhile (fun f => !f.isEmpty) = [] := rfl
  cases front with
  | nil => rfl
  | cons f front =>
    have hall : ∀ g ∈ f :: front, (fun g : List α => !g.isEmpty) g = true := by
      intro g hg
      cases g with
      | nil => exact absurd hg hfront
      | cons a g => rfl
    rw [compressed, shown, List.takeWhile_append_of_pos hall, hstop, List.append_nil]

theorem compressed_inj (hfront : [] ∉ front) (hback : [] ∉ back) (hfront' : [] ∉ front')
    (hback' : [] ∉ back') (h : compressed front back = compressed front' back') :
    front = front' ∧ back = back' := by
  constructor
  · rw [← takeWhile_compressed back hfront, h, takeWhile_compressed back' hfront']
  · have hreverse := congrArg List.reverse h
    rw [reverse_compressed, reverse_compressed] at hreverse
    have hback := takeWhile_compressed front.reverse fun hin =>
      hback (List.mem_reverse.mp hin)
    rw [hreverse, takeWhile_compressed _ fun hin => hback' (List.mem_reverse.mp hin)] at hback
    exact (List.reverse_inj.mp hback).symm

end Fields
