import Mathlib.Data.Sym.Sym2

/-!
# SortedPair — one representative of an unordered pair

Two elements are put in the order of their keys.  Where no two elements have the same key, the
result stands for the unordered pair.
-/

namespace SortedPair

variable {α κ : Type} [Ord κ] {key : α → κ} {a b c d : α}

/-- The two in the order of their keys. -/
def sortPair (key : α → κ) (a b : α) : α × α :=
  if (compare (key a) (key b)).isLE then (a, b) else (b, a)

theorem sortPair_of_isLE (h : (compare (key a) (key b)).isLE) : sortPair key a b = (a, b) :=
  if_pos h

theorem sortPair_of_not_isLE (h : ¬ (compare (key a) (key b)).isLE) : sortPair key a b = (b, a) :=
  if_neg h

theorem sortPair_cases (key : α → κ) (a b : α) :
    sortPair key a b = (a, b) ∨ sortPair key a b = (b, a) := by
  by_cases h : (compare (key a) (key b)).isLE
  · exact .inl (sortPair_of_isLE h)
  · exact .inr (sortPair_of_not_isLE h)

/-- It is one of the two ordered pairs. -/
theorem mk_sortPair (key : α → κ) (a b : α) :
    s((sortPair key a b).1, (sortPair key a b).2) = s(a, b) := by
  obtain h | h := sortPair_cases key a b
  · rw [h]
  · rw [h]
    exact Sym2.eq_swap

variable [Std.OrientedOrd κ]

theorem isLE_of_not_isLE {x y : κ} (h : ¬ (compare x y).isLE) : (compare y x).isLE :=
  Ordering.isLE_of_eq_lt (Std.OrientedCmp.lt_of_not_isLE h)

theorem sortPair_idem (key : α → κ) (a b : α) :
    sortPair key (sortPair key a b).1 (sortPair key a b).2 = sortPair key a b := by
  by_cases h : (compare (key a) (key b)).isLE
  · rw [sortPair_of_isLE h]
    exact sortPair_of_isLE h
  · rw [sortPair_of_not_isLE h]
    exact sortPair_of_isLE (isLE_of_not_isLE h)

variable [Std.LawfulEqOrd κ]

theorem sortPair_comm (hkey : Function.Injective key) (a b : α) :
    sortPair key a b = sortPair key b a := by
  by_cases hab : (compare (key a) (key b)).isLE
  · by_cases hba : (compare (key b) (key a)).isLE
    -- Neither key is greater than the other.
    · have heq : compare (key a) (key b) = .eq := Std.OrientedCmp.isLE_antisymm hab hba
      rw [hkey (Std.LawfulEqOrd.eq_of_compare heq)]
    · rw [sortPair_of_isLE hab, sortPair_of_not_isLE hba]
  · rw [sortPair_of_not_isLE hab, sortPair_of_isLE (isLE_of_not_isLE hab)]

/-- Two pairs are sorted alike when they are the same unordered pair. -/
theorem sortPair_eq_iff (hkey : Function.Injective key) :
    sortPair key a b = sortPair key c d ↔ s(a, b) = s(c, d) := by
  constructor
  · intro h
    rw [← mk_sortPair key a b, h, mk_sortPair]
  · intro h
    obtain ⟨rfl, rfl⟩ | ⟨rfl, rfl⟩ := Sym2.eq_iff.mp h
    · rfl
    · exact sortPair_comm hkey a b

end SortedPair
