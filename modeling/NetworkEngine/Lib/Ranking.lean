import Mathlib.Data.List.Induction
import Mathlib.Data.List.Sort

/-!
# Ranking — sorting and selecting by one comparison

`sort_by`, `min_by` and `max_by` of Rust under a comparison function.  On a sorted list the minimum
is the head, and a sorted list without ties is determined by its elements.  The maximum is the last
of the greatest elements.
-/

namespace Ranking

variable {α : Type} (cmp : α → α → Ordering)

/-- `left` does not come after `right`. -/
def AtMost (left right : α) : Prop := (cmp left right).isLE = true

instance : DecidableRel (AtMost cmp) := fun left right =>
  inferInstanceAs (Decidable ((cmp left right).isLE = true))

/-- `sort_by`, a stable sort. -/
def sortBy (l : List α) : List α := l.insertionSort (AtMost cmp)

/-- `min_by`: of equal elements the first. -/
def minBy : List α → Option α
  | [] => none
  | a :: l => some (l.foldl (fun best b => if cmp best b = .gt then b else best) a)

/-- `max_by`: of equal elements the last. -/
def maxBy : List α → Option α
  | [] => none
  | a :: l => some (l.foldl (fun best b => if cmp best b = .gt then best else b) a)

/-- The elements that come after no other, in their order. -/
def greatest (l : List α) : List α := l.filter fun a => l.all fun b => AtMost cmp b a

def Sorted (l : List α) : Prop := l.Pairwise (AtMost cmp)

section Order

variable [Std.TransCmp cmp]

instance : IsTrans α (AtMost cmp) where
  trans _ _ _ := Std.TransCmp.isLE_trans

instance : Std.Total (AtMost cmp) where
  total left right := by
    unfold AtMost
    have hswap : cmp right left = (cmp left right).swap := Std.OrientedCmp.eq_swap
    rw [hswap]
    cases cmp left right <;> simp

end Order

variable {cmp} {l l' : List α} {a b : α} {p : α → Bool}

theorem sortBy_perm : (sortBy cmp l).Perm l := List.perm_insertionSort _ _

theorem sorted_sortBy [Std.TransCmp cmp] : Sorted cmp (sortBy cmp l) :=
  List.pairwise_insertionSort _ _

theorem Sorted.sortBy_eq (h : Sorted cmp l) : sortBy cmp l = l := h.insertionSort_eq

theorem Sorted.filter (h : Sorted cmp l) (p : α → Bool) : Sorted cmp (l.filter p) :=
  List.Pairwise.filter p h

/-- Nothing in a sorted list beats its head. -/
theorem Sorted.minBy_eq (h : Sorted cmp l) : minBy cmp l = l.head? := by
  cases l with
  | nil => rfl
  | cons a l =>
    have hhead : ∀ b ∈ l, AtMost cmp a b := (List.pairwise_cons.mp h).1
    have hfold : l.foldl (fun best b => if cmp best b = .gt then b else best) a = a := by
      clear h
      induction l with
      | nil => rfl
      | cons b l ih =>
        have hb : cmp a b ≠ .gt := by
          have hle := hhead b List.mem_cons_self
          unfold AtMost at hle
          intro hgt
          rw [hgt] at hle
          cases hle
        rw [List.foldl_cons, if_neg hb]
        exact ih fun c hc => hhead c (List.mem_cons_of_mem b hc)
    rw [minBy, hfold, List.head?_cons]

/-- The head of a sorted list is the least of its elements. -/
theorem Sorted.head_atMost [Std.TransCmp cmp] (h : Sorted cmp l) (ha : l.head? = some a)
    (hb : b ∈ l) : AtMost cmp a b := by
  cases l with
  | nil => cases hb
  | cons c l =>
    obtain rfl : c = a := Option.some.inj ha
    rcases List.mem_cons.mp hb with rfl | hb
    · exact (total_of (AtMost cmp) b b).elim id id
    · exact (List.pairwise_cons.mp h).1 b hb

/-- Sorted lists with the same elements are equal when no two elements tie. -/
theorem Sorted.eq_of_perm [Std.TransCmp cmp] (h : Sorted cmp l) (h' : Sorted cmp l')
    (hties : ∀ a ∈ l, ∀ b ∈ l, cmp a b = .eq → a = b) (hperm : l.Perm l') : l = l' := by
  apply hperm.eq_of_pairwise _ h h'
  intro a b ha hb hab hba
  exact hties a ha b (hperm.mem_iff.mpr hb) (Std.OrientedCmp.isLE_antisymm hab hba)

/-- A search in a sorted list finds the least of what it looks for. -/
theorem Sorted.find?_eq_some [Std.TransCmp cmp] (h : Sorted cmp l) (ha : a ∈ l) (hp : p a = true)
    (hleast : ∀ b ∈ l, p b = true → AtMost cmp a b)
    (hties : ∀ b ∈ l, cmp a b = .eq → a = b) : l.find? p = some a := by
  induction l with
  | nil => cases ha
  | cons c l ih =>
    have hcons := List.pairwise_cons.mp h
    by_cases hc : p c = true
    · have hle : AtMost cmp c a := by
        rcases List.mem_cons.mp ha with rfl | htail
        · exact (total_of (AtMost cmp) a a).elim id id
        · exact hcons.1 a htail
      have heq : cmp a c = .eq :=
        Std.OrientedCmp.isLE_antisymm (hleast c List.mem_cons_self hc) hle
      rw [List.find?_cons_of_pos hc, hties c List.mem_cons_self heq]
    · have htail : a ∈ l := by
        rcases List.mem_cons.mp ha with rfl | htail
        · exact absurd hp hc
        · exact htail
      rw [List.find?_cons_of_neg hc]
      exact ih hcons.2 htail (fun b hb => hleast b (List.mem_cons_of_mem c hb))
        fun b hb => hties b (List.mem_cons_of_mem c hb)

/-! ### The maximum -/

theorem mem_greatest : a ∈ greatest cmp l ↔ a ∈ l ∧ ∀ b ∈ l, AtMost cmp b a := by
  simp [greatest]

theorem maxBy_concat (l : List α) (b : α) :
    maxBy cmp (l ++ [b]) =
      match maxBy cmp l with
      | none => some b
      | some a => some (if cmp a b = .gt then a else b) := by
  cases l with
  | nil => rfl
  | cons a l =>
    simp only [List.cons_append, maxBy, List.foldl_append]
    rfl

/-- What comes before the maximum is no greater, and what comes behind it is less. -/
theorem maxBy_split [Std.TransCmp cmp] (h : maxBy cmp l = some a) :
    ∃ before after, l = before ++ a :: after ∧ (∀ b ∈ before, AtMost cmp b a) ∧
      ∀ b ∈ after, AtMost cmp b a ∧ ¬ AtMost cmp a b := by
  induction l using List.reverseRecOn generalizing a with
  | nil => cases h
  | append_singleton l b ih =>
    rw [maxBy_concat] at h
    cases hbest : maxBy cmp l with
    | none =>
      rw [hbest] at h
      obtain rfl : b = a := Option.some.inj h
      have hnil : l = [] := by
        cases l with
        | nil => rfl
        | cons c l => cases hbest
      exact ⟨[], [], by rw [hnil], List.forall_mem_nil _, List.forall_mem_nil _⟩
    | some best =>
      obtain ⟨before, after, rfl, hbefore, hafter⟩ := ih hbest
      rw [hbest] at h
      by_cases hgt : cmp best b = .gt
      · obtain rfl : best = a := by rw [← Option.some.inj h, if_pos hgt]
        have hless : AtMost cmp b best ∧ ¬ AtMost cmp best b := by
          have hswap : cmp b best = .lt := Std.OrientedCmp.gt_iff_lt.mp hgt
          unfold AtMost
          rw [hgt, hswap]
          decide
        refine ⟨before, after ++ [b], by simp, hbefore, fun c hc => ?_⟩
        rcases List.mem_append.mp hc with hc | hc
        · exact hafter c hc
        · obtain rfl := List.mem_singleton.mp hc
          exact hless
      · obtain rfl : b = a := by rw [← Option.some.inj h, if_neg hgt]
        have hle : AtMost cmp best b := Ordering.isLE_iff_ne_gt.mpr hgt
        refine ⟨before ++ best :: after, [], rfl, fun c hc => ?_, List.forall_mem_nil _⟩
        have hbest : AtMost cmp c best := by
          rcases List.mem_append.mp hc with hc | hc
          · exact hbefore c hc
          · rcases List.mem_cons.mp hc with rfl | hc
            · exact (total_of (AtMost cmp) c c).elim id id
            · exact (hafter c hc).1
        exact trans_of (AtMost cmp) hbest hle

/-- The maximum is the last of the greatest elements. -/
theorem maxBy_eq_getLast? [Std.TransCmp cmp] (l : List α) :
    maxBy cmp l = (greatest cmp l).getLast? := by
  cases hmax : maxBy cmp l with
  | none =>
    cases l with
    | nil => rfl
    | cons a l => cases hmax
  | some a =>
    obtain ⟨before, after, rfl, hbefore, hafter⟩ := maxBy_split hmax
    have ha : AtMost cmp a a := (total_of (AtMost cmp) a a).elim id id
    have hgreatest : a ∈ greatest cmp (before ++ a :: after) := by
      refine mem_greatest.mpr ⟨List.mem_append_right _ List.mem_cons_self, fun b hb => ?_⟩
      rcases List.mem_append.mp hb with hb | hb
      · exact hbefore b hb
      · rcases List.mem_cons.mp hb with rfl | hb
        · exact ha
        · exact (hafter b hb).1
    let top (b : α) : Bool := (before ++ a :: after).all fun c => AtMost cmp c b
    have htop : top a = true := (List.mem_filter.mp hgreatest).2
    have hnone : after.filter top = [] := by
      rw [List.filter_eq_nil_iff]
      intro b hb hall
      have hle := List.all_eq_true.mp hall a (List.mem_append_right _ List.mem_cons_self)
      exact (hafter b hb).2 (of_decide_eq_true hle)
    show some a = ((before ++ a :: after).filter top).getLast?
    rw [List.filter_append, List.filter_cons_of_pos htop, hnone, List.getLast?_append]
    rfl

theorem greatest_eq_nil_iff [Std.TransCmp cmp] : greatest cmp l = [] ↔ l = [] := by
  rw [← List.getLast?_eq_none_iff, ← maxBy_eq_getLast?]
  cases l with
  | nil => exact iff_of_true rfl rfl
  | cons a l => exact iff_of_false (Option.some_ne_none _) (List.cons_ne_nil a l)

/-- The greatest of some elements is greatest among all when one of the some is. -/
theorem mem_greatest_of_subset [Std.TransCmp cmp] (hsub : ∀ b ∈ l', b ∈ l)
    (ha : a ∈ greatest cmp l') : a ∈ greatest cmp l ↔ ∃ b ∈ l', b ∈ greatest cmp l := by
  rw [mem_greatest] at ha
  constructor
  · intro h
    exact ⟨a, ha.1, h⟩
  · intro h
    obtain ⟨b, hb, htop⟩ := h
    rw [mem_greatest] at htop ⊢
    refine ⟨hsub a ha.1, fun c hc => ?_⟩
    have hle : AtMost cmp c b := htop.2 c hc
    exact trans_of (AtMost cmp) hle (ha.2 b hb)

/-- Two greatest elements tie, also when they are greatest in lists with the same elements. -/
theorem greatest_ties [Std.TransCmp cmp] (hsame : ∀ c, c ∈ l ↔ c ∈ l') (ha : a ∈ greatest cmp l)
    (hb : b ∈ greatest cmp l') : cmp a b = .eq := by
  rw [mem_greatest] at ha hb
  have hle := hb.2 a ((hsame a).mp ha.1)
  have hge := ha.2 b ((hsame b).mpr hb.1)
  exact Std.OrientedCmp.isLE_antisymm hle hge

/-! ### A first criterion, and a second one upwards or downwards -/

section Lex

variable {β γ : Type} [Ord β] [LE β] [LT β] [Std.LawfulOrderOrd β] [Std.IsLinearOrder β]
  [Std.LawfulOrderLT β] [Ord γ] [LE γ] [Std.LawfulOrderOrd γ] {f : α → β} {g : α → γ}

theorem atMost_lex_up :
    AtMost (compareLex (compareOn f) (compareOn g)) a b ↔ f a < f b ∨ (f a = f b ∧ g a ≤ g b) := by
  unfold AtMost compareLex compareOn
  rw [Ordering.isLE_then_iff_or, Std.compare_eq_lt, Std.compare_eq_iff_eq, Std.isLE_compare]

theorem atMost_lex :
    AtMost (compareLex (compareOn f) fun a b => compareOn g b a) a b ↔
      f a < f b ∨ (f a = f b ∧ g b ≤ g a) := by
  unfold AtMost compareLex compareOn
  rw [Ordering.isLE_then_iff_or, Std.compare_eq_lt, Std.compare_eq_iff_eq, Std.isLE_compare]

/-- The greatest elements are first by the one criterion, and last by the other among those. -/
theorem mem_greatest_lex :
    a ∈ greatest (compareLex (compareOn f) fun a b => compareOn g b a) l ↔
      a ∈ l ∧ ∀ b ∈ l, f b ≤ f a ∧ (f b = f a → g a ≤ g b) := by
  rw [mem_greatest]
  refine and_congr_right fun _ => forall₂_congr fun b _ => ?_
  rw [atMost_lex]
  constructor
  · intro h
    rcases h with hlt | ⟨heq, hle⟩
    · exact ⟨Std.le_of_lt hlt, fun heq => absurd hlt (heq ▸ Std.lt_irrefl)⟩
    · exact ⟨Std.le_of_eq heq, fun _ => hle⟩
  · intro h
    by_cases heq : f b = f a
    · exact .inr ⟨heq, h.2 heq⟩
    · exact .inl (Std.lt_of_le_of_ne h.1 heq)

omit [LT β] [Std.IsLinearOrder β] [Std.LawfulOrderLT β] in
/-- Elements that tie agree in both. -/
theorem eq_of_lex [Std.IsPartialOrder β] [Std.IsPartialOrder γ]
    (h : compareLex (compareOn f) (fun a b => compareOn g b a) a b = .eq) :
    f a = f b ∧ g a = g b := by
  have hboth := compareLex_eq_eq.mp h
  exact ⟨Std.compare_eq_iff_eq.mp hboth.1, (Std.compare_eq_iff_eq.mp hboth.2).symm⟩

end Lex

end Ranking
