import Mathlib.Data.List.Count
import Mathlib.Order.Basic

/-!
# Trail — the changes of a value, one after the other

A value that is only ever changed along a relation leaves a trail: a list of changes, each from the
value that the one before it has left.  Where the relation never lowers a stage of the value, each
stage is entered by one change of the trail at most.
-/

namespace Trail

variable {α : Type}

/-- The changes lead from one value to another, each of them along `P`. -/
inductive Leads (P : α → α → Prop) (first : α) : List (α × α) → α → Prop where
  | nil : Leads P first [] first
  | concat {changes : List (α × α)} {a b : α} (h : Leads P first changes a) (hab : P a b) :
      Leads P first (changes ++ [(a, b)]) b

/-- The value that the changes leave. -/
def after (first : α) (changes : List (α × α)) : α := (changes.getLast?.map Prod.snd).getD first

@[simp] theorem after_nil (first : α) : after first [] = first := rfl

@[simp] theorem after_concat (first : α) (changes : List (α × α)) (change : α × α) :
    after first (changes ++ [change]) = change.2 := by
  simp [after]

variable {P : α → α → Prop} {first last : α} {changes : List (α × α)}

theorem Leads.after_eq (h : Leads P first changes last) : after first changes = last := by
  cases h with
  | nil => rfl
  | concat _ _ => exact after_concat first _ _

/-- Of the changes made so far, the first ones stay what they were. -/
theorem take_concat {n : Nat} (h : n ≤ changes.length) (change : α × α) :
    (changes ++ [change]).take n = changes.take n :=
  List.take_append_of_le_length h

/-! ## Stages -/

variable (stage : α → Nat)

/-- A change that enters stage `n`, or passes it. -/
def crosses (n : Nat) (change : α × α) : Bool := decide (stage change.1 < n ∧ n ≤ stage change.2)

variable {stage}

theorem Leads.stage_le (h : Leads P first changes last) (hmono : ∀ a b, P a b → stage a ≤ stage b) :
    stage first ≤ stage last := by
  induction h with
  | nil => exact Nat.le_refl _
  | concat _ hab ih => exact Nat.le_trans ih (hmono _ _ hab)

/-- Each stage between the first and the last value is entered once, and no other is. -/
theorem Leads.crossed (h : Leads P first changes last)
    (hmono : ∀ a b, P a b → stage a ≤ stage b) (n : Nat) :
    changes.countP (crosses stage n) = if stage first < n ∧ n ≤ stage last then 1 else 0 := by
  induction h with
  | nil =>
    rw [List.countP_nil, if_neg]
    omega
  | @concat changes a b h hab ih =>
    have hle := hmono _ _ hab
    have hfirst := h.stage_le hmono
    rw [List.countP_append, ih, List.countP_singleton]
    simp only [crosses, decide_eq_true_eq]
    split_ifs <;> omega

end Trail
