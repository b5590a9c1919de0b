import Mathlib.Data.List.DropRight
import NetworkEngine.Flow.Processing
import NetworkEngine.Lib.Transition

/-!
# DedupWindow — what the deduplication filter remembers

`correlation::dedup` over sequences of calls.  A set answers whether an id is known and a queue says
which id is the oldest; together they are a window on the ids that have been reported as new.
-/

namespace NetworkEngine

open Transition

/-! ## 1. The last elements of a list -/

section Last

variable {α : Type} (l : List α) (n : ℕ)

theorem rtake_of_length_le (h : l.length ≤ n) : l.rtake n = l := by
  rw [List.rtake, Nat.sub_eq_zero_of_le h, List.drop_zero]

theorem rtake_cons_of_le (a : α) (h : n ≤ l.length) : (a :: l).rtake n = l.rtake n := by
  rw [List.rtake, List.rtake, List.length_cons, Nat.succ_sub h, List.drop_succ_cons]

theorem length_rtake_le : (l.rtake n).length ≤ n := by
  rw [List.rtake, List.length_drop]
  omega

theorem rtake_rtake_succ : (l.rtake (n + 1)).rtake n = l.rtake n := by
  simp only [List.rtake, List.drop_drop, List.length_drop]
  congr 1
  omega

/-- Only the last elements matter for the last elements of a longer list. -/
theorem rtake_concat_of_rtake (a : α) : (l.rtake n ++ [a]).rtake n = (l ++ [a]).rtake n := by
  cases n with
  | zero => rw [List.rtake_zero, List.rtake_zero]
  | succ n => rw [List.rtake_concat_succ, List.rtake_concat_succ, rtake_rtake_succ]

end Last

namespace DedupFilter

/-! ## 2. Calls -/

def clear (f : DedupFilter) : DedupFilter := { f with ids := ∅, order := [] }

inductive Call where
  | isDuplicate (id : UInt64)
  | clear
  deriving DecidableEq, Repr

/-- A filter with the ids that it has reported as new since it was last cleared. -/
structure Reporting where
  filter : DedupFilter
  reported : List UInt64

def step (s : Reporting) : Call → Reporting
  | .isDuplicate id =>
    let answer := s.filter.isDuplicate id
    ⟨answer.2, if answer.1 then s.reported else s.reported ++ [id]⟩
  | .clear => ⟨s.filter.clear, []⟩

def start (maxSize : Nat) : Reporting := ⟨new maxSize, []⟩

/-! ## 3. The window -/

variable {maxSize : Nat} {ids : Finset UInt64} {order : List UInt64}

theorem expire_maxSize (maxSize : Nat) (ids : Finset UInt64) (order : List UInt64) :
    (expire maxSize ids order).maxSize = maxSize := by
  induction order generalizing ids with
  | nil => rfl
  | cons oldest order ih =>
    rw [expire]
    split
    · exact ih _
    · rfl

theorem expire_order (maxSize : Nat) (ids : Finset UInt64) (order : List UInt64) :
    (expire maxSize ids order).order = order.rtake maxSize := by
  induction order generalizing ids with
  | nil => exact (List.rtake_nil maxSize).symm
  | cons oldest order ih =>
    rw [expire]
    split
    · rename_i hlong
      rw [ih, rtake_cons_of_le _ _ _ (Nat.le_of_lt_succ hlong)]
    · rename_i hshort
      exact (rtake_of_length_le _ _ (Nat.le_of_not_lt hshort)).symm

/-- An id that leaves the queue leaves the set. -/
theorem expire_ids (maxSize : Nat) (horder : order.Nodup) :
    (expire maxSize order.toFinset order).ids = (order.rtake maxSize).toFinset := by
  induction order with
  | nil => rw [List.rtake_nil, expire]
  | cons oldest order ih =>
    obtain ⟨hfresh, horder⟩ := List.nodup_cons.mp horder
    have herase : (oldest :: order).toFinset.erase oldest = order.toFinset := by
      rw [List.toFinset_cons, Finset.erase_insert]
      rwa [List.mem_toFinset]
    rw [expire]
    split
    · rename_i hlong
      rw [herase, ih horder, rtake_cons_of_le _ _ _ (Nat.le_of_lt_succ hlong)]
    · rename_i hshort
      rw [rtake_of_length_le _ _ (Nat.le_of_not_lt hshort)]

/-- The queue is a window on the ids that were reported, and the set has the same elements. -/
structure Window (maxSize : Nat) (s : Reporting) : Prop where
  maxSize_eq : s.filter.maxSize = maxSize
  ids_eq : s.filter.ids = s.filter.order.toFinset
  nodup : s.filter.order.Nodup
  order_eq : s.filter.order = s.reported.rtake maxSize

theorem Window.start (maxSize : Nat) : Window maxSize (start maxSize) where
  maxSize_eq := rfl
  ids_eq := rfl
  nodup := List.nodup_nil
  order_eq := (List.rtake_nil maxSize).symm

theorem Window.isDuplicate_iff {s : Reporting} (h : Window maxSize s) (id : UInt64) :
    (s.filter.isDuplicate id).1 = true ↔ id ∈ s.reported.rtake maxSize := by
  unfold isDuplicate
  rw [h.maxSize_eq, ← h.order_eq]
  split_ifs with hzero hknown
  · rw [h.order_eq, hzero, List.rtake_zero]
    exact iff_of_false not_false List.not_mem_nil
  · rw [h.ids_eq, List.mem_toFinset] at hknown
    exact iff_of_true rfl hknown
  · rw [h.ids_eq, List.mem_toFinset] at hknown
    exact iff_of_false not_false hknown

theorem Window.step {s : Reporting} (h : Window maxSize s) (call : Call) :
    Window maxSize (step s call) := by
  cases call with
  | clear =>
    exact {
      maxSize_eq := h.maxSize_eq
      ids_eq := rfl
      nodup := List.nodup_nil
      order_eq := (List.rtake_nil maxSize).symm }
  | isDuplicate id =>
    unfold DedupFilter.step isDuplicate
    dsimp only
    rw [h.maxSize_eq]
    by_cases hzero : maxSize = 0
    · -- Nothing is remembered, and the last none of the reported ids are none.
      subst hzero
      rw [if_pos rfl]
      exact {
        maxSize_eq := h.maxSize_eq
        ids_eq := h.ids_eq
        nodup := h.nodup
        order_eq := by rw [h.order_eq, List.rtake_zero, List.rtake_zero] }
    by_cases hknown : id ∈ s.filter.ids
    · rw [if_neg hzero, if_pos hknown]
      exact h
    · rw [if_neg hzero, if_neg hknown]
      rw [h.ids_eq, List.mem_toFinset] at hknown
      have hnodup : (s.filter.order ++ [id]).Nodup := List.nodup_append_comm.mp
        (List.nodup_cons.mpr ⟨hknown, h.nodup⟩)
      have hids : insert id s.filter.ids = (s.filter.order ++ [id]).toFinset := by
        rw [h.ids_eq, List.toFinset_append, Finset.insert_eq, Finset.union_comm]
        rfl
      rw [hids]
      exact {
        maxSize_eq := expire_maxSize _ _ _
        ids_eq := by rw [expire_ids _ hnodup, expire_order]
        nodup := by
          rw [expire_order]
          exact hnodup.sublist (List.drop_sublist _ _)
        order_eq := by
          rw [expire_order, h.order_eq]
          exact rtake_concat_of_rtake s.reported maxSize id }

/-- After any calls the set is the queue without its order, the queue is a window of bounded size,
and an id is a duplicate when it is among the last ones that were reported as new. -/
theorem sliding_window_run (maxSize : Nat) (calls : List Call) :
    let s := run step (start maxSize) calls
    s.filter.ids = s.filter.order.toFinset ∧ s.filter.order.Nodup ∧
      s.filter.order.length ≤ maxSize ∧
      ∀ id, (s.filter.isDuplicate id).1 = true ↔ id ∈ s.reported.rtake maxSize := by
  have hwindow : Window maxSize (run step (start maxSize) calls) :=
    run_inv (fun _ call h => h.step call) (.start maxSize) calls
  refine ⟨hwindow.ids_eq, hwindow.nodup, ?_, hwindow.isDuplicate_iff⟩
  rw [hwindow.order_eq]
  exact length_rtake_le _ _

end DedupFilter

end NetworkEngine
