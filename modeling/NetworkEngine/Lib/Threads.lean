import Mathlib.Algebra.BigOperators.Group.List.Basic
import Mathlib.Algebra.Ring.Nat
import NetworkEngine.Lib.Transition

/-!
# Threads — calls under way on one shared state

Any number of threads make calls on a shared state; a call is a sequence of atomic steps.  A thread
is inside at most one call, so that the calls under way, each at its own point, stand for the
threads.  A turn starts a call or takes the next step of one that is under way; a step may depend on
a choice of the environment.

What the threads together owe to a shared counter is a weight of the points they have reached.  A
step changes the total weight by what the one call gained or lost.
-/

namespace Threads

open Transition

variable {σ κ α ι : Type}

/-- The steps of the calls: each goes on at a point of its call, or ends it. -/
structure Program (σ κ α ι : Type) where
  start : α → σ → σ × Option κ
  next : ι → κ → σ → σ × Option κ

structure Sys (σ κ : Type) where
  shared : σ
  calls : List κ
  deriving DecidableEq, Repr

inductive Turn (α ι : Type) where
  | start (a : α)
  | next (i : Nat) (choice : ι)
  deriving DecidableEq, Repr

/-- The choice of the environment in a turn. -/
def Turn.choice : Turn α ι → Option ι
  | .start _ => none
  | .next _ choice => some choice

/-- The point a turn goes on from. -/
def Sys.point (s : Sys σ κ) : Turn α ι → Option κ
  | .start _ => none
  | .next i _ => s.calls[i]?

/-- Call `i` goes on at the given point, or has ended. -/
def move (calls : List κ) (i : Nat) : Option κ → List κ
  | some k => calls.set i k
  | none => calls.eraseIdx i

def Program.step (p : Program σ κ α ι) (s : Sys σ κ) : Turn α ι → Sys σ κ
  | .start a => ⟨(p.start a s.shared).1, s.calls ++ (p.start a s.shared).2.toList⟩
  | .next i choice =>
    match s.calls[i]? with
    | none => s
    | some k => ⟨(p.next choice k s.shared).1, move s.calls i (p.next choice k s.shared).2⟩

/-- No call is under way. -/
def Sys.Quiescent (s : Sys σ κ) : Prop := s.calls = []

/-! ## 1. Weights -/

def weigh (f : κ → Nat) : Option κ → Nat
  | some k => f k
  | none => 0

/-- The weight of all calls under way. -/
def total (f : κ → Nat) (calls : List κ) : Nat := (calls.map f).sum

variable {f : κ → Nat} {calls : List κ} {i : Nat} {k k' : κ} {o : Option κ}

@[simp] theorem weigh_some : weigh f (some k) = f k := rfl

@[simp] theorem weigh_none : weigh f (none : Option κ) = 0 := rfl

@[simp] theorem total_nil : total f ([] : List κ) = 0 := rfl

/-- A call that starts brings its own weight. -/
theorem total_append (f : κ → Nat) (calls : List κ) (o : Option κ) :
    total f (calls ++ o.toList) = total f calls + weigh f o := by
  cases o <;> simp [total, weigh]

/-- A step exchanges the weight of one point for that of the next. -/
theorem total_move (f : κ → Nat) (h : calls[i]? = some k) (o : Option κ) :
    total f (move calls i o) + f k = total f calls + weigh f o := by
  induction calls generalizing i with
  | nil => simp at h
  | cons a calls ih =>
    cases i with
    | zero =>
      obtain rfl : a = k := by simpa using h
      cases o with
      | none => simp [move, total, weigh]; omega
      | some k' => simp [move, total, weigh]; omega
    | succ i =>
      have htail := ih (by simpa using h)
      cases o with
      | none => simp [move, total, weigh] at htail ⊢; omega
      | some k' => simp [move, total, weigh] at htail ⊢; omega

theorem total_add (f g : κ → Nat) (calls : List κ) :
    total (fun k => f k + g k) calls = total f calls + total g calls := by
  induction calls with
  | nil => rfl
  | cons k calls ih =>
    simp only [total, List.map_cons, List.sum_cons] at ih ⊢
    omega

/-- Weights that are at most one add up to at most the number of calls. -/
theorem total_le_length (hf : ∀ k, f k ≤ 1) (calls : List κ) : total f calls ≤ calls.length := by
  induction calls with
  | nil => exact Nat.le_refl 0
  | cons k calls ih =>
    have hk := hf k
    simp only [total, List.map_cons, List.sum_cons, List.length_cons] at ih ⊢
    omega

theorem le_total (f : κ → Nat) (h : calls[i]? = some k) : f k ≤ total f calls := by
  have hmove := total_move f h none
  rw [weigh_none] at hmove
  omega

theorem total_eq_zero (h : total f calls = 0) (hk : k ∈ calls) : f k = 0 := by
  rcases List.getElem?_of_mem hk with ⟨i, hi⟩
  have hle := le_total f hi
  omega

theorem total_mono {g : κ → Nat} (h : ∀ k, f k ≤ g k) (calls : List κ) :
    total f calls ≤ total g calls := by
  induction calls with
  | nil => exact Nat.le_refl 0
  | cons k calls ih =>
    have hk := h k
    simp only [total, List.map_cons, List.sum_cons] at ih ⊢
    omega

/-- Distinct calls among others weigh no more than the others do. -/
theorem total_le_of_subset (f : κ → Nat) {calls' : List κ} (hnodup : calls.Nodup)
    (h : calls ⊆ calls') : total f calls ≤ total f calls' := by
  obtain ⟨l, hperm, hsub⟩ := List.subperm_of_subset hnodup h
  have hsame : total f l = total f calls := (hperm.map f).sum_eq
  rw [← hsame]
  clear hperm hsame hnodup h
  induction hsub with
  | slnil => exact Nat.le_refl 0
  | cons k hsub ih =>
    simp only [total, List.map_cons, List.sum_cons] at ih ⊢
    omega
  | cons_cons k hsub ih =>
    simp only [total, List.map_cons, List.sum_cons] at ih ⊢
    omega

theorem total_of_forall_eq_zero (h : ∀ k ∈ calls, f k = 0) : total f calls = 0 := by
  induction calls with
  | nil => rfl
  | cons k calls ih =>
    have hrest := ih fun k hk => h k (List.mem_cons_of_mem _ hk)
    have hk := h k List.mem_cons_self
    simp only [total, List.map_cons, List.sum_cons] at hrest ⊢
    omega

/-- A call of a system that has moved was there before, or is the one that moved. -/
theorem mem_move (h : k' ∈ move calls i o) : k' ∈ calls ∨ o = some k' := by
  cases o with
  | none => exact .inl (List.mem_of_mem_eraseIdx h)
  | some k =>
    rcases List.mem_or_eq_of_mem_set h with hold | rfl
    · exact .inl hold
    · exact .inr rfl

theorem mem_start (h : k' ∈ calls ++ o.toList) : k' ∈ calls ∨ o = some k' := by
  rcases List.mem_append.mp h with hold | hnew
  · exact .inl hold
  · exact .inr (Option.mem_toList.mp hnew)

/-- Apart from the call that moved, a call of a system is where it was. -/
theorem mem_move_other (h : k' ∈ move calls i o) :
    o = some k' ∨ ∃ j, j ≠ i ∧ calls[j]? = some k' := by
  cases o with
  | none => exact .inr (List.mem_eraseIdx_iff_getElem?.mp h)
  | some k =>
    obtain ⟨j, hj⟩ := List.mem_iff_getElem?.mp h
    by_cases hi : j = i
    · subst hi
      rw [move, List.getElem?_set_self'] at hj
      obtain ⟨_, -, rfl⟩ := Option.map_eq_some_iff.mp hj
      exact .inl rfl
    · rw [move, List.getElem?_set_ne (Ne.symm hi)] at hj
      exact .inr ⟨j, hi, hj⟩

/-- Two calls weigh no more than all of them. -/
theorem add_le_total (f : κ → Nat) {j : Nat} (hi : calls[i]? = some k) (hj : calls[j]? = some k')
    (hne : j ≠ i) : f k + f k' ≤ total f calls := by
  have hmove := total_move f hi none
  have hrest : k' ∈ calls.eraseIdx i := List.mem_eraseIdx_iff_getElem?.mpr ⟨j, hne, hj⟩
  obtain ⟨l, hl⟩ := List.mem_iff_getElem?.mp hrest
  have hle : f k' ≤ total f (move calls i none) := le_total f hl
  rw [weigh_none] at hmove
  omega

/-! ## 2. Steps -/

variable {p : Program σ κ α ι} {s : Sys σ κ}

theorem step_next {choice : ι} (h : s.calls[i]? = some k) :
    p.step s (.next i choice) =
      ⟨(p.next choice k s.shared).1, move s.calls i (p.next choice k s.shared).2⟩ := by
  rw [Program.step, h]

theorem step_idle {choice : ι} (h : s.calls[i]? = none) : p.step s (.next i choice) = s := by
  rw [Program.step, h]

/-- The invariant rule: what starts and steps keep, every turn keeps. -/
theorem inv_step {Inv : Sys σ κ → Prop} (turn : Turn α ι)
    (hstart : ∀ a, turn = .start a → Inv (p.step s (.start a)))
    (hnext : ∀ i choice k, turn = .next i choice → s.calls[i]? = some k →
      Inv ⟨(p.next choice k s.shared).1, move s.calls i (p.next choice k s.shared).2⟩)
    (h : Inv s) : Inv (p.step s turn) := by
  cases turn with
  | start a => exact hstart a rfl
  | next i choice =>
    cases hk : s.calls[i]? with
    | none =>
      rw [step_idle hk]
      exact h
    | some k =>
      rw [step_next hk]
      exact hnext i choice k rfl hk

end Threads
