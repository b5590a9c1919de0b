import Mathlib.Data.List.Count
import NetworkEngine.Lib.Transition

/-!
# Slot — an object that keeps one native handle

A native interface hands out handles and takes them back; either may fail.  An object that keeps at
most one handle makes native calls when it is opened and when it is closed.  `Accounted` is the
balance of such an object: what was handed out is what was taken back and what is stored.  The rules
reduce it, over whole runs, to what each native close of the run answered.
-/

namespace Slot

open Transition

variable {H σ α β : Type}

/-! ## 1. Native calls and their balance -/

/-- A native call that handed out a handle, or was asked to take one back. -/
inductive Event (H : Type) where
  | opened (h : H)
  | closed (h : H) (ok : Bool)
  deriving DecidableEq, Repr

/-- Every close among the calls succeeded. -/
def ClosesSucceed (events : List (Event H)) : Prop := ∀ h ok, .closed h ok ∈ events → ok = true

/-- Each handle was handed out as often as it was closed successfully, once more if it is stored. -/
def Accounted [DecidableEq H] (slot : Option H) (log : List (Event H)) : Prop :=
  ∀ h, log.count (.opened h) = log.count (.closed h true) + slot.toList.count h

theorem accounted_nil [DecidableEq H] : Accounted (none : Option H) [] := fun _ => rfl

/-- What an open may do: refuse, store the handle it was given, or give it back at once. -/
inductive OpenMove : Option H → List (Event H) → Option H → Prop where
  | refused (slot : Option H) : OpenMove slot [] slot
  | stored (h : H) : OpenMove none [.opened h] (some h)
  | abandoned (h : H) (ok : Bool) : OpenMove none [.opened h, .closed h ok] none

/-- What a close may do: nothing, or take the handle out of the slot and try to close it. -/
inductive CloseMove : Option H → List (Event H) → Option H → Prop where
  | nothing (slot : Option H) : CloseMove slot [] slot
  | taken (h : H) (ok : Bool) : CloseMove (some h) [.closed h ok] none

/-- An open leaves a handle that is stored alone. -/
theorem OpenMove.of_some {h : H} {events : List (Event H)} {slot' : Option H}
    (hmove : OpenMove (some h) events slot') : slot' = some h ∧ events = [] := by
  cases hmove
  exact ⟨rfl, rfl⟩

theorem closesSucceed_nil : ClosesSucceed ([] : List (Event H)) := nofun

theorem closesSucceed_cons_opened {h : H} {events : List (Event H)} :
    ClosesSucceed (.opened h :: events) ↔ ClosesSucceed events := by
  simp [ClosesSucceed]

theorem closesSucceed_closed {h : H} {ok : Bool} :
    ClosesSucceed [.closed h ok] ↔ ok = true := by
  simp [ClosesSucceed]

section Moves

variable [DecidableEq H] {slot slot' : Option H} {events log : List (Event H)}

/-- An open keeps the balance unless it abandons a handle that does not close. -/
theorem OpenMove.accounted_iff (hmove : OpenMove slot events slot') (h : Accounted slot log) :
    Accounted slot' (log ++ events) ↔ ClosesSucceed events := by
  cases hmove with
  | refused =>
    rw [List.append_nil]
    exact iff_of_true h closesSucceed_nil
  | stored a =>
    refine iff_of_true (fun b => ?_) (closesSucceed_cons_opened.mpr closesSucceed_nil)
    have hb := h b
    simp [List.count_append, List.count_cons] at hb ⊢
    omega
  | abandoned a ok =>
    rw [closesSucceed_cons_opened, closesSucceed_closed]
    constructor
    · intro hafter
      have ha := h a
      have hafter := hafter a
      cases ok with
      | true => rfl
      | false =>
        simp [List.count_append] at ha hafter
        omega
    · rintro rfl b
      have hb := h b
      simp [List.count_append, List.count_cons] at hb ⊢
      omega

/-- A close keeps the balance unless the handle it takes does not close. -/
theorem CloseMove.accounted_iff (hmove : CloseMove slot events slot') (h : Accounted slot log) :
    Accounted slot' (log ++ events) ↔ ClosesSucceed events := by
  cases hmove with
  | nothing =>
    rw [List.append_nil]
    exact iff_of_true h closesSucceed_nil
  | taken a ok =>
    rw [closesSucceed_closed]
    constructor
    · intro hafter
      have ha := h a
      have hafter := hafter a
      cases ok with
      | true => rfl
      | false =>
        simp [List.count_append] at ha hafter
        omega
    · rintro rfl b
      have hb := h b
      simp [List.count_append, List.count_cons] at hb ⊢
      omega

end Moves

/-! ## 2. Objects with a slot -/

/-- An object with a slot for one handle.  An open and a close take the answers of the native calls
they may make, and return the calls they did make. -/
structure Machine (σ α β H : Type) where
  slot : σ → Option H
  opens : σ → α → σ × List (Event H)
  closes : σ → β → σ × List (Event H)

inductive Call (α β : Type) where
  | opening (answers : α)
  | closing (answers : β)
  deriving DecidableEq, Repr

namespace Machine

variable (m : Machine σ α β H)

def perform (s : σ) : Call α β → σ × List (Event H)
  | .opening a => m.opens s a
  | .closing b => m.closes s b

/-- A call on the object, next to the log of all native calls so far. -/
def step (t : σ × List (Event H)) (call : Call α β) : σ × List (Event H) :=
  ((m.perform t.1 call).1, t.2 ++ (m.perform t.1 call).2)

/-- No handle is forgotten in a run that starts in `s`. -/
structure Remembers [DecidableEq H] (s : σ) (calls : List (Call α β)) : Prop where
  accounted : Always m.step (fun t => Accounted (m.slot t.1) t.2) (s, []) calls
  /-- A handle whose close failed is the one that the next close tries again. -/
  retried : Along m.step (fun t call => ∀ b h, call = .closing b →
    .closed h false ∈ (m.closes t.1 b).2 →
      ∀ b', ∃ ok, .closed h ok ∈ (m.closes (m.closes t.1 b).1 b').2) (s, []) calls
  /-- An open does not touch a handle that is stored, nor ask for another. -/
  kept : Along m.step (fun t call => ∀ a h, call = .opening a → m.slot t.1 = some h →
    m.slot (m.opens t.1 a).1 = some h ∧ (m.opens t.1 a).2 = []) (s, []) calls

/-- Every native close that the calls of a run make succeeds. -/
def AllClose (s : σ) (calls : List (Call α β)) : Prop :=
  Along m.step (fun t call => ClosesSucceed (m.perform t.1 call).2) (s, []) calls

/-- The object does nothing with its handle but the moves, as long as `Inv` holds. -/
structure Disciplined (Inv : σ → Prop) : Prop where
  opens : ∀ s a, Inv s →
    Inv (m.opens s a).1 ∧ OpenMove (m.slot s) (m.opens s a).2 (m.slot (m.opens s a).1)
  closes : ∀ s b, Inv s →
    Inv (m.closes s b).1 ∧ CloseMove (m.slot s) (m.closes s b).2 (m.slot (m.closes s b).1)

variable {m} {Inv : σ → Prop} {s : σ}

theorem Disciplined.inv_step (hm : m.Disciplined Inv) (t : σ × List (Event H)) (call : Call α β)
    (ht : Inv t.1) : Inv (m.step t call).1 := by
  cases call with
  | opening a => exact (hm.opens t.1 a ht).1
  | closing b => exact (hm.closes t.1 b ht).1

theorem Disciplined.accounted_iff [DecidableEq H] (hm : m.Disciplined Inv)
    (t : σ × List (Event H)) (call : Call α β) (hinv : Inv t.1)
    (haccounted : Accounted (m.slot t.1) t.2) :
    Accounted (m.slot (m.step t call).1) (m.step t call).2 ↔
      ClosesSucceed (m.perform t.1 call).2 := by
  cases call with
  | opening a => exact (hm.opens t.1 a hinv).2.accounted_iff haccounted
  | closing b => exact (hm.closes t.1 b hinv).2.accounted_iff haccounted

/-- A disciplined object forgets nothing in a run exactly when every native close succeeds. -/
theorem Disciplined.remembers_iff [DecidableEq H] (hm : m.Disciplined Inv) (hs : Inv s)
    (hempty : m.slot s = none) (calls : List (Call α β)) :
    m.Remembers s calls ↔ m.AllClose s calls := by
  have hstart : Accounted (m.slot s) [] := by
    rw [hempty]
    exact accounted_nil
  have hbalance : Always m.step (fun t => Accounted (m.slot t.1) t.2) (s, []) calls ↔
      m.AllClose s calls := by
    -- What is carried along is the invariant of the object and the balance so far.
    apply always_iff_along fun t => Inv t.1 ∧ Accounted (m.slot t.1) t.2
    · exact fun t ht => ht.2
    · exact fun t call ht hcloses =>
        ⟨hm.inv_step t call ht.1, (hm.accounted_iff t call ht.1 ht.2).mpr hcloses⟩
    · exact fun t call ht => mt (hm.accounted_iff t call ht.1 ht.2).mp
    · exact ⟨hs, hstart⟩
  refine ⟨fun h => hbalance.mp h.accounted, fun h => ⟨hbalance.mpr h, ?_, ?_⟩⟩
  · -- No close of the run fails, so that none has to be tried again.
    rintro before call after hsplit b a rfl hfailed
    exact absurd (h before _ after hsplit a false hfailed) Bool.false_ne_true
  · rintro before call after hsplit b a rfl hstored
    have hinv : Inv (run m.step (s, []) before).1 :=
      run_inv hm.inv_step (show Inv (s, []).1 from hs) before
    have hmove := (hm.opens _ b hinv).2
    rw [hstored] at hmove
    exact hmove.of_some

end Machine

end Slot
