import Mathlib.Logic.Function.Basic
import NetworkEngine.Lib.Transition

/-!
# Monitor — an object behind one mutex, with waiting callers

A method of the object is one section under the lock.  A section that finds nothing to do waits on a
condition variable, gives the lock back and is run again when the caller is woken; a caller may be
woken at any time, spuriously or not.  Clients are interleaved at their sections.  Every call takes
effect in its last section, so that the completed calls, in the order of these sections, are a
sequential run of the object.
-/

namespace Monitor

open Transition

variable {σ κ ρ : Type}

abbrev ClientId := Nat

/-- The section of a call: `none` is a caller that waits. -/
abbrev Body (σ κ ρ : Type) := κ → σ → Option (ρ × σ)

structure Sys (σ κ ρ : Type) where
  object : σ
  /-- The calls that wait, by client. -/
  waiting : ClientId → Option κ
  /-- The completed calls with what they returned, in the order of their last sections. -/
  history : List (κ × ρ)

inductive Turn (κ : Type) where
  | call (k : κ)
  | wake
  deriving DecidableEq, Repr

namespace Sys

def new (object : σ) : Sys σ κ ρ := ⟨object, fun _ => none, []⟩

/-- The call whose section a turn of a client runs.  A client that waits calls nothing else. -/
def entered (s : Sys σ κ ρ) (input : ClientId × Turn κ) : Option κ :=
  match s.waiting input.1, input.2 with
  | none, .call k => some k
  | some k, .wake => some k
  | none, .wake => none
  | some _, .call _ => none

variable (body : Body σ κ ρ)

/-- One section of a call of client `c`. -/
def runSection (s : Sys σ κ ρ) (c : ClientId) (k : κ) : Sys σ κ ρ :=
  match body k s.object with
  | none => { s with waiting := Function.update s.waiting c (some k) }
  | some (r, object) =>
    ⟨object, Function.update s.waiting c none, s.history ++ [(k, r)]⟩

def step (s : Sys σ κ ρ) (input : ClientId × Turn κ) : Sys σ κ ρ :=
  match s.entered input with
  | none => s
  | some k => s.runSection body input.1 k

/-- What a turn returns to its client. -/
def returned (s : Sys σ κ ρ) (input : ClientId × Turn κ) : Option ρ :=
  (s.entered input).bind fun k => (body k s.object).map Prod.fst

end Sys

open Sys

variable {body : Body σ κ ρ} {s : Sys σ κ ρ} {input : ClientId × Turn κ}

/-- A turn leaves object and history alone, or completes one call. -/
theorem step_cases (s : Sys σ κ ρ) (input : ClientId × Turn κ) :
    ((s.step body input).object = s.object ∧ (s.step body input).history = s.history ∧
      s.returned body input = none) ∨
    ∃ k r, s.entered input = some k ∧ body k s.object = some (r, (s.step body input).object) ∧
      (s.step body input).history = s.history ++ [(k, r)] ∧ s.returned body input = some r := by
  unfold Sys.step Sys.returned
  cases hentered : s.entered input with
  | none => exact .inl ⟨rfl, rfl, rfl⟩
  | some k =>
    dsimp only
    unfold Sys.runSection
    cases hbody : body k s.object with
    | none =>
      left
      simp [hbody]
    | some result =>
      right
      exact ⟨k, result.1, rfl, by simp [hbody], by simp, by simp [hbody]⟩

/-- A call of a client that does not wait. -/
theorem returned_call {c : ClientId} (h : s.waiting c = none) (k : κ) :
    s.returned body (c, .call k) = (body k s.object).map Prod.fst := by
  rw [Sys.returned, Sys.entered, h]
  rfl

theorem step_call {c : ClientId} {k : κ} {r : ρ} {t : σ} (h : s.waiting c = none)
    (hbody : body k s.object = some (r, t)) :
    s.step body (c, .call k) =
      ⟨t, Function.update s.waiting c none, s.history ++ [(k, r)]⟩ := by
  rw [Sys.step, Sys.entered, h]
  dsimp only
  rw [Sys.runSection, hbody]

/-- What every section keeps of object and history holds after every turn. -/
theorem inv_step {I : σ → List (κ × ρ) → Prop}
    (hbody : ∀ k r t t' h, I t h → body k t = some (r, t') → I t' (h ++ [(k, r)]))
    (hs : I s.object s.history) :
    I (s.step body input).object (s.step body input).history := by
  rcases @step_cases _ _ _ body s input with hsame | hcall
  · rw [hsame.1, hsame.2.1]
    exact hs
  · rcases hcall with ⟨k, r, -, hrun, hhistory, -⟩
    rw [hhistory]
    exact hbody k r _ _ _ hs hrun

/-! ## Sequential histories -/

/-- The calls return what the history says when they are made one after the other. -/
def Replays (body : Body σ κ ρ) : σ → List (κ × ρ) → σ → Prop
  | t, [], t' => t = t'
  | t, (k, r) :: history, t' => ∃ next, body k t = some (r, next) ∧ Replays body next history t'

theorem Replays.concat {t t' t'' : σ} {history : List (κ × ρ)} {k : κ} {r : ρ}
    (h : Replays body t history t') (hlast : body k t' = some (r, t'')) :
    Replays body t (history ++ [(k, r)]) t'' := by
  induction history generalizing t with
  | nil =>
    obtain rfl : t = t' := h
    exact ⟨t'', hlast, rfl⟩
  | cons entry history ih =>
    rcases h with ⟨next, hfirst, hrest⟩
    exact ⟨next, hfirst, ih hrest⟩

/-- Every run of the clients is a sequential run of the object. -/
theorem replays_run (object : σ) (turns : List (ClientId × Turn κ)) :
    Replays body object (run (Sys.step body) (Sys.new object) turns).history
      (run (Sys.step body) (Sys.new object) turns).object := by
  let Inv (s : Sys σ κ ρ) : Prop := Replays body object s.history s.object
  have hstep (s : Sys σ κ ρ) (input : ClientId × Turn κ) (hs : Inv s) : Inv (s.step body input) :=
    inv_step (I := fun t history => Replays body object history t) (fun k r t t' history h hrun => Replays.concat h hrun) hs
  have hstart : Inv (Sys.new object) := rfl
  exact run_inv hstep hstart turns

end Monitor
