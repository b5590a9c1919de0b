import NetworkEngine.Lib.Transition

/-!
# Projection — what one part of a system makes of a run

A system answers its inputs.  A part of its state may follow from the inputs and their answers alone:
then a run of the system is, for this part, a run of its own over the exchanges.
-/

namespace Transition

variable {σ ι α π : Type} (step : σ → ι → σ) (answer : σ → ι → α)

/-- The inputs of a run with the answers that they are given. -/
def exchanges (s : σ) : List ι → List (ι × α)
  | [] => []
  | i :: inputs => (i, answer s i) :: exchanges (step s i) inputs

variable {step answer} {Inv : σ → Prop} (view : σ → π) {follow : π → ι × α → π} {s : σ}

theorem exchanges_append (before after : List ι) :
    exchanges step answer s (before ++ after) =
      exchanges step answer s before ++ exchanges step answer (run step s before) after := by
  induction before generalizing s with
  | nil => rfl
  | cons i before ih => exact congrArg (_ :: ·) ih

/-- The projection rule: a part that follows every exchange follows a run of them. -/
theorem view_run (hinv : ∀ s i, Inv s → Inv (step s i))
    (hview : ∀ s i, Inv s → view (step s i) = follow (view s) (i, answer s i)) (h : Inv s)
    (inputs : List ι) :
    view (run step s inputs) = (exchanges step answer s inputs).foldl follow (view s) := by
  induction inputs generalizing s with
  | nil => rfl
  | cons i inputs ih =>
    rw [run_cons, ih (hinv s i h), hview s i h]
    rfl

end Transition
