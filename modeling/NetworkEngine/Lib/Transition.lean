import Mathlib.Data.List.Basic
import Mathlib.Data.List.Induction

/-!
# Transition — runs of a deterministic system

A system is a step function on states, driven by a list of inputs; what the environment decides
(the outcome of a native call, the next client to run) is part of the input.  `Along` speaks about
every step of a run in the state the step is taken in, `latest` about the last one that tells
something.  The rules turn a step lemma into a run lemma, and an invariant into an equivalence
between two properties of a run's steps.
-/

namespace Transition

variable {σ ι : Type} (step : σ → ι → σ)

/-- The state a run ends in. -/
def run (s : σ) (inputs : List ι) : σ := inputs.foldl step s

@[simp] theorem run_nil (s : σ) : run step s [] = s := rfl

@[simp] theorem run_cons (s : σ) (i : ι) (inputs : List ι) :
    run step s (i :: inputs) = run step (step s i) inputs := rfl

/-- The states a run passes through, the first and the last included. -/
def trace (s : σ) : List ι → List σ
  | [] => [s]
  | i :: inputs => s :: trace (step s i) inputs

/-- `P` holds of every step of the run, in the state the step is taken in. -/
def Along (P : σ → ι → Prop) (s : σ) (inputs : List ι) : Prop :=
  ∀ before i after, inputs = before ++ i :: after → P (run step s before) i

/-- `I` holds of every state the run passes through, the first and the last included. -/
def Always (I : σ → Prop) (s : σ) (inputs : List ι) : Prop :=
  ∀ before after, inputs = before ++ after → I (run step s before)

/-- Between any two occurrences of the event `E` in the run there is a renewal `R`. -/
def Once (E R : σ → ι → Prop) (s : σ) (inputs : List ι) : Prop :=
  ∀ before i mid j after, inputs = before ++ i :: (mid ++ j :: after) → E (run step s before) i →
    E (run step s (before ++ i :: mid)) j →
    ∃ b r a, mid = b ++ r :: a ∧ R (run step s (before ++ i :: b)) r

/-- The last value that `f` reads off a step of the run. -/
def latest {β : Type} (f : σ → ι → Option β) (s : σ) : List ι → Option β
  | [] => none
  | i :: inputs => (latest f (step s i) inputs).or (f s i)

variable {step} {P Q : σ → ι → Prop} {Inv : σ → Prop} {s : σ} {i : ι} {inputs : List ι}

theorem run_append (before after : List ι) :
    run step s (before ++ after) = run step (run step s before) after :=
  List.foldl_append ..

theorem trace_concat (inputs : List ι) (i : ι) :
    trace step s (inputs ++ [i]) = trace step s inputs ++ [step (run step s inputs) i] := by
  induction inputs generalizing s with
  | nil => rfl
  | cons j inputs ih => exact congrArg (s :: ·) ih

theorem along_nil : Along step P s [] := by
  intro before i after h
  simp at h

theorem along_cons : Along step P s (i :: inputs) ↔ P s i ∧ Along step P (step s i) inputs := by
  constructor
  · intro h
    refine ⟨h [] i inputs rfl, fun before j after hsplit => ?_⟩
    exact h (i :: before) j after (by rw [hsplit]; rfl)
  · rintro ⟨hhead, htail⟩ before j after hsplit
    cases before with
    | nil =>
      obtain ⟨rfl, -⟩ := List.cons.inj hsplit
      exact hhead
    | cons k before =>
      obtain ⟨rfl, hrest⟩ := List.cons.inj hsplit
      exact htail before j after hrest

instance along_decidable [∀ s i, Decidable (P s i)] :
    ∀ (s : σ) (inputs : List ι), Decidable (Along step P s inputs)
  | _, [] => isTrue along_nil
  | s, i :: inputs =>
    have := along_decidable (step s i) inputs
    decidable_of_iff (P s i ∧ Along step P (step s i) inputs) along_cons.symm

theorem Along.concat (h : Along step P s inputs) (hlast : P (run step s inputs) i) :
    Along step P s (inputs ++ [i]) := by
  induction inputs generalizing s with
  | nil => exact along_cons.mpr ⟨hlast, along_nil⟩
  | cons j inputs ih =>
    have hcons := along_cons.mp h
    exact along_cons.mpr ⟨hcons.1, ih hcons.2 hlast⟩

theorem along_concat :
    Along step P s (inputs ++ [i]) ↔ Along step P s inputs ∧ P (run step s inputs) i := by
  constructor
  · intro h
    refine ⟨fun before j after hsplit => ?_, h inputs i [] rfl⟩
    refine h before j (after ++ [i]) ?_
    rw [hsplit, List.append_assoc, List.cons_append]
  · exact fun h => h.1.concat h.2

theorem along_and :
    Along step (fun s i => P s i ∧ Q s i) s inputs ↔
      Along step P s inputs ∧ Along step Q s inputs :=
  ⟨fun h => ⟨fun b i a hsplit => (h b i a hsplit).1, fun b i a hsplit => (h b i a hsplit).2⟩,
    fun h b i a hsplit => ⟨h.1 b i a hsplit, h.2 b i a hsplit⟩⟩

theorem always_cons {I : σ → Prop} :
    Always step I s (i :: inputs) ↔ I s ∧ Always step I (step s i) inputs := by
  constructor
  · intro h
    refine ⟨h [] _ rfl, fun before after hsplit => ?_⟩
    exact h (i :: before) after (by rw [hsplit]; rfl)
  · rintro ⟨hhead, htail⟩ before after hsplit
    cases before with
    | nil => exact hhead
    | cons j before =>
      obtain ⟨rfl, hrest⟩ := List.cons.inj hsplit
      exact htail before after hrest

/-- A run stays in `I` when it starts there and every step ends there. -/
theorem always_iff {I : σ → Prop} :
    Always step I s inputs ↔ I s ∧ Along step (fun s i => I (step s i)) s inputs := by
  induction inputs generalizing s with
  | nil =>
    constructor
    · exact fun h => ⟨h [] [] rfl, along_nil⟩
    · rintro ⟨h, -⟩ before after hsplit
      rw [(List.append_eq_nil_iff.mp hsplit.symm).1]
      exact h
  | cons i inputs ih => rw [always_cons, along_cons, ih]

/-- The invariant rule: what every step keeps holds at the end of every run. -/
theorem run_inv (hstep : ∀ s i, Inv s → Inv (step s i)) (h : Inv s) (inputs : List ι) :
    Inv (run step s inputs) := by
  induction inputs generalizing s with
  | nil => exact h
  | cons i inputs ih => exact ih (hstep s i h)

/-- The invariant rule for runs whose steps meet a condition. -/
theorem run_inv_of_along (hstep : ∀ s i, Inv s → P s i → Inv (step s i)) (h : Inv s)
    (hrun : Along step P s inputs) : Inv (run step s inputs) := by
  induction inputs generalizing s with
  | nil => exact h
  | cons i inputs ih =>
    obtain ⟨hhead, htail⟩ := along_cons.mp hrun
    exact ih (hstep s i h hhead) htail

/-- The invariant holds in every state of such a run. -/
theorem always_of_along (hstep : ∀ s i, Inv s → P s i → Inv (step s i)) (h : Inv s)
    (hrun : Along step P s inputs) : Always step Inv s inputs := by
  intro before after hsplit
  refine run_inv_of_along hstep h fun b i a hbefore => hrun b i (a ++ after) ?_
  rw [hsplit, hbefore, List.append_assoc, List.cons_append]

section Latest

variable {β : Type} {f : σ → ι → Option β} {read : σ → Option β}

theorem latest_concat (inputs : List ι) (i : ι) :
    latest step f s (inputs ++ [i]) = (f (run step s inputs) i).or (latest step f s inputs) := by
  induction inputs generalizing s with
  | nil => exact Option.or_none.symm
  | cons j inputs ih =>
    show (latest step f (step s j) (inputs ++ [i])).or (f s j) = _
    rw [ih, Option.or_assoc]
    rfl

/-- What a state shows is what was last read, when each step shows what is read off it or else what
was shown before. -/
theorem latest_of_read
    (hstep : ∀ s i b, read (step s i) = some b → f s i = some b ∨ f s i = none ∧ read s = some b)
    (hstart : read s = none) (inputs : List ι) {b : β} (h : read (run step s inputs) = some b) :
    latest step f s inputs = some b := by
  induction inputs using List.reverseRecOn generalizing b with
  | nil => exact absurd (hstart.symm.trans h) (Option.some_ne_none b).symm
  | append_singleton inputs i ih =>
    rw [run_append] at h
    rw [latest_concat]
    obtain hread | ⟨hnone, hbefore⟩ := hstep _ i b h
    · rw [hread]
      rfl
    · rw [hnone, ih hbefore]
      rfl

end Latest

/-- An event that switches itself off, until a renewal. -/
theorem once_of_off {E R : σ → ι → Prop} (Off : σ → Prop)
    (hinv : ∀ s i, Inv s → Inv (step s i)) (hevent : ∀ s i, Inv s → E s i → Off (step s i))
    (hkeep : ∀ s i, Inv s → Off s → ¬ R s i → Off (step s i))
    (hoff : ∀ s i, Inv s → Off s → ¬ E s i) (h : Inv s) (inputs : List ι) :
    Once step E R s inputs := by
  intro before i mid j after _ hfirst hsecond
  by_contra hnone
  rw [run_append, run_cons] at hsecond
  have hstart := run_inv hinv h before
  -- Without a renewal the event stays switched off through `mid`.
  have halong : Along step (fun s r => ¬ R s r) (step (run step s before) i) mid := by
    intro b r a hsplit hrenew
    apply hnone
    refine ⟨b, r, a, hsplit, ?_⟩
    rw [run_append, run_cons]
    exact hrenew
  have hstep (s : σ) (r : ι) (hs : Inv s ∧ Off s) (hr : ¬ R s r) :
      Inv (step s r) ∧ Off (step s r) :=
    ⟨hinv s r hs.1, hkeep s r hs.1 hs.2 hr⟩
  have hend := run_inv_of_along hstep ⟨hinv _ _ hstart, hevent _ _ hstart hfirst⟩ halong
  exact hoff _ _ hend.1 hend.2 hsecond

/-- Two properties that agree on every step from a state of the invariant agree on runs, provided
steps with the first keep the invariant. -/
theorem along_iff (Inv : σ → Prop) (hstep : ∀ s i, Inv s → P s i → Inv (step s i))
    (hiff : ∀ s i, Inv s → (P s i ↔ Q s i)) (h : Inv s) (inputs : List ι) :
    Along step P s inputs ↔ Along step Q s inputs := by
  induction inputs generalizing s with
  | nil => exact iff_of_true along_nil along_nil
  | cons i inputs ih =>
    rw [along_cons, along_cons, ← hiff s i h]
    constructor
    · rintro ⟨hhead, htail⟩
      exact ⟨hhead, (ih (hstep s i h hhead)).mp htail⟩
    · rintro ⟨hhead, htail⟩
      exact ⟨hhead, (ih (hstep s i h hhead)).mpr htail⟩

/-- A run stays in `I` exactly when its steps meet a condition: such steps keep an invariant that
gives `I`, and the others leave `I` at once. -/
theorem always_iff_along {I : σ → Prop} (Inv : σ → Prop) (hinv : ∀ s, Inv s → I s)
    (hstep : ∀ s i, Inv s → P s i → Inv (step s i))
    (hlost : ∀ s i, Inv s → ¬ P s i → ¬ I (step s i)) (h : Inv s) (inputs : List ι) :
    Always step I s inputs ↔ Along step P s inputs := by
  rw [always_iff, and_iff_right (hinv s h)]
  symm
  apply along_iff Inv hstep _ h
  intro s i hs
  constructor
  · exact fun hp => hinv _ (hstep s i hs hp)
  · intro hnext
    by_contra hp
    exact hlost s i hs hp hnext

end Transition
