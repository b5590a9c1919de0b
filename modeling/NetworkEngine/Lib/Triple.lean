import NetworkEngine.Lib.Op

/-!
# Triple — pre- and postconditions of operations

`Triple pre x post epost`: run from a state of `pre`, `x` ends in a state of `post` when it returns
a value and in one of `epost` when it returns an error.  `Keeps inv x` is the case of one invariant
on all sides.  The rules follow the shape of the code, as those of `Safe` do for pure code.
-/

namespace Rust

variable {σ τ ε ε' α β ι : Type}

def Triple (pre : σ → Prop) (x : Op σ ε α) (post : α → σ → Prop) (epost : ε → σ → Prop) : Prop :=
  ∀ s, pre s →
    match exec x s with
    | (.ok a, s') => post a s'
    | (.error e, s') => epost e s'

/-- `x` keeps `inv`, whether it succeeds or fails. -/
def Keeps (inv : σ → Prop) (x : Op σ ε α) : Prop :=
  Triple inv x (fun _ => inv) (fun _ => inv)

namespace Triple

variable {pre : σ → Prop} {x : Op σ ε α} {post : α → σ → Prop} {epost : ε → σ → Prop}

/-- What the triple says of a run that returned a value. -/
theorem of_ok {s s' : σ} {a : α} (h : Triple pre x post epost) (hs : pre s)
    (hx : exec x s = (.ok a, s')) : post a s' := by
  have hrun := h s hs
  rw [hx] at hrun
  exact hrun

/-- What the triple says of a run that returned an error. -/
theorem of_error {s s' : σ} {e : ε} (h : Triple pre x post epost) (hs : pre s)
    (hx : exec x s = (.error e, s')) : epost e s' := by
  have hrun := h s hs
  rw [hx] at hrun
  exact hrun

/-- A run that cannot return a value returns the one error its postcondition allows. -/
theorem fst_eq_error {s : σ} {e₀ : ε} (h : Triple pre x (fun _ _ => False) epost) (hs : pre s)
    (he : ∀ e s, epost e s → e = e₀) : (exec x s).1 = .error e₀ := by
  have hrun := h s hs
  match hexec : exec x s with
  | (.ok a, s') =>
    rw [hexec] at hrun
    exact hrun.elim
  | (.error e, s') =>
    rw [hexec] at hrun
    rw [he e s' hrun]

theorem bind {mid : α → σ → Prop} {f : α → Op σ ε β} {post : β → σ → Prop}
    (hx : Triple pre x mid epost) (hf : ∀ a, Triple (mid a) (f a) post epost) :
    Triple pre (x >>= f) post epost := by
  intro s hs
  rw [exec_bind]
  have hrun := hx s hs
  match hexec : exec x s with
  | (.ok a, s') =>
    rw [hexec] at hrun
    exact hf a s' hrun
  | (.error e, s') =>
    rw [hexec] at hrun
    exact hrun

/-- The sequencing rule, with the assertion in between given. -/
theorem bind_with (mid : α → σ → Prop) {f : α → Op σ ε β} {post : β → σ → Prop}
    (hx : Triple pre x mid epost) (hf : ∀ a, Triple (mid a) (f a) post epost) :
    Triple pre (x >>= f) post epost :=
  bind hx hf

theorem pre_mono {pre' : σ → Prop} (h : Triple pre x post epost) (hpre : ∀ s, pre' s → pre s) :
    Triple pre' x post epost :=
  fun s hs => h s (hpre s hs)

theorem mono {post' : α → σ → Prop} {epost' : ε → σ → Prop} (h : Triple pre x post epost)
    (hpost : ∀ a s, post a s → post' a s) (hepost : ∀ e s, epost e s → epost' e s) :
    Triple pre x post' epost' := by
  intro s hs
  have hrun := h s hs
  match hexec : exec x s with
  | (.ok a, s') =>
    rw [hexec] at hrun
    exact hpost a s' hrun
  | (.error e, s') =>
    rw [hexec] at hrun
    exact hepost e s' hrun

theorem post_mono {post' : α → σ → Prop} (h : Triple pre x post epost)
    (hpost : ∀ a s, post a s → post' a s) : Triple pre x post' epost :=
  h.mono hpost fun _ _ he => he

theorem error_mono {epost' : ε → σ → Prop} (h : Triple pre x post epost)
    (hepost : ∀ e s, epost e s → epost' e s) : Triple pre x post epost' :=
  h.mono (fun _ _ ha => ha) hepost

/-- A fact that is not about the state may be assumed. -/
theorem of_fact {p : Prop} (h : p → Triple pre x post epost) :
    Triple (fun s => pre s ∧ p) x post epost :=
  fun s hs => h hs.2 s hs.1

/-- A fact that is not about the state is carried along. -/
theorem frame {p : Prop} (h : Triple pre x post epost) :
    Triple (fun s => pre s ∧ p) x (fun a s => post a s ∧ p) (fun e s => epost e s ∧ p) :=
  of_fact fun hp => h.mono (fun _ _ ha => ⟨ha, hp⟩) fun _ _ he => ⟨he, hp⟩

theorem pure {a : α} (h : ∀ s, pre s → post a s) : Triple pre (Pure.pure a : Op σ ε α) post epost :=
  h

theorem throw {e : ε} (h : ∀ s, pre s → epost e s) :
    Triple pre (MonadExcept.throw e : Op σ ε α) post epost := h

/-- Code behind a step that never returns a value is not reached. -/
theorem unreachable : Triple (fun _ => False) x post epost := fun _ hs => hs.elim

theorem getState {post : σ → σ → Prop} (h : ∀ s, pre s → post s s) :
    Triple pre (Rust.getState : Op σ ε σ) post epost := h

/-- The state that was read is the state the rest runs in. -/
theorem getState_bind {f : σ → Op σ ε β} {post : β → σ → Prop}
    (h : ∀ s, pre s → Triple (· = s) (f s) post epost) :
    Triple pre (Rust.getState >>= f) post epost := by
  intro s hs
  rw [exec_bind_ok (exec_getState s)]
  exact h s hs s rfl

theorem modifyState {f : σ → σ} {post : Unit → σ → Prop} (h : ∀ s, pre s → post () (f s)) :
    Triple pre (Rust.modifyState f : Op σ ε Unit) post epost := h

/-- An operation on a part of the state. -/
theorem zoom {get : τ → σ} {set : τ → σ → τ} (hget : ∀ t s, get (set t s) = s)
    (h : Triple pre x post epost) :
    Triple (fun t => pre (get t)) (Rust.zoom get set x) (fun a t => post a (get t))
      (fun e t => epost e (get t)) := by
  intro t ht
  have hrun := h (get t) ht
  rw [exec_zoom]
  match hexec : exec x (get t) with
  | (.ok a, s') | (.error e, s') =>
    rw [hexec] at hrun
    simp only [hget]
    exact hrun

theorem attempt {epost' : ε' → σ → Prop} (h : Triple pre x post epost) :
    Triple pre (Rust.attempt x : Op σ ε' (Except ε α))
      (fun r s => match r with | .ok a => post a s | .error e => epost e s) epost' := by
  intro s hs
  have hrun := h s hs
  rw [exec_attempt]
  match hexec : exec x s with
  | (.ok a, s') | (.error e, s') =>
    rw [hexec] at hrun
    exact hrun

theorem ite {c : Prop} [Decidable c] {y : Op σ ε α} (hx : c → Triple pre x post epost)
    (hy : ¬ c → Triple pre y post epost) : Triple pre (if c then x else y) post epost := by
  split
  · rename_i hc
    exact hx hc
  · rename_i hc
    exact hy hc

/-- An early return. -/
theorem reject {c : Prop} [Decidable c] {e : ε} {f : β → Op σ ε α}
    (he : c → ∀ s, pre s → epost e s) (hx : ¬ c → Triple pre x post epost) :
    Triple pre (if c then MonadExcept.throw e >>= f else x) post epost :=
  ite (fun hc => bind (throw (he hc)) fun _ => unreachable) hx

/-- What is known of the one run from `s`. -/
theorem of_exec {s s' : σ} {r : Except ε α} (hexec : exec x s = (r, s'))
    (h : match r with | .ok a => post a s' | .error e => epost e s') :
    Triple (· = s) x post epost := by
  rintro _ rfl
  rw [hexec]
  cases r <;> exact h

end Triple

namespace Keeps

variable {inv : σ → Prop} {x : Op σ ε α}

theorem run (h : Keeps inv x) {s : σ} (hs : inv s) : inv (exec x s).2 := by
  have hrun := h s hs
  match hexec : exec x s with
  | (.ok a, s') =>
    rw [hexec] at hrun
    exact hrun
  | (.error e, s') =>
    rw [hexec] at hrun
    exact hrun

theorem of_run (h : ∀ s, inv s → inv (exec x s).2) : Keeps inv x := by
  intro s hs
  have hrun := h s hs
  match hexec : exec x s with
  | (.ok a, s') | (.error e, s') =>
    rw [hexec] at hrun
    exact hrun

theorem bind {f : α → Op σ ε β} (hx : Keeps inv x) (hf : ∀ a, Keeps inv (f a)) :
    Keeps inv (x >>= f) :=
  Triple.bind hx hf

theorem pure {a : α} : Keeps inv (Pure.pure a : Op σ ε α) := fun _ hs => hs

theorem throw {e : ε} : Keeps inv (MonadExcept.throw e : Op σ ε α) := fun _ hs => hs

theorem ite {c : Prop} [Decidable c] {y : Op σ ε α} (hx : Keeps inv x) (hy : Keeps inv y) :
    Keeps inv (if c then x else y) := by
  split
  · exact hx
  · exact hy

theorem ofResult {r : Except ε α} : Keeps inv (Rust.ofResult r : Op σ ε α) := of_run fun _ hs => hs

theorem getState : Keeps inv (Rust.getState : Op σ ε σ) := fun _ hs => hs

theorem modifyState {f : σ → σ} (h : ∀ s, inv s → inv (f s)) :
    Keeps inv (Rust.modifyState f : Op σ ε Unit) := h

/-- An attempt does not fail, so that any error postcondition will do. -/
theorem attempt {epost : ε' → σ → Prop} (h : Keeps inv x) :
    Triple inv (Rust.attempt x : Op σ ε' (Except ε α)) (fun _ => inv) epost :=
  fun _ hs => h.run hs

theorem mapErr {f : ε → ε'} (h : Keeps inv x) : Keeps inv (Rust.mapErr f x) :=
  of_run fun _ hs => h.run hs

/-- An operation on a part of the state keeps what does not look at that part. -/
theorem zoom {get : τ → σ} {set : τ → σ → τ} {inv : τ → Prop} {x : Op σ ε α}
    (h : ∀ t s, inv t → inv (set t s)) : Keeps inv (Rust.zoom get set x) :=
  of_run fun t ht => h t _ ht

/-- A loop keeps what each of its rounds keeps. -/
theorem foldlM {f : β → ι → Op σ ε β} {l : List ι} (h : ∀ b, ∀ i ∈ l, Keeps inv (f b i)) (b : β) :
    Keeps inv (l.foldlM f b) := by
  induction l generalizing b with
  | nil => exact Keeps.pure
  | cons i l ih =>
    rw [List.foldlM_cons]
    exact (h b i List.mem_cons_self).bind
      fun b' => ih (fun b j hj => h b j (List.mem_cons_of_mem _ hj)) b'

end Keeps

section AnyRound

variable {inv : σ → Prop} {epost : ε → σ → Prop} {f : ι → Op σ ε Bool} {i₀ : ι}
  (hround : ∀ i, Triple (fun _ => True) (f i) (fun _ _ => True) epost)
  (hothers : ∀ i ≠ i₀, Triple inv (f i) (fun _ => inv) epost)
  (hi₀ : Triple inv (f i₀) (fun r _ => r = true) epost)

include hround hothers hi₀

theorem Triple.foldlM_any_from (l : List ι) (b : Bool) :
    Triple (fun s => b = true ∨ inv s ∧ i₀ ∈ l)
      (l.foldlM (fun b i => do return b || (← f i)) b) (fun r _ => r = true) epost := by
  induction l generalizing b with
  | nil =>
    refine Triple.pure ?_
    rintro s (hb | ⟨-, hmem⟩)
    · exact hb
    · exact absurd hmem List.not_mem_nil
  | cons i l ih =>
    rw [List.foldlM_cons, bind_assoc]
    rintro s (rfl | ⟨hs, hmem⟩)
    · refine Triple.bind (hround i) (fun r => ?_) s trivial
      exact Triple.pre_mono (ih true) fun _ _ => .inl rfl
    · by_cases hi : i = i₀
      · subst hi
        refine Triple.bind hi₀ (fun r => ?_) s hs
        refine (ih (b || r)).pre_mono ?_
        rintro s rfl
        exact .inl (Bool.or_true b)
      · refine Triple.bind (hothers i hi) (fun r => ?_) s hs
        refine (ih (b || r)).pre_mono fun s hs => .inr ⟨hs, ?_⟩
        exact (List.mem_cons.mp hmem).resolve_left fun h => hi h.symm

/-- A loop that collects whether some round answered `true`: it did when the round of `i₀` does
and the rounds before it keep what that rests on. -/
theorem Triple.foldlM_any {l : List ι} (hmem : i₀ ∈ l) :
    Triple inv (l.foldlM (fun b i => do return b || (← f i)) false) (fun r _ => r = true) epost :=
  (Triple.foldlM_any_from hround hothers hi₀ l false).pre_mono fun _ hs => .inr ⟨hs, hmem⟩

end AnyRound

end Rust
