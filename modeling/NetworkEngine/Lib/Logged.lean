import NetworkEngine.Lib.Triple

/-!
# Logged — operations that keep a log

An operation on an object may write entries to a log beside it.  It erases to an operation on the
object alone when it answers the same and leaves the same object behind, whatever the log is.
-/

namespace Rust

variable {σ ι ε ε' α β : Type}

/-- An object next to the entries written so far. -/
abbrev Logged (σ ι : Type) := σ × List ι

def onObject (x : Op σ ε α) : Op (Logged σ ι) ε α := zoom Prod.fst (fun t s => (s, t.2)) x

def write (entry : ι) : Op (Logged σ ι) ε Unit := modifyState fun t => (t.1, t.2 ++ [entry])

def Erases (x : Op (Logged σ ι) ε α) (y : Op σ ε α) : Prop :=
  ∀ t, ((exec x t).1, (exec x t).2.1) = exec y t.1

namespace Erases

variable {x x' : Op (Logged σ ι) ε α} {y y' : Op σ ε α}

theorem onObject (y : Op σ ε α) : Erases (Rust.onObject y : Op (Logged σ ι) ε α) y :=
  fun _ => rfl

theorem ofResult (r : Except ε α) :
    Erases (Rust.ofResult r : Op (Logged σ ι) ε α) (Rust.ofResult r) := fun _ => rfl

theorem throw (e : ε) :
    Erases (MonadExcept.throw e : Op (Logged σ ι) ε α) (MonadExcept.throw e) := fun _ => rfl

theorem pure (a : α) : Erases (Pure.pure a : Op (Logged σ ι) ε α) (Pure.pure a) := fun _ => rfl

theorem attempt (hx : Erases x y) :
    Erases (Rust.attempt x : Op (Logged σ ι) ε' (Except ε α)) (Rust.attempt y) := by
  intro t
  rw [exec_attempt, exec_attempt, ← hx t]

theorem bind {f : α → Op (Logged σ ι) ε β} {g : α → Op σ ε β} (hx : Erases x y)
    (hf : ∀ a, Erases (f a) (g a)) : Erases (x >>= f) (y >>= g) := by
  intro t
  have hrun := hx t
  rw [exec_bind, exec_bind]
  rcases hexec : exec x t with ⟨e | a, t'⟩
  · rw [hexec] at hrun
    rw [← hrun]
  · rw [hexec] at hrun
    rw [← hrun]
    exact hf a t'

/-- An entry is written on the way. -/
theorem write_bind (entry : ι) {f : Unit → Op (Logged σ ι) ε β} {y : Op σ ε β}
    (hf : Erases (f ()) y) : Erases (write entry >>= f) y := by
  intro t
  have hwrite : exec (write entry : Op (Logged σ ι) ε Unit) t =
      (.ok (), (t.1, t.2 ++ [entry])) := rfl
  rw [exec_bind_ok hwrite]
  exact hf (t.1, t.2 ++ [entry])

theorem ite {c : Prop} [Decidable c] (hx : Erases x y) (hx' : Erases x' y') :
    Erases (if c then x else x') (if c then y else y') := by
  split
  · exact hx
  · exact hx'

theorem mapErr {f : ε → ε'} (hx : Erases x y) : Erases (Rust.mapErr f x) (Rust.mapErr f y) := by
  intro t
  rw [exec_mapErr, exec_mapErr, ← hx t]

/-! ### Results alone -/

variable {r r' : Except ε α}

theorem ite_ofResult {c : Prop} [Decidable c] (hx : Erases x (Rust.ofResult r))
    (hx' : Erases x' (Rust.ofResult r')) :
    Erases (if c then x else x') (Rust.ofResult (if c then r else r')) := by
  split
  · exact hx
  · exact hx'

theorem pure_ofResult (a : α) :
    Erases (Pure.pure a : Op (Logged σ ι) ε α) (Rust.ofResult (Pure.pure a)) := fun _ => rfl

theorem throw_ofResult (e : ε) :
    Erases (MonadExcept.throw e : Op (Logged σ ι) ε α) (Rust.ofResult (MonadExcept.throw e)) :=
  fun _ => rfl

/-- `return Err(e)` in front of the rest. -/
theorem throw_bind (e : ε) {f : α → Op (Logged σ ι) ε β} {g : α → Except ε β} :
    Erases (MonadExcept.throw e >>= f) (Rust.ofResult (MonadExcept.throw e >>= g)) := fun _ => rfl

/-- The rest of a computation that touches nothing. -/
theorem bind_ofResult {f : α → Op (Logged σ ι) ε β} {r : Except ε α} {g : α → Except ε β}
    (hf : ∀ a, Erases (f a) (Rust.ofResult (g a))) :
    Erases (Rust.ofResult r >>= f) (Rust.ofResult (r >>= g)) := by
  intro t
  cases r with
  | error e => rfl
  | ok a => exact hf a t

end Erases

/-- Only such entries are written. -/
def Writes (P : ι → Prop) (x : Op (Logged σ ι) ε α) : Prop :=
  Keeps (fun t => ∀ entry ∈ t.2, P entry) x

namespace Writes

variable {P : ι → Prop}

theorem onObject (y : Op σ ε α) : Writes P (Rust.onObject y) := Keeps.of_run fun _ ht => ht

theorem throw_bind (e : ε) {f : α → Op (Logged σ ι) ε β} :
    Writes P (MonadExcept.throw e >>= f) := fun _ ht => ht

theorem write {entry : ι} (h : P entry) : Writes P (Rust.write entry : Op (Logged σ ι) ε Unit) := by
  apply Keeps.modifyState
  intro t ht entry' hmem
  obtain hmem | hmem := List.mem_append.mp hmem
  · exact ht entry' hmem
  · rw [List.mem_singleton.mp hmem]
    exact h

end Writes

/-! ## Triples -/

section Triples

variable {pre : Logged σ ι → Prop} {post : α → Logged σ ι → Prop} {epost : ε → Logged σ ι → Prop}

/-- The object that was read is the object the rest runs on. -/
theorem Triple.readObject_bind {f : σ → Op (Logged σ ι) ε α}
    (h : ∀ s, Triple (fun t => pre t ∧ t.1 = s) (f s) post epost) :
    Triple pre (onObject Rust.getState >>= f) post epost := by
  intro t ht
  have hread : exec (onObject Rust.getState : Op (Logged σ ι) ε σ) t = (.ok t.1, t) := rfl
  rw [exec_bind_ok hread]
  exact h t.1 t ⟨ht, rfl⟩

theorem Triple.updateObject {f : σ → σ} {post : Unit → Logged σ ι → Prop}
    (h : ∀ t, pre t → post () (f t.1, t.2)) :
    Triple pre (onObject (Rust.modifyState f)) post epost := h

theorem Triple.write {entry : ι} {post : Unit → Logged σ ι → Prop}
    (h : ∀ t, pre t → post () (t.1, t.2 ++ [entry])) :
    Triple pre (Rust.write entry) post epost := h

end Triples

end Rust
