import Mathlib.Data.List.Basic

/-!
# Op — fallible operations on a mutable state

A Rust method on shared state that returns `Result<T, E>` may fail after it has changed the state.
`Op σ ε α` is such a method: `exec x s` is the result together with the state it leaves.  A
critical section that changes nothing when it fails is an `atomically`; a result that the caller
inspects or drops (`let _ = ..`) is an `attempt`.
-/

namespace Rust

variable {σ τ ε ε' α β : Type}

abbrev Op (σ ε α : Type) := ExceptT ε (StateM σ) α

/-- The result of `x` in state `s`, and the state it leaves. -/
def exec (x : Op σ ε α) (s : σ) : Except ε α × σ := x.run s

/-- A section that commits its new state when it succeeds and keeps the old one when it fails. -/
def atomically (f : σ → Except ε (α × σ)) : Op σ ε α := fun s =>
  match f s with
  | .ok (a, s') => (.ok a, s')
  | .error e => (.error e, s)

/-- The result of `x` as a value: nothing is propagated. -/
def attempt (x : Op σ ε α) : Op σ ε' (Except ε α) := fun s =>
  let r := exec x s
  (.ok r.1, r.2)

/-- `x.map_err(f)`. -/
def mapErr (f : ε → ε') (x : Op σ ε α) : Op σ ε' α := fun s =>
  let r := exec x s
  (r.1.mapError f, r.2)

/-- `x` on a part of the state. -/
def zoom (get : τ → σ) (set : τ → σ → τ) (x : Op σ ε α) : Op τ ε α := fun t =>
  let r := exec x (get t)
  (r.1, set t r.2)

/-- `Result` as an operation that touches nothing. -/
def ofResult (r : Except ε α) : Op σ ε α := fun s => (r, s)

def modifyState (f : σ → σ) : Op σ ε Unit := fun s => (.ok (), f s)

def getState : Op σ ε σ := fun s => (.ok s, s)

section Exec

variable (s : σ)

@[simp] theorem exec_pure (a : α) : exec (pure a : Op σ ε α) s = (.ok a, s) := rfl

@[simp] theorem exec_throw (e : ε) : exec (throw e : Op σ ε α) s = (.error e, s) := rfl

@[simp] theorem exec_ofResult (r : Except ε α) : exec (ofResult r : Op σ ε α) s = (r, s) := rfl

@[simp] theorem exec_modifyState (f : σ → σ) :
    exec (modifyState f : Op σ ε Unit) s = (.ok (), f s) := rfl

@[simp] theorem exec_getState : exec (getState : Op σ ε σ) s = (.ok s, s) := rfl

@[simp] theorem exec_attempt (x : Op σ ε α) :
    exec (attempt x : Op σ ε' (Except ε α)) s = (.ok (exec x s).1, (exec x s).2) := rfl

@[simp] theorem exec_mapErr (f : ε → ε') (x : Op σ ε α) :
    exec (mapErr f x) s = ((exec x s).1.mapError f, (exec x s).2) := rfl

@[simp] theorem exec_zoom (get : σ → τ) (set : σ → τ → σ) (x : Op τ ε α) :
    exec (zoom get set x) s = ((exec x (get s)).1, set s (exec x (get s)).2) := rfl

theorem exec_atomically (f : σ → Except ε (α × σ)) :
    exec (atomically f) s =
      match f s with
      | .ok (a, s') => (.ok a, s')
      | .error e => (.error e, s) := rfl

theorem exec_bind (x : Op σ ε α) (f : α → Op σ ε β) :
    exec (x >>= f) s =
      match exec x s with
      | (.ok a, s') => exec (f a) s'
      | (.error e, s') => (.error e, s') := by
  show ExceptT.bindCont f (exec x s).1 (exec x s).2 = _
  rcases exec x s with ⟨r | a, s'⟩ <;> rfl

/-- A value that is only mapped or dropped leaves the state as it is. -/
theorem exec_bind_pure_snd (x : Op σ ε α) (f : α → β) :
    (exec (x >>= fun a => pure (f a)) s).2 = (exec x s).2 := by
  rw [exec_bind]
  rcases exec x s with ⟨_ | _, s'⟩ <;> rfl

variable {s}

theorem exec_bind_ok {x : Op σ ε α} {f : α → Op σ ε β} {a : α} {s' : σ}
    (h : exec x s = (.ok a, s')) : exec (x >>= f) s = exec (f a) s' := by
  rw [exec_bind, h]

theorem exec_bind_error {x : Op σ ε α} {f : α → Op σ ε β} {e : ε} {s' : σ}
    (h : exec x s = (.error e, s')) : exec (x >>= f) s = (.error e, s') := by
  rw [exec_bind, h]

theorem exec_atomically_ok {f : σ → Except ε (α × σ)} {a : α} {s' : σ} (h : f s = .ok (a, s')) :
    exec (atomically f) s = (.ok a, s') := by
  rw [exec_atomically, h]

theorem exec_atomically_error {f : σ → Except ε (α × σ)} {e : ε} (h : f s = .error e) :
    exec (atomically f) s = (.error e, s) := by
  rw [exec_atomically, h]

/-- A section that fails changes nothing. -/
theorem exec_atomically_unchanged {f : σ → Except ε (α × σ)} {e : ε}
    (h : (exec (atomically f) s).1 = .error e) : (exec (atomically f) s).2 = s := by
  rw [exec_atomically] at h ⊢
  cases hf : f s with
  | error e' => rfl
  | ok r =>
    rw [hf] at h
    cases h

end Exec

end Rust
