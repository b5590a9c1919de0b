import NetworkEngine.Lib.Projection
import NetworkEngine.Lib.Table

/-!
# Expiry — stores that purge when they like

The entries of a store expire by a clock, and a purge takes the expired ones out.  A lazy store lets
them stay until some call purges, and hides them from the calls that look at the clock.  It stands
for the eager store, which purges before every call, as long as no call touches an expired entry;
and it answers as the eager store does as long as no call tells of one.
-/

/-! ## 1. Tables up to their expired entries -/

namespace Table

variable {K V : Type} [DecidableEq K]

/-- The two tables have the same entries outside `dead`. -/
def Agree (dead : V → Bool) (m m' : Table K V) : Prop :=
  ∀ k v, dead v = false → (m.lookup k = some v ↔ m'.lookup k = some v)

variable {dead dead' : V → Bool} {m m' : Table K V} {k : K} {v : V}

theorem agree_discard (h : ∀ v, dead' v = true → dead v = true) (m : Table K V) :
    Agree dead (m.discard dead') m := by
  intro k v hv
  rw [lookup_discard_eq_some]
  refine and_iff_left (Bool.eq_false_iff.mpr fun hdead => ?_)
  rw [h v hdead] at hv
  cases hv

theorem Agree.symm (h : Agree dead m m') : Agree dead m' m :=
  fun k v hv => (h k v hv).symm

theorem Agree.mono (h : Agree dead m m') (hle : ∀ v, dead v = true → dead' v = true) :
    Agree dead' m m' := by
  intro k v hv
  apply h k v
  by_contra hdead
  rw [hle v (Bool.of_not_eq_false hdead)] at hv
  cases hv

theorem Agree.insert (h : Agree dead m m') (k : K) (v : V) :
    Agree dead (m.insert k v) (m'.insert k v) := by
  intro k' v' hv'
  rw [lookup_insert, lookup_insert]
  split
  · exact Iff.rfl
  · exact h k' v' hv'

theorem Agree.erase (h : Agree dead m m') (k : K) : Agree dead (m.erase k) (m'.erase k) := by
  intro k' v' hv'
  rw [lookup_erase, lookup_erase]
  split
  · exact Iff.rfl
  · exact h k' v' hv'

theorem discard_eq_iff : m.discard dead = m'.discard dead ↔ Agree dead m m' := by
  constructor
  · intro h k v hv
    rw [← agree_discard (fun _ hdead => hdead) m k v hv, h]
    exact agree_discard (fun _ hdead => hdead) m' k v hv
  · intro h
    apply Finmap.ext_lookup
    intro k
    ext v
    show (m.discard dead).lookup k = some v ↔ (m'.discard dead).lookup k = some v
    rw [lookup_discard_eq_some, lookup_discard_eq_some]
    exact and_congr_left (h k v)

/-- What a table keeps under a key that has no expired entry. -/
theorem lookup_discard_of_live (h : ∀ v, m.lookup k = some v → dead v = false) :
    (m.discard dead).lookup k = m.lookup k := by
  ext v
  show (m.discard dead).lookup k = some v ↔ m.lookup k = some v
  rw [lookup_discard_eq_some]
  exact and_iff_left_of_imp (h v)

/-- The table has an entry that is in `dead`. -/
def HasDead (dead : V → Bool) (m : Table K V) : Prop := ∃ k v, m.lookup k = some v ∧ dead v = true

theorem card_keysWhere_ne_zero_iff : (m.keysWhere dead).card ≠ 0 ↔ m.HasDead dead := by
  rw [Finset.card_ne_zero]
  exact exists_congr fun _ => mem_keysWhere

/-- A purge leaves nothing to a second one. -/
theorem card_keysWhere_discard (dead : V → Bool) (m : Table K V) :
    ((m.discard dead).keysWhere dead).card = 0 := by
  by_contra hne
  obtain ⟨k, v, hv, hdead⟩ := card_keysWhere_ne_zero_iff.mp hne
  rw [(lookup_discard_eq_some.mp hv).2] at hdead
  cases hdead

/-- A table that is an index of the same entries by the same field is the same table. -/
theorem IsIndex.unique {T : Type} [DecidableEq T] {field : V → T} {index index' : Table T K}
    (h : IsIndex field index m) (h' : IsIndex field index' m) : index = index' := by
  apply Finmap.ext_lookup
  intro t
  ext k
  exact (h t k).trans (h' t k).symm

end Table

/-! ## 2. Stores -/

namespace Expiry

open Transition

variable {τ σ ι α : Type}

/-- A store with its purge and its calls, each at the reading of a clock. -/
structure Store (τ σ ι α : Type) where
  purge : τ → σ → σ
  perform : τ → σ → ι → α × σ

namespace Store

def step (l : Store τ σ ι α) (s : σ) (call : τ × ι) : σ := (l.perform call.1 s call.2).2

def answer (l : Store τ σ ι α) (s : σ) (call : τ × ι) : α := (l.perform call.1 s call.2).1

/-- The store that purges before every call. -/
def eager (l : Store τ σ ι α) : Store τ σ ι α where
  purge := l.purge
  perform now s i := l.perform now (l.purge now s) i

end Store

/-- The clock never goes back from one call to the next. -/
def Timed [LE τ] (calls : List (τ × ι)) : Prop := (calls.map Prod.fst).IsChain (· ≤ ·)

/-- What makes a store lazy.  `Touches` says which calls get hold of an expired entry, `Tells` which
calls tell that there is one, and `Inv` what holds while the store is good for so many more calls. -/
structure Lazy [LE τ] (l : Store τ σ ι α) (Touches Tells : τ → σ → ι → Prop) (Inv : ℕ → σ → Prop) :
    Prop where
  le_refl : ∀ now : τ, now ≤ now
  tells : ∀ {now s i}, Touches now s i → Tells now s i
  inv_purge : ∀ {n s}, Inv n s → ∀ now, Inv n (l.purge now s)
  inv_perform : ∀ {n s}, Inv (n + 1) s → ∀ now i, Inv n (l.perform now s i).2
  /-- Time only takes more entries out. -/
  purge_purge : ∀ {n s}, Inv n s → ∀ {now later : τ}, now ≤ later →
    l.purge later (l.purge now s) = l.purge later s
  answer_eq : ∀ {n s}, Inv n s → ∀ {now i}, ¬ Tells now s i →
    (l.perform now (l.purge now s) i).1 = (l.perform now s i).1
  purge_eq : ∀ {n s}, Inv (n + 1) s → ∀ {now i}, ¬ Touches now s i →
    l.purge now (l.perform now (l.purge now s) i).2 = l.purge now (l.perform now s i).2
  answer_ne : ∀ {n s}, Inv n s → ∀ {now i}, Tells now s i →
    (l.perform now (l.purge now s) i).1 ≠ (l.perform now s i).1

section Runs

variable [LE τ] {l : Store τ σ ι α} {Touches Tells : τ → σ → ι → Prop} {Inv : ℕ → σ → Prop}
  {n : ℕ} {e s : σ} {now later : τ}

/-- The eager store `e` and the lazy store `s` differ in expired entries only. -/
structure Related (l : Store τ σ ι α) (Inv : ℕ → σ → Prop) (n : ℕ) (now : τ) (e s : σ) : Prop where
  eager : Inv n e
  lazy : Inv n s
  purge_eq : l.purge now e = l.purge now s

theorem Related.wait (laws : Lazy l Touches Tells Inv) (h : Related l Inv n now e s)
    (hle : now ≤ later) : Related l Inv n later e s where
  eager := h.eager
  lazy := h.lazy
  purge_eq := by
    rw [← laws.purge_purge h.eager hle, h.purge_eq, laws.purge_purge h.lazy hle]

theorem Related.step (laws : Lazy l Touches Tells Inv) {call : τ × ι}
    (h : Related l Inv (n + 1) call.1 e s) (huntouched : ¬ Touches call.1 s call.2) :
    Related l Inv n call.1 (l.eager.step e call) (l.step s call) where
  eager := laws.inv_perform (laws.inv_purge h.eager _) _ _
  lazy := laws.inv_perform h.lazy _ _
  purge_eq := by
    show l.purge call.1 (l.perform call.1 (l.purge call.1 e) call.2).2 = _
    rw [h.purge_eq]
    exact laws.purge_eq h.lazy huntouched

theorem Related.run (laws : Lazy l Touches Tells Inv) (calls : List (τ × ι))
    (htimed : (now :: calls.map Prod.fst).IsChain (· ≤ ·))
    (h : Related l Inv calls.length now e s)
    (huntouched : Along l.step (fun s call => ¬ Touches call.1 s call.2) s calls)
    (hlast : ∀ t ∈ (now :: calls.map Prod.fst).getLast?, t ≤ later) :
    l.purge later (run l.eager.step e calls) = l.purge later (run l.step s calls) := by
  induction calls generalizing now e s with
  | nil => exact (h.wait laws (hlast now rfl)).purge_eq
  | cons call calls ih =>
    have hchain := List.isChain_cons_cons.mp htimed
    have hcons := along_cons.mp huntouched
    refine ih hchain.2 ((h.wait laws hchain.1).step laws hcons.1) hcons.2 fun t ht => ?_
    apply hlast t
    rw [List.map_cons, List.getLast?_cons_cons]
    exact ht

variable {calls : List (τ × ι)}

end Runs

end Expiry
