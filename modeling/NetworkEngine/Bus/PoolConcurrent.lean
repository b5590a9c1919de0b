import NetworkEngine.Bus.BufferPool
import NetworkEngine.Lib.Threads

/-!
# PoolConcurrent — threads on one buffer pool

`acquire`, `release` and `clear` interleaved at their lock sections and atomic operations.  A place
of the pool is reserved in one counter and used in another, one step later; `clear` copies the
second counter over the first.  The copy is right when nothing is between the two counters while it
is made.
-/

namespace NetworkEngine

open Rust Transition Threads
open BufferPool (marked written)

namespace PoolConcurrent

/-! ## 1. Calls and their steps -/

/-- Where a call stands between two steps. -/
inductive Point where
  /-- An acquire that took an idle buffer; it is counted next. -/
  | taken (buffer : PacketBuffer)
  /-- An acquire that found nothing idle; it loads `allocated` next. -/
  | missed
  /-- An acquire about to exchange `current` for its successor. -/
  | loaded (current : UInt64)
  /-- An acquire that has reserved a place; it is counted next. -/
  | reserved
  /-- A release with a buffer that it has checked and marked. -/
  | returning (buffer : PacketBuffer)
  /-- A release that has put its buffer into the list. -/
  | pushed
  /-- A release that found the list full and dropped its buffer. -/
  | overflowed
  | uncounted
  /-- A clear that has emptied the list; it loads `in_use` next. -/
  | emptied
  /-- A clear about to store what it has loaded. -/
  | read (count : UInt64)
  deriving DecidableEq, Repr

/-- The point of a clear about to store. -/
def Point.stores : Point → Bool
  | .read _ => true
  | _ => false

inductive Start where
  | acquire
  | release (i : Nat)
  | clear
  | mark (i : Nat)
  | write (i : Nat) (bytes : Bytes)
  deriving DecidableEq, Repr

/-- The shared state is the pool and the buffers it has handed out. -/
abbrev Shared := BufferPool.Sys

def Shared.setPool (s : Shared) (pool : BufferPool) : Shared := { s with pool }

/-- The lock section a call starts with.  None of these calls allocates under the lock, which is
never poisoned. -/
def begin (call : Start) (s : Shared) : Shared × Option Point :=
  match call with
  | .acquire =>
    match s.pool.pop with
    | (some buffer, pool) => (s.setPool pool, some (.taken buffer))
    | (none, _) => (s, some .missed)
  | .release i =>
    match s.held[i]? with
    | none => (s, none)
    | some buffer =>
      -- The buffer moves into the call, and is dropped when it is refused.
      let s := { s with held := s.held.eraseIdx i }
      if buffer.capacity ≠ s.pool.bufferCapacity then (s, none)
      else (s, some (.returning (marked buffer)))
  | .clear => (s.setPool { s.pool with buffers := [] }, some .emptied)
  | .mark i => ({ s with held := s.held.modify i marked }, none)
  | .write i bytes => ({ s with held := s.held.modify i (written bytes) }, none)

/-- A step of a call.  `compare_exchange_weak` may fail spuriously. -/
def proceed (spurious : Bool) (point : Point) (s : Shared) : Shared × Option Point :=
  match point with
  | .taken buffer =>
    match buffer.resetForReuse with
    | .error _ => (s, none)
    | .ok ((), buffer) =>
      (⟨{ s.pool with inUse := s.pool.inUse + 1 }, s.held ++ [buffer]⟩, none)
  | .missed => (s, some (.loaded s.pool.allocated))
  | .loaded current =>
    if s.pool.maxSize ≤ current then (s, none)
    else if spurious ∨ s.pool.allocated ≠ current then (s, some (.loaded s.pool.allocated))
    else (s.setPool { s.pool with allocated := current + 1 }, some .reserved)
  | .reserved =>
    let pool := { s.pool with inUse := s.pool.inUse + 1 }
    match BufferPool.allocate s.pool.bufferCapacity with
    -- A panic, after the call has been counted.
    | .error _ => (s.setPool pool, none)
    | .ok buffer => (⟨pool, s.held ++ [buffer]⟩, none)
  | .returning buffer =>
    if s.pool.maxSize.toNat ≤ s.pool.buffers.length then (s, some .overflowed)
    else (s.setPool { s.pool with buffers := s.pool.buffers ++ [buffer] }, some .pushed)
  | .pushed => (s.setPool { s.pool with inUse := s.pool.inUse - 1 }, none)
  | .overflowed => (s.setPool { s.pool with inUse := s.pool.inUse - 1 }, some .uncounted)
  | .uncounted => (s.setPool { s.pool with allocated := s.pool.allocated - 1 }, none)
  | .emptied => (s, some (.read s.pool.inUse))
  | .read count => (s.setPool { s.pool with allocated := count }, none)

def program : Program Shared Point Start Bool := ⟨begin, proceed⟩

abbrev Pool := Threads.Sys Shared Point

/-! ## 2. What the calls owe to the counters -/

/-- The places that belong to a call. -/
def places : Point → Nat
  | .taken _ | .reserved | .returning _ | .overflowed | .uncounted => 1
  | .missed | .loaded _ | .pushed | .emptied | .read _ => 0

/-- The calls that are counted in `in_use`. -/
def counted : Point → Nat
  | .returning _ | .pushed | .overflowed => 1
  | .taken _ | .reserved | .uncounted | .missed | .loaded _ | .emptied | .read _ => 0

/-- The calls with a place that is not counted in `in_use`. -/
def ahead : Point → Nat
  | .taken _ | .reserved | .uncounted => 1
  | .missed | .loaded _ | .returning _ | .pushed | .overflowed | .emptied | .read _ => 0

/-- The calls that are counted in `in_use` and have given their place back. -/
def behind : Point → Nat
  | .pushed => 1
  | .taken _ | .reserved | .uncounted | .missed | .loaded _ | .returning _ | .overflowed
  | .emptied | .read _ => 0

def clearing : Point → Nat
  | .emptied | .read _ => 1
  | .taken _ | .reserved | .uncounted | .missed | .loaded _ | .returning _ | .pushed
  | .overflowed => 0

/-- All places: idle, handed out, or in a call. -/
def allPlaces (s : Pool) : Nat :=
  s.shared.pool.buffers.length + s.shared.held.length + total places s.calls

/-- The limit holds, and at rest both counters are right. -/
structure Bounded (s : Pool) : Prop where
  live : s.shared.pool.buffers.length + s.shared.held.length ≤ s.shared.pool.maxSize.toNat
  inUse : s.Quiescent → s.shared.pool.inUse.toNat = s.shared.held.length
  allocated : s.Quiescent →
    s.shared.pool.allocated.toNat = s.shared.pool.buffers.length + s.shared.held.length

/-- A step that takes one off `in_use` finds it above zero. -/
def NoWrap (s : Pool) (turn : Turn Start Bool) : Prop :=
  s.point turn = some .pushed ∨ s.point turn = some .overflowed → 0 < s.shared.pool.inUse.toNat

/-- An acquire is about to reserve a place. -/
def Reserves (s : Pool) (turn : Turn Start Bool) : Prop :=
  s.point turn = some (.loaded s.shared.pool.allocated) ∧
    s.shared.pool.allocated < s.shared.pool.maxSize ∧ turn.choice = some false

/-- A clear is about to drop idle buffers. -/
def Empties (s : Pool) (turn : Turn Start Bool) : Prop :=
  turn = .start .clear ∧ s.shared.pool.buffers ≠ []

/-- A clear is about to store what it has loaded. -/
def Stores (s : Pool) : Prop := ∃ k ∈ s.calls, k.stores = true

/-- No clear copies a count that is not right.  When it loads `in_use`, the buffers that are idle and
the places not counted yet are as many as the calls still counted for a buffer they have put back;
from there to its store no place is reserved and no list with buffers is emptied.  A place that is
reserved becomes a buffer, not a panic.  The calls under way are no more than a word can count. -/
structure Undisturbed (s : Pool) (turn : Turn Start Bool) : Prop where
  load : s.point turn = some .emptied →
    s.shared.pool.buffers.length + total ahead s.calls = total behind s.calls
  store : Stores s → ¬ Reserves s turn ∧ ¬ Empties s turn
  allocates : s.point turn = some .reserved → s.shared.pool.bufferCapacity ≤ isizeMax
  fits : s.calls.length + s.shared.pool.maxSize.toNat < 2 ^ 64

instance (s : Pool) : Decidable (Stores s) :=
  inferInstanceAs (Decidable (∃ k ∈ s.calls, k.stores = true))

instance (s : Pool) (turn : Turn Start Bool) : Decidable (Reserves s turn) :=
  inferInstanceAs (Decidable (_ ∧ _ ∧ _))

instance (s : Pool) (turn : Turn Start Bool) : Decidable (Empties s turn) :=
  inferInstanceAs (Decidable (_ ∧ _))

instance (s : Pool) (turn : Turn Start Bool) : Decidable (Undisturbed s turn) :=
  decidable_of_iff
    ((s.point turn = some .emptied →
        s.shared.pool.buffers.length + total ahead s.calls = total behind s.calls) ∧
      (Stores s → ¬ Reserves s turn ∧ ¬ Empties s turn) ∧
      (s.point turn = some .reserved → s.shared.pool.bufferCapacity ≤ isizeMax) ∧
      s.calls.length + s.shared.pool.maxSize.toNat < 2 ^ 64)
    ⟨fun h => ⟨h.1, h.2.1, h.2.2.1, h.2.2.2⟩, fun h => ⟨h.load, h.store, h.allocates, h.fits⟩⟩

/-! ## 3. The invariant -/

/-- A buffer that a call holds could be handed out by a pool of this capacity. -/
def Sound (bufferCapacity : Nat) : Point → Prop
  | .taken buffer | .returning buffer =>
    buffer.released = true ∧ buffer.capacity = bufferCapacity
  -- Places never run out of room, so that no release finds the list full.
  | .overflowed | .uncounted => False
  | .missed | .loaded _ | .reserved | .pushed | .emptied | .read _ => True

structure Inv (s : Pool) : Prop where
  inUse : s.shared.pool.inUse.toNat = s.shared.held.length + total counted s.calls
  -- Only a clear that has not stored yet may leave places counted that are gone.
  allocated : allPlaces s ≤ s.shared.pool.allocated.toNat
  settled : total clearing s.calls = 0 → s.shared.pool.allocated.toNat = allPlaces s
  bounded : s.shared.pool.allocated ≤ s.shared.pool.maxSize
  read : ∀ count, .read count ∈ s.calls → count.toNat = allPlaces s
  idle : ∀ b ∈ s.shared.pool.buffers,
    b.released = true ∧ b.capacity = s.shared.pool.bufferCapacity
  held : ∀ b ∈ s.shared.held, b.capacity = s.shared.pool.bufferCapacity
  sound : ∀ k ∈ s.calls, Sound s.shared.pool.bufferCapacity k

variable {s s' : Pool} {i : Nat} {k : Point} {o : Option Point} {pool : BufferPool}

/-- What is not counted is ahead or behind. -/
theorem total_places (calls : List Point) :
    total places calls + total behind calls = total counted calls + total ahead calls := by
  rw [← total_add, ← total_add]
  congr 1
  funext k
  cases k <;> rfl

theorem counted_le_length (calls : List Point) : total counted calls ≤ calls.length := by
  apply total_le_length
  intro k
  cases k <;> simp [counted]

theorem Inv.new {maxSize : UInt64} {bufferCapacity : Nat}
    (h : BufferPool.new maxSize bufferCapacity = .ok pool) : Inv ⟨⟨pool, []⟩, []⟩ := by
  unfold BufferPool.new at h
  split_ifs at h
  obtain rfl := Except.ok.inj h
  refine ⟨rfl, Nat.le_refl 0, fun _ => rfl, ?_, ?_, ?_, ?_, ?_⟩
  · exact UInt64.le_iff_toNat_le.mpr (Nat.zero_le _)
  · exact fun count hread => absurd hread List.not_mem_nil
  · exact List.forall_mem_nil _
  · exact List.forall_mem_nil _
  · exact List.forall_mem_nil _

theorem Inv.live (h : Inv s) : allPlaces s ≤ s.shared.pool.maxSize.toNat :=
  h.allocated.trans (UInt64.le_iff_toNat_le.mp h.bounded)

theorem Inv.toBounded (h : Inv s) : Bounded s where
  live := by
    have hlive := h.live
    unfold allPlaces at hlive
    omega
  inUse hquiet := by
    have hinUse := h.inUse
    rw [hquiet] at hinUse
    exact hinUse
  allocated hquiet := by
    have hsettled := h.settled
    unfold allPlaces at hsettled
    rw [hquiet] at hsettled
    exact hsettled rfl

theorem Inv.noWrap (h : Inv s) (turn : Turn Start Bool) : NoWrap s turn := by
  intro hpoint
  have hinUse := h.inUse
  cases turn with
  | start call => simp [Sys.point] at hpoint
  | next i choice =>
    -- The call that goes on is one of those counted.
    rcases hpoint with hk | hk
    · have hcounted : 1 ≤ total counted s.calls := le_total counted hk
      omega
    · have hcounted : 1 ≤ total counted s.calls := le_total counted hk
      omega

/-- The calls of a turn that goes on. -/
theorem sound_move (h : Inv s) (i : Nat) (o : Option Point)
    (ho : ∀ k, o = some k → Sound s.shared.pool.bufferCapacity k) :
    ∀ k ∈ move s.calls i o, Sound s.shared.pool.bufferCapacity k := by
  intro k hk
  rcases mem_move hk with hold | hnew
  · exact h.sound k hold
  · exact ho k hnew

theorem read_move (h : Inv s) {n : Nat} (hplaces : n = allPlaces s) (i : Nat) (o : Option Point)
    (ho : ∀ count, o = some (.read count) → count.toNat = allPlaces s) :
    ∀ count, .read count ∈ move s.calls i o → count.toNat = n := by
  intro count hcount
  rw [hplaces]
  rcases mem_move hcount with hold | hnew
  · exact h.read count hold
  · exact ho count hnew

/-- A step that neither takes nor frees a place. -/
theorem Inv.same_places (h : Inv s) (hplaces : allPlaces s' = allPlaces s)
    (hallocated : s'.shared.pool.allocated = s.shared.pool.allocated)
    (hmax : s'.shared.pool.maxSize = s.shared.pool.maxSize)
    (hclearing : total clearing s'.calls = total clearing s.calls)
    (hinUse : s'.shared.pool.inUse.toNat = s'.shared.held.length + total counted s'.calls)
    (hread : ∀ count, .read count ∈ s'.calls → count.toNat = allPlaces s')
    (hidle : ∀ b ∈ s'.shared.pool.buffers,
      b.released = true ∧ b.capacity = s'.shared.pool.bufferCapacity)
    (hheld : ∀ b ∈ s'.shared.held, b.capacity = s'.shared.pool.bufferCapacity)
    (hsound : ∀ k ∈ s'.calls, Sound s'.shared.pool.bufferCapacity k) : Inv s' where
  inUse := hinUse
  allocated := by
    rw [hplaces, hallocated]
    exact h.allocated
  settled hquiet := by
    rw [hplaces, hallocated]
    exact h.settled (hclearing ▸ hquiet)
  bounded := by
    rw [hallocated, hmax]
    exact h.bounded
  read := hread
  idle := hidle
  held := hheld
  sound := hsound

/-! ## 4. The steps -/

theorem Inv.missed (h : Inv s) (hk : s.calls[i]? = some k) (hpoint : k = .missed ∨ ∃ c, k = .loaded c)
    (ho : o = none ∨ ∃ c, o = some (.loaded c)) : Inv ⟨s.shared, move s.calls i o⟩ := by
  have hp := total_move places hk o
  have hc := total_move counted hk o
  have hl := total_move clearing hk o
  have hzero : places k = 0 ∧ counted k = 0 ∧ clearing k = 0 := by
    rcases hpoint with rfl | ⟨c, rfl⟩
    · exact ⟨rfl, rfl, rfl⟩
    · exact ⟨rfl, rfl, rfl⟩
  have hzero' : weigh places o = 0 ∧ weigh counted o = 0 ∧ weigh clearing o = 0 := by
    rcases ho with rfl | ⟨c, rfl⟩
    · exact ⟨rfl, rfl, rfl⟩
    · exact ⟨rfl, rfl, rfl⟩
  have hplaces : allPlaces ⟨s.shared, move s.calls i o⟩ = allPlaces s := by
    simp only [allPlaces]
    omega
  have hinUse := h.inUse
  refine h.same_places hplaces rfl rfl (by dsimp only; omega) (by dsimp only; omega)
    (read_move h hplaces i o ?_) h.idle h.held (sound_move h i o ?_)
  · intro count hcount
    rcases ho with rfl | ⟨c, rfl⟩
    · cases hcount
    · cases hcount
  · intro k hk
    rcases ho with rfl | ⟨c, rfl⟩
    · cases hk
    · obtain rfl := Option.some.inj hk
      trivial

/-- An acquire counts itself and hands its buffer out. -/
theorem Inv.handOut (h : Inv s) (hk : s.calls[i]? = some k)
    (hfits : s.calls.length + s.shared.pool.maxSize.toNat < 2 ^ 64)
    (hpoint : places k = 1 ∧ counted k = 0 ∧ clearing k = 0) {buffer : PacketBuffer}
    (hbuffer : buffer.capacity = s.shared.pool.bufferCapacity) :
    Inv ⟨⟨{ s.shared.pool with inUse := s.shared.pool.inUse + 1 }, s.shared.held ++ [buffer]⟩,
      move s.calls i none⟩ := by
  have hp := total_move places hk none
  have hc := total_move counted hk none
  have hl := total_move clearing hk none
  rw [weigh_none] at hp hc hl
  have hinUse := h.inUse
  have hlive := h.live
  -- The call is not counted, so that the others are less than all.
  have hlength : total counted (move s.calls i none) ≤ s.calls.length - 1 := by
    have hlt := (List.getElem?_eq_some_iff.mp hk).1
    have hle := counted_le_length (move s.calls i none)
    rw [move, List.length_eraseIdx_of_lt hlt] at hle
    exact hle
  have hcalls : 0 < s.calls.length := List.length_pos_of_mem (List.mem_of_getElem? hk)
  have hsucc : (s.shared.pool.inUse + 1).toNat = s.shared.pool.inUse.toNat + 1 := by
    apply toNat_succ
    unfold allPlaces at hlive
    omega
  have hheld : (s.shared.held ++ [buffer]).length = s.shared.held.length + 1 := by
    rw [List.length_append, List.length_singleton]
  have hplaces : allPlaces ⟨⟨{ s.shared.pool with inUse := s.shared.pool.inUse + 1 },
      s.shared.held ++ [buffer]⟩, move s.calls i none⟩ = allPlaces s := by
    simp only [allPlaces, hheld]
    omega
  refine h.same_places hplaces rfl rfl (by dsimp only; omega) (by dsimp only; omega)
    (read_move h hplaces i none (by simp)) h.idle ?_ (sound_move h i none (by simp))
  exact List.forall_mem_append.mpr ⟨h.held, List.forall_mem_singleton.mpr hbuffer⟩

/-- A place is reserved while no clear is about to store. -/
theorem Inv.reserve (h : Inv s) {current : UInt64} (hk : s.calls[i]? = some (.loaded current))
    (hroom : s.shared.pool.allocated < s.shared.pool.maxSize)
    (hstore : ∀ count, .read count ∉ s.calls) :
    Inv ⟨s.shared.setPool { s.shared.pool with allocated := s.shared.pool.allocated + 1 },
      move s.calls i (some .reserved)⟩ := by
  have hp := total_move places hk (some .reserved)
  have hc := total_move counted hk (some .reserved)
  have hl := total_move clearing hk (some .reserved)
  simp only [weigh_some, places, counted, clearing] at hp hc hl
  have hinUse := h.inUse
  have hallocated := h.allocated
  have hsettled := h.settled
  have hlt := UInt64.lt_iff_toNat_lt.mp hroom
  have hmax := s.shared.pool.maxSize.toNat_lt
  have hsucc := toNat_succ (a := s.shared.pool.allocated) (by omega)
  refine ⟨?_, ?_, ?_, ?_, ?_, h.idle, h.held, ?_⟩
  · show s.shared.pool.inUse.toNat = _
    dsimp only [Shared.setPool]
    omega
  · simp only [allPlaces, Shared.setPool] at hallocated ⊢
    omega
  · intro hquiet
    have hbefore := hsettled (by dsimp only at hquiet; omega)
    simp only [allPlaces, Shared.setPool] at hbefore ⊢
    omega
  · rw [UInt64.le_iff_toNat_le]
    simp only [Shared.setPool]
    omega
  · intro count (hcount : .read count ∈ move s.calls i (some .reserved))
    rcases mem_move hcount with hold | hnew
    · exact absurd hold (hstore count)
    · cases hnew
  · apply sound_move h i (some .reserved)
    intro k hk
    obtain rfl := Option.some.inj hk
    trivial

/-- A release puts its buffer into the list, which has room for it. -/
theorem Inv.pushBack (h : Inv s) {buffer : PacketBuffer}
    (hk : s.calls[i]? = some (.returning buffer)) :
    s.shared.pool.buffers.length < s.shared.pool.maxSize.toNat ∧
    Inv ⟨s.shared.setPool { s.shared.pool with buffers := s.shared.pool.buffers ++ [buffer] },
      move s.calls i (some .pushed)⟩ := by
  have hp := total_move places hk (some .pushed)
  have hc := total_move counted hk (some .pushed)
  have hl := total_move clearing hk (some .pushed)
  simp only [weigh_some, places, counted, clearing] at hp hc hl
  have hinUse := h.inUse
  have hlive := h.live
  have hlength : (s.shared.pool.buffers ++ [buffer]).length = s.shared.pool.buffers.length + 1 := by
    rw [List.length_append, List.length_singleton]
  have hbuffer := h.sound _ (List.mem_of_getElem? hk)
  refine ⟨by unfold allPlaces at hlive; omega, ?_⟩
  have hplaces : allPlaces ⟨s.shared.setPool { s.shared.pool with
      buffers := s.shared.pool.buffers ++ [buffer] }, move s.calls i (some .pushed)⟩ =
      allPlaces s := by
    simp only [allPlaces, Shared.setPool, hlength]
    omega
  refine h.same_places hplaces rfl rfl (by dsimp only; omega)
    (by dsimp only [Shared.setPool]; omega) (read_move h hplaces i (some .pushed) nofun) ?_ h.held
    (sound_move h i (some .pushed) ?_)
  · exact List.forall_mem_append.mpr ⟨h.idle, List.forall_mem_singleton.mpr hbuffer⟩
  · intro k hk
    obtain rfl := Option.some.inj hk
    trivial

/-- A release takes itself out of the count. -/
theorem Inv.uncount (h : Inv s) (hk : s.calls[i]? = some .pushed) :
    Inv ⟨s.shared.setPool { s.shared.pool with inUse := s.shared.pool.inUse - 1 },
      move s.calls i none⟩ := by
  have hp := total_move places hk none
  have hc := total_move counted hk none
  have hl := total_move clearing hk none
  simp only [weigh_none, places, counted, clearing] at hp hc hl
  have hinUse := h.inUse
  have hpred := toNat_pred (a := s.shared.pool.inUse) (by omega)
  have hplaces : allPlaces ⟨s.shared.setPool { s.shared.pool with
      inUse := s.shared.pool.inUse - 1 }, move s.calls i none⟩ = allPlaces s := by
    simp only [allPlaces, Shared.setPool]
    omega
  refine h.same_places hplaces rfl rfl (by dsimp only; omega)
    (by dsimp only [Shared.setPool]; omega) (read_move h hplaces i none nofun) h.idle h.held
    (sound_move h i none nofun)

/-- A clear loads the number of all places. -/
theorem Inv.load (h : Inv s) (hk : s.calls[i]? = some .emptied)
    (hload : s.shared.pool.buffers.length + total ahead s.calls = total behind s.calls) :
    Inv ⟨s.shared, move s.calls i (some (.read s.shared.pool.inUse))⟩ := by
  have hp := total_move places hk (some (.read s.shared.pool.inUse))
  have hc := total_move counted hk (some (.read s.shared.pool.inUse))
  have hl := total_move clearing hk (some (.read s.shared.pool.inUse))
  simp only [weigh_some, places, counted, clearing] at hp hc hl
  have hinUse := h.inUse
  have hidentity := total_places s.calls
  have hplaces : allPlaces ⟨s.shared, move s.calls i (some (.read s.shared.pool.inUse))⟩ =
      allPlaces s := by
    simp only [allPlaces]
    omega
  refine h.same_places hplaces rfl rfl (by dsimp only; omega) (by dsimp only; omega)
    (read_move h hplaces i (some (.read s.shared.pool.inUse)) ?_) h.idle h.held
    (sound_move h i (some (.read s.shared.pool.inUse)) ?_)
  · intro count hcount
    obtain rfl : s.shared.pool.inUse = count := by cases hcount; rfl
    unfold allPlaces
    omega
  · intro k hk
    obtain rfl := Option.some.inj hk
    trivial

/-- A clear stores what it has loaded. -/
theorem Inv.store (h : Inv s) {count : UInt64} (hk : s.calls[i]? = some (.read count)) :
    Inv ⟨s.shared.setPool { s.shared.pool with allocated := count }, move s.calls i none⟩ := by
  have hp := total_move places hk none
  have hc := total_move counted hk none
  simp only [weigh_none, places, counted] at hp hc
  have hinUse := h.inUse
  have hcount := h.read count (List.mem_of_getElem? hk)
  have hlive := h.live
  have hplaces : allPlaces ⟨s.shared.setPool { s.shared.pool with allocated := count },
      move s.calls i none⟩ = allPlaces s := by
    simp only [allPlaces, Shared.setPool]
    omega
  refine ⟨?_, ?_, ?_, ?_, read_move h hplaces i none nofun, h.idle, h.held, sound_move h i none nofun⟩
  · dsimp only [Shared.setPool]
    omega
  · rw [hplaces, ← hcount]
    exact Nat.le_refl _
  · intro _
    rw [hplaces, ← hcount]
    rfl
  · rw [UInt64.le_iff_toNat_le]
    simp only [Shared.setPool]
    omega

/-! ## 5. The first steps -/

/-- The calls after a first step, which never is about to store. -/
theorem read_start (h : Inv s) {n : Nat} (hplaces : n = allPlaces s) (o : Option Point)
    (ho : ∀ count, o ≠ some (.read count)) :
    ∀ count, .read count ∈ s.calls ++ o.toList → count.toNat = n := by
  intro count hcount
  rw [hplaces]
  rcases mem_start hcount with hold | hnew
  · exact h.read count hold
  · exact absurd hnew (ho count)

theorem sound_start (h : Inv s) (o : Option Point)
    (ho : ∀ k, o = some k → Sound s.shared.pool.bufferCapacity k) :
    ∀ k ∈ s.calls ++ o.toList, Sound s.shared.pool.bufferCapacity k := by
  intro k hk
  rcases mem_start hk with hold | hnew
  · exact h.sound k hold
  · exact ho k hnew

theorem Inv.startAcquire (h : Inv s) : Inv (program.step s (.start .acquire)) := by
  have hinUse := h.inUse
  rcases List.eq_nil_or_concat' s.shared.pool.buffers with hnil | ⟨rest, last, hlast⟩
  · have hbegin : begin .acquire s.shared = (s.shared, some .missed) := by
      rw [begin, BufferPool.pop_nil hnil]
    have hp := total_append places s.calls (some .missed)
    have hc := total_append counted s.calls (some .missed)
    have hl := total_append clearing s.calls (some .missed)
    simp only [weigh_some, places, counted, clearing] at hp hc hl
    show Inv ⟨(begin .acquire s.shared).1, s.calls ++ (begin .acquire s.shared).2.toList⟩
    rw [hbegin]
    have hplaces : allPlaces ⟨s.shared, s.calls ++ (some Point.missed).toList⟩ = allPlaces s := by
      simp only [allPlaces]
      omega
    refine h.same_places hplaces rfl rfl (by dsimp only; omega) (by dsimp only; omega)
      (read_start h hplaces (some .missed) nofun) h.idle h.held (sound_start h (some .missed) ?_)
    intro k hk
    obtain rfl := Option.some.inj hk
    trivial
  · have hbegin : begin .acquire s.shared =
        (s.shared.setPool { s.shared.pool with buffers := rest }, some (.taken last)) := by
      rw [begin, BufferPool.pop_concat hlast]
    have hp := total_append places s.calls (some (.taken last))
    have hc := total_append counted s.calls (some (.taken last))
    have hl := total_append clearing s.calls (some (.taken last))
    simp only [weigh_some, places, counted, clearing] at hp hc hl
    have hlength : s.shared.pool.buffers.length = rest.length + 1 := by simp [hlast]
    have hlastIdle : last ∈ s.shared.pool.buffers := by simp [hlast]
    have hrest : ∀ b ∈ rest, b ∈ s.shared.pool.buffers := fun b hb => by simp [hlast, hb]
    show Inv ⟨(begin .acquire s.shared).1, s.calls ++ (begin .acquire s.shared).2.toList⟩
    rw [hbegin]
    have hplaces : allPlaces ⟨s.shared.setPool { s.shared.pool with buffers := rest },
        s.calls ++ (some (Point.taken last)).toList⟩ = allPlaces s := by
      simp only [allPlaces, Shared.setPool]
      omega
    refine h.same_places hplaces rfl rfl (by dsimp only; omega)
      (by dsimp only [Shared.setPool]; omega) (read_start h hplaces (some (.taken last)) nofun)
      (fun b hb => h.idle b (hrest b hb)) h.held (sound_start h (some (.taken last)) ?_)
    intro k hk
    obtain rfl := Option.some.inj hk
    exact h.idle last hlastIdle

theorem Inv.startRelease (h : Inv s) (i : Nat) : Inv (program.step s (.start (.release i))) := by
  have hinUse := h.inUse
  show Inv ⟨(begin (.release i) s.shared).1, s.calls ++ (begin (.release i) s.shared).2.toList⟩
  cases hget : s.shared.held[i]? with
  | none =>
    have hbegin : begin (.release i) s.shared = (s.shared, none) := by
      rw [begin, hget]
    rw [hbegin, Option.toList_none, List.append_nil]
    exact h
  | some buffer =>
    have hcapacity := h.held buffer (List.mem_of_getElem? hget)
    have hlt := (List.getElem?_eq_some_iff.mp hget).1
    have hlength := List.length_eraseIdx_of_lt hlt
    let point : Point := .returning (marked buffer)
    have hbegin : begin (.release i) s.shared =
        ({ s.shared with held := s.shared.held.eraseIdx i }, some point) := by
      rw [begin, hget]
      exact if_neg (not_not.mpr hcapacity)
    have hp := total_append places s.calls (some point)
    have hc := total_append counted s.calls (some point)
    have hl := total_append clearing s.calls (some point)
    simp only [weigh_some, point, places, counted, clearing] at hp hc hl
    rw [hbegin]
    have hplaces : allPlaces ⟨{ s.shared with held := s.shared.held.eraseIdx i },
        s.calls ++ (some point).toList⟩ = allPlaces s := by
      simp only [allPlaces, point]
      omega
    refine h.same_places hplaces rfl rfl (by dsimp only [point]; omega)
      (by dsimp only [point]; omega) (read_start h hplaces (some point) ?_) h.idle
      (fun b hb => h.held b (List.mem_of_mem_eraseIdx hb)) (sound_start h (some point) ?_)
    · intro count
      simp [point]
    intro k hk
    obtain rfl := Option.some.inj hk
    exact ⟨BufferPool.marked_released buffer, (BufferPool.marked_capacity buffer).trans hcapacity⟩

/-- A clear drops the idle buffers while no other is about to store. -/
theorem Inv.startClear (h : Inv s)
    (hstore : ∀ count, .read count ∈ s.calls → s.shared.pool.buffers = []) :
    Inv (program.step s (.start .clear)) := by
  have hinUse := h.inUse
  have hallocated := h.allocated
  have hp := total_append places s.calls (some .emptied)
  have hc := total_append counted s.calls (some .emptied)
  have hl := total_append clearing s.calls (some .emptied)
  simp only [weigh_some, places, counted, clearing] at hp hc hl
  have hdrop : allPlaces ⟨s.shared.setPool { s.shared.pool with buffers := [] },
      s.calls ++ (some Point.emptied).toList⟩ + s.shared.pool.buffers.length = allPlaces s := by
    simp only [allPlaces, Shared.setPool, List.length_nil]
    omega
  show Inv ⟨s.shared.setPool { s.shared.pool with buffers := [] },
    s.calls ++ (some Point.emptied).toList⟩
  refine ⟨?_, ?_, ?_, h.bounded, ?_, List.forall_mem_nil _, h.held, ?_⟩
  · simp only [Shared.setPool]
    omega
  · exact (Nat.le.intro hdrop).trans hallocated
  · intro hquiet
    dsimp only at hquiet
    omega
  · intro count (hcount : .read count ∈ s.calls ++ (some Point.emptied).toList)
    have hold : .read count ∈ s.calls := (mem_start hcount).resolve_right (by simp)
    have hread := h.read count hold
    rw [hstore count hold, List.length_nil, Nat.add_zero] at hdrop
    exact hread.trans hdrop.symm
  · apply sound_start h (some .emptied)
    intro k hk
    obtain rfl := Option.some.inj hk
    trivial

/-- Work of a holder on its buffer. -/
theorem Inv.modify (h : Inv s) (i : Nat) {f : PacketBuffer → PacketBuffer}
    (hf : ∀ b, (f b).capacity = b.capacity) :
    Inv ⟨{ s.shared with held := s.shared.held.modify i f }, s.calls⟩ := by
  have hlength : (s.shared.held.modify i f).length = s.shared.held.length := List.length_modify ..
  have hinUse := h.inUse
  have hplaces : allPlaces ⟨{ s.shared with held := s.shared.held.modify i f }, s.calls⟩ =
      allPlaces s := by
    simp only [allPlaces, hlength]
  refine h.same_places hplaces rfl rfl rfl (by dsimp only; omega) ?_ h.idle ?_ h.sound
  · intro count hcount
    rw [hplaces]
    exact h.read count hcount
  · intro b hb
    rcases List.getElem_of_mem hb with ⟨j, hj, rfl⟩
    have hj : j < s.shared.held.length := hlength ▸ hj
    have hold := h.held _ (List.getElem_mem hj)
    dsimp only
    rw [List.getElem_modify]
    split
    · rw [hf]
      exact hold
    · exact hold

/-! ## 6. Whole runs -/

theorem Inv.start (h : Inv s) {call : Start} (hcond : Undisturbed s (.start call)) :
    Inv (program.step s (.start call)) := by
  cases call with
  | acquire => exact h.startAcquire
  | release i => exact h.startRelease i
  | clear =>
    apply h.startClear
    intro count hcount
    by_contra hsome
    exact (hcond.store ⟨_, hcount, rfl⟩).2 ⟨rfl, hsome⟩
  | mark i =>
    show Inv ⟨_, s.calls ++ []⟩
    rw [List.append_nil]
    exact h.modify i BufferPool.marked_capacity
  | write i bytes =>
    show Inv ⟨_, s.calls ++ []⟩
    rw [List.append_nil]
    exact h.modify i (BufferPool.written_capacity bytes)

theorem Inv.next (h : Inv s) {choice : Bool} (hk : s.calls[i]? = some k)
    (hcond : Undisturbed s (.next i choice)) :
    Inv ⟨(proceed choice k s.shared).1, move s.calls i (proceed choice k s.shared).2⟩ := by
  have hsound := h.sound k (List.mem_of_getElem? hk)
  cases k with
  | taken buffer =>
    rw [proceed, PacketBuffer.resetForReuse, if_pos hsound.1]
    exact h.handOut hk hcond.fits ⟨rfl, rfl, rfl⟩ hsound.2
  | missed => exact h.missed hk (.inl rfl) (.inr ⟨_, rfl⟩)
  | loaded current =>
    rw [proceed]
    by_cases hfull : s.shared.pool.maxSize ≤ current
    · rw [if_pos hfull]
      exact h.missed hk (.inr ⟨_, rfl⟩) (.inl rfl)
    · rw [if_neg hfull]
      by_cases hagain : choice = true ∨ s.shared.pool.allocated ≠ current
      · rw [if_pos hagain]
        exact h.missed hk (.inr ⟨_, rfl⟩) (.inr ⟨_, rfl⟩)
      · -- The exchange succeeds: what was loaded is still there.
        rw [if_neg hagain]
        simp only [not_or, Bool.not_eq_true, not_not] at hagain
        obtain ⟨rfl, rfl⟩ := hagain
        have hroom := UInt64.not_le.mp hfull
        refine h.reserve hk hroom fun count hcount => ?_
        exact (hcond.store ⟨_, hcount, rfl⟩).1 ⟨hk, hroom, rfl⟩
  | reserved =>
    rw [proceed, BufferPool.allocate_of_le (hcond.allocates hk)]
    exact h.handOut hk hcond.fits ⟨rfl, rfl, rfl⟩ rfl
  | returning buffer =>
    have hpush := h.pushBack hk
    rw [proceed, if_neg (Nat.not_le.mpr hpush.1)]
    exact hpush.2
  | pushed => exact h.uncount hk
  | overflowed => exact hsound.elim
  | uncounted => exact hsound.elim
  | emptied => exact h.load hk (hcond.load hk)
  | read count => exact h.store hk

theorem Inv.step (h : Inv s) {turn : Turn Start Bool} (hcond : Undisturbed s turn) :
    Inv (program.step s turn) := by
  apply inv_step turn ?_ ?_ h
  · intro call heq
    rw [heq] at hcond
    exact h.start hcond
  · intro i choice k heq hk
    rw [heq] at hcond
    exact h.next hk hcond

/-- Where no clear copies a wrong count, the pool keeps to its limit and its counters are right at
rest, however the calls interleave. -/
theorem bounded_run {maxSize : UInt64} {bufferCapacity : Nat}
    (h : BufferPool.new maxSize bufferCapacity = .ok pool) (turns : List (Turn Start Bool))
    (hrun : Along program.step Undisturbed ⟨⟨pool, []⟩, []⟩ turns) :
    Always program.step Bounded ⟨⟨pool, []⟩, []⟩ turns ∧
      Along program.step NoWrap ⟨⟨pool, []⟩, []⟩ turns := by
  have hall := always_of_along (P := Undisturbed) (fun _ _ hinv hcond => Inv.step hinv hcond)
    (Inv.new h) hrun
  constructor
  · exact fun before after hsplit => (hall before after hsplit).toBounded
  · exact fun before turn after hsplit => (hall before (turn :: after) hsplit).noWrap turn

/-- A buffer goes out and comes back while a second acquire waits; the pool is cleared at rest. -/
theorem bounded_run_reused :
    (Always program.step Bounded ⟨⟨⟨1, 64, [], false, 0, 0⟩, []⟩, []⟩
        [.start .acquire, .next 0 false, .next 0 true, .next 0 false, .next 0 false,
          .start (.release 0), .start .acquire, .next 0 false, .next 0 false, .next 0 false,
          .start .clear, .next 0 false, .next 0 false] ∧
      Along program.step NoWrap ⟨⟨⟨1, 64, [], false, 0, 0⟩, []⟩, []⟩
        [.start .acquire, .next 0 false, .next 0 true, .next 0 false, .next 0 false,
          .start (.release 0), .start .acquire, .next 0 false, .next 0 false, .next 0 false,
          .start .clear, .next 0 false, .next 0 false]) :=
  bounded_run (show BufferPool.new 1 64 = .ok ⟨1, 64, [], false, 0, 0⟩ from rfl) _ (by decide)

/-- A clear between the two counters of an acquire frees the place the acquire has taken. -/
theorem cleared_place_handed_out_twice :
    BufferPool.new 1 64 = .ok ⟨1, 64, [], false, 0, 0⟩ ∧
      ¬ Bounded (run program.step ⟨⟨⟨1, 64, [], false, 0, 0⟩, []⟩, []⟩
        [.start .acquire, .next 0 false, .next 0 false, .start .clear, .next 1 false,
          .next 1 false, .next 0 false, .start .acquire, .next 0 false, .next 0 false,
          .next 0 false]) := by
  refine ⟨rfl, fun h => absurd h.live ?_⟩
  decide

end PoolConcurrent

end NetworkEngine
