import NetworkEngine.Bus.PacketBus
import NetworkEngine.Lib.Transition

/-!
# BufferPool — the accounts of the buffer pool

`packet_bus::pool`: a list of idle buffers behind a mutex and two counters beside it.  A buffer is
handed out again only when it is marked released.  `release` marks what it takes back;
`preallocate` puts buffers into the list that nobody has marked.  No buffer can be made of more bytes
than a vector may hold, which the constructor of the pool does not ask for.
-/

namespace NetworkEngine

open Rust Transition

inductive PoolError where
  | invalidConfiguration
  | exhausted
  | invalidBufferCapacity
  | poolFull
  deriving DecidableEq, Repr

structure BufferPool where
  maxSize : UInt64
  bufferCapacity : Nat
  /-- The idle buffers; the last one is handed out first. -/
  buffers : List PacketBuffer
  /-- A panic has passed the lock of the list. -/
  poisoned : Bool
  allocated : UInt64
  inUse : UInt64
  deriving DecidableEq, Repr

abbrev PoolOp (α : Type) := Op BufferPool (Fault PoolError) α

namespace BufferPool

/-! ## 1. Operations -/

def new (maxSize : UInt64) (bufferCapacity : Nat) : Except PoolError BufferPool :=
  if maxSize = 0 ∨ bufferCapacity = 0 then .error .invalidConfiguration
  else .ok ⟨maxSize, bufferCapacity, [], false, 0, 0⟩

/-- `PacketBuffer::new`, whose `Vec::with_capacity` panics past `isize::MAX` bytes. -/
def allocate (capacity : Nat) : Checked PoolError PacketBuffer :=
  if isizeMax < capacity then .error .panic else .ok (.new capacity)

/-- `buffers.pop()`. -/
def pop (pool : BufferPool) : Option PacketBuffer × BufferPool :=
  (pool.buffers.getLast?, { pool with buffers := pool.buffers.dropLast })

def acquire : PoolOp PacketBuffer := fun pool =>
  if pool.poisoned then (.error (.err .exhausted), pool)
  else
    match pool.pop with
    | (some buffer, pool) =>
      match buffer.resetForReuse with
      -- The buffer is dropped; nothing gives its place back.
      | .error _ => (.error (.err .exhausted), pool)
      | .ok ((), buffer) => (.ok buffer, { pool with inUse := pool.inUse + 1 })
    | (none, pool) =>
      if pool.maxSize ≤ pool.allocated then (.error (.err .exhausted), pool)
      else
        (allocate pool.bufferCapacity,
          { pool with allocated := pool.allocated + 1, inUse := pool.inUse + 1 })

/-- The buffer as `release` takes it, marked in any case. -/
def marked (buffer : PacketBuffer) : PacketBuffer :=
  match buffer.release with
  | .ok ((), buffer) => buffer
  | .error _ => buffer

def release (buffer : PacketBuffer) : Op BufferPool PoolError Unit := fun pool =>
  if buffer.capacity ≠ pool.bufferCapacity then (.error .invalidBufferCapacity, pool)
  else if pool.poisoned then (.error .poolFull, pool)
  else if pool.maxSize.toNat ≤ pool.buffers.length then
    (.ok (), { pool with inUse := pool.inUse - 1, allocated := pool.allocated - 1 })
  else
    (.ok (), { pool with buffers := pool.buffers ++ [marked buffer], inUse := pool.inUse - 1 })

def clear (pool : BufferPool) : BufferPool :=
  { pool with buffers := if pool.poisoned then pool.buffers else [], allocated := pool.inUse }

/-- The loop of `preallocate`, with the number of buffers it has created so far. -/
def fill (target created : UInt64) (pool : BufferPool) : Checked PoolError UInt64 × BufferPool :=
  if pool.allocated < target ∧ pool.allocated < pool.maxSize then
    match allocate pool.bufferCapacity with
    -- The loop holds the lock.
    | .error fault => (.error fault, { pool with allocated := pool.allocated + 1, poisoned := true })
    | .ok buffer =>
      fill target (created + 1)
        { pool with allocated := pool.allocated + 1, buffers := pool.buffers ++ [buffer] }
  else (.ok created, pool)
termination_by target.toNat - pool.allocated.toNat
decreasing_by
  rename_i h
  have hlt : pool.allocated.toNat < target.toNat := UInt64.lt_iff_toNat_lt.mp h.1
  have hbound := target.toNat_lt
  rw [UInt64.toNat_add, UInt64.toNat_one]
  omega

def preallocate (count : UInt64) : PoolOp UInt64 := fun pool =>
  if pool.poisoned then (.ok 0, pool) else fill (min count pool.maxSize) 0 pool

/-! ## 2. Runs -/

/-- A pool and the buffers it has handed out. -/
structure Sys where
  pool : BufferPool
  held : List PacketBuffer
  deriving DecidableEq, Repr

/-- A call on the pool, or a holder's work on one of its buffers. -/
inductive Turn where
  | acquire
  | release (i : Nat)
  | preallocate (count : UInt64)
  | clear
  /-- The holder marks its buffer released. -/
  | mark (i : Nat)
  | write (i : Nat) (bytes : Bytes)
  deriving DecidableEq, Repr

/-- `buffer.write(bytes)`, whatever it returns. -/
def written (bytes : Bytes) (buffer : PacketBuffer) : PacketBuffer :=
  match buffer.write bytes with
  | .ok ((), buffer) => buffer
  | .error _ => buffer

def Sys.step (s : Sys) : Turn → Sys
  | .acquire =>
    match exec acquire s.pool with
    | (.ok buffer, pool) => ⟨pool, s.held ++ [buffer]⟩
    | (.error _, pool) => { s with pool }
  | .release i =>
    match s.held[i]? with
    -- The buffer moves into the call.
    | some buffer => ⟨(exec (release buffer) s.pool).2, s.held.eraseIdx i⟩
    | none => s
  | .preallocate count => { s with pool := (exec (preallocate count) s.pool).2 }
  | .clear => { s with pool := s.pool.clear }
  | .mark i => { s with held := s.held.modify i marked }
  | .write i bytes => { s with held := s.held.modify i (written bytes) }

/-- What is allocated is idle or handed out, within the limit, and a free place can be acquired. -/
structure Accounted (s : Sys) : Prop where
  allocated : s.pool.allocated.toNat = s.pool.buffers.length + s.pool.inUse.toNat
  inUse : s.pool.inUse.toNat = s.held.length
  bounded : s.pool.allocated ≤ s.pool.maxSize
  acquires : s.held.length < s.pool.maxSize.toNat →
    ∃ buffer, (exec acquire s.pool).1 = .ok buffer

/-- A `preallocate` creates no buffer: as many as it asks for are allocated. -/
def CreatesNone (s : Sys) (turn : Turn) : Prop :=
  ∀ count, turn = .preallocate count → min count s.pool.maxSize ≤ s.pool.allocated

/-! ## 3. The counters -/

variable {pool : BufferPool} {buffer : PacketBuffer} {s : Sys}

theorem marked_released (buffer : PacketBuffer) : (marked buffer).released = true := by
  unfold marked PacketBuffer.release
  by_cases h : buffer.released = true
  · rw [if_pos h]
    exact h
  · rw [if_neg h]

theorem marked_capacity (buffer : PacketBuffer) : (marked buffer).capacity = buffer.capacity := by
  unfold marked PacketBuffer.release
  by_cases h : buffer.released = true
  · rw [if_pos h]
  · rw [if_neg h]

theorem written_capacity (bytes : Bytes) (buffer : PacketBuffer) :
    (written bytes buffer).capacity = buffer.capacity := by
  unfold written PacketBuffer.write
  by_cases h : buffer.released = true
  · rw [if_pos h]
  · rw [if_neg h]
    by_cases hlarge : buffer.capacity < bytes.len
    · rw [if_pos hlarge]
    · rw [if_neg hlarge]

/-! ### Acquiring -/

variable {rest : List PacketBuffer} {last : PacketBuffer} {capacity : Nat}

theorem allocate_of_le (h : capacity ≤ isizeMax) : allocate capacity = .ok (.new capacity) :=
  if_neg (Nat.not_lt.mpr h)

theorem allocate_eq_ok (h : allocate capacity = .ok buffer) :
    capacity ≤ isizeMax ∧ buffer = .new capacity := by
  unfold allocate at h
  by_cases hlarge : isizeMax < capacity
  · rw [if_pos hlarge] at h
    cases h
  · rw [if_neg hlarge] at h
    exact ⟨Nat.le_of_not_lt hlarge, (Except.ok.inj h).symm⟩

theorem pop_nil (h : pool.buffers = []) : pool.pop = (none, pool) := by
  obtain ⟨maxSize, bufferCapacity, buffers, poisoned, allocated, inUse⟩ := pool
  obtain rfl : buffers = [] := h
  rfl

theorem pop_concat (h : pool.buffers = rest ++ [last]) :
    pool.pop = (some last, { pool with buffers := rest }) := by
  rw [pop, h, List.getLast?_concat, List.dropLast_concat]

theorem acquire_poisoned (h : pool.poisoned = true) :
    exec acquire pool = (.error (.err .exhausted), pool) := by
  show acquire pool = _
  unfold acquire
  rw [if_pos h]

/-- All places are taken. -/
theorem acquire_full (hlock : ¬ pool.poisoned = true) (hnil : pool.buffers = [])
    (hfull : pool.maxSize ≤ pool.allocated) :
    exec acquire pool = (.error (.err .exhausted), pool) := by
  show acquire pool = _
  unfold acquire
  rw [if_neg hlock, pop_nil hnil]
  exact if_pos hfull

/-- A free place becomes a new buffer. -/
theorem acquire_fresh (hlock : ¬ pool.poisoned = true) (hnil : pool.buffers = [])
    (hroom : pool.allocated < pool.maxSize) :
    exec acquire pool = (allocate pool.bufferCapacity,
      { pool with allocated := pool.allocated + 1, inUse := pool.inUse + 1 }) := by
  show acquire pool = _
  unfold acquire
  rw [if_neg hlock, pop_nil hnil]
  exact if_neg (UInt64.not_le.mpr hroom)

/-- The last idle buffer is handed out when it is marked. -/
theorem acquire_idle (hlock : ¬ pool.poisoned = true) (hlast : pool.buffers = rest ++ [last])
    (hreleased : last.released = true) :
    exec acquire pool =
      (.ok { last with data := ⟨[], Nat.zero_le _⟩, length := 0, released := false },
        { pool with buffers := rest, inUse := pool.inUse + 1 }) := by
  show acquire pool = _
  unfold acquire
  rw [if_neg hlock, pop_concat hlast]
  dsimp only
  rw [PacketBuffer.resetForReuse, if_pos hreleased]

/-- Otherwise it is lost. -/
theorem acquire_unmarked (hlock : ¬ pool.poisoned = true) (hlast : pool.buffers = rest ++ [last])
    (hunmarked : ¬ last.released = true) :
    exec acquire pool = (.error (.err .exhausted), { pool with buffers := rest }) := by
  show acquire pool = _
  unfold acquire
  rw [if_neg hlock, pop_concat hlast]
  dsimp only
  rw [PacketBuffer.resetForReuse, if_neg hunmarked]

/-- What an `acquire` comes to. -/
inductive Acquired (pool : BufferPool) : Checked PoolError PacketBuffer × BufferPool → Prop
  | refused : Acquired pool (.error (.err .exhausted), pool)
  | fresh : Acquired pool (allocate pool.bufferCapacity,
      { pool with allocated := pool.allocated + 1, inUse := pool.inUse + 1 })
  | lost {rest : List PacketBuffer} {last : PacketBuffer} (hlast : pool.buffers = rest ++ [last]) :
      Acquired pool (.error (.err .exhausted), { pool with buffers := rest })
  | idle {rest : List PacketBuffer} {last : PacketBuffer} (hlast : pool.buffers = rest ++ [last]) :
      Acquired pool (.ok { last with data := ⟨[], Nat.zero_le _⟩, length := 0, released := false },
        { pool with buffers := rest, inUse := pool.inUse + 1 })

theorem exec_acquire (pool : BufferPool) : Acquired pool (exec acquire pool) := by
  by_cases hlock : pool.poisoned = true
  · rw [acquire_poisoned hlock]
    exact .refused
  rcases List.eq_nil_or_concat' pool.buffers with hnil | ⟨rest, last, hlast⟩
  · by_cases hfull : pool.maxSize ≤ pool.allocated
    · rw [acquire_full hlock hnil hfull]
      exact .refused
    · rw [acquire_fresh hlock hnil (UInt64.not_le.mp hfull)]
      exact .fresh
  · by_cases hreleased : last.released = true
    · rw [acquire_idle hlock hlast hreleased]
      exact .idle hlast
    · rw [acquire_unmarked hlock hlast hreleased]
      exact .lost hlast

/-! ### Preallocating -/

theorem target_le (count : UInt64) (pool : BufferPool) : min count pool.maxSize ≤ pool.maxSize := by
  show (if count ≤ pool.maxSize then count else pool.maxSize) ≤ pool.maxSize
  by_cases h : count ≤ pool.maxSize
  · rw [if_pos h]
    exact h
  · rw [if_neg h]
    exact UInt64.le_refl _

theorem fill_of_le {target created : UInt64} (h : target ≤ pool.allocated) :
    fill target created pool = (.ok created, pool) := by
  rw [fill, if_neg (fun hmore => UInt64.not_lt.mpr h hmore.1)]

/-- Where the loop creates anything, it leaves an unmarked buffer on top. -/
theorem fill_spec (target created : UInt64) (pool : BufferPool)
    (hcapacity : pool.bufferCapacity ≤ isizeMax) :
    (fill target created pool).2.maxSize = pool.maxSize ∧
      (fill target created pool).2.poisoned = pool.poisoned ∧
      (pool.allocated < target → target ≤ pool.maxSize →
        ∃ rest, (fill target created pool).2.buffers = rest ++ [.new pool.bufferCapacity]) := by
  fun_induction fill target created pool with
  | case1 created pool hmore fault hfault =>
    rw [allocate_of_le hcapacity] at hfault
    cases hfault
  | case2 created pool hmore buffer hbuffer ih =>
    obtain rfl := (allocate_eq_ok hbuffer).2
    have hrec := ih hcapacity
    -- The last round of the loop is the one that leaves its buffer on top.
    refine ⟨hrec.1, hrec.2.1, fun _ htarget => ?_⟩
    by_cases hagain : pool.allocated + 1 < target
    · exact hrec.2.2 hagain htarget
    · rw [fill_of_le (UInt64.not_lt.mp hagain)]
      exact ⟨pool.buffers, rfl⟩
  | case3 created pool hdone =>
    refine ⟨rfl, rfl, fun hlt htarget => ?_⟩
    exact absurd ⟨hlt, UInt64.lt_of_lt_of_le hlt htarget⟩ hdone

theorem exec_preallocate (h : ¬ pool.poisoned = true) (count : UInt64) :
    exec (preallocate count) pool = fill (min count pool.maxSize) 0 pool :=
  if_neg h

/-! ## 4. Whole runs -/

/-- What a run keeps as long as `preallocate` creates nothing. -/
structure Inv (s : Sys) : Prop where
  capacity : s.pool.bufferCapacity ≤ isizeMax
  lock : ¬ s.pool.poisoned = true
  allocated : s.pool.allocated.toNat = s.pool.buffers.length + s.pool.inUse.toNat
  inUse : s.pool.inUse.toNat = s.held.length
  bounded : s.pool.allocated ≤ s.pool.maxSize
  released : ∀ b ∈ s.pool.buffers, b.released = true
  idleCapacity : ∀ b ∈ s.pool.buffers, b.capacity = s.pool.bufferCapacity
  heldCapacity : ∀ b ∈ s.held, b.capacity = s.pool.bufferCapacity

theorem Inv.new {maxSize : UInt64} {bufferCapacity : Nat}
    (h : new maxSize bufferCapacity = .ok pool) (hcapacity : bufferCapacity ≤ isizeMax) :
    Inv ⟨pool, []⟩ := by
  unfold BufferPool.new at h
  split_ifs at h
  obtain rfl := Except.ok.inj h
  refine ⟨hcapacity, Bool.false_ne_true, rfl, rfl, ?_, List.forall_mem_nil _,
    List.forall_mem_nil _, List.forall_mem_nil _⟩
  exact UInt64.le_iff_toNat_le.mpr (Nat.zero_le _)

theorem Inv.accounted (h : Inv s) : Accounted s where
  allocated := h.allocated
  inUse := h.inUse
  bounded := h.bounded
  acquires hroom := by
    rcases List.eq_nil_or_concat' s.pool.buffers with hnil | ⟨rest, last, hlast⟩
    · -- Nothing is idle, so that the places taken are those handed out.
      have hfree : s.pool.allocated < s.pool.maxSize := by
        rw [UInt64.lt_iff_toNat_lt, h.allocated, hnil, h.inUse]
        simpa using hroom
      rw [acquire_fresh h.lock hnil hfree, allocate_of_le h.capacity]
      exact ⟨_, rfl⟩
    · have hreleased : last.released = true := h.released last (by simp [hlast])
      rw [acquire_idle h.lock hlast hreleased]
      exact ⟨_, rfl⟩

theorem Inv.acquire (h : Inv s) : Inv (s.step .acquire) := by
  have hbounded := UInt64.le_iff_toNat_le.mp h.bounded
  have hmax := s.pool.maxSize.toNat_lt
  have hallocated := h.allocated
  have hinUse := h.inUse
  unfold Sys.step
  rcases List.eq_nil_or_concat' s.pool.buffers with hnil | ⟨rest, last, hlast⟩
  · by_cases hfull : s.pool.maxSize ≤ s.pool.allocated
    · rw [acquire_full h.lock hnil hfull]
      exact h
    · have hroom := UInt64.lt_iff_toNat_lt.mp (UInt64.not_le.mp hfull)
      rw [acquire_fresh h.lock hnil (UInt64.not_le.mp hfull), allocate_of_le h.capacity]
      have hsucc := toNat_succ (a := s.pool.allocated) (by omega)
      have hsucc' := toNat_succ (a := s.pool.inUse) (by omega)
      refine ⟨h.capacity, h.lock, ?_, ?_, ?_, h.released, h.idleCapacity, ?_⟩
      · dsimp only
        omega
      · dsimp only
        rw [List.length_append, List.length_singleton]
        omega
      · rw [UInt64.le_iff_toNat_le]
        dsimp only
        omega
      · exact List.forall_mem_append.mpr ⟨h.heldCapacity, List.forall_mem_singleton.mpr rfl⟩
  · have hlastIdle : last ∈ s.pool.buffers := by simp [hlast]
    have hrest : ∀ b ∈ rest, b ∈ s.pool.buffers := fun b hb => by simp [hlast, hb]
    rw [acquire_idle h.lock hlast (h.released last hlastIdle)]
    have hlength : s.pool.buffers.length = rest.length + 1 := by simp [hlast]
    have hsucc := toNat_succ (a := s.pool.inUse) (by omega)
    refine ⟨h.capacity, h.lock, ?_, ?_, h.bounded, fun b hb => h.released b (hrest b hb),
      fun b hb => h.idleCapacity b (hrest b hb), ?_⟩
    · dsimp only
      omega
    · dsimp only
      rw [List.length_append, List.length_singleton]
      omega
    · have hcapacity := h.idleCapacity last hlastIdle
      exact List.forall_mem_append.mpr ⟨h.heldCapacity, List.forall_mem_singleton.mpr hcapacity⟩

theorem Inv.release (h : Inv s) (i : Nat) : Inv (s.step (.release i)) := by
  have hallocated := h.allocated
  have hinUse := h.inUse
  have hbounded := UInt64.le_iff_toNat_le.mp h.bounded
  cases hget : s.held[i]? with
  | none =>
    rw [Sys.step, hget]
    exact h
  | some buffer =>
    have hlt : i < s.held.length := (List.getElem?_eq_some_iff.mp hget).1
    have hcapacity := h.heldCapacity buffer (List.mem_of_getElem? hget)
    -- The buffer that comes back is one of the places, so that the list has room for it.
    have hroom : ¬ s.pool.maxSize.toNat ≤ s.pool.buffers.length := by omega
    have hrelease : exec (BufferPool.release buffer) s.pool = (.ok (), { s.pool with
        buffers := s.pool.buffers ++ [marked buffer], inUse := s.pool.inUse - 1 }) := by
      show BufferPool.release buffer s.pool = _
      rw [BufferPool.release, if_neg (not_not.mpr hcapacity), if_neg h.lock, if_neg hroom]
    have hpred := toNat_pred (a := s.pool.inUse) (by omega)
    rw [Sys.step, hget]
    dsimp only
    rw [hrelease]
    refine ⟨h.capacity, h.lock, ?_, ?_, h.bounded, ?_, ?_,
      fun b hb => h.heldCapacity b (List.mem_of_mem_eraseIdx hb)⟩
    · dsimp only
      rw [List.length_append, List.length_singleton]
      omega
    · dsimp only
      rw [List.length_eraseIdx_of_lt hlt]
      omega
    · have hmarked := marked_released buffer
      exact List.forall_mem_append.mpr ⟨h.released, List.forall_mem_singleton.mpr hmarked⟩
    · have hkept := (marked_capacity buffer).trans hcapacity
      exact List.forall_mem_append.mpr ⟨h.idleCapacity, List.forall_mem_singleton.mpr hkept⟩

theorem Inv.clear (h : Inv s) : Inv (s.step .clear) := by
  have hclear : s.pool.clear = { s.pool with buffers := [], allocated := s.pool.inUse } := by
    rw [BufferPool.clear, if_neg h.lock]
  have hallocated := h.allocated
  have hbounded := UInt64.le_iff_toNat_le.mp h.bounded
  have hle : s.pool.inUse.toNat ≤ s.pool.maxSize.toNat := by omega
  rw [Sys.step, hclear]
  exact ⟨h.capacity, h.lock, (Nat.zero_add _).symm, h.inUse, UInt64.le_iff_toNat_le.mpr hle,
    List.forall_mem_nil _, List.forall_mem_nil _, h.heldCapacity⟩

/-- Work of a holder on its buffer. -/
theorem Inv.modify (h : Inv s) (i : Nat) {f : PacketBuffer → PacketBuffer}
    (hf : ∀ b, (f b).capacity = b.capacity) : Inv { s with held := s.held.modify i f } where
  capacity := h.capacity
  lock := h.lock
  allocated := h.allocated
  inUse := h.inUse.trans (List.length_modify ..).symm
  bounded := h.bounded
  released := h.released
  idleCapacity := h.idleCapacity
  heldCapacity b hb := by
    rcases List.getElem_of_mem hb with ⟨j, hj, rfl⟩
    rw [List.length_modify] at hj
    have hold := h.heldCapacity _ (List.getElem_mem hj)
    rw [List.getElem_modify]
    split
    · rw [hf]
      exact hold
    · exact hold

theorem Inv.step (h : Inv s) {turn : Turn} (hnone : CreatesNone s turn) : Inv (s.step turn) := by
  cases turn with
  | acquire => exact h.acquire
  | release i => exact h.release i
  | preallocate count =>
    rw [Sys.step, exec_preallocate h.lock, fill_of_le (hnone count rfl)]
    exact h
  | clear => exact h.clear
  | mark i => exact h.modify i marked_capacity
  | write i bytes => exact h.modify i (written_capacity bytes)

/-- After a `preallocate` that creates a buffer there is a place that cannot be acquired. -/
theorem Inv.not_accounted (h : Inv s) {turn : Turn} (hcreates : ¬ CreatesNone s turn) :
    ¬ Accounted (s.step turn) := by
  intro hafter
  unfold CreatesNone at hcreates
  push Not at hcreates
  rcases hcreates with ⟨count, rfl, hmin⟩
  have hlt := UInt64.not_le.mp hmin
  have htarget := target_le count s.pool
  have hpool : (s.step (.preallocate count)).pool = (fill (min count s.pool.maxSize) 0 s.pool).2 := by
    rw [Sys.step, exec_preallocate h.lock]
  obtain ⟨hmax, hpoisoned, hmore⟩ := fill_spec (min count s.pool.maxSize) 0 s.pool h.capacity
  rcases hmore hlt htarget with ⟨rest, hrest⟩
  have hallocated := h.allocated
  have hinUse := h.inUse
  have hfree : s.held.length < s.pool.maxSize.toNat := by
    have hlt := UInt64.lt_iff_toNat_lt.mp hlt
    have hle := UInt64.le_iff_toNat_le.mp htarget
    omega
  rcases hafter.acquires (by rw [hpool, hmax]; exact hfree) with ⟨buffer, hok⟩
  rw [hpool, acquire_unmarked (by rw [hpoisoned]; exact h.lock) hrest Bool.false_ne_true] at hok
  cases hok

/-- A pool of buffers that nothing can hold hands none out. -/
theorem not_accounted_new {maxSize : UInt64} {bufferCapacity : Nat}
    (h : new maxSize bufferCapacity = .ok pool) (hlarge : isizeMax < bufferCapacity) :
    ¬ Accounted ⟨pool, []⟩ := by
  intro hstart
  unfold BufferPool.new at h
  split_ifs at h with hzero
  obtain rfl := Except.ok.inj h
  have hmax : 0 < maxSize.toNat := by
    refine Nat.pos_of_ne_zero fun hnone => hzero (.inl ?_)
    exact UInt64.toNat_inj.mp hnone
  have hroom : (0 : UInt64) < maxSize := UInt64.lt_iff_toNat_lt.mpr hmax
  -- The new pool has nothing idle, and the first acquire comes to an allocation.
  rcases hstart.acquires hmax with ⟨buffer, hok⟩
  rw [acquire_fresh Bool.false_ne_true rfl hroom] at hok
  exact Nat.not_le_of_lt hlarge (allocate_eq_ok hok).1

/-- The accounts of a pool are right in every state of a run exactly when its buffers can be
allocated and no `preallocate` of the run creates one. -/
theorem accounted_run_iff {maxSize : UInt64} {bufferCapacity : Nat} {pool : BufferPool}
    (h : new maxSize bufferCapacity = .ok pool) (turns : List Turn) :
    Always Sys.step Accounted ⟨pool, []⟩ turns ↔
      bufferCapacity ≤ isizeMax ∧ Along Sys.step CreatesNone ⟨pool, []⟩ turns := by
  by_cases hcapacity : bufferCapacity ≤ isizeMax
  · rw [and_iff_right hcapacity]
    -- What is carried along is the invariant, which only a creation leaves.
    apply always_iff_along Inv
    · exact fun s hs => hs.accounted
    · exact fun s turn hs hnone => hs.step hnone
    · exact fun s turn hs hcreates => hs.not_accounted hcreates
    · exact Inv.new h hcapacity
  · -- Such a pool is wrong before its first call.
    refine iff_of_false (fun hall => ?_) fun hright => hcapacity hright.1
    exact not_accounted_new h (Nat.lt_of_not_le hcapacity) (hall [] turns rfl)

/-- Two places, one buffer preallocated: a run of one call. -/
theorem accounted_run_iff_preallocated :
    Always Sys.step Accounted ⟨⟨2, 64, [], false, 0, 0⟩, []⟩ [.preallocate 1] ↔
      64 ≤ isizeMax ∧ Along Sys.step CreatesNone ⟨⟨2, 64, [], false, 0, 0⟩, []⟩ [.preallocate 1] :=
  accounted_run_iff (show new 2 64 = .ok ⟨2, 64, [], false, 0, 0⟩ from rfl) _

/-- The buffer that was preallocated cannot be acquired, and its place is lost. -/
theorem preallocated_not_acquired :
    ¬ Always Sys.step Accounted ⟨⟨1, 64, [], false, 0, 0⟩, []⟩ [.preallocate 1, .acquire] := by
  intro h
  have hstart : Inv ⟨⟨1, 64, [], false, 0, 0⟩, []⟩ :=
    Inv.new (show new 1 64 = .ok ⟨1, 64, [], false, 0, 0⟩ from rfl) (by decide)
  have hcreates : ¬ CreatesNone ⟨⟨1, 64, [], false, 0, 0⟩, []⟩ (.preallocate 1) := fun hnone =>
    absurd (hnone 1 rfl) (by decide)
  exact hstart.not_accounted hcreates (h [.preallocate 1] [.acquire] rfl)

end BufferPool

end NetworkEngine
