import NetworkEngine.Bus.BufferPool

/-!
# BufferContents — the bytes of a buffer and its holders

`packet_bus::buffer` once more, with `append`, `clear` and `as_slice`.  The bytes of a buffer, its
length and its mark are three fields that the holder and the pool change one by one; what a holder
reads is put together from its own calls only.
-/

namespace NetworkEngine

open Rust Transition

namespace PacketBuffer

/-! ## 1. Operations -/

abbrev BufferOp (α : Type) := Op PacketBuffer (Fault BufferError) α

/-- `&self.data[..self.length]`. -/
def asSlice {ε : Type} (buffer : PacketBuffer) : Checked ε Bytes :=
  buffer.data.slice 0 buffer.length

def empty : Bytes := ⟨[], Nat.zero_le _⟩

def clear (buffer : PacketBuffer) : PacketBuffer :=
  if buffer.released then buffer else { buffer with data := empty, length := 0 }

/-- `self.data.extend_from_slice(bytes)`: no vector grows past `isize::MAX` bytes. -/
def extend (bytes : Bytes) : BufferOp Unit := do
  let buffer ← getState
  if h : (buffer.data.toList ++ bytes.toList).length ≤ isizeMax then
    modifyState fun buffer => { buffer with data := ⟨_, h⟩ }
  else throw .panic

/-- `write`, which changes one field after the other. -/
def writeSteps (bytes : Bytes) : BufferOp Unit := do
  let buffer ← getState
  if buffer.released then throw (.err .released)
  if buffer.capacity < bytes.len then throw (.err (.tooLarge bytes.len buffer.capacity))
  modifyState fun buffer => { buffer with data := empty }
  extend bytes
  modifyState fun buffer => { buffer with length := bytes.len }

def append (bytes : Bytes) : BufferOp Unit := do
  let buffer ← getState
  if buffer.released then throw (.err .released)
  match checkedAdd buffer.length bytes.len with
  | none => throw (.err .overflow)
  | some newLength => do
    if buffer.capacity < newLength then throw (.err (.tooLarge newLength buffer.capacity))
    extend bytes
    modifyState fun buffer => { buffer with length := newLength }

/-- What a holder does with its buffer. -/
inductive Call where
  | write (bytes : Bytes)
  | append (bytes : Bytes)
  | clear
  | release
  deriving DecidableEq, Repr

def perform : Call → BufferOp Unit
  | .write bytes => writeSteps bytes
  | .append bytes => append bytes
  | .clear => modifyState PacketBuffer.clear
  | .release => mapErr .err (atomically PacketBuffer.release)

/-! ## 2. What the calls say -/

/-- The bytes that a holder has put into a buffer, and whether it has given the buffer up. -/
structure Contents where
  bytes : List UInt8
  released : Bool
  deriving DecidableEq, Repr

def Contents.after (contents : Contents) : Call → Contents
  | .write bytes => { contents with bytes := bytes.toList }
  | .append bytes => { contents with bytes := contents.bytes ++ bytes.toList }
  | .clear => if contents.released then contents else { contents with bytes := [] }
  | .release => { contents with released := true }

/-- By the calls since `acquire`. -/
def contents (calls : List Call) : Contents := calls.foldl Contents.after ⟨[], false⟩

/-! ## 3. One call -/

variable {buffer : PacketBuffer} {bytes : Bytes}

theorem exec_extend (h : buffer.data.len + bytes.len ≤ isizeMax) :
    ∃ data : Bytes, data.toList = buffer.data.toList ++ bytes.toList ∧
      exec (extend bytes) buffer = (.ok (), { buffer with data }) := by
  have hlength : (buffer.data.toList ++ bytes.toList).length ≤ isizeMax := by
    rw [List.length_append]
    exact h
  refine ⟨⟨_, hlength⟩, rfl, ?_⟩
  rw [extend, exec_bind, exec_getState]
  dsimp only
  rw [dif_pos hlength, exec_modifyState]

/-- The steps of `write` come to the one it has been modelled by. -/
theorem exec_writeSteps (bytes : Bytes) (buffer : PacketBuffer) :
    exec (writeSteps bytes) buffer =
      exec (mapErr .err (atomically (PacketBuffer.write bytes)) : BufferOp Unit) buffer := by
  rw [writeSteps, exec_bind, exec_getState, exec_mapErr, exec_atomically, PacketBuffer.write]
  dsimp only
  by_cases hreleased : buffer.released = true
  · rw [if_pos hreleased, if_pos hreleased]
    rfl
  rw [if_neg hreleased, if_neg hreleased]
  by_cases hlarge : buffer.capacity < bytes.len
  · rw [if_pos hlarge, if_pos hlarge]
    rfl
  rw [if_neg hlarge, if_neg hlarge]
  have hroom : ({ buffer with data := empty } : PacketBuffer).data.len + bytes.len ≤ isizeMax := by
    show 0 + bytes.len ≤ isizeMax
    rw [Nat.zero_add]
    exact bytes.len_le
  obtain ⟨data, hdata, hextend⟩ := exec_extend hroom
  have heq : data = bytes := by
    cases data
    cases bytes
    simpa [empty] using hdata
  rw [exec_bind, exec_modifyState]
  dsimp only
  rw [exec_bind, hextend, heq]
  rfl

/-- The fields of a buffer agree with each other and with what its holder has put into it. -/
structure Holds (contents : Contents) (buffer : PacketBuffer) : Prop where
  bytes : buffer.data.toList = contents.bytes
  released : buffer.released = contents.released
  length : buffer.length = buffer.data.len
  bounded : buffer.length ≤ buffer.capacity
  allocated : buffer.capacity ≤ isizeMax

variable {c : Contents}

/-- A buffer as `acquire` hands it out. -/
theorem Holds.fresh {capacity : Nat} (h : capacity ≤ isizeMax) :
    Holds ⟨[], false⟩ ⟨empty, 0, capacity, false⟩ :=
  ⟨rfl, rfl, rfl, Nat.zero_le _, h⟩

theorem Holds.asSlice {ε : Type} (h : Holds c buffer) :
    (buffer.asSlice : Checked ε Bytes) = .ok buffer.data := by
  have hrange : 0 ≤ buffer.length ∧ buffer.length ≤ buffer.data.len :=
    ⟨Nat.zero_le _, Nat.le_of_eq h.length⟩
  have hall : (buffer.data.toList.drop 0).take (buffer.length - 0) = buffer.data.toList := by
    rw [List.drop_zero, Nat.sub_zero, h.length]
    exact List.take_length
  rw [PacketBuffer.asSlice, Bytes.slice, if_pos hrange]
  cases hdata : buffer.data
  rw [hdata] at hall
  simpa using hall

/-- A call does what it says, or fails with an error and changes nothing. -/
inductive Performed (c : Contents) (buffer : PacketBuffer) (call : Call) :
    Checked BufferError Unit × PacketBuffer → Prop
  | done (buffer' : PacketBuffer) (h : Holds (c.after call) buffer') :
      Performed c buffer call (.ok (), buffer')
  | refused (e : BufferError) : Performed c buffer call (.error (.err e), buffer)

theorem Holds.write (h : Holds c buffer) (bytes : Bytes) :
    Performed c buffer (.write bytes) (exec (writeSteps bytes) buffer) := by
  rw [exec_writeSteps, exec_mapErr, exec_atomically, PacketBuffer.write]
  by_cases hreleased : buffer.released = true
  · rw [if_pos hreleased]
    exact .refused _
  rw [if_neg hreleased]
  by_cases hlarge : buffer.capacity < bytes.len
  · rw [if_pos hlarge]
    exact .refused _
  · rw [if_neg hlarge]
    exact .done _ ⟨rfl, h.released, rfl, Nat.le_of_not_lt hlarge, h.allocated⟩

theorem Holds.append (h : Holds c buffer) (bytes : Bytes) :
    Performed c buffer (.append bytes) (exec (append bytes) buffer) := by
  rw [PacketBuffer.append, exec_bind, exec_getState]
  dsimp only
  by_cases hreleased : buffer.released = true
  · rw [if_pos hreleased]
    exact .refused _
  rw [if_neg hreleased]
  cases hadd : checkedAdd buffer.length bytes.len with
  | none => exact .refused _
  | some newLength =>
    obtain ⟨-, rfl⟩ := checkedAdd_eq_some.mp hadd
    dsimp only
    by_cases hlarge : buffer.capacity < buffer.length + bytes.len
    · rw [if_pos hlarge]
      exact .refused _
    have hfits := Nat.le_of_not_lt hlarge
    -- What fits the capacity can be allocated.
    have hroom : buffer.data.len + bytes.len ≤ isizeMax := h.length ▸ hfits.trans h.allocated
    obtain ⟨data, hdata, hextend⟩ := exec_extend hroom
    rw [if_neg hlarge, exec_bind, hextend]
    refine .done _ ⟨?_, h.released, ?_, hfits, h.allocated⟩
    · show data.toList = c.bytes ++ bytes.toList
      rw [hdata, h.bytes]
    · show buffer.length + bytes.len = data.toList.length
      rw [hdata, List.length_append, h.length]
      rfl

theorem Holds.clear (h : Holds c buffer) : Holds (c.after .clear) buffer.clear := by
  unfold PacketBuffer.clear Contents.after
  dsimp only
  by_cases hreleased : buffer.released = true
  · rw [if_pos hreleased, if_pos (h.released.symm.trans hreleased)]
    exact h
  · rw [if_neg hreleased, if_neg (h.released ▸ hreleased)]
    exact ⟨rfl, h.released, rfl, Nat.zero_le _, h.allocated⟩

theorem Holds.perform (h : Holds c buffer) (call : Call) :
    Performed c buffer call (exec (perform call) buffer) := by
  cases call with
  | write bytes => exact h.write bytes
  | append bytes => exact h.append bytes
  | clear => exact .done _ h.clear
  | release =>
    rw [PacketBuffer.perform, exec_mapErr, exec_atomically, PacketBuffer.release]
    by_cases hreleased : buffer.released = true
    · rw [if_pos hreleased]
      exact .refused _
    · rw [if_neg hreleased]
      exact .done _ ⟨h.bytes, rfl, h.length, h.bounded, h.allocated⟩

end PacketBuffer

namespace BufferContents

open PacketBuffer (Call Contents contents perform writeSteps append Holds Performed)

/-! ## 4. Runs -/

/-- A buffer that is handed out, with the calls of its holder that succeeded. -/
structure Held where
  buffer : PacketBuffer
  calls : List Call
  deriving DecidableEq, Repr

def Held.perform (call : Call) (h : Held) : Held :=
  match exec (PacketBuffer.perform call) h.buffer with
  | (.ok (), buffer) => ⟨buffer, h.calls ++ [call]⟩
  | (.error _, buffer) => { h with buffer }

structure Sys where
  pool : BufferPool
  held : List Held
  deriving DecidableEq, Repr

inductive Turn where
  | acquire
  /-- The holder of a buffer calls one of its methods. -/
  | call (i : Nat) (call : Call)
  /-- The buffer goes back to the pool. -/
  | release (i : Nat)
  deriving DecidableEq, Repr

def step (s : Sys) : Turn → Sys
  | .acquire =>
    match exec BufferPool.acquire s.pool with
    | (.ok buffer, pool) => ⟨pool, s.held ++ [⟨buffer, []⟩]⟩
    | (.error _, pool) => { s with pool }
  | .call i call => { s with held := s.held.modify i (·.perform call) }
  | .release i =>
    match s.held[i]? with
    | some h => ⟨(exec (BufferPool.release h.buffer) s.pool).2, s.held.eraseIdx i⟩
    | none => s

/-- A holder reads what it has written, and nothing else. -/
structure OwnBytes (s : Sys) : Prop where
  /-- `as_slice` does not panic. -/
  slices : ∀ h ∈ s.held, ∃ bytes : Bytes,
    (h.buffer.asSlice : Checked BufferError Bytes) = .ok bytes ∧ bytes.toList = (contents h.calls).bytes
  lengths : ∀ h ∈ s.held, h.buffer.data.len = h.buffer.length ∧
    h.buffer.length ≤ h.buffer.capacity
  acquired : ∀ buffer, (exec BufferPool.acquire s.pool).1 = .ok buffer →
    buffer.length = 0 ∧ (buffer.asSlice : Checked BufferError Bytes) = .ok PacketBuffer.empty ∧
      buffer.released = false
  unchanged : ∀ h ∈ s.held, ∀ call fault buffer,
    exec (perform call) h.buffer = (.error fault, buffer) →
      buffer = h.buffer ∧ ∃ e, fault = .err e

structure Inv (s : Sys) : Prop where
  held : ∀ h ∈ s.held, Holds (contents h.calls) h.buffer
  idle : ∀ b ∈ s.pool.buffers, b.capacity ≤ isizeMax

variable {s : Sys} {pool : BufferPool} {buffer : PacketBuffer}

/-- Whether it is new or comes back, an acquired buffer is empty, and nothing else becomes idle. -/
theorem acquire_spec (h : ∀ b ∈ pool.buffers, b.capacity ≤ isizeMax) :
    (∀ buffer, (exec BufferPool.acquire pool).1 = .ok buffer →
      ∃ capacity ≤ isizeMax, buffer = ⟨PacketBuffer.empty, 0, capacity, false⟩) ∧
    ∀ b ∈ (exec BufferPool.acquire pool).2.buffers, b.capacity ≤ isizeMax := by
  have hacquired := BufferPool.exec_acquire pool
  generalize exec BufferPool.acquire pool = outcome at hacquired ⊢
  cases hacquired with
  | refused => exact ⟨nofun, h⟩
  | fresh =>
    refine ⟨fun buffer hok => ?_, h⟩
    obtain ⟨hcapacity, rfl⟩ := BufferPool.allocate_eq_ok hok
    exact ⟨pool.bufferCapacity, hcapacity, rfl⟩
  | lost hlast =>
    rw [hlast] at h
    exact ⟨nofun, fun b hb => h b (List.mem_append_left _ hb)⟩
  | @idle rest last hlast =>
    rw [hlast] at h
    refine ⟨fun buffer hok => ?_, fun b hb => h b (List.mem_append_left _ hb)⟩
    obtain rfl := Except.ok.inj hok
    exact ⟨last.capacity, h last (List.mem_append_right _ (List.mem_singleton_self last)), rfl⟩

theorem release_buffers (buffer : PacketBuffer) (pool : BufferPool) :
    ∀ b ∈ (exec (BufferPool.release buffer) pool).2.buffers,
      b ∈ pool.buffers ∨ b = BufferPool.marked buffer := by
  show ∀ b ∈ (BufferPool.release buffer pool).2.buffers, _
  unfold BufferPool.release
  intro b hb
  split_ifs at hb
  · exact .inl hb
  · exact .inl hb
  · exact .inl hb
  · rcases List.mem_append.mp hb with hold | hnew
    · exact .inl hold
    · exact .inr (List.mem_singleton.mp hnew)

theorem Inv.acquire (h : Inv s) : Inv (step s .acquire) := by
  have hspec := acquire_spec h.idle
  rw [step]
  generalize exec BufferPool.acquire s.pool = outcome at hspec ⊢
  obtain ⟨result, pool⟩ := outcome
  cases result with
  | error fault => exact ⟨h.held, hspec.2⟩
  | ok buffer =>
    refine ⟨?_, hspec.2⟩
    obtain ⟨capacity, hcapacity, rfl⟩ := hspec.1 buffer rfl
    have hfresh := Holds.fresh hcapacity
    exact List.forall_mem_append.mpr ⟨h.held, List.forall_mem_singleton.mpr hfresh⟩

theorem Inv.call (h : Inv s) (i : Nat) (call : Call) : Inv (step s (.call i call)) := by
  refine ⟨?_, h.idle⟩
  intro held hheld
  rcases List.getElem_of_mem hheld with ⟨j, hj, rfl⟩
  have hlength := hj
  rw [step, List.length_modify] at hlength
  have hold := h.held _ (List.getElem_mem hlength)
  simp only [step, List.getElem_modify]
  split
  · have hperformed := hold.perform call
    rw [Held.perform]
    generalize exec (perform call) (s.held[j]).buffer = outcome at hperformed ⊢
    cases hperformed with
    | done buffer' hafter =>
      show Holds (contents ((s.held[j]).calls ++ [call])) buffer'
      rw [contents, List.foldl_append]
      exact hafter
    | refused e => exact hold
  · exact hold

theorem Inv.release (h : Inv s) (i : Nat) : Inv (step s (.release i)) := by
  rw [step]
  cases hget : s.held[i]? with
  | none => exact h
  | some held =>
    refine ⟨fun b hb => h.held b (List.mem_of_mem_eraseIdx hb), ?_⟩
    intro b hb
    rcases release_buffers held.buffer s.pool b hb with hold | rfl
    · exact h.idle b hold
    · rw [BufferPool.marked_capacity]
      exact (h.held held (List.mem_of_getElem? hget)).allocated

theorem Inv.step (h : Inv s) (turn : Turn) : Inv (step s turn) := by
  cases turn with
  | acquire => exact h.acquire
  | call i call => exact h.call i call
  | release i => exact h.release i

theorem Inv.ownBytes (h : Inv s) : OwnBytes s where
  slices held hheld := ⟨_, (h.held held hheld).asSlice, (h.held held hheld).bytes⟩
  lengths held hheld := ⟨(h.held held hheld).length.symm, (h.held held hheld).bounded⟩
  acquired buffer hok := by
    obtain ⟨capacity, -, rfl⟩ := (acquire_spec h.idle).1 buffer hok
    exact ⟨rfl, rfl, rfl⟩
  unchanged held hheld call fault buffer hfails := by
    have hperformed := (h.held held hheld).perform call
    rw [hfails] at hperformed
    cases hperformed with
    | refused e => exact ⟨rfl, e, rfl⟩

/-- In every run on a pool, each holder reads exactly the bytes of its own successful calls. -/
theorem own_bytes_run {maxSize : UInt64} {bufferCapacity : Nat} {pool : BufferPool}
    (h : BufferPool.new maxSize bufferCapacity = .ok pool) (turns : List Turn) :
    Always BufferContents.step OwnBytes ⟨pool, []⟩ turns := by
  have hstart : Inv ⟨pool, []⟩ := by
    refine ⟨List.forall_mem_nil _, ?_⟩
    unfold BufferPool.new at h
    split_ifs at h
    obtain rfl := Except.ok.inj h
    exact List.forall_mem_nil _
  intro before after _
  exact (run_inv (fun s turn hs => hs.step turn) hstart before).ownBytes

/-- A buffer that its holder has released before it gives it back, and the next holder of it. -/
theorem own_bytes_run_reused :
    Always BufferContents.step OwnBytes ⟨⟨1, 4, [], false, 0, 0⟩, []⟩
      [.acquire, .call 0 (.write ⟨[1, 2, 3], by decide⟩), .call 0 (.append ⟨[4, 5], by decide⟩),
        .call 0 .release, .call 0 .clear, .release 0, .acquire,
        .call 0 (.append ⟨[9], by decide⟩)] :=
  own_bytes_run (show BufferPool.new 1 4 = .ok ⟨1, 4, [], false, 0, 0⟩ from rfl) _

end BufferContents

end NetworkEngine
