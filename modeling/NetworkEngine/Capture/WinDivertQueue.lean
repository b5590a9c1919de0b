import Mathlib.Algebra.Ring.Nat
import NetworkEngine.Backend.Native
import NetworkEngine.Lib.Checked
import NetworkEngine.Lib.Op
import NetworkEngine.Lib.Transition

/-!
# WinDivertQueue — the queue in front of the driver

`backend_windivert::{packet, queue}`.  A packet has at least one byte and at most 65535.  The queue
is bounded in packets and in bytes, and keeps the number of its bytes beside the packets.
-/

namespace NetworkEngine

open Rust Transition

/-! ## 1. Packets -/

def maxPacketSize : Nat := 65535

/-- `packet::PacketDirection`. -/
inductive QueuePacketDirection where
  | inbound
  | outbound
  | unknown
  deriving DecidableEq, Repr

structure WinDivertPacket where
  data : Bytes
  timestampNs : UInt64
  direction : QueuePacketDirection
  interfaceIndex : UInt32
  subInterfaceIndex : UInt32
  nonempty : data.len ≠ 0
  len_le : data.len ≤ maxPacketSize
  deriving DecidableEq

namespace WinDivertPacket

def new (data : Bytes) : Except WinDivertError WinDivertPacket :=
  if hempty : data.len = 0 then .error .invalidPacket
  else if hlong : maxPacketSize < data.len then .error .packetTooLarge
  else .ok {
    data := data
    timestampNs := 0
    direction := .unknown
    interfaceIndex := 0
    subInterfaceIndex := 0
    nonempty := hempty
    len_le := Nat.le_of_not_lt hlong }

def len (packet : WinDivertPacket) : Nat := packet.data.len

end WinDivertPacket

/-! ## 2. The queue -/

structure WinDivertQueue where
  packets : List WinDivertPacket
  maxPackets : Nat
  maxBytes : Nat
  currentBytes : Nat
  deriving DecidableEq

namespace WinDivertQueue

def withLimits (maxPackets maxBytes : Nat) : WinDivertQueue where
  packets := []
  maxPackets := max maxPackets 1
  maxBytes := max maxBytes 1
  currentBytes := 0

/-- `WinDivertQueue::new`: 4096 packets and 64 MiB. -/
def new : WinDivertQueue := withLimits 4096 (64 * 1024 * 1024)

def len (queue : WinDivertQueue) : Nat := queue.packets.length

def push (packet : WinDivertPacket) : Op WinDivertQueue WinDivertError Unit := do
  let queue ← getState
  let size := packet.len
  if size = 0 then throw .invalidPacket
  if queue.maxBytes < size then throw .packetTooLarge
  if queue.maxPackets ≤ queue.len then throw .queueFull
  match checkedAdd queue.currentBytes size with
  | none => throw .queueFull
  | some total => do
    if queue.maxBytes < total then throw .queueFull
    modifyState fun queue => { queue with currentBytes := total }
    modifyState fun queue => { queue with packets := queue.packets ++ [packet] }

def pop : Op WinDivertQueue WinDivertError WinDivertPacket := do
  let queue ← getState
  match queue.packets with
  | [] => throw .queueEmpty
  | packet :: rest => do
    modifyState fun queue => { queue with packets := rest }
    -- `saturating_sub`
    modifyState fun queue => { queue with currentBytes := queue.currentBytes - packet.len }
    return packet

/-- `self.pop().ok()`. -/
def tryPop (queue : WinDivertQueue) : Option WinDivertPacket × WinDivertQueue :=
  let result := exec pop queue
  (result.1.toOption, result.2)

def clear (queue : WinDivertQueue) : WinDivertQueue :=
  { queue with packets := [], currentBytes := 0 }

/-! ## 3. One call -/

variable {queue : WinDivertQueue} {packet : WinDivertPacket}

/-- The queue with one more packet. -/
def pushed (queue : WinDivertQueue) (packet : WinDivertPacket) : WinDivertQueue :=
  { queue with
    packets := queue.packets ++ [packet]
    currentBytes := queue.currentBytes + packet.len }

/-- A packet is refused, and nothing changes, or there is room for it. -/
theorem push_cases (queue : WinDivertQueue) (packet : WinDivertPacket) :
    (∃ error, exec (push packet) queue = (.error error, queue)) ∨
      exec (push packet) queue = (.ok (), queue.pushed packet) ∧
        queue.len < queue.maxPackets ∧ queue.currentBytes + packet.len ≤ queue.maxBytes := by
  unfold push
  rw [exec_bind_ok (exec_getState queue)]
  by_cases hempty : packet.len = 0
  · exact .inl ⟨.invalidPacket, by simp only [hempty]; rfl⟩
  by_cases hlong : queue.maxBytes < packet.len
  · exact .inl ⟨.packetTooLarge, by simp only [hempty, hlong]; rfl⟩
  by_cases hfull : queue.maxPackets ≤ queue.len
  · exact .inl ⟨.queueFull, by simp only [hempty, hlong, hfull]; rfl⟩
  cases hsum : checkedAdd queue.currentBytes packet.len with
  | none => exact .inl ⟨.queueFull, by simp only [hempty, hlong, hfull, hsum]; rfl⟩
  | some total =>
    obtain ⟨-, rfl⟩ := checkedAdd_eq_some.mp hsum
    by_cases hbytes : queue.maxBytes < queue.currentBytes + packet.len
    · exact .inl ⟨.queueFull, by simp only [hempty, hlong, hfull, hsum, hbytes]; rfl⟩
    · refine .inr ⟨?_, Nat.lt_of_not_le hfull, Nat.le_of_not_lt hbytes⟩
      simp only [hempty, hlong, hfull, hsum, hbytes]
      rfl

theorem pop_nil (h : queue.packets = []) : exec pop queue = (.error .queueEmpty, queue) := by
  unfold pop
  rw [exec_bind_ok (exec_getState queue), h]
  rfl

theorem pop_cons {rest : List WinDivertPacket} (h : queue.packets = packet :: rest) :
    exec pop queue = (.ok packet,
      { queue with packets := rest, currentBytes := queue.currentBytes - packet.len }) := by
  unfold pop
  rw [exec_bind_ok (exec_getState queue), h]
  rfl

/-! ## 4. Sequences of calls -/

inductive Call where
  | push (packet : WinDivertPacket)
  | pop
  | tryPop
  | clear
  deriving DecidableEq

/-- Packets that were accepted, and packets that came out, in this order. -/
structure Stretch where
  accepted : List WinDivertPacket
  out : List WinDivertPacket

/-- A queue with what went through it since it was last cleared, and in the stretches before. -/
structure Use where
  queue : WinDivertQueue
  now : Stretch
  past : List Stretch

def start (maxPackets maxBytes : Nat) : Use := ⟨withLimits maxPackets maxBytes, ⟨[], []⟩, []⟩

namespace Use

def push (s : Use) (packet : WinDivertPacket) : Use :=
  let result := exec (WinDivertQueue.push packet) s.queue
  { s with
    queue := result.2
    now.accepted := if result.1.isOk then s.now.accepted ++ [packet] else s.now.accepted }

/-- Both calls that take a packet out. -/
def take (s : Use) (result : Option WinDivertPacket × WinDivertQueue) : Use :=
  { s with queue := result.2, now.out := s.now.out ++ result.1.toList }

def step (s : Use) : Call → Use
  | .push packet => s.push packet
  | .pop =>
    let result := exec WinDivertQueue.pop s.queue
    s.take (result.1.toOption, result.2)
  | .tryPop => s.take s.queue.tryPop
  | .clear => ⟨s.queue.clear, ⟨[], []⟩, s.past ++ [s.now]⟩

end Use

/-- The number of bytes in the queue. -/
def totalBytes (queue : WinDivertQueue) : Nat := (queue.packets.map WinDivertPacket.len).sum

/-- The counter is exact and both limits are kept; what was accepted came out or is still there. -/
structure Accounted (maxPackets maxBytes : Nat) (s : Use) : Prop where
  maxPackets_eq : s.queue.maxPackets = max maxPackets 1
  maxBytes_eq : s.queue.maxBytes = max maxBytes 1
  bytes_eq : s.queue.currentBytes = s.queue.totalBytes
  bytes_le : s.queue.currentBytes ≤ s.queue.maxBytes
  len_le : s.queue.len ≤ s.queue.maxPackets
  fifo : s.now.accepted = s.now.out ++ s.queue.packets
  past : ∀ stretch ∈ s.past, stretch.out <+: stretch.accepted

namespace Accounted

variable {maxPackets maxBytes : Nat} {s : Use}

theorem start (maxPackets maxBytes : Nat) :
    Accounted maxPackets maxBytes (start maxPackets maxBytes) where
  maxPackets_eq := rfl
  maxBytes_eq := rfl
  bytes_eq := rfl
  bytes_le := Nat.zero_le _
  len_le := Nat.zero_le _
  fifo := rfl
  past := nofun

theorem push (h : Accounted maxPackets maxBytes s) (packet : WinDivertPacket) :
    Accounted maxPackets maxBytes (s.push packet) := by
  unfold Use.push
  obtain ⟨error, hrefused⟩ | ⟨hpushed, hroom, hbytes⟩ := push_cases s.queue packet
  · rw [hrefused]
    exact h
  · rw [hpushed]
    exact {
      maxPackets_eq := h.maxPackets_eq
      maxBytes_eq := h.maxBytes_eq
      bytes_eq := by
        show s.queue.currentBytes + packet.len =
          ((s.queue.packets ++ [packet]).map WinDivertPacket.len).sum
        rw [List.map_append, List.sum_append, List.map_singleton, List.sum_singleton, h.bytes_eq]
        rfl
      bytes_le := hbytes
      len_le := by
        show (s.queue.packets ++ [packet]).length ≤ _
        rw [List.length_append]
        exact hroom
      fifo := by
        show s.now.accepted ++ [packet] = s.now.out ++ (s.queue.packets ++ [packet])
        rw [h.fifo, List.append_assoc]
      past := h.past }

theorem pop (h : Accounted maxPackets maxBytes s) :
    Accounted maxPackets maxBytes (s.take s.queue.tryPop) := by
  unfold Use.take tryPop
  cases hpackets : s.queue.packets with
  | nil =>
    rw [pop_nil hpackets]
    have hout : s.now.out ++ (none : Option WinDivertPacket).toList = s.now.out :=
      List.append_nil _
    dsimp only [Except.toOption]
    rw [hout]
    exact h
  | cons packet rest =>
    -- The counter has the bytes of this packet, so it cannot saturate.
    have hbytes : s.queue.currentBytes = packet.len + (rest.map WinDivertPacket.len).sum := by
      rw [h.bytes_eq, totalBytes, hpackets, List.map_cons, List.sum_cons]
    rw [pop_cons hpackets]
    exact {
      maxPackets_eq := h.maxPackets_eq
      maxBytes_eq := h.maxBytes_eq
      bytes_eq := by
        show s.queue.currentBytes - packet.len = (rest.map WinDivertPacket.len).sum
        rw [hbytes, Nat.add_sub_cancel_left]
      bytes_le := Nat.le_trans (Nat.sub_le _ _) h.bytes_le
      len_le := by
        have hlen := h.len_le
        rw [len, hpackets, List.length_cons] at hlen
        exact Nat.le_of_succ_le hlen
      fifo := by
        show s.now.accepted = s.now.out ++ [packet] ++ rest
        rw [h.fifo, hpackets, List.append_assoc]
        rfl
      past := h.past }

theorem clear (h : Accounted maxPackets maxBytes s) :
    Accounted maxPackets maxBytes (s.step .clear) where
  maxPackets_eq := h.maxPackets_eq
  maxBytes_eq := h.maxBytes_eq
  bytes_eq := rfl
  bytes_le := Nat.zero_le _
  len_le := Nat.zero_le _
  fifo := rfl
  past := by
    intro stretch hstretch
    obtain hstretch | hstretch := List.mem_append.mp hstretch
    · exact h.past stretch hstretch
    · rw [List.mem_singleton.mp hstretch]
      exact ⟨s.queue.packets, h.fifo.symm⟩

theorem step (h : Accounted maxPackets maxBytes s) (call : Call) :
    Accounted maxPackets maxBytes (s.step call) := by
  cases call with
  | push packet => exact h.push packet
  | pop => exact h.pop
  | tryPop => exact h.pop
  | clear => exact h.clear

end Accounted

/-- After any calls the counter is the number of bytes in the queue, so that no subtraction
saturates, and both limits are kept.  Since the queue was last cleared the packets came out in the
order in which they were accepted, and so they did in every stretch before.  A push that fails
changes nothing. -/
theorem byte_accounting_run (maxPackets maxBytes : Nat) (calls : List Call) :
    let s := run Use.step (start maxPackets maxBytes) calls
    s.queue.currentBytes = s.queue.totalBytes ∧
      (∀ packet rest, s.queue.packets = packet :: rest → packet.len ≤ s.queue.currentBytes) ∧
      s.queue.currentBytes ≤ s.queue.maxBytes ∧ s.queue.maxBytes = max maxBytes 1 ∧
      s.queue.len ≤ s.queue.maxPackets ∧ s.queue.maxPackets = max maxPackets 1 ∧
      s.now.accepted = s.now.out ++ s.queue.packets ∧
      (∀ stretch ∈ s.past, stretch.out <+: stretch.accepted) ∧
      ∀ packet error, (exec (push packet) s.queue).1 = .error error →
        (exec (push packet) s.queue).2 = s.queue := by
  intro s
  have haccounted : Accounted maxPackets maxBytes s :=
    run_inv (fun _ call h => h.step call) (.start maxPackets maxBytes) calls
  refine ⟨haccounted.bytes_eq, ?_, haccounted.bytes_le, haccounted.maxBytes_eq, haccounted.len_le,
    haccounted.maxPackets_eq, haccounted.fifo, haccounted.past, ?_⟩
  · intro packet rest hpackets
    rw [haccounted.bytes_eq, totalBytes, hpackets, List.map_cons, List.sum_cons]
    exact Nat.le_add_right _ _
  · intro packet error herror
    obtain ⟨error', hrefused⟩ | ⟨hpushed, -⟩ := push_cases s.queue packet
    · rw [hrefused]
    · rw [hpushed] at herror
      cases herror

end WinDivertQueue

end NetworkEngine
