import NetworkEngine.Ffi.Annotations
import NetworkEngine.Lib.Threads

/-!
# WorkerPool — lookups through bounded queues

`metadata_engine::workers`.  `MetaSys` keeps the lookups under way in one list, any of which may be
answered next; this is the pool behind it.  Every worker has a bounded queue of its own, which
`enqueue` finds by probing one queue after another, and sends its results into one bounded channel.
`stop_all` drops the senders of the queues and empties the channel until the last worker has ended.

The channels are those of `std::sync::mpsc`, and no worker panics.  The `active` flags are left out:
a worker goes back to its queue whatever its flag says.
-/

namespace NetworkEngine

open Transition Threads
open Ffi (WorkItem WorkResult processItem)

/-! ## 1. Workers and channels -/

/-- `mpsc::TrySendError<WorkItem>`. -/
inductive TrySendError where
  | full (item : WorkItem)
  | disconnected (item : WorkItem)
  deriving DecidableEq, Repr

namespace TrySendError

/-- The item that comes back. -/
def item : TrySendError → WorkItem
  | full item | disconnected item => item

def isFull : TrySendError → Bool
  | full _ => true
  | disconnected _ => false

end TrySendError

inductive TryRecvError where
  | empty
  | disconnected
  deriving DecidableEq, Repr

/-- The thread of a worker, with its queue. -/
structure MetadataWorker where
  queue : List WorkItem
  /-- What `send` is about to put into the result channel. -/
  sending : Option WorkResult
  finished : Bool
  deriving DecidableEq, Repr

namespace MetadataWorker

def new : MetadataWorker := ⟨[], none, false⟩

/-- The next step of the thread, and what it sends.  `room` is room in the result channel, which
outlives the thread, so that `send` does not fail. -/
def next (connected room : Bool) (w : MetadataWorker) : MetadataWorker × Option WorkResult :=
  if w.finished then (w, none)
  else
    match w.sending, w.queue with
    | some result, _ => if room then ({ w with sending := none }, some result) else (w, none)
    | none, item :: queue => ({ w with queue, sending := processItem item }, none)
    -- `recv_timeout` times out while there is a sender.
    | none, [] => if connected then (w, none) else ({ w with finished := true }, none)

end MetadataWorker

/-- Where `stop_all` is. -/
inductive StopPhase where
  | running
  /-- Before the test of the handles. -/
  | looping
  /-- In the `drain_results` of the loop. -/
  | draining
  /-- In the last `drain_results`. -/
  | finishing
  | stopped
  deriving DecidableEq, Repr

/-- No call of `stop_all` has the pool for itself. -/
def StopPhase.shared : StopPhase → Bool
  | running | stopped => true
  | looping | draining | finishing => false

structure WorkerPool where
  /-- The capacity of every queue. -/
  capacity : Nat
  resultCapacity : Nat
  workers : List MetadataWorker
  /-- The length of `senders`; sender `i` belongs to the queue of worker `i`. -/
  senders : Nat
  nextWorker : UInt64
  results : List WorkResult
  phase : StopPhase
  deriving DecidableEq, Repr

namespace WorkerPool

/-- The slots of every channel are allocated here, so that `capacity * worker_count` is in range. -/
def withQueueCapacity (count queueCapacity : Nat) : WorkerPool :=
  let workerCount := max count 1
  let capacity := max queueCapacity 1
  { capacity
    resultCapacity := capacity * workerCount
    workers := List.replicate workerCount .new
    senders := workerCount
    nextWorker := 0
    results := []
    phase := .running }

/-- `self.senders[index].try_send(item)`. -/
def trySend (p : WorkerPool) (index : Nat) (item : WorkItem) : Except TrySendError WorkerPool :=
  match p.workers[index]? with
  | none => .error (.disconnected item)
  | some w =>
    if w.finished then .error (.disconnected item)
    else if p.capacity ≤ w.queue.length then .error (.full item)
    else .ok { p with workers := p.workers.set index { w with queue := w.queue ++ [item] } }

/-- The next step of worker `i`. -/
def work (p : WorkerPool) (i : Nat) : WorkerPool :=
  match p.workers[i]? with
  | none => p
  | some w =>
    let (w, sent) := w.next (i < p.senders) (p.results.length < p.resultCapacity)
    { p with workers := p.workers.set i w, results := p.results ++ sent.toList }

def allFinished (p : WorkerPool) : Bool := p.workers.all (·.finished)

/-- `try_recv` on the result channel, whose senders are the threads. -/
def tryRecv (p : WorkerPool) : Except TryRecvError WorkResult × WorkerPool :=
  match p.results with
  | result :: results => (.ok result, { p with results })
  | [] => (.error (if p.allFinished then .disconnected else .empty), p)

def tryRecvResult (p : WorkerPool) : Except TryRecvError (Option WorkResult) × WorkerPool :=
  match p.tryRecv with
  | (.ok result, p) => (.ok (some result), p)
  | (.error .empty, p) => (.ok none, p)
  | (.error .disconnected, p) => (.error .disconnected, p)

/-- `stop_all` up to its loop, where nothing blocks. -/
def stopAll (p : WorkerPool) : WorkerPool := { p with senders := 0, phase := .looping }

/-- One `try_recv` of `drain_results`. -/
def receive (p : WorkerPool) (more done : StopPhase) : WorkerPool × Option WorkResult :=
  match p.tryRecv with
  | (.ok result, p) => ({ p with phase := more }, some result)
  | (.error _, p) => ({ p with phase := done }, none)

/-- The next step of `stop_all`.  The test of the handles goes with the receive that follows it. -/
def drain (p : WorkerPool) : WorkerPool × Option WorkResult :=
  match p.phase with
  | .looping =>
    if p.allFinished then ({ p with phase := .finishing }, none) else p.receive .draining .looping
  | .draining => p.receive .draining .looping
  | .finishing => p.receive .finishing .stopped
  | .running | .stopped => (p, none)

/-! ## 2. Calls -/

/-- An `enqueue` between two probes. -/
structure Call where
  /-- The argument. -/
  given : WorkItem
  item : WorkItem
  start : Nat
  offset : Nat
  sawFull : Bool
  /-- What the queues have answered. -/
  refusals : List (Nat × TrySendError)
  deriving DecidableEq, Repr

namespace Call

def index (senders : Nat) (c : Call) : Nat := (c.start + c.offset) % senders

/-- The loop goes on to the next offset. -/
def refuse (senders : Nat) (error : TrySendError) (c : Call) : Call :=
  { c with
    item := error.item
    sawFull := c.sawFull || error.isFull
    offset := c.offset + 1
    refusals := c.refusals ++ [(c.index senders, error)] }

/-- After the loop. -/
def failure (c : Call) : TrySendError := if c.sawFull then .full c.item else .disconnected c.item

end Call

/-- An `enqueue` that has returned. -/
structure Ending where
  given : WorkItem
  refusals : List (Nat × TrySendError)
  outcome : Except TrySendError Unit

/-- The pool, the calls of `enqueue` under way and those that have ended, and the results that
`try_recv_result` and `stop_all` have taken. -/
structure Sys where
  pool : WorkerPool
  calls : List Call
  endings : List Ending
  received : List WorkResult
  drained : List WorkResult

inductive Move where
  | enqueue (item : WorkItem)
  /-- The next `try_send` of a call. -/
  | probe (k : Nat)
  | work (i : Nat)
  | tryRecvResult
  | stopAll
  | drain
  deriving DecidableEq, Repr

namespace Sys

def new (count queueCapacity : Nat) : Sys :=
  ⟨.withQueueCapacity count queueCapacity, [], [], [], []⟩

/-- `enqueue` up to its loop. -/
def enqueue (s : Sys) (item : WorkItem) : Sys :=
  if s.pool.senders = 0 then
    { s with endings := s.endings ++ [⟨item, [], .error (.disconnected item)⟩] }
  else
    let start := s.pool.nextWorker.toNat % s.pool.senders
    { s with
      pool.nextWorker := s.pool.nextWorker + 1
      calls := s.calls ++ [⟨item, item, start, 0, false, []⟩] }

def probe (s : Sys) (k : Nat) : Sys :=
  match s.calls[k]? with
  | none => s
  | some c =>
    match s.pool.trySend (c.index s.pool.senders) c.item with
    | .ok pool =>
      { s with
        pool
        calls := move s.calls k none
        endings := s.endings ++ [⟨c.given, c.refusals, .ok ()⟩] }
    | .error error =>
      let c := c.refuse s.pool.senders error
      if c.offset < s.pool.senders then { s with calls := move s.calls k (some c) }
      else
        { s with
          calls := move s.calls k none
          endings := s.endings ++ [⟨c.given, c.refusals, .error c.failure⟩] }

def tryRecvResult (s : Sys) : Sys :=
  match s.pool.tryRecvResult with
  | (.ok (some result), pool) => { s with pool, received := s.received ++ [result] }
  | (_, pool) => { s with pool }

end Sys

/-- `enqueue` and `try_recv_result` share the pool, and `stop_all` borrows it for itself. -/
def step (s : Sys) : Move → Sys
  | .enqueue item => if s.pool.phase.shared then s.enqueue item else s
  | .probe k => s.probe k
  | .work i => { s with pool := s.pool.work i }
  | .tryRecvResult => if s.pool.phase.shared then s.tryRecvResult else s
  | .stopAll =>
    if s.pool.phase.shared ∧ s.calls = [] then { s with pool := s.pool.stopAll } else s
  | .drain => { s with pool := s.pool.drain.1, drained := s.drained ++ s.pool.drain.2.toList }

/-! ## 3. Conservation -/

/-- The item that a result is about. -/
def itemOf (result : WorkResult) : WorkItem := ⟨result.observationId, result.address⟩

namespace Sys

/-- The items that `enqueue` has accepted. -/
def accepted (s : Sys) : List WorkItem := (s.endings.filter (·.outcome.isOk)).map (·.given)

def queued (s : Sys) : List WorkItem := s.pool.workers.flatMap (·.queue)

/-- The results that have been made: taken from the channel, in it, or about to be sent. -/
def made (s : Sys) : List WorkResult :=
  s.received ++ s.drained ++ s.pool.results ++ s.pool.workers.flatMap (·.sending.toList)

end Sys

/-- How often the item is in the results. -/
def occurs (item : WorkItem) (results : List WorkResult) : Nat := (results.map itemOf).count item

/-- How often a worker has the item. -/
def held (item : WorkItem) (w : MetadataWorker) : Nat :=
  w.queue.count item + occurs item w.sending.toList

/-- How often the pool has the item, queued or answered. -/
def owned (item : WorkItem) (p : WorkerPool) : Nat :=
  occurs item p.results + total (held item) p.workers

variable {p pool : WorkerPool} {s : Sys} {item : WorkItem} {w : MetadataWorker}

theorem tryRecv_nil (h : p.results = []) :
    p.tryRecv = (.error (if p.allFinished then .disconnected else .empty), p) := by
  rw [tryRecv, h]

theorem tryRecv_cons {result : WorkResult} {results : List WorkResult}
    (h : p.results = result :: results) : p.tryRecv = (.ok result, { p with results }) := by
  rw [tryRecv, h]

theorem receive_nil (h : p.results = []) (more done : StopPhase) :
    p.receive more done = ({ p with phase := done }, none) := by
  rw [receive, tryRecv_nil h]

theorem receive_cons {result : WorkResult} {results : List WorkResult}
    (h : p.results = result :: results) (more done : StopPhase) :
    p.receive more done = ({ p with results, phase := more }, some result) := by
  rw [receive, tryRecv_cons h]

@[simp] theorem occurs_nil : occurs item [] = 0 := rfl

@[simp] theorem occurs_append (results results' : List WorkResult) :
    occurs item (results ++ results') = occurs item results + occurs item results' := by
  rw [occurs, List.map_append, List.count_append]
  rfl

theorem occurs_cons (result : WorkResult) (results : List WorkResult) :
    occurs item (result :: results) = occurs item [result] + occurs item results :=
  occurs_append [result] results

/-- A result is about the item it was made from. -/
theorem occurs_processItem (given : WorkItem) :
    occurs item (processItem given).toList = [given].count item := rfl

/-- What the step of a thread does: it is blocked or has ended, sends, takes an item or ends. -/
inductive Stepped (w : MetadataWorker) : MetadataWorker → Option WorkResult → Prop where
  | blocked : Stepped w w none
  | sent {result : WorkResult} (hsending : w.sending = some result) :
      Stepped w { w with sending := none } (some result)
  | taken {given : WorkItem} {queue : List WorkItem} (hsending : w.sending = none)
      (hqueue : w.queue = given :: queue) :
      Stepped w { w with queue, sending := processItem given } none
  | ended (hsending : w.sending = none) (hqueue : w.queue = []) :
      Stepped w { w with finished := true } none

theorem stepped (connected room : Bool) (w : MetadataWorker) :
    Stepped w (w.next connected room).1 (w.next connected room).2 := by
  rw [MetadataWorker.next]
  split
  · exact .blocked
  · split
    · rename_i result hsending
      cases room with
      | true => exact .sent hsending
      | false => exact .blocked
    · rename_i given queue hsending hqueue
      exact .taken hsending hqueue
    · rename_i hsending hqueue
      cases connected with
      | true => exact .blocked
      | false => exact .ended hsending hqueue

/-- What a thread no longer has, it has sent. -/
theorem held_next (connected room : Bool) (w : MetadataWorker) :
    held item (w.next connected room).1 + occurs item (w.next connected room).2.toList =
      held item w := by
  have hstep := stepped connected room w
  generalize (w.next connected room).1 = w' at hstep ⊢
  generalize (w.next connected room).2 = sent at hstep ⊢
  cases hstep with
  | blocked => rfl
  | sent hsending => simp [held, hsending]
  | @taken given queue hsending hqueue =>
    have hcount : w.queue.count item = [given].count item + queue.count item := by
      rw [hqueue, ← List.count_append]
      rfl
    simp only [held, occurs_processItem, hcount, hsending, Option.toList_none, occurs_nil]
    omega
  | ended _ _ => rfl

theorem owned_work (p : WorkerPool) (i : Nat) : owned item (p.work i) = owned item p := by
  rw [work]
  cases hw : p.workers[i]? with
  | none => rfl
  | some w =>
    let t := w.next (i < p.senders) (p.results.length < p.resultCapacity)
    have hnext : held item t.1 + occurs item t.2.toList = held item w := held_next ..
    have hmove := total_move (held item) hw (some t.1)
    rw [weigh_some] at hmove
    change occurs item (p.results ++ t.2.toList) + total (held item) (p.workers.set i t.1) = _
    rw [occurs_append, owned]
    change total (held item) (p.workers.set i t.1) + _ = _ at hmove
    omega

/-- A queue takes an item only while its worker runs. -/
theorem trySend_ok {index : Nat} (h : p.trySend index item = .ok pool) :
    ∃ w, p.workers[index]? = some w ∧ w.finished = false ∧
      pool = { p with workers := p.workers.set index { w with queue := w.queue ++ [item] } } := by
  rw [trySend] at h
  cases hw : p.workers[index]? with
  | none => rw [hw] at h; cases h
  | some w =>
    simp only [hw] at h
    by_cases hfinished : w.finished
    · rw [if_pos hfinished] at h
      cases h
    · rw [if_neg hfinished] at h
      split at h
      · cases h
      · cases h
        exact ⟨w, rfl, Bool.eq_false_iff.mpr hfinished, rfl⟩

/-- What a queue takes is in the pool from then on. -/
theorem owned_trySend (item : WorkItem) {index : Nat} {given : WorkItem}
    (h : p.trySend index given = .ok pool) :
    owned item pool = owned item p + [given].count item := by
  obtain ⟨w, hw, -, rfl⟩ := trySend_ok h
  have hheld : held item { w with queue := w.queue ++ [given] } =
      held item w + [given].count item := by
    simp only [held, List.count_append]
    omega
  have hmove := total_move (held item) hw (some { w with queue := w.queue ++ [given] })
  rw [weigh_some, hheld] at hmove
  change total (held item) (p.workers.set index _) + _ = _ at hmove
  simp only [owned]
  omega

theorem owned_receive (item : WorkItem) (p : WorkerPool) (more done : StopPhase) :
    owned item (p.receive more done).1 + occurs item (p.receive more done).2.toList =
      owned item p := by
  cases hresults : p.results with
  | nil =>
    rw [receive_nil hresults]
    rfl
  | cons result results =>
    rw [receive_cons hresults]
    simp only [owned, hresults, occurs_cons result results, Option.toList_some]
    omega

theorem owned_drain (item : WorkItem) (p : WorkerPool) :
    owned item p.drain.1 + occurs item p.drain.2.toList = owned item p := by
  rw [drain]
  cases p.phase with
  | looping =>
    dsimp only
    split
    · rfl
    · exact owned_receive item p _ _
  | draining => exact owned_receive item p _ _
  | finishing => exact owned_receive item p _ _
  | running => rfl
  | stopped => rfl

/-- What a probe does: its call is accepted, goes on to the next queue or fails at the last one. -/
inductive Probed (s : Sys) (k : Nat) : Sys → Prop where
  | idle (hcall : s.calls[k]? = none) : Probed s k s
  | accepted {c : Call} {pool : WorkerPool} (hcall : s.calls[k]? = some c)
      (hsend : s.pool.trySend (c.index s.pool.senders) c.item = .ok pool) :
      Probed s k
        { s with
          pool
          calls := move s.calls k none
          endings := s.endings ++ [⟨c.given, c.refusals, .ok ()⟩] }
  | refused {c : Call} {error : TrySendError} (hcall : s.calls[k]? = some c)
      (hsend : s.pool.trySend (c.index s.pool.senders) c.item = .error error)
      (hmore : c.offset + 1 < s.pool.senders) :
      Probed s k { s with calls := move s.calls k (some (c.refuse s.pool.senders error)) }
  | failed {c c' : Call} {error : TrySendError} (hcall : s.calls[k]? = some c)
      (hsend : s.pool.trySend (c.index s.pool.senders) c.item = .error error)
      (hrefuse : c' = c.refuse s.pool.senders error) (hlast : s.pool.senders ≤ c.offset + 1) :
      Probed s k
        { s with
          calls := move s.calls k none
          endings := s.endings ++ [⟨c'.given, c'.refusals, .error c'.failure⟩] }

theorem probed (s : Sys) (k : Nat) : Probed s k (s.probe k) := by
  rw [Sys.probe]
  cases hcall : s.calls[k]? with
  | none => exact .idle hcall
  | some c =>
    dsimp only
    cases hsend : s.pool.trySend (c.index s.pool.senders) c.item with
    | ok pool => exact .accepted hcall hsend
    | error error =>
      dsimp only
      by_cases hmore : (c.refuse s.pool.senders error).offset < s.pool.senders
      · rw [if_pos hmore]
        exact .refused hcall hsend hmore
      · rw [if_neg hmore]
        exact .failed hcall hsend rfl (Nat.le_of_not_lt hmore)

/-- A failed call has no part in what was accepted. -/
theorem accepted_error {given : WorkItem} {refusals : List (Nat × TrySendError)}
    {error : TrySendError} {pool : WorkerPool} {calls : List Call} :
    Sys.accepted { s with
      pool, calls, endings := s.endings ++ [⟨given, refusals, .error error⟩] } = s.accepted := by
  simp [Sys.accepted, Except.isOk, Except.toBool]

theorem accepted_ok {given : WorkItem} {refusals : List (Nat × TrySendError)} {pool : WorkerPool}
    {calls : List Call} :
    Sys.accepted { s with pool, calls, endings := s.endings ++ [⟨given, refusals, .ok ()⟩] } =
      s.accepted ++ [given] := by
  simp [Sys.accepted, Except.isOk, Except.toBool]

/-! ## 4. The calls -/

/-- Every queue has refused. -/
def AllRefused (queues : Nat) (refusals : List (Nat × TrySendError)) : Prop :=
  ∀ i < queues, i ∈ refusals.map (·.1)

/-- Some queue was full. -/
def SawFull (refusals : List (Nat × TrySendError)) : Prop := ∃ r ∈ refusals, r.2.isFull

/-- A call has probed the queues from `start` up to its offset, and still has its item. -/
structure Call.Valid (queues : Nat) (c : Call) : Prop where
  item : c.item = c.given
  offset : c.offset < queues
  probed : c.refusals.map (·.1) = (List.range c.offset).map fun o => (c.start + o) % queues
  sawFull : c.sawFull = true ↔ SawFull c.refusals

/-- The failures of a call, and when it fails with `Full`. -/
structure Ending.Valid (queues : Nat) (e : Ending) : Prop where
  item : ∀ error, e.outcome = .error error → error.item = e.given
  full : (∃ item, e.outcome = .error (.full item)) ↔
    AllRefused queues e.refusals ∧ SawFull e.refusals

/-- The queue that refuses gives the item back. -/
theorem item_trySend {index : Nat} {given : WorkItem} {error : TrySendError}
    (h : p.trySend index given = .error error) : error.item = given := by
  rw [trySend] at h
  cases hw : p.workers[index]? with
  | none =>
    rw [hw] at h
    cases h
    rfl
  | some w =>
    simp only [hw] at h
    split at h
    · cases h
      rfl
    · split at h
      · cases h
        rfl
      · cases h

theorem sawFull_append (refusals : List (Nat × TrySendError)) (r : Nat × TrySendError) :
    SawFull (refusals ++ [r]) ↔ SawFull refusals ∨ r.2.isFull := by
  simp only [SawFull, List.mem_append, List.mem_singleton, or_and_right, exists_or,
    exists_eq_left]

/-- A refusal leaves the call valid, one queue further. -/
theorem probed_refuse {queues : Nat} {c : Call} (h : c.Valid queues) (error : TrySendError) :
    (c.refuse queues error).refusals.map (·.1) =
      (List.range (c.offset + 1)).map fun o => (c.start + o) % queues := by
  rw [Call.refuse, List.map_append, h.probed, List.range_succ, List.map_append]
  rfl

theorem sawFull_refuse {queues : Nat} {c : Call} (h : c.Valid queues) (error : TrySendError) :
    (c.refuse queues error).sawFull = true ↔ SawFull (c.refuse queues error).refusals := by
  rw [Call.refuse, sawFull_append, ← h.sawFull, Bool.or_eq_true]

theorem item_refuse {queues index : Nat} {c : Call} {error : TrySendError} (h : c.Valid queues)
    (hsend : p.trySend index c.item = .error error) :
    (c.refuse queues error).item = (c.refuse queues error).given := by
  change error.item = c.given
  rw [item_trySend hsend, h.item]

/-- From any start, probing as many queues as there are meets every one. -/
theorem index_surjective {queues i : Nat} (start : Nat) (hi : i < queues) :
    ∃ o < queues, (start + o) % queues = i := by
  have hstart := Nat.mod_lt start (by omega : 0 < queues)
  have hdiv := Nat.div_add_mod start queues
  refine ⟨(i + (queues - start % queues)) % queues, Nat.mod_lt _ (by omega), ?_⟩
  have hsum : start + (i + (queues - start % queues)) = i + queues * (start / queues + 1) := by
    rw [Nat.mul_add]
    omega
  rw [Nat.add_mod_mod, hsum, Nat.add_mul_mod_self_left, Nat.mod_eq_of_lt hi]

/-- The queue that takes the item has not refused it before. -/
theorem not_allRefused {queues : Nat} {c : Call} (h : c.Valid queues) :
    ¬ AllRefused queues c.refusals := by
  intro hall
  have hoffset := h.offset
  have hmem := hall _ (Nat.mod_lt (c.start + c.offset) (by omega))
  rw [h.probed, List.mem_map] at hmem
  obtain ⟨o, ho, heq⟩ := hmem
  have hlt := List.mem_range.mp ho
  have hsub := Nat.sub_mod_eq_zero_of_mod_eq heq.symm
  rw [Nat.add_sub_add_left, Nat.mod_eq_of_lt (by omega)] at hsub
  omega

theorem valid_refuse {queues : Nat} {c : Call} {error : TrySendError} {index : Nat}
    (h : c.Valid queues) (hsend : p.trySend index c.item = .error error)
    (hmore : c.offset + 1 < queues) : (c.refuse queues error).Valid queues where
  item := item_refuse h hsend
  offset := hmore
  probed := probed_refuse h error
  sawFull := sawFull_refuse h error

theorem valid_failed {queues : Nat} {c : Call} {error : TrySendError} {index : Nat}
    (h : c.Valid queues) (hsend : p.trySend index c.item = .error error)
    (hlast : queues ≤ c.offset + 1) :
    Ending.Valid queues ⟨(c.refuse queues error).given, (c.refuse queues error).refusals,
      .error (c.refuse queues error).failure⟩ where
  item := by
    intro failure heq
    cases heq
    rw [← item_refuse h hsend, Call.failure]
    split <;> rfl
  full := by
    have hall : AllRefused queues (c.refuse queues error).refusals := by
      intro i hi
      obtain ⟨o, ho, hindex⟩ := index_surjective c.start hi
      rw [probed_refuse h]
      exact List.mem_map.mpr ⟨o, List.mem_range.mpr (by omega), hindex⟩
    rw [← sawFull_refuse h, Call.failure]
    constructor
    · rintro ⟨item, heq⟩
      refine ⟨hall, ?_⟩
      by_contra hnone
      rw [if_neg hnone] at heq
      cases heq
    · rintro ⟨-, hfull⟩
      exact ⟨_, by rw [if_pos hfull]⟩

theorem valid_accepted {queues : Nat} {c : Call} (h : c.Valid queues) :
    Ending.Valid queues ⟨c.given, c.refusals, .ok ()⟩ where
  item := by
    intro error heq
    cases heq
  full := by
    constructor
    · rintro ⟨item, heq⟩
      cases heq
    · rintro ⟨hall, -⟩
      exact absurd hall (not_allRefused h)

/-- Without senders an `enqueue` fails at once. -/
theorem valid_closed (queues : Nat) (item : WorkItem) :
    Ending.Valid queues ⟨item, [], .error (.disconnected item)⟩ where
  item := by
    intro error heq
    cases heq
    rfl
  full := by
    constructor
    · rintro ⟨item, heq⟩
      cases heq
    · rintro ⟨-, r, hr, -⟩
      cases hr

/-! ## 5. Shutdown -/

/-- The senders live until `stop_all`, which ends after the last worker and empties the channel; a
worker ends with nothing in hand. -/
structure Orderly (p : WorkerPool) : Prop where
  room : 0 < p.resultCapacity
  senders : p.senders = if p.phase = .running then p.workers.length else 0
  idle : ∀ w ∈ p.workers, w.finished → w.queue = [] ∧ w.sending = none
  ended : p.phase = .finishing ∨ p.phase = .stopped → p.allFinished
  emptied : p.phase = .stopped → p.results = []

theorem orderly_withQueueCapacity (count queueCapacity : Nat) :
    (withQueueCapacity count queueCapacity).Orderly where
  room := Nat.mul_pos (by omega) (by omega)
  senders := by
    change max count 1 = (List.replicate (max count 1) MetadataWorker.new).length
    rw [List.length_replicate]
  idle := by
    intro w hw hfinished
    rw [List.eq_of_mem_replicate hw] at hfinished
    cases hfinished
  ended := by
    rintro (h | h) <;> cases h
  emptied := by
    intro h
    cases h

/-- A thread ends only with nothing in hand. -/
theorem idle_next (connected room : Bool) (h : w.finished → w.queue = [] ∧ w.sending = none) :
    (w.next connected room).1.finished →
      (w.next connected room).1.queue = [] ∧ (w.next connected room).1.sending = none := by
  by_cases hw : w.finished
  · rw [MetadataWorker.next, if_pos hw]
    exact h
  · have hstep := stepped connected room w
    generalize (w.next connected room).1 = w' at hstep ⊢
    generalize (w.next connected room).2 = sent at hstep
    intro hfinished
    cases hstep with
    | blocked => exact absurd hfinished hw
    | sent _ => exact absurd hfinished hw
    | taken _ _ => exact absurd hfinished hw
    | ended hsending hqueue => exact ⟨hqueue, hsending⟩

theorem next_finished (connected room : Bool) (h : w.finished) :
    w.next connected room = (w, none) := by
  rw [MetadataWorker.next, if_pos h]

/-- Workers that have ended do nothing any more. -/
theorem work_allFinished (h : p.allFinished) (i : Nat) : p.work i = p := by
  rw [work]
  cases hw : p.workers[i]? with
  | none => rfl
  | some w =>
    have hfinished := List.all_eq_true.mp h w (List.mem_of_getElem? hw)
    obtain ⟨hi, rfl⟩ := List.getElem?_eq_some_iff.mp hw
    dsimp only
    rw [next_finished _ _ hfinished]
    simp

theorem work_phase (p : WorkerPool) (i : Nat) : (p.work i).phase = p.phase := by
  rw [work]
  split <;> rfl

theorem work_length (p : WorkerPool) (i : Nat) :
    (p.work i).workers.length = p.workers.length := by
  rw [work]
  split
  · rfl
  · exact List.length_set

theorem Orderly.work (h : p.Orderly) (i : Nat) : (p.work i).Orderly where
  room := by
    rw [WorkerPool.work]
    split <;> exact h.room
  senders := by
    rw [work_phase, work_length, ← h.senders, WorkerPool.work]
    split <;> rfl
  idle := by
    intro w hw
    rw [WorkerPool.work] at hw
    split at hw
    · exact h.idle w hw
    · rename_i v hv
      rcases List.mem_or_eq_of_mem_set hw with hold | rfl
      · exact h.idle w hold
      · exact idle_next _ _ (h.idle v (List.mem_of_getElem? hv))
  ended := by
    rw [work_phase]
    intro hphase
    rw [work_allFinished (h.ended hphase)]
    exact h.ended hphase
  emptied := by
    rw [work_phase]
    intro hphase
    rw [work_allFinished (h.ended (.inr hphase))]
    exact h.emptied hphase

theorem Orderly.trySend {index : Nat} (h : p.Orderly) (hsend : p.trySend index item = .ok pool) :
    pool.Orderly := by
  obtain ⟨w, hw, hrunning, rfl⟩ := trySend_ok hsend
  -- No worker ends before `stop_all` gets past its loop.
  have hphase : ¬ (p.phase = .finishing ∨ p.phase = .stopped) := by
    intro hphase
    have hfinished := List.all_eq_true.mp (h.ended hphase) w (List.mem_of_getElem? hw)
    rw [hrunning] at hfinished
    cases hfinished
  constructor
  · exact h.room
  · change p.senders = if p.phase = .running then (p.workers.set index _).length else 0
    rw [List.length_set]
    exact h.senders
  · intro v hv hfinished
    rcases List.mem_or_eq_of_mem_set hv with hold | rfl
    · exact h.idle v hold hfinished
    · rw [hrunning] at hfinished
      cases hfinished
  · exact fun h => absurd h hphase
  · exact fun h => absurd (.inr h) hphase

theorem Orderly.tryRecvResult (h : p.Orderly) : p.tryRecvResult.2.Orderly := by
  rw [WorkerPool.tryRecvResult]
  cases hresults : p.results with
  | nil =>
    rw [tryRecv_nil hresults]
    cases p.allFinished <;> exact h
  | cons result results =>
    rw [tryRecv_cons hresults]
    refine ⟨h.room, h.senders, h.idle, h.ended, fun hphase => ?_⟩
    rw [h.emptied hphase] at hresults
    cases hresults

theorem Orderly.stopAll (h : p.Orderly) : p.stopAll.Orderly where
  room := h.room
  senders := rfl
  idle := h.idle
  ended := by
    rintro (h | h) <;> cases h
  emptied := by
    intro h
    cases h

/-- A receive of `stop_all` that stays before the end of the loop, or after it. -/
theorem Orderly.receive {more done : StopPhase} (h : p.Orderly) (hsenders : p.senders = 0)
    (hmore : more ≠ .running ∧ more ≠ .stopped) (hdone : done ≠ .running)
    (hended : more = .finishing ∨ done = .finishing ∨ done = .stopped → p.allFinished) :
    (p.receive more done).1.Orderly := by
  cases hresults : p.results with
  | cons result results =>
    rw [receive_cons hresults]
    refine ⟨h.room, ?_, h.idle, ?_, ?_⟩
    · rw [if_neg hmore.1]
      exact hsenders
    · rintro (hphase | hphase)
      · exact hended (.inl hphase)
      · exact absurd hphase hmore.2
    · exact fun hphase => absurd hphase hmore.2
  | nil =>
    rw [receive_nil hresults]
    refine ⟨h.room, ?_, h.idle, ?_, fun _ => hresults⟩
    · rw [if_neg hdone]
      exact hsenders
    · exact fun hphase => hended (.inr hphase)

theorem Orderly.drain (h : p.Orderly) : p.drain.1.Orderly := by
  have hsenders := h.senders
  rw [WorkerPool.drain]
  cases hphase : p.phase with
  | running => exact h
  | stopped => exact h
  | looping =>
    rw [if_neg (by rw [hphase]; decide)] at hsenders
    dsimp only
    by_cases hfinished : p.allFinished
    · rw [if_pos hfinished]
      exact ⟨h.room, hsenders, h.idle, fun _ => hfinished, fun h => nomatch h⟩
    · rw [if_neg hfinished]
      exact h.receive hsenders (by decide) (by decide) (by simp)
  | draining =>
    rw [if_neg (by rw [hphase]; decide)] at hsenders
    exact h.receive hsenders (by decide) (by decide) (by simp)
  | finishing =>
    rw [if_neg (by rw [hphase]; decide)] at hsenders
    exact h.receive hsenders (by decide) (by decide) fun _ => h.ended (.inl hphase)

/-- What every move keeps. -/
structure Sys.Inv (s : Sys) : Prop where
  orderly : s.pool.Orderly
  /-- `stop_all` waits for the calls. -/
  running : s.calls ≠ [] → s.pool.phase = .running
  calls : ∀ c ∈ s.calls, c.Valid s.pool.workers.length
  endings : ∀ e ∈ s.endings, e.Valid s.pool.workers.length
  balanced : ∀ item, s.accepted.count item =
    owned item s.pool + occurs item s.received + occurs item s.drained

theorem total_replicate_new (item : WorkItem) (n : Nat) :
    total (held item) (List.replicate n MetadataWorker.new) = 0 := by
  apply total_of_forall_eq_zero
  intro w hw
  rw [List.eq_of_mem_replicate hw]
  rfl

theorem inv_new (count queueCapacity : Nat) : (Sys.new count queueCapacity).Inv where
  orderly := orderly_withQueueCapacity count queueCapacity
  running := fun h => absurd rfl h
  calls := by
    intro c hc
    cases hc
  endings := by
    intro e he
    cases he
  balanced := by
    intro item
    change 0 = (0 + total (held item) (List.replicate _ MetadataWorker.new)) + 0 + 0
    rw [total_replicate_new]

/-- Moves of the pool that take results out of it, or none. -/
theorem Sys.Inv.withPool {received drained : List WorkResult} (h : s.Inv) (horderly : pool.Orderly)
    (hphase : s.pool.phase = .running → s.calls ≠ [] → pool.phase = .running)
    (hlength : pool.workers.length = s.pool.workers.length)
    (hbalance : ∀ item, owned item pool + occurs item received + occurs item drained =
      owned item s.pool + occurs item s.received + occurs item s.drained) :
    Sys.Inv { s with pool, received, drained } where
  orderly := horderly
  running := fun hcalls => hphase (h.running hcalls) hcalls
  calls := by
    intro c hc
    rw [hlength]
    exact h.calls c hc
  endings := by
    intro e he
    rw [hlength]
    exact h.endings e he
  balanced := by
    intro item
    rw [hbalance item]
    exact h.balanced item

theorem Sys.Inv.work (h : s.Inv) (i : Nat) : Sys.Inv { s with pool := s.pool.work i } := by
  apply h.withPool (h.orderly.work i) _ (work_length s.pool i)
  · intro item
    rw [owned_work]
  · intro hphase _
    rw [work_phase, hphase]

theorem receive_length (p : WorkerPool) (more done : StopPhase) :
    (p.receive more done).1.workers.length = p.workers.length := by
  cases hresults : p.results with
  | nil => rw [receive_nil hresults]
  | cons result results => rw [receive_cons hresults]

theorem drain_length (p : WorkerPool) : p.drain.1.workers.length = p.workers.length := by
  rw [drain]
  split
  · split
    · rfl
    · exact receive_length ..
  · exact receive_length ..
  · exact receive_length ..
  · rfl
  · rfl

theorem Sys.Inv.drain (h : s.Inv) :
    Sys.Inv { s with pool := s.pool.drain.1, drained := s.drained ++ s.pool.drain.2.toList } := by
  apply h.withPool h.orderly.drain _ (drain_length s.pool)
  · intro item
    have howned := owned_drain item s.pool
    rw [occurs_append]
    omega
  · intro hphase _
    rw [WorkerPool.drain, hphase]
    exact hphase

theorem Sys.Inv.stopAll (h : s.Inv) (hcalls : s.calls = []) :
    Sys.Inv { s with pool := s.pool.stopAll } :=
  h.withPool h.orderly.stopAll (fun _ hne => absurd hcalls hne) rfl fun _ => rfl

theorem Sys.Inv.tryRecvResult (h : s.Inv) : s.tryRecvResult.Inv := by
  have horderly := h.orderly.tryRecvResult
  rw [WorkerPool.tryRecvResult] at horderly
  rw [Sys.tryRecvResult, WorkerPool.tryRecvResult]
  cases hresults : s.pool.results with
  | nil =>
    rw [tryRecv_nil hresults]
    cases s.pool.allFinished <;> exact h
  | cons result results =>
    rw [tryRecv_cons hresults] at horderly ⊢
    apply h.withPool horderly (fun hphase _ => hphase) rfl
    intro item
    rw [occurs_append]
    simp only [owned, hresults, occurs_cons result results]
    omega

/-- While a call is under way, every worker has its sender. -/
theorem Sys.Inv.senders (h : s.Inv) {k : Nat} {c : Call} (hc : s.calls[k]? = some c) :
    s.pool.senders = s.pool.workers.length := by
  rw [h.orderly.senders, if_pos]
  apply h.running
  intro hnil
  rw [hnil] at hc
  cases hc

/-- A call joins those under way, or fails since the pool has been stopped. -/
theorem Sys.Inv.enqueue (h : s.Inv) (item : WorkItem) : (s.enqueue item).Inv := by
  have hsenders := h.orderly.senders
  rw [Sys.enqueue]
  by_cases hclosed : s.pool.senders = 0
  · rw [if_pos hclosed]
    refine ⟨h.orderly, h.running, h.calls, ?_, ?_⟩
    · intro e he
      rcases List.mem_append.mp he with hold | hnew
      · exact h.endings e hold
      · rw [List.mem_singleton.mp hnew]
        exact valid_closed ..
    · intro other
      rw [accepted_error]
      exact h.balanced other
  · rw [if_neg hclosed]
    have hrun : s.pool.phase = .running := by
      by_contra hstopped
      rw [if_neg hstopped] at hsenders
      exact hclosed hsenders
    rw [if_pos hrun] at hsenders
    refine ⟨⟨h.orderly.room, h.orderly.senders, h.orderly.idle, h.orderly.ended,
      h.orderly.emptied⟩, fun _ => hrun, ?_, h.endings, h.balanced⟩
    intro c hc
    rcases List.mem_append.mp hc with hold | hnew
    · exact h.calls c hold
    · rw [List.mem_singleton.mp hnew]
      refine ⟨rfl, ?_, rfl, ?_⟩
      · change 0 < s.pool.workers.length
        omega
      · simp [SawFull]

/-- The calls under way after one of them has moved. -/
theorem Sys.Inv.move (h : s.Inv) (k : Nat) (next : Option Call)
    (hnext : ∀ c, next = some c → c.Valid s.pool.workers.length) :
    ∀ c ∈ Threads.move s.calls k next, c.Valid s.pool.workers.length := by
  intro c hc
  rcases mem_move hc with hold | hnew
  · exact h.calls c hold
  · exact hnext c hnew

theorem Sys.Inv.end (h : s.Inv) {e : Ending} (he : e.Valid s.pool.workers.length) :
    ∀ e' ∈ s.endings ++ [e], e'.Valid s.pool.workers.length := by
  intro e' he'
  rcases List.mem_append.mp he' with hold | hnew
  · exact h.endings e' hold
  · rw [List.mem_singleton.mp hnew]
    exact he

theorem Sys.Inv.probe (h : s.Inv) (k : Nat) : (s.probe k).Inv := by
  have hstep := probed s k
  generalize s.probe k = s' at hstep
  cases hstep with
  | idle hcall => exact h
  | @accepted c pool hcall hsend =>
    have hvalid := h.calls c (List.mem_of_getElem? hcall)
    have hlength : pool.workers.length = s.pool.workers.length := by
      obtain ⟨w, -, -, rfl⟩ := trySend_ok hsend
      exact List.length_set
    have hphase : pool.phase = s.pool.phase := by
      obtain ⟨w, -, -, rfl⟩ := trySend_ok hsend
      rfl
    refine ⟨h.orderly.trySend hsend, fun _ => ?_, ?_, ?_, ?_⟩
    · change pool.phase = _
      rw [hphase]
      exact h.running (List.ne_nil_of_mem (List.mem_of_getElem? hcall))
    · rw [hlength]
      exact h.move k none (by simp)
    · rw [hlength]
      exact h.end (valid_accepted hvalid)
    · intro item
      have hbalanced := h.balanced item
      have howned := owned_trySend item hsend
      rw [hvalid.item] at howned
      rw [accepted_ok, List.count_append]
      dsimp only
      omega
  | @refused c error hcall hsend hmore =>
    have hvalid := h.calls c (List.mem_of_getElem? hcall)
    rw [h.senders hcall] at hmore ⊢
    have hnext : ∀ c', some (c.refuse s.pool.workers.length error) = some c' →
        c'.Valid s.pool.workers.length := by
      intro c' heq
      cases heq
      exact valid_refuse hvalid hsend hmore
    refine ⟨h.orderly, fun _ => ?_, h.move k _ hnext, h.endings, h.balanced⟩
    exact h.running (List.ne_nil_of_mem (List.mem_of_getElem? hcall))
  | @failed c c' error hcall hsend hrefuse hlast =>
    have hvalid := h.calls c (List.mem_of_getElem? hcall)
    rw [h.senders hcall] at hrefuse hlast
    subst hrefuse
    refine ⟨h.orderly, fun _ => ?_, h.move k none (by simp),
      h.end (valid_failed hvalid hsend hlast), ?_⟩
    · exact h.running (List.ne_nil_of_mem (List.mem_of_getElem? hcall))
    · intro item
      rw [accepted_error]
      exact h.balanced item

theorem inv_step (s : Sys) (m : Move) (h : s.Inv) : (step s m).Inv := by
  cases m with
  | enqueue item =>
    rw [step]
    split
    · exact h.enqueue item
    · exact h
  | probe k => exact h.probe k
  | work i => exact h.work i
  | tryRecvResult =>
    rw [step]
    split
    · exact h.tryRecvResult
    · exact h
  | stopAll =>
    rw [step]
    split
    · rename_i hphase
      exact h.stopAll hphase.2
    · exact h
  | drain => exact h.drain

/-- `stop_all` has been called, and the senders are gone for good. -/
structure Sys.Closed (s : Sys) : Prop where
  senders : s.pool.senders = 0
  calls : s.calls = []
  phase : s.pool.phase ≠ .running

theorem Sys.Inv.closed (h : s.Inv) (hphase : s.pool.phase ≠ .running) : s.Closed where
  senders := by rw [h.orderly.senders, if_neg hphase]
  calls := by
    by_contra hcalls
    exact hphase (h.running hcalls)
  phase := hphase

theorem drain_closed (hsenders : p.senders = 0) (hphase : p.phase ≠ .running) :
    p.drain.1.senders = 0 ∧ p.drain.1.phase ≠ .running := by
  have hreceive (more done : StopPhase) (hmore : more ≠ .running) (hdone : done ≠ .running) :
      (p.receive more done).1.senders = 0 ∧ (p.receive more done).1.phase ≠ .running := by
    cases hresults : p.results with
    | nil =>
      rw [receive_nil hresults]
      exact ⟨hsenders, hdone⟩
    | cons result results =>
      rw [receive_cons hresults]
      exact ⟨hsenders, hmore⟩
  rw [drain]
  split
  · split
    · exact ⟨hsenders, nofun⟩
    · exact hreceive _ _ (by decide) (by decide)
  · exact hreceive _ _ (by decide) (by decide)
  · exact hreceive _ _ (by decide) (by decide)
  · exact ⟨hsenders, hphase⟩
  · exact ⟨hsenders, hphase⟩

/-- A pool that has been closed accepts nothing and stays closed. -/
theorem closed_step (m : Move) (h : s.Closed) :
    (step s m).Closed ∧ (step s m).accepted = s.accepted := by
  cases m with
  | enqueue item =>
    rw [step, Sys.enqueue, if_pos h.senders]
    split
    · exact ⟨⟨h.senders, h.calls, h.phase⟩, accepted_error⟩
    · exact ⟨h, rfl⟩
  | probe k =>
    rw [step, Sys.probe, h.calls, List.getElem?_nil]
    exact ⟨h, rfl⟩
  | work i =>
    refine ⟨⟨?_, h.calls, ?_⟩, rfl⟩
    · rw [step, work]
      split <;> exact h.senders
    · rw [step, work_phase]
      exact h.phase
  | tryRecvResult =>
    rw [step, Sys.tryRecvResult, tryRecvResult]
    split
    · cases hresults : s.pool.results with
      | nil =>
        rw [tryRecv_nil hresults]
        cases s.pool.allFinished <;> exact ⟨⟨h.senders, h.calls, h.phase⟩, rfl⟩
      | cons result results =>
        rw [tryRecv_cons hresults]
        exact ⟨⟨h.senders, h.calls, h.phase⟩, rfl⟩
    · exact ⟨h, rfl⟩
  | stopAll =>
    rw [step]
    split
    · exact ⟨⟨rfl, h.calls, nofun⟩, rfl⟩
    · exact ⟨h, rfl⟩
  | drain =>
    obtain ⟨hsenders, hphase⟩ := drain_closed h.senders h.phase
    exact ⟨⟨hsenders, h.calls, hphase⟩, rfl⟩

theorem closed_run (later : List Move) (h : s.Closed) :
    (run step s later).Closed ∧ (run step s later).accepted = s.accepted := by
  induction later generalizing s with
  | nil => exact ⟨h, rfl⟩
  | cons m later ih =>
    obtain ⟨hclosed, haccepted⟩ := closed_step m h
    obtain ⟨hlater, hsame⟩ := ih hclosed
    exact ⟨hlater, hsame.trans haccepted⟩

/-- The queues and what the workers are about to send, counted. -/
theorem total_held (item : WorkItem) (workers : List MetadataWorker) :
    total (held item) workers = (workers.flatMap (·.queue)).count item +
      occurs item (workers.flatMap (·.sending.toList)) := by
  induction workers with
  | nil => rfl
  | cons w workers ih =>
    change held item w + total (held item) workers = _
    rw [ih, List.flatMap_cons, List.flatMap_cons, List.count_append, occurs_append, held]
    omega

theorem Sys.Inv.accepted_perm (h : s.Inv) :
    s.accepted.Perm (s.made.map itemOf ++ s.queued) := by
  rw [List.perm_iff_count]
  intro item
  rw [h.balanced item, owned, total_held, List.count_append]
  change _ = occurs item s.made + _
  rw [Sys.made, occurs_append, occurs_append, occurs_append, Sys.queued]
  omega

/-- When `stop_all` has returned, no worker has anything left. -/
theorem Sys.Inv.stopped (h : s.Inv) (hphase : s.pool.phase = .stopped) :
    s.queued = [] ∧ s.made = s.received ++ s.drained := by
  have hidle (w : MetadataWorker) (hw : w ∈ s.pool.workers) : w.queue = [] ∧ w.sending = none :=
    h.orderly.idle w hw (List.all_eq_true.mp (h.orderly.ended (.inr hphase)) w hw)
  constructor
  · exact List.flatMap_eq_nil_iff.mpr fun w hw => (hidle w hw).1
  · have hsending : s.pool.workers.flatMap (·.sending.toList) = [] := by
      apply List.flatMap_eq_nil_iff.mpr
      intro w hw
      rw [(hidle w hw).2]
      rfl
    rw [Sys.made, h.orderly.emptied hphase, hsending, List.append_nil, List.append_nil]

theorem Sys.Inv.taken (h : s.Inv) (hphase : s.pool.phase = .stopped) :
    s.queued = [] ∧ s.accepted.Perm ((s.received ++ s.drained).map itemOf) := by
  obtain ⟨hqueued, hmade⟩ := h.stopped hphase
  refine ⟨hqueued, ?_⟩
  have hperm := h.accepted_perm
  rw [hqueued, hmade, List.append_nil] at hperm
  exact hperm

/-- What a call of `stop_all` in this state does: it takes the pool for itself, no step from then on
has anything accepted, and when it has returned every accepted item has been taken as a result. -/
structure Sys.Stops (s : Sys) : Prop where
  begins : (step s .stopAll).pool.phase.shared = false
  refuses : ∀ later, (run step (step s .stopAll) later).accepted = s.accepted
  empties : ∀ later,
    let t := run step (step s .stopAll) later
    t.pool.phase.shared → t.queued = [] ∧ t.accepted.Perm ((t.received ++ t.drained).map itemOf)

theorem Sys.Inv.stops (h : s.Inv) (hphase : s.pool.phase.shared) (hcalls : s.calls = []) :
    s.Stops := by
  have hstep : step s .stopAll = { s with pool := s.pool.stopAll } := if_pos ⟨hphase, hcalls⟩
  have hinv : (step s .stopAll).Inv := inv_step s .stopAll h
  have hclosed : (step s .stopAll).Closed := by
    apply hinv.closed
    rw [hstep]
    exact nofun
  refine ⟨by rw [hstep]; rfl, fun later => ?_, fun later => ?_⟩
  · rw [(closed_run later hclosed).2, hstep]
    rfl
  · intro t hshared
    have hlater : t.Inv := run_inv inv_step hinv later
    have hnot : t.pool.phase ≠ .running := (closed_run later hclosed).1.phase
    apply hlater.taken
    -- Only a pool that runs, or one that `stop_all` has returned, is shared.
    cases hphase : t.pool.phase with
    | running => exact absurd hphase hnot
    | stopped => rfl
    | looping | draining | finishing =>
      rw [hphase] at hshared
      cases hshared

/-- The worker waits with its second result until `stop_all` takes the first. -/
example :
    let item (id : ObservationId) : WorkItem := ⟨id, .v4 ⟨10, 0, 0, 1⟩⟩
    let s := run step (Sys.new 1 1)
      [.enqueue (item 1), .probe 0, .work 0, .work 0, .enqueue (item 2), .probe 0, .work 0,
        .stopAll, .work 0, .drain, .work 0, .drain, .drain, .work 0, .drain, .drain]
    s.pool.phase = .stopped ∧ s.drained.map itemOf = [item 1, item 2] := by
  decide

end WorkerPool

end NetworkEngine
