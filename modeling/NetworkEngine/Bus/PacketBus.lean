import NetworkEngine.Core.Observation
import NetworkEngine.Core.Ownership
import NetworkEngine.Lib.Op
import NetworkEngine.Lib.Table

/-!
# PacketBus — the observation queue and its ownership records

`packet_bus::{queue, buffer, bus}`.  The bus keeps two structures behind two locks: the queue of
observations and the map of ownership trackers.  Each lock section is a definition of its own, so
that the operations can be run as a whole or section by section.  A poisoned mutex is left out:
no section panics while it holds a lock.
-/

namespace NetworkEngine

open Rust

/-! ## 1. The queue -/

inductive QueueError where
  | full
  | closed
  deriving DecidableEq, Repr

structure ObservationQueue where
  capacity : Nat
  items : List PacketObservation
  closed : Bool
  deriving DecidableEq, Repr

namespace ObservationQueue

def new (capacity : Nat) : ObservationQueue := ⟨capacity, [], false⟩

def tryEnqueue (observation : PacketObservation) (q : ObservationQueue) :
    Except QueueError (Unit × ObservationQueue) :=
  -- A closed queue answers `Closed` even when it is full too.
  if q.closed then .error .closed
  else if q.capacity = 0 ∨ q.capacity ≤ q.items.length then .error .full
  else .ok ((), { q with items := q.items ++ [observation] })

/-- `none` is a caller waiting on `space`. -/
def enqueue (observation : PacketObservation) (q : ObservationQueue) :
    Option (Except QueueError (Unit × ObservationQueue)) :=
  if q.closed then some (.error .closed)
  -- Without capacity there is nothing to wait for.
  else if q.capacity = 0 then some (.error .full)
  else if q.items.length < q.capacity then
    some (.ok ((), { q with items := q.items ++ [observation] }))
  else none

/-- Never fails: a closed queue is drained, and then looks empty. -/
def tryDequeue (q : ObservationQueue) :
    Except QueueError (Option PacketObservation × ObservationQueue) :=
  match q.items with
  | observation :: rest => .ok (some observation, { q with items := rest })
  | [] => .ok (none, q)

/-- `none` is a caller waiting on `available`. -/
def dequeue (q : ObservationQueue) :
    Option (Except QueueError (PacketObservation × ObservationQueue)) :=
  match q.items with
  | observation :: rest => some (.ok (observation, { q with items := rest }))
  | [] => if q.closed then some (.error .closed) else none

def close (q : ObservationQueue) : ObservationQueue := { q with closed := true }

def clear (q : ObservationQueue) : ObservationQueue := { q with items := [] }

/-- The queue is open and has room. -/
def Accepts (q : ObservationQueue) : Prop := q.closed = false ∧ q.items.length < q.capacity

instance (q : ObservationQueue) : Decidable q.Accepts :=
  inferInstanceAs (Decidable (q.closed = false ∧ q.items.length < q.capacity))

theorem tryEnqueue_of_accepts {q : ObservationQueue} (h : q.Accepts) (o : PacketObservation) :
    q.tryEnqueue o = .ok ((), { q with items := q.items ++ [o] }) := by
  obtain ⟨hopen, hroom⟩ := h
  -- Room implies that the capacity is not zero.
  rw [tryEnqueue, hopen, if_neg Bool.false_ne_true, if_neg (by omega)]

theorem tryEnqueue_of_not_accepts {q : ObservationQueue} (h : ¬ q.Accepts)
    (o : PacketObservation) : ∃ e, q.tryEnqueue o = .error e := by
  unfold tryEnqueue
  split
  · exact ⟨_, rfl⟩
  split
  · exact ⟨_, rfl⟩
  · rename_i hclosed hroom
    exact absurd ⟨Bool.eq_false_iff.mpr hclosed, by omega⟩ h

end ObservationQueue

/-! ## 2. Caller buffers -/

structure PacketBuffer where
  data : Bytes
  length : Nat
  capacity : Nat
  released : Bool
  deriving DecidableEq, Repr

inductive BufferError where
  | released
  | alreadyReleased
  | notReleased
  | tooLarge (length capacity : Nat)
  | overflow
  deriving DecidableEq, Repr

def PacketBuffer.new (capacity : Nat) : PacketBuffer :=
  ⟨⟨[], Nat.zero_le _⟩, 0, capacity, false⟩

def PacketBuffer.write (bytes : Bytes) (buffer : PacketBuffer) :
    Except BufferError (Unit × PacketBuffer) :=
  if buffer.released then .error .released
  else if buffer.capacity < bytes.len then .error (.tooLarge bytes.len buffer.capacity)
  else .ok ((), { buffer with data := bytes, length := bytes.len })

def PacketBuffer.release (buffer : PacketBuffer) : Except BufferError (Unit × PacketBuffer) :=
  if buffer.released then .error .alreadyReleased
  else .ok ((), { buffer with released := true })

def PacketBuffer.resetForReuse (buffer : PacketBuffer) : Except BufferError (Unit × PacketBuffer) :=
  if buffer.released then
    .ok ((), { buffer with data := ⟨[], Nat.zero_le _⟩, length := 0, released := false })
  else .error .notReleased

/-! ## 3. The bus -/

abbrev OwnershipMap := Table ObservationId OwnershipTracker

structure PacketBus where
  queue : ObservationQueue
  ownership : OwnershipMap
  deriving DecidableEq

abbrev BusOp (α : Type) := Op PacketBus EngineError α

namespace PacketBus

def new (capacity : Nat) : PacketBus := ⟨.new capacity, ∅⟩

def mapQueueError : QueueError → EngineError
  | .full => .queueFull
  | .closed => .shutdownInProgress

/-- One lock section on the queue. -/
def onQueue {ε α : Type} (f : ObservationQueue → Except ε (α × ObservationQueue)) :
    Op PacketBus ε α :=
  zoom (·.queue) (fun bus queue => { bus with queue }) (atomically f)

/-- One lock section on the ownership map. -/
def onOwnership {α : Type} (f : OwnershipMap → EngineResult (α × OwnershipMap)) : BusOp α :=
  zoom (·.ownership) (fun bus ownership => { bus with ownership }) (atomically f)

/-- The body of `transfer` under the lock. -/
def transferRecord (id : ObservationId) (expected target : Owner) (ownership : OwnershipMap) :
    EngineResult (Unit × OwnershipMap) :=
  match ownership.lookup id with
  | none => .error .invalidHandle
  | some tracker => do
    let tracker ← tracker.transfer expected target
    return ((), ownership.insert id tracker)

/-- The body of `release_from` under the lock. -/
def releaseRecord (id : ObservationId) (owner : Owner) (ownership : OwnershipMap) :
    EngineResult (Unit × OwnershipMap) :=
  match ownership.lookup id with
  | none => .error .invalidHandle
  | some tracker => do
    let _ ← tracker.transfer owner .released
    return ((), ownership.erase id)

def transfer (id : ObservationId) (expected target : Owner) : BusOp Unit :=
  onOwnership (transferRecord id expected target)

def releaseFrom (id : ObservationId) (owner : Owner) : BusOp Unit :=
  onOwnership (releaseRecord id owner)

/-- The ownership lock is held throughout, so this is one section. -/
def publishEngineOwned (observation : PacketObservation) : BusOp Unit := do
  let id := observation.observationId
  let tracker := OwnershipTracker.default
  let tracker ← ofResult (tracker.transfer .allocated .backend)
  let tracker ← ofResult (tracker.transfer .backend .engine)
  let tracker ← ofResult (tracker.transfer .engine .bus)
  let bus ← getState
  -- The duplicate is refused before the queue is asked, so nothing has to be undone.
  if id ∈ bus.ownership then
    throw (.withMessage .internalError "duplicate observation ownership entry")
  mapErr mapQueueError (onQueue (ObservationQueue.tryEnqueue observation))
  modifyState fun bus => { bus with ownership := bus.ownership.insert id tracker }

def publish (observation : PacketObservation) : BusOp Unit := publishEngineOwned observation

def tryRead : BusOp (Option PacketObservation) := do
  match ← mapErr mapQueueError (onQueue ObservationQueue.tryDequeue) with
  | some observation => do
    -- The observation is out of the queue by now; an error here does not put it back.
    transfer observation.observationId .bus .processing
    return some observation
  | none => return none

/-- `none` while the caller waits for an observation. -/
def read (bus : PacketBus) : Option (EngineResult PacketObservation × PacketBus) :=
  bus.queue.dequeue.map fun
    | .ok (observation, queue) =>
      exec (do
        transfer observation.observationId .bus .processing
        return observation) { bus with queue }
    | .error e => (.error (mapQueueError e), bus)

def requeueProcessing (observation : PacketObservation) : BusOp Unit := do
  let id := observation.observationId
  transfer id .processing .engine
  match ← attempt (onQueue (ObservationQueue.tryEnqueue observation)) with
  | .error e => do
    -- The result of the move back is discarded.
    let _ ← attempt (transfer id .engine .processing)
    throw (mapQueueError e)
  | .ok () => transfer id .engine .bus

def transferToHost (id : ObservationId) : BusOp Unit := transfer id .processing .host

def releaseHost (id : ObservationId) : BusOp Unit := releaseFrom id .host

def releaseProcessing (id : ObservationId) : BusOp Unit := releaseFrom id .processing

def releaseEngineOwnership (id : ObservationId) : BusOp Unit := releaseFrom id .engine

/-- An operation of the bus next to a caller's buffer. -/
def onBus {α : Type} (x : BusOp α) : Op (PacketBus × PacketBuffer) EngineError α :=
  zoom Prod.fst (fun s bus => (bus, s.2)) x

def tryReadInto : Op (PacketBus × PacketBuffer) EngineError Bool := do
  let buffer := (← getState).2
  if buffer.released then throw .bufferExhausted
  match ← onBus tryRead with
  | none => return false
  | some observation => do
    let id := observation.observationId
    -- The size is known only after the read, and the requeue undoes it.
    if buffer.capacity < observation.packet.len then
      onBus (requeueProcessing observation)
      throw .bufferExhausted
    match ← attempt (zoom Prod.snd (fun s buffer => (s.1, buffer))
        (atomically (PacketBuffer.write observation.packet.rawBytes))) with
    | .error _ => do
      let _ ← attempt (onBus (requeueProcessing observation))
      throw .bufferExhausted
    | .ok () => do
      onBus (transfer id .processing .engine)
      onBus (releaseEngineOwnership id)
      return true

def close (bus : PacketBus) : PacketBus := { bus with queue := bus.queue.close }

def clear (bus : PacketBus) : PacketBus := { queue := bus.queue.clear, ownership := ∅ }

/-! ## 4. What each operation does

A record is known by its owner.  Every operation is a composition of four updates: an observation
joins or leaves the queue, a record is set, a record is dropped. -/

variable {bus : PacketBus} {id : ObservationId} {o : PacketObservation}

def ownerOf (bus : PacketBus) (id : ObservationId) : Option Owner :=
  (bus.ownership.lookup id).map (·.owner)

def setOwner (bus : PacketBus) (id : ObservationId) (owner : Owner) : PacketBus :=
  { bus with ownership := bus.ownership.insert id ⟨owner⟩ }

def dropRecord (bus : PacketBus) (id : ObservationId) : PacketBus :=
  { bus with ownership := bus.ownership.erase id }

def setItems (bus : PacketBus) (items : List PacketObservation) : PacketBus :=
  { bus with queue := { bus.queue with items } }

@[simp, grind =] theorem setOwner_queue (owner : Owner) : (bus.setOwner id owner).queue = bus.queue := rfl

@[simp, grind =] theorem dropRecord_queue : (bus.dropRecord id).queue = bus.queue := rfl

@[simp, grind =] theorem setItems_items (items : List PacketObservation) :
    (bus.setItems items).queue.items = items := rfl

@[simp] theorem setItems_closed (items : List PacketObservation) :
    (bus.setItems items).queue.closed = bus.queue.closed := rfl

@[simp] theorem setItems_capacity (items : List PacketObservation) :
    (bus.setItems items).queue.capacity = bus.queue.capacity := rfl

@[simp, grind =] theorem ownerOf_setItems (items : List PacketObservation) (id : ObservationId) :
    (bus.setItems items).ownerOf id = bus.ownerOf id := rfl

@[grind =] theorem ownerOf_setOwner (owner : Owner) (id' : ObservationId) :
    (bus.setOwner id owner).ownerOf id' = if id' = id then some owner else bus.ownerOf id' := by
  simp only [ownerOf, setOwner, Table.lookup_insert]
  split <;> rfl

@[grind =] theorem ownerOf_dropRecord (id' : ObservationId) :
    (bus.dropRecord id).ownerOf id' = if id' = id then none else bus.ownerOf id' := by
  simp only [ownerOf, dropRecord, Table.lookup_erase]
  split <;> rfl

theorem ownerOf_eq_none : bus.ownerOf id = none ↔ id ∉ bus.ownership := by
  rw [ownerOf, Option.map_eq_none_iff, Finmap.lookup_eq_none]

@[simp] theorem setOwner_setOwner (bus : PacketBus) (owner owner' : Owner) :
    (bus.setOwner id owner).setOwner id owner' = bus.setOwner id owner' := by
  simp only [setOwner, Finmap.insert_insert]

@[simp] theorem dropRecord_setOwner (bus : PacketBus) (id : ObservationId) (owner : Owner) :
    (bus.setOwner id owner).dropRecord id = bus.dropRecord id := by
  simp only [dropRecord, setOwner, PacketBus.mk.injEq, true_and]
  apply Finmap.ext_lookup
  intro id'
  rw [Table.lookup_erase, Table.lookup_erase, Table.lookup_insert]
  split <;> rfl

/-- The moves the bus makes on its records. -/
theorem transfer_ok {expected target : Owner}
    (hallowed : (transitionOwnership expected.asCore target.asCore).isOk = true)
    (h : bus.ownerOf id = some expected) :
    exec (transfer id expected target) bus = (.ok (), bus.setOwner id target) := by
  obtain ⟨tracker, hlookup, howner⟩ := Option.map_eq_some_iff.mp h
  -- The tracker checks the expected owner, and the table of moves the target.
  have hmove := (OwnershipTracker.transfer_eq_ok hallowed).mpr ⟨howner, rfl⟩
  have hrecord : transferRecord id expected target bus.ownership =
      .ok ((), bus.ownership.insert id ⟨target⟩) := by
    rw [transferRecord, hlookup]
    simp only [hmove]
    rfl
  rw [transfer, onOwnership, exec_zoom, exec_atomically_ok hrecord]
  rfl

/-- A move its tracker refuses leaves the bus as it was. -/
theorem transfer_refused {expected target : Owner}
    (h : ∀ tracker, bus.ownership.lookup id = some tracker →
      ∃ e, tracker.transfer expected target = .error e) :
    ∃ e, exec (transfer id expected target) bus = (.error e, bus) := by
  have hrecord : ∃ e, transferRecord id expected target bus.ownership = .error e := by
    unfold transferRecord
    cases hlookup : bus.ownership.lookup id with
    | none => exact ⟨_, rfl⟩
    | some tracker =>
      obtain ⟨e, he⟩ := h tracker hlookup
      refine ⟨e, ?_⟩
      simp only [he]
      rfl
  obtain ⟨e, hrecord⟩ := hrecord
  exact ⟨e, by rw [transfer, onOwnership, exec_zoom, exec_atomically_error hrecord]⟩

theorem owner_ne_of_lookup {owner : Owner} (h : bus.ownerOf id ≠ some owner)
    {tracker : OwnershipTracker} (hlookup : bus.ownership.lookup id = some tracker) :
    tracker.owner ≠ owner := by
  rintro rfl
  exact h (by rw [ownerOf, hlookup]; rfl)

theorem transfer_error {expected : Owner} (h : bus.ownerOf id ≠ some expected) (target : Owner) :
    ∃ e, exec (transfer id expected target) bus = (.error e, bus) :=
  transfer_refused fun _ hlookup =>
    OwnershipTracker.transfer_of_ne (owner_ne_of_lookup h hlookup) target

/-- `Engine → Processing` is no move of the table, whoever owns the record. -/
theorem transfer_engine_processing (bus : PacketBus) (id : ObservationId) :
    ∃ e, exec (transfer id .engine .processing) bus = (.error e, bus) :=
  transfer_refused fun tracker _ => tracker.transfer_engine_processing

theorem releaseFrom_ok {owner : Owner} (hactive : owner ≠ .released)
    (h : bus.ownerOf id = some owner) :
    exec (releaseFrom id owner) bus = (.ok (), bus.dropRecord id) := by
  obtain ⟨tracker, hlookup, howner⟩ := Option.map_eq_some_iff.mp h
  have hallowed : (transitionOwnership owner.asCore Owner.released.asCore).isOk = true := by
    -- Every owner but `Released` may be released.
    cases owner <;> first | rfl | exact absurd rfl hactive
  have hmove := (OwnershipTracker.transfer_eq_ok hallowed).mpr ⟨howner, rfl⟩
  have hrecord : releaseRecord id owner bus.ownership = .ok ((), bus.ownership.erase id) := by
    rw [releaseRecord, hlookup]
    simp only [hmove]
    rfl
  rw [releaseFrom, onOwnership, exec_zoom, exec_atomically_ok hrecord]
  rfl

theorem releaseFrom_error {owner : Owner} (h : bus.ownerOf id ≠ some owner) :
    ∃ e, exec (releaseFrom id owner) bus = (.error e, bus) := by
  have hrecord : ∃ e, releaseRecord id owner bus.ownership = .error e := by
    unfold releaseRecord
    cases hlookup : bus.ownership.lookup id with
    | none => exact ⟨_, rfl⟩
    | some tracker =>
      obtain ⟨e, he⟩ := OwnershipTracker.transfer_of_ne (owner_ne_of_lookup h hlookup) .released
      refine ⟨e, ?_⟩
      simp only [he]
      rfl
  obtain ⟨e, hrecord⟩ := hrecord
  exact ⟨e, by rw [releaseFrom, onOwnership, exec_zoom, exec_atomically_error hrecord]⟩

/-- A release drops the record of that owner, or changes nothing. -/
theorem releaseFrom_cases {P : PacketBus → Prop} {owner : Owner} (hactive : owner ≠ .released)
    (hsame : P bus) (hdrop : bus.ownerOf id = some owner → P (bus.dropRecord id)) :
    P (exec (releaseFrom id owner) bus).2 := by
  by_cases howner : bus.ownerOf id = some owner
  · rw [releaseFrom_ok hactive howner]
    exact hdrop howner
  · obtain ⟨e, hexec⟩ := releaseFrom_error howner
    rw [hexec]
    exact hsame

theorem enqueue_ok (h : bus.queue.Accepts) :
    exec (onQueue (ObservationQueue.tryEnqueue o)) bus =
      (.ok (), bus.setItems (bus.queue.items ++ [o])) := by
  rw [onQueue, exec_zoom, exec_atomically_ok (ObservationQueue.tryEnqueue_of_accepts h o)]
  rfl

theorem enqueue_error (h : ¬ bus.queue.Accepts) (o : PacketObservation) :
    ∃ e, exec (onQueue (ObservationQueue.tryEnqueue o)) bus = (.error e, bus) := by
  obtain ⟨e, he⟩ := ObservationQueue.tryEnqueue_of_not_accepts h o
  exact ⟨e, by rw [onQueue, exec_zoom, exec_atomically_error he]⟩

/-- The refusal of an id that already has a record. -/
def duplicateRecord : EngineError :=
  .withMessage .internalError "duplicate observation ownership entry"

theorem publish_exec (o : PacketObservation) (bus : PacketBus) :
    exec (publish o) bus =
      if o.observationId ∈ bus.ownership then (.error duplicateRecord, bus)
      else match exec (onQueue (ObservationQueue.tryEnqueue o)) bus with
        | (.ok (), bus') => (.ok (), bus'.setOwner o.observationId .bus)
        | (.error e, bus') => (.error (mapQueueError e), bus') := by
  -- The tracker's first three moves are always made and cannot fail.
  have hbackend : OwnershipTracker.default.transfer .allocated .backend = .ok ⟨.backend⟩ := rfl
  have hengine : OwnershipTracker.transfer ⟨.backend⟩ .backend .engine = .ok ⟨.engine⟩ := rfl
  have hbus : OwnershipTracker.transfer ⟨.engine⟩ .engine .bus = .ok ⟨.bus⟩ := rfl
  unfold publish publishEngineOwned
  simp only [exec_bind, exec_ofResult, hbackend, hengine, hbus, exec_getState]
  split
  · rfl
  · simp only [exec_bind, exec_mapErr]
    rcases exec (onQueue (ObservationQueue.tryEnqueue o)) bus with ⟨_ | _, bus'⟩ <;> rfl

/-- `publish` of a fresh id into a queue with room. -/
theorem publish_ok (hfresh : bus.ownerOf o.observationId = none) (hroom : bus.queue.Accepts) :
    exec (publish o) bus =
      (.ok (), (bus.setItems (bus.queue.items ++ [o])).setOwner o.observationId .bus) := by
  rw [publish_exec, if_neg (ownerOf_eq_none.mp hfresh), enqueue_ok hroom]

theorem publish_error
    (h : ¬ (bus.ownerOf o.observationId = none ∧ bus.queue.Accepts)) :
    ∃ e, exec (publish o) bus = (.error e, bus) := by
  rw [publish_exec]
  split
  · exact ⟨_, rfl⟩
  · rename_i hfresh
    -- The id is new, so the queue is what refuses.
    have hfull : ¬ bus.queue.Accepts := fun hroom => h ⟨ownerOf_eq_none.mpr hfresh, hroom⟩
    obtain ⟨e, he⟩ := enqueue_error hfull o
    rw [he]
    exact ⟨_, rfl⟩

theorem tryDequeue_exec (bus : PacketBus) :
    exec (mapErr mapQueueError (onQueue ObservationQueue.tryDequeue)) bus =
      match bus.queue.items with
      | o :: rest => (.ok (some o), bus.setItems rest)
      | [] => (.ok none, bus) := by
  rw [exec_mapErr, onQueue, exec_zoom, exec_atomically]
  unfold ObservationQueue.tryDequeue
  cases bus.queue.items <;> rfl

theorem tryRead_nil (h : bus.queue.items = []) : exec tryRead bus = (.ok none, bus) := by
  rw [tryRead, exec_bind, tryDequeue_exec, h]
  rfl

/-- A read takes the head, and moves its record from `Bus` to `Processing`. -/
theorem tryRead_cons {rest : List PacketObservation} (h : bus.queue.items = o :: rest)
    (howner : bus.ownerOf o.observationId = some .bus) :
    exec tryRead bus =
      (.ok (some o), (bus.setItems rest).setOwner o.observationId .processing) := by
  -- Taking the head leaves the records as they are.
  have hmove : exec (transfer o.observationId .bus .processing) (bus.setItems rest) =
      (.ok (), (bus.setItems rest).setOwner o.observationId .processing) :=
    transfer_ok rfl howner
  rw [tryRead, exec_bind, tryDequeue_exec, h]
  simp only [exec_bind, hmove, exec_pure]

/-- A head whose record is not in `Bus` is taken from the queue and not returned. -/
theorem tryRead_lost {rest : List PacketObservation} (h : bus.queue.items = o :: rest)
    (howner : bus.ownerOf o.observationId ≠ some .bus) :
    ∃ e, exec tryRead bus = (.error e, bus.setItems rest) := by
  have howner' : (bus.setItems rest).ownerOf o.observationId ≠ some .bus := howner
  obtain ⟨e, hmove⟩ := transfer_error howner' .processing
  refine ⟨e, ?_⟩
  rw [tryRead, exec_bind, tryDequeue_exec, h]
  simp only [exec_bind, hmove]

/-- `read` does what `try_read` does, once there is something to read. -/
theorem read_cons {rest : List PacketObservation} (h : bus.queue.items = o :: rest)
    (howner : bus.ownerOf o.observationId = some .bus) :
    read bus = some (.ok o, (bus.setItems rest).setOwner o.observationId .processing) := by
  have hmove : exec (transfer o.observationId .bus .processing) (bus.setItems rest) =
      (.ok (), (bus.setItems rest).setOwner o.observationId .processing) :=
    transfer_ok rfl howner
  have hdequeue : bus.queue.dequeue = some (.ok (o, { bus.queue with items := rest })) := by
    rw [ObservationQueue.dequeue, h]
  rw [read, hdequeue]
  exact congrArg some (exec_bind_ok hmove)

/-- A requeue into a queue with room moves the record back to `Bus`. -/
theorem requeueProcessing_ok (howner : bus.ownerOf o.observationId = some .processing)
    (hroom : bus.queue.Accepts) :
    exec (requeueProcessing o) bus =
      (.ok (), (bus.setItems (bus.queue.items ++ [o])).setOwner o.observationId .bus) := by
  have hout : exec (transfer o.observationId .processing .engine) bus =
      (.ok (), bus.setOwner o.observationId .engine) := transfer_ok rfl howner
  have hin : exec (onQueue (ObservationQueue.tryEnqueue o)) (bus.setOwner o.observationId .engine) =
      (.ok (), (bus.setOwner o.observationId .engine).setItems (bus.queue.items ++ [o])) :=
    enqueue_ok hroom
  have hback : exec (transfer o.observationId .engine .bus)
      ((bus.setOwner o.observationId .engine).setItems (bus.queue.items ++ [o])) =
      (.ok (), (bus.setItems (bus.queue.items ++ [o])).setOwner o.observationId .bus) := by
    rw [transfer_ok rfl (by rw [ownerOf_setItems, ownerOf_setOwner, if_pos rfl])]
    show _ = (Except.ok (), _)
    exact congrArg (Prod.mk _) (setOwner_setOwner (bus.setItems _) _ _)
  rw [requeueProcessing, exec_bind_ok hout]
  simp only [exec_bind, exec_attempt, hin, hback]

/-- A requeue of an observation that is not being processed changes nothing. -/
theorem requeueProcessing_error (howner : bus.ownerOf o.observationId ≠ some .processing) :
    ∃ e, exec (requeueProcessing o) bus = (.error e, bus) := by
  obtain ⟨e, hout⟩ := transfer_error howner .engine
  exact ⟨e, by rw [requeueProcessing, exec_bind_error hout]⟩

/-- A requeue the queue refuses leaves the record in `Engine`: the table has no way back. -/
theorem requeueProcessing_stuck (howner : bus.ownerOf o.observationId = some .processing)
    (hfull : ¬ bus.queue.Accepts) :
    ∃ e, exec (requeueProcessing o) bus = (.error e, bus.setOwner o.observationId .engine) := by
  have hout : exec (transfer o.observationId .processing .engine) bus =
      (.ok (), bus.setOwner o.observationId .engine) := transfer_ok rfl howner
  obtain ⟨e, hin⟩ := enqueue_error (show ¬ (bus.setOwner o.observationId .engine).queue.Accepts from hfull) o
  -- No move leads from `Engine` to `Processing`, so the discarded result is an error.
  obtain ⟨e', hback⟩ := transfer_engine_processing (bus.setOwner o.observationId .engine)
    o.observationId
  refine ⟨mapQueueError e, ?_⟩
  rw [requeueProcessing, exec_bind_ok hout]
  simp only [exec_bind, exec_attempt, hin, hback, exec_throw]

/-! ### `try_read_into` -/

variable {buffer : PacketBuffer}

theorem tryReadInto_released (h : buffer.released = true) :
    exec tryReadInto (bus, buffer) = (.error .bufferExhausted, (bus, buffer)) := by
  simp only [tryReadInto, exec_bind, exec_getState, h, if_true, exec_throw]

theorem tryReadInto_empty (h : buffer.released = false) (hitems : bus.queue.items = []) :
    exec tryReadInto (bus, buffer) = (.ok false, (bus, buffer)) := by
  simp only [tryReadInto, exec_bind, exec_getState, h, Bool.false_eq_true, if_false, onBus,
    exec_zoom, tryRead_nil hitems, exec_pure]

/-- A head that does not fit the buffer is requeued. -/
theorem tryReadInto_large {rest : List PacketObservation} (h : buffer.released = false)
    (hitems : bus.queue.items = o :: rest) (howner : bus.ownerOf o.observationId = some .bus)
    (hlarge : buffer.capacity < o.packet.len) :
    ∃ e, exec tryReadInto (bus, buffer) =
      (.error e, ((exec (requeueProcessing o)
        ((bus.setItems rest).setOwner o.observationId .processing)).2, buffer)) := by
  simp only [tryReadInto, exec_bind, exec_getState, h, Bool.false_eq_true, if_false, onBus,
    exec_zoom, tryRead_cons hitems howner, hlarge, if_true]
  -- Whatever the requeue answers, the buffer was not written.
  rcases exec (requeueProcessing o) ((bus.setItems rest).setOwner o.observationId .processing)
    with ⟨e | _, bus'⟩
  · exact ⟨_, rfl⟩
  · exact ⟨_, rfl⟩

/-- A head that fits is copied out and its record dropped. -/
theorem tryReadInto_fits {rest : List PacketObservation} (h : buffer.released = false)
    (hitems : bus.queue.items = o :: rest) (howner : bus.ownerOf o.observationId = some .bus)
    (hfits : ¬ buffer.capacity < o.packet.len) :
    exec tryReadInto (bus, buffer) =
      (.ok true, ((bus.setItems rest).dropRecord o.observationId,
        { buffer with data := o.packet.rawBytes, length := o.packet.len })) := by
  have hwrite : PacketBuffer.write o.packet.rawBytes buffer =
      .ok ((), { buffer with data := o.packet.rawBytes, length := o.packet.len }) := by
    rw [PacketBuffer.write, h, if_neg Bool.false_ne_true]
    exact if_neg hfits
  have hout : exec (transfer o.observationId .processing .engine)
      ((bus.setItems rest).setOwner o.observationId .processing) =
      (.ok (), (bus.setItems rest).setOwner o.observationId .engine) := by
    rw [transfer_ok rfl (by rw [ownerOf_setOwner, if_pos rfl]), setOwner_setOwner]
  have hrelease : exec (releaseEngineOwnership o.observationId)
      ((bus.setItems rest).setOwner o.observationId .engine) =
      (.ok (), (bus.setItems rest).dropRecord o.observationId) := by
    rw [releaseEngineOwnership, releaseFrom_ok (by decide) (by rw [ownerOf_setOwner, if_pos rfl]),
      dropRecord_setOwner]
  simp only [tryReadInto, exec_bind, exec_getState, h, Bool.false_eq_true, if_false, onBus,
    exec_zoom, tryRead_cons hitems howner, hfits, exec_attempt, exec_atomically, hwrite, hout,
    hrelease, exec_pure]

/-- The bus after `try_read_into`: as it was for a released buffer or an empty queue, with the head
requeued when it is too large, and without the head when it was copied out. -/
theorem tryReadInto_cases {P : PacketBus → Prop} (buffer : PacketBuffer)
    (howner : ∀ o rest, bus.queue.items = o :: rest → bus.ownerOf o.observationId = some .bus)
    (hsame : P bus)
    (hlarge : ∀ o rest, buffer.released = false → bus.queue.items = o :: rest →
      buffer.capacity < o.packet.len → P (exec (requeueProcessing o)
        ((bus.setItems rest).setOwner o.observationId .processing)).2)
    (hfits : ∀ o rest, buffer.released = false → bus.queue.items = o :: rest →
      ¬ buffer.capacity < o.packet.len → P ((bus.setItems rest).dropRecord o.observationId)) :
    P (exec tryReadInto (bus, buffer)).2.1 := by
  by_cases hreleased : buffer.released = true
  · rw [tryReadInto_released hreleased]
    exact hsame
  have hlive := Bool.eq_false_iff.mpr hreleased
  cases hitems : bus.queue.items with
  | nil =>
    rw [tryReadInto_empty hlive hitems]
    exact hsame
  | cons o rest =>
    by_cases hsize : buffer.capacity < o.packet.len
    · obtain ⟨r, hexec⟩ := tryReadInto_large hlive hitems (howner o rest hitems) hsize
      rw [hexec]
      exact hlarge o rest hlive hitems hsize
    · rw [tryReadInto_fits hlive hitems (howner o rest hitems) hsize]
      exact hfits o rest hlive hitems hsize

end PacketBus

end NetworkEngine
