import NetworkEngine.Bus.Sequential
import NetworkEngine.Engine.PacketPolicy
import NetworkEngine.Engine.Packets
import NetworkEngine.Lib.Triple

/-!
# CaptureRuntime — the native addresses of undecided packets

`ffi::backend_runtime`, for a runtime over WinDivert.  `poll` receives a packet, publishes it and
keeps its native address; `execute_decision` needs that address to send the packet again and gives
it up.  Consumers of the bus run between the calls and inside of `poll`.
-/

namespace NetworkEngine

open Rust Transition

/-! ## 1. Receiving -/

/-- `actions::recv_packet`; the answer of `WinDivertRecv` is what it delivered, unless it failed. -/
def WinDivertBackend.recv (answer : Option (Bytes × WinDivertAddress)) (b : WinDivertBackend) :
    Except WinDivertError InterceptedPacket := do
  let _ ← b.requireOpen
  match answer with
  | none => throw .recvFailed
  | some (data, address) =>
    if data.len = 0 then throw .invalidPacket
    if maxPacketSize < data.len then throw .packetTooLarge
    return .fromNative data address

namespace NetworkCore

/-- `network_core::OwnershipTracker`, the one without a lock. -/
structure OwnershipTracker where
  state : OwnershipState
  history : List OwnershipState
  deriving DecidableEq, Repr

def OwnershipTracker.new : OwnershipTracker := ⟨.allocated, [.allocated]⟩

def OwnershipTracker.transition (target : OwnershipState) (t : OwnershipTracker) :
    EngineResult OwnershipTracker := do
  let state ← transitionOwnership t.state target
  return ⟨state, t.history ++ [state]⟩

end NetworkCore

/-- What other threads do to the bus; its capacity is fixed when it is made. -/
structure BusChange where
  toFun : PacketBus → PacketBus
  capacity_eq (bus : PacketBus) : (toFun bus).queue.capacity = bus.queue.capacity

/-! ## 2. The runtime -/

/-- `CaptureRuntime::WinDivert`. -/
structure CaptureRuntime where
  backend : WinDivertBackend
  nextObservationId : UInt64
  pendingAddresses : Table UInt64 WinDivertAddress

namespace CaptureRuntime

/-- The runtime and the bus, with what came in and what became of it. -/
structure Shared where
  runtime : CaptureRuntime
  bus : PacketBus
  received : List InterceptedPacket
  /-- The observations that the bus has accepted from `poll`, with the packets they are of. -/
  published : List (PacketObservation × InterceptedPacket)
  /-- The ids of the decisions that returned `Ok`. -/
  decided : List ObservationId
  /-- The reinjections that returned `Ok`, with the address that each was made with. -/
  reinjected : List (ObservationId × WinDivertAddress)

abbrev RuntimeOp (α : Type) := Op Shared EngineError α

def onRuntime (f : CaptureRuntime → CaptureRuntime) : RuntimeOp Unit :=
  modifyState fun s => { s with runtime := f s.runtime }

def onBus {α : Type} (x : BusOp α) : RuntimeOp α :=
  zoom (·.bus) (fun s bus => { s with bus }) x

def invalidOwnership : EngineError :=
  .withMessage .invalidStateTransition "native capture ownership transition failed"

def receiveError (error : WinDivertError) : EngineError :=
  .withMessage .backendDegraded ("WinDivert receive failed: " ++ error.debug)

def actionError (error : WinDivertError) : EngineError :=
  .withMessage .actionFailed ("WinDivert action failed: " ++ error.debug)

def contextUnavailable : EngineError :=
  .withMessage .actionFailed "native action context for observation is unavailable"

/-- The tracker is local: nothing is left of its release when the bus refuses the observation. -/
def publishEngineOwned (observation : PacketObservation) : BusOp Unit := do
  let move (target : OwnershipState) (t : NetworkCore.OwnershipTracker) :
      BusOp NetworkCore.OwnershipTracker :=
    mapErr (fun _ => invalidOwnership) (ofResult (t.transition target))
  let ownership ← move .backendOwned .new
  let ownership ← move .engineOwned ownership
  PacketBus.publishEngineOwned observation
  let _ ← move .busOwned ownership

/-- The observation that `poll` makes of a packet. -/
def observe (packet : InterceptedPacket) (observationId : ObservationId)
    (captured ingested : Timestamp) : PacketObservation :=
  (PacketObservation.new observationId .windivert captured ingested
    (match packet.direction with | .inbound => .inbound | .outbound => .outbound)
    (toString packet.interfaceIndex) ⟨packet.data⟩)
  |>.withNativeMetadata "interface_index" (toString packet.interfaceIndex)
  |>.withNativeMetadata "loopback" (toString packet.loopback)
  |>.withNativeMetadata "impostor" (toString packet.impostor)
  |>.withProvenance "captured-by-windivert"

/-- What a `poll` meets: the answer of the driver, the clock, and the other users of the bus while
it receives and after it has published. -/
structure PollEnv where
  answer : Option (Bytes × WinDivertAddress)
  captured : Timestamp
  ingested : Timestamp
  whileReceiving : BusChange
  afterPublishing : BusChange

def poll (env : PollEnv) : RuntimeOp Unit := do
  let s ← getState
  if s.bus.queue.capacity ≤ s.runtime.pendingAddresses.keys.card then throw .queueFull
  onBus (modifyState env.whileReceiving.toFun)
  let intercepted ← mapErr receiveError (ofResult (s.runtime.backend.recv env.answer))
  modifyState fun s => { s with received := s.received ++ [intercepted] }
  let observationId := s.runtime.nextObservationId
  onRuntime fun runtime =>
    { runtime with nextObservationId := saturatingAdd64 runtime.nextObservationId 1 }
  -- The id is used up by now, whether the packet is published or not.
  if intercepted.data.isEmpty then
    throw (.withMessage .invalidArgument "native backend returned an empty packet")
  let observation := observe intercepted observationId env.captured env.ingested
  onBus (publishEngineOwned observation)
  modifyState fun s => { s with published := s.published ++ [(observation, intercepted)] }
  onBus (modifyState env.afterPublishing.toFun)
  onRuntime fun runtime =>
    { runtime with
      pendingAddresses := runtime.pendingAddresses.insert observationId intercepted.address }

/-- `pending_addresses.remove(&key)`. -/
def forget (key : UInt64) : RuntimeOp Unit :=
  onRuntime fun runtime =>
    { runtime with pendingAddresses := runtime.pendingAddresses.erase key }

def executeDecision (native : ReinjectOutcomes) (observationId : ObservationId)
    (decision : PacketDecision) (rawPacket : Bytes) : RuntimeOp Unit := do
  let s ← getState
  let key := observationId
  match decision with
  | .pass | .inspect =>
    match s.runtime.pendingAddresses.lookup key with
    | none => throw contextUnavailable
    | some address => do
      mapErr actionError (ofResult (s.runtime.backend.reinject native rawPacket address))
      modifyState fun s => { s with reinjected := s.reinjected ++ [(key, address)] }
      forget key
  | .drop =>
    match s.runtime.pendingAddresses.lookup key with
    | none => throw contextUnavailable
    | some _ => forget key

/-! ## 3. Runs -/

inductive Turn where
  | poll (env : PollEnv)
  | executeDecision (native : ReinjectOutcomes) (observationId : ObservationId)
      (decision : PacketDecision) (rawPacket : Bytes)
  /-- The consumers of the bus. -/
  | consume (change : BusChange)

def recordDecision (observationId : ObservationId) (s : Shared) : Shared :=
  { s with decided := s.decided ++ [observationId] }

def step (s : Shared) : Turn → Shared
  | .poll env => (exec (poll env) s).2
  | .executeDecision native observationId decision rawPacket =>
    match exec (executeDecision native observationId decision rawPacket) s with
    | (.ok (), s') => recordDecision observationId s'
    | (.error _, s') => s'
  | .consume change => { s with bus := change.toFun s.bus }

/-- A runtime that has just started, over a bus that may be in use. -/
def start (backend : WinDivertBackend) (bus : PacketBus) : Shared where
  runtime := ⟨backend, 1, ∅⟩
  bus := bus
  received := []
  published := []
  decided := []
  reinjected := []

/-- The ids of the published observations. -/
def Shared.publishedIds (s : Shared) : List ObservationId :=
  s.published.map (·.1.observationId)

/-- A published observation that is not decided has its own context, there is no other context,
and every packet is decided, and sent again, at most once. -/
structure OneContext (s : Shared) : Prop where
  bounded : s.runtime.pendingAddresses.keys.card ≤ s.bus.queue.capacity
  nodup : s.publishedIds.Nodup
  context : ∀ entry ∈ s.published, s.runtime.pendingAddresses.lookup entry.1.observationId =
    if entry.1.observationId ∈ s.decided then none else some entry.2.address
  published : ∀ key ∈ s.runtime.pendingAddresses, key ∈ s.publishedIds
  decided : s.decided.Nodup
  reinjected : (s.reinjected.map Prod.fst).Nodup
  sent : ∀ sending ∈ s.reinjected, sending.1 ∈ s.decided ∧
    ∃ entry ∈ s.published, entry.1.observationId = sending.1 ∧ entry.2.address = sending.2

/-- The operation leaves the capacity of the bus as it is. -/
abbrev KeepsCapacity {α : Type} (x : BusOp α) : Prop :=
  ∀ capacity, Keeps (fun bus => bus.queue.capacity = capacity) x

theorem onOwnership_capacity {α : Type} (f : OwnershipMap → EngineResult (α × OwnershipMap)) :
    KeepsCapacity (PacketBus.onOwnership f) :=
  fun _ => Keeps.zoom fun _ _ h => h

theorem onQueue_capacity {α : Type}
    {f : ObservationQueue → Except QueueError (α × ObservationQueue)}
    (hf : ∀ q a q', f q = .ok (a, q') → q'.capacity = q.capacity) (capacity : Nat) :
    Keeps (fun bus => bus.queue.capacity = capacity) (PacketBus.onQueue f) := by
  apply Keeps.of_run
  intro bus hbus
  rw [PacketBus.onQueue, exec_zoom, exec_atomically]
  cases hq : f bus.queue with
  | error e => exact hbus
  | ok r => exact (hf _ r.1 r.2 hq).trans hbus

theorem tryEnqueue_capacity {q q' : ObservationQueue} (o : PacketObservation) (u : Unit)
    (h : q.tryEnqueue o = .ok (u, q')) : q'.capacity = q.capacity := by
  unfold ObservationQueue.tryEnqueue at h
  split_ifs at h
  rw [← (Prod.mk.inj (Except.ok.inj h)).2]

theorem tryDequeue_capacity {q q' : ObservationQueue} (o : Option PacketObservation)
    (h : q.tryDequeue = .ok (o, q')) : q'.capacity = q.capacity := by
  unfold ObservationQueue.tryDequeue at h
  cases hitems : q.items with
  | nil =>
    rw [hitems] at h
    rw [← (Prod.mk.inj (Except.ok.inj h)).2]
  | cons _ _ =>
    rw [hitems] at h
    rw [← (Prod.mk.inj (Except.ok.inj h)).2]

theorem busPublish_capacity (o : PacketObservation) :
    KeepsCapacity (PacketBus.publishEngineOwned o) := by
  intro capacity
  unfold PacketBus.publishEngineOwned
  refine Keeps.ofResult.bind fun _ => Keeps.ofResult.bind fun _ => Keeps.ofResult.bind fun _ => ?_
  refine Keeps.getState.bind fun bus => ?_
  split
  · exact Keeps.throw
  · refine (Keeps.mapErr ?_).bind fun _ => Keeps.modifyState fun _ h => h
    exact onQueue_capacity (fun _ u _ => tryEnqueue_capacity o u) capacity

theorem publishEngineOwned_capacity (o : PacketObservation) :
    KeepsCapacity (publishEngineOwned o) := by
  intro capacity
  have hmove (t : NetworkCore.OwnershipTracker) (target : OwnershipState) :
      Keeps (fun bus : PacketBus => bus.queue.capacity = capacity)
        (mapErr (fun _ => invalidOwnership) (ofResult (t.transition target))) :=
    Keeps.ofResult.mapErr
  unfold publishEngineOwned
  refine (hmove _ _).bind fun t => (hmove _ _).bind fun t => ?_
  exact (busPublish_capacity o capacity).bind fun _ => (hmove _ _).bind fun _ => Keeps.pure

theorem tryRead_capacity : KeepsCapacity PacketBus.tryRead := by
  intro capacity
  unfold PacketBus.tryRead
  refine (Keeps.mapErr (onQueue_capacity (fun _ o _ => tryDequeue_capacity o) capacity)).bind
    fun o => ?_
  cases o with
  | none => exact Keeps.pure
  | some o => exact (onOwnership_capacity _ capacity).bind fun _ => Keeps.pure

theorem requeueProcessing_capacity (o : PacketObservation) :
    KeepsCapacity (PacketBus.requeueProcessing o) := by
  intro capacity
  unfold PacketBus.requeueProcessing
  refine (onOwnership_capacity _ capacity).bind fun _ => ?_
  refine Triple.bind
    (Keeps.attempt (onQueue_capacity (fun _ u _ => tryEnqueue_capacity o u) capacity)) fun r => ?_
  cases r with
  | ok _ => exact onOwnership_capacity _ capacity
  | error e =>
    exact Triple.bind (Keeps.attempt (onOwnership_capacity _ capacity)) fun _ => Keeps.throw

theorem onBusBuffer_capacity {α : Type} {x : BusOp α} (h : KeepsCapacity x) (capacity : Nat) :
    Keeps (fun s : PacketBus × PacketBuffer => s.1.queue.capacity = capacity)
      (PacketBus.onBus x) :=
  Triple.zoom (fun _ _ => rfl) (h capacity)

theorem tryReadInto_capacity (capacity : Nat) :
    Keeps (fun s : PacketBus × PacketBuffer => s.1.queue.capacity = capacity)
      PacketBus.tryReadInto := by
  unfold PacketBus.tryReadInto
  refine Keeps.getState.bind fun s => ?_
  dsimp only
  split
  · exact Triple.bind (Triple.throw fun _ h => h) fun _ => Triple.unreachable
  refine (onBusBuffer_capacity tryRead_capacity capacity).bind fun o => ?_
  cases o with
  | none => exact Keeps.pure
  | some o =>
    have hrequeue := onBusBuffer_capacity (requeueProcessing_capacity o) capacity
    dsimp only
    split
    · exact hrequeue.bind fun _ =>
        Triple.bind (Triple.throw fun _ h => h) fun _ => Triple.unreachable
    refine Triple.bind (Keeps.attempt (Keeps.zoom fun _ _ h => h)) fun r => ?_
    cases r with
    | error e => exact Triple.bind hrequeue.attempt fun _ => Keeps.throw
    | ok _ =>
      refine (onBusBuffer_capacity (onOwnership_capacity _) capacity).bind fun _ => ?_
      refine (onBusBuffer_capacity (onOwnership_capacity _) capacity).bind fun _ => Keeps.pure

theorem read_capacity (bus : PacketBus) :
    (bus.read.elim bus (·.2)).queue.capacity = bus.queue.capacity := by
  unfold PacketBus.read ObservationQueue.dequeue
  cases bus.queue.items with
  | nil => cases bus.queue.closed <;> rfl
  | cons o rest =>
    have htransfer := onOwnership_capacity
      (PacketBus.transferRecord o.observationId .bus .processing) bus.queue.capacity
    exact (htransfer.bind fun _ => (Keeps.pure (a := o))).run rfl

/-- The calls of the bus are such changes. -/
def busChange (call : PacketBus.BusCall) : BusChange where
  toFun bus := PacketBus.step bus call
  capacity_eq bus := by
    cases call with
    | publish o => exact (busPublish_capacity o _).run rfl
    | tryRead => exact (tryRead_capacity _).run rfl
    | read => exact read_capacity bus
    | tryReadInto buffer => exact (tryReadInto_capacity _).run rfl
    | requeueProcessing o => exact (requeueProcessing_capacity o _).run rfl
    | transferToHost id => exact (onOwnership_capacity _ _).run rfl
    | releaseProcessing id => exact (onOwnership_capacity _ _).run rfl
    | releaseHost id => exact (onOwnership_capacity _ _).run rfl
    | close => rfl
    | clear => rfl

/-- A packet that has come in, under the next id. -/
def drawn (packet : InterceptedPacket) (s : Shared) : Shared :=
  { s with
    received := s.received ++ [packet]
    runtime.nextObservationId := saturatingAdd64 s.runtime.nextObservationId 1 }

/-- A packet whose observation is published, with its context. -/
def kept (o : PacketObservation) (packet : InterceptedPacket) (s : Shared) : Shared :=
  { s with
    published := s.published ++ [(o, packet)]
    runtime.pendingAddresses := s.runtime.pendingAddresses.insert o.observationId packet.address }

/-- What a `poll` comes to. -/
inductive Polled (s : Shared) : EngineResult Unit × Shared → Prop
  | full : Polled s (.error .queueFull, s)
  | failed (e : EngineError) (bus : PacketBus)
      (hcapacity : bus.queue.capacity = s.bus.queue.capacity) : Polled s (.error e, { s with bus })
  | lost (e : EngineError) (packet : InterceptedPacket) (bus : PacketBus)
      (hcapacity : bus.queue.capacity = s.bus.queue.capacity) :
      Polled s (.error e, drawn packet { s with bus })
  | published (o : PacketObservation) (packet : InterceptedPacket) (bus : PacketBus)
      (hcapacity : bus.queue.capacity = s.bus.queue.capacity)
      (hroom : s.runtime.pendingAddresses.keys.card < s.bus.queue.capacity)
      (hid : o.observationId = s.runtime.nextObservationId) :
      Polled s (.ok (), kept o packet (drawn packet { s with bus }))

theorem polled (env : PollEnv) (s : Shared) : Polled s (exec (poll env) s) := by
  unfold poll
  rw [exec_bind, exec_getState]
  dsimp only
  by_cases hfull : s.bus.queue.capacity ≤ s.runtime.pendingAddresses.keys.card
  · rw [if_pos hfull]
    exact .full
  rw [if_neg hfull, exec_bind, onBus, exec_zoom, exec_modifyState]
  dsimp only
  have hreceiving := env.whileReceiving.capacity_eq s.bus
  rw [exec_bind, exec_mapErr, exec_ofResult]
  cases s.runtime.backend.recv env.answer with
  | error e => exact .failed _ _ hreceiving
  | ok packet =>
    show Polled s (exec (_ >>= _) _)
    simp only [exec_bind, exec_modifyState, onRuntime]
    by_cases hempty : packet.data.isEmpty = true
    · rw [if_pos hempty]
      exact .lost _ packet _ hreceiving
    rw [if_neg hempty, exec_bind, onBus, exec_zoom]
    dsimp only
    have hid : (observe packet s.runtime.nextObservationId env.captured
      env.ingested).observationId = s.runtime.nextObservationId := rfl
    generalize observe packet s.runtime.nextObservationId env.captured env.ingested = o at hid ⊢
    have hpublish := (publishEngineOwned_capacity o _).run hreceiving
    cases hexec : exec (publishEngineOwned o) (env.whileReceiving.toFun s.bus) with
    | mk result bus =>
      rw [hexec] at hpublish
      cases result with
      | error e => exact .lost e packet bus hpublish
      | ok u =>
        have hafter := (env.afterPublishing.capacity_eq bus).trans hpublish
        have hpolled := Polled.published o packet _ hafter (Nat.lt_of_not_le hfull) hid
        rw [kept, hid] at hpolled
        exact hpolled

/-- What a decision comes to. -/
inductive Decided (s : Shared) (observationId : ObservationId) :
    EngineResult Unit × Shared → Prop
  | failed (e : EngineError) : Decided s observationId (.error e, s)
  | dropped (address : WinDivertAddress)
      (hcontext : s.runtime.pendingAddresses.lookup observationId = some address) :
      Decided s observationId (.ok (), (exec (forget observationId) s).2)
  | sent (address : WinDivertAddress)
      (hcontext : s.runtime.pendingAddresses.lookup observationId = some address) :
      Decided s observationId (.ok (), (exec (forget observationId)
        { s with reinjected := s.reinjected ++ [(observationId, address)] }).2)

variable {s : Shared} {native : ReinjectOutcomes} {observationId : ObservationId}
  {decision : PacketDecision} {rawPacket : Bytes} {address : WinDivertAddress}

theorem executeDecision_none (h : s.runtime.pendingAddresses.lookup observationId = none) :
    exec (executeDecision native observationId decision rawPacket) s =
      (.error contextUnavailable, s) := by
  unfold executeDecision
  rw [exec_bind, exec_getState]
  cases decision <;> simp only [h, exec_throw]

theorem executeDecision_drop
    (h : s.runtime.pendingAddresses.lookup observationId = some address) :
    exec (executeDecision native observationId .drop rawPacket) s =
      (.ok (), (exec (forget observationId) s).2) := by
  unfold executeDecision
  rw [exec_bind, exec_getState]
  simp only [h]
  rfl

theorem executeDecision_send (hdecision : decision ≠ .drop)
    (h : s.runtime.pendingAddresses.lookup observationId = some address) :
    exec (executeDecision native observationId decision rawPacket) s =
      match s.runtime.backend.reinject native rawPacket address with
      | .error e => (.error (actionError e), s)
      | .ok () => (.ok (), (exec (forget observationId)
          { s with reinjected := s.reinjected ++ [(observationId, address)] }).2) := by
  unfold executeDecision
  rw [exec_bind, exec_getState]
  cases decision with
  | drop => exact absurd rfl hdecision
  | pass | inspect =>
    simp only [h, exec_bind, exec_mapErr, exec_ofResult]
    cases s.runtime.backend.reinject native rawPacket address <;> rfl

theorem decided (native : ReinjectOutcomes) (observationId : ObservationId)
    (decision : PacketDecision) (rawPacket : Bytes) (s : Shared) :
    Decided s observationId
      (exec (executeDecision native observationId decision rawPacket) s) := by
  cases hcontext : s.runtime.pendingAddresses.lookup observationId with
  | none =>
    rw [executeDecision_none hcontext]
    exact .failed _
  | some address =>
    by_cases hdecision : decision = .drop
    · rw [hdecision, executeDecision_drop hcontext]
      exact .dropped address hcontext
    · rw [executeDecision_send hdecision hcontext]
      cases s.runtime.backend.reinject native rawPacket address with
      | error e => exact .failed _
      | ok u => exact .sent address hcontext

/-! ## 5. The contexts over a run -/

/-- The contexts, and where the ids come from: the id of a packet is its position among those
received. -/
structure Inv (s : Shared) : Prop extends OneContext s where
  next : s.runtime.nextObservationId.toNat = s.received.length + 1
  drawn : ∀ id ∈ s.publishedIds, id.toNat ≤ s.received.length
  decidedPublished : ∀ id ∈ s.decided, id ∈ s.publishedIds

variable {o : PacketObservation} {packet : InterceptedPacket} {bus : PacketBus}

theorem Inv.start (backend : WinDivertBackend) (bus : PacketBus) : Inv (start backend bus) where
  bounded := Nat.zero_le _
  nodup := List.nodup_nil
  context := List.forall_mem_nil _
  published _ hkey := absurd hkey (Finmap.notMem_empty)
  decided := List.nodup_nil
  reinjected := List.nodup_nil
  sent := List.forall_mem_nil _
  next := rfl
  drawn := List.forall_mem_nil _
  decidedPublished := List.forall_mem_nil _

theorem Inv.setBus (h : Inv s) (hcapacity : bus.queue.capacity = s.bus.queue.capacity) :
    Inv { s with bus } :=
  { h with bounded := hcapacity ▸ h.bounded }

theorem Inv.draw (h : Inv s) (packet : InterceptedPacket)
    (hfew : s.received.length + 1 < 2 ^ 64 - 1) : Inv (CaptureRuntime.drawn packet s) :=
  { h with
    next := by
      show (saturatingAdd64 s.runtime.nextObservationId 1).toNat =
        (s.received ++ [packet]).length + 1
      rw [toNat_saturatingAdd64, h.next, UInt64.toNat_one, List.length_append,
        List.length_singleton]
      omega
    drawn := by
      intro id hid
      show id.toNat ≤ (s.received ++ [packet]).length
      rw [List.length_append]
      exact Nat.le_add_right_of_le (h.drawn id hid) }

/-- The newest id is that of no other observation. -/
theorem Inv.keep (h : Inv s) (hid : o.observationId.toNat = s.received.length)
    (hnew : o.observationId ∉ s.publishedIds)
    (hroom : s.runtime.pendingAddresses.keys.card < s.bus.queue.capacity) :
    Inv (kept o packet s) := by
  have hids : (kept o packet s).publishedIds = s.publishedIds ++ [o.observationId] :=
    List.map_append
  have hundecided : o.observationId ∉ s.decided := fun hin => hnew (h.decidedPublished _ hin)
  have hcontext : o.observationId ∉ s.runtime.pendingAddresses := fun hin =>
    hnew (h.published _ hin)
  constructor
  · constructor
    · show (s.runtime.pendingAddresses.insert o.observationId packet.address).keys.card ≤ _
      rw [Table.card_insert_of_notMem _ hcontext]
      exact hroom
    · rw [hids]
      exact List.concat_eq_append ▸ h.nodup.concat hnew
    · intro entry hentry
      show (s.runtime.pendingAddresses.insert o.observationId packet.address).lookup _ = _
      rw [Table.lookup_insert]
      rcases List.mem_append.mp hentry with hold | hlast
      · have hne : entry.1.observationId ≠ o.observationId := by
          intro heq
          exact hnew (heq ▸ List.mem_map_of_mem hold)
        rw [if_neg hne]
        exact h.context entry hold
      · rw [List.mem_singleton.mp hlast, if_pos rfl]
        exact (if_neg hundecided).symm
    · intro key hkey
      rw [hids, List.mem_append, List.mem_singleton]
      rcases Finmap.mem_insert.mp hkey with heq | hold
      · exact .inr heq
      · exact .inl (h.published key hold)
    · exact h.decided
    · exact h.reinjected
    · intro sending hsending
      obtain ⟨hdecided, entry, hentry, heq⟩ := h.sent sending hsending
      exact ⟨hdecided, entry, List.mem_append_left _ hentry, heq⟩
  · exact h.next
  · intro id hin
    rw [hids, List.mem_append, List.mem_singleton] at hin
    rcases hin with hold | heq
    · exact h.drawn id hold
    · rw [heq]
      exact Nat.le_of_eq hid
  · intro id hin
    rw [hids]
    exact List.mem_append_left _ (h.decidedPublished id hin)

/-- A context is that of an undecided observation. -/
theorem OneContext.of_lookup (h : OneContext s)
    (hcontext : s.runtime.pendingAddresses.lookup observationId = some address) :
    observationId ∉ s.decided ∧ ∃ entry ∈ s.published,
      entry.1.observationId = observationId ∧ entry.2.address = address := by
  have hkey : observationId ∈ s.runtime.pendingAddresses := Finmap.mem_of_lookup_eq_some hcontext
  obtain ⟨entry, hentry, rfl⟩ := List.mem_map.mp (h.published _ hkey)
  have hentryContext := h.context entry hentry
  rw [hcontext] at hentryContext
  split at hentryContext
  · cases hentryContext
  · rename_i hundecided
    exact ⟨hundecided, entry, hentry, rfl, (Option.some.inj hentryContext).symm⟩

/-- A decision takes the context away, and may have sent the packet. -/
theorem Inv.decide (h : Inv s)
    (hcontext : s.runtime.pendingAddresses.lookup observationId = some address)
    {sendings : List (ObservationId × WinDivertAddress)}
    (hsendings : sendings = s.reinjected ∨ sendings = s.reinjected ++ [(observationId, address)]) :
    Inv (recordDecision observationId
      (exec (forget observationId) { s with reinjected := sendings }).2) := by
  obtain ⟨hundecided, entry, hentry, hid, haddress⟩ := h.of_lookup hcontext
  have hunsent : observationId ∉ s.reinjected.map Prod.fst := by
    intro hin
    obtain ⟨sending, hsending, rfl⟩ := List.mem_map.mp hin
    exact hundecided (h.sent sending hsending).1
  constructor
  · constructor
    · exact (Table.card_erase_le _ _).trans h.bounded
    · exact h.nodup
    · intro entry' hentry'
      show (s.runtime.pendingAddresses.erase observationId).lookup entry'.1.observationId =
        if entry'.1.observationId ∈ s.decided ++ [observationId] then none
        else some entry'.2.address
      rw [Table.lookup_erase]
      by_cases heq : entry'.1.observationId = observationId
      · rw [if_pos heq, heq, if_pos (List.mem_append_right _ (List.mem_singleton_self _))]
      · rw [if_neg heq, h.context entry' hentry']
        simp only [List.mem_append, List.mem_singleton, heq, or_false]
    · intro key hkey
      exact h.published key (Finmap.mem_erase.mp hkey).2
    · show (s.decided ++ [observationId]).Nodup
      exact List.concat_eq_append ▸ h.decided.concat hundecided
    · show (sendings.map Prod.fst).Nodup
      rcases hsendings with rfl | rfl
      · exact h.reinjected
      · rw [List.map_append]
        exact List.concat_eq_append ▸ h.reinjected.concat hunsent
    · intro sending hsending
      have hold (hin : sending ∈ s.reinjected) : sending.1 ∈ s.decided ++ [observationId] ∧
          ∃ entry ∈ s.published, entry.1.observationId = sending.1 ∧
            entry.2.address = sending.2 := by
        obtain ⟨hdecided, hpublished⟩ := h.sent sending hin
        exact ⟨List.mem_append_left _ hdecided, hpublished⟩
      rcases hsendings with rfl | rfl
      · exact hold hsending
      · rcases List.mem_append.mp hsending with hin | hlast
        · exact hold hin
        · rw [List.mem_singleton.mp hlast]
          exact ⟨List.mem_append_right _ (List.mem_singleton_self _), entry, hentry, hid, haddress⟩
  · exact h.next
  · exact h.drawn
  · intro id hin
    rcases List.mem_append.mp hin with hold | hlast
    · exact h.decidedPublished id hold
    · rw [List.mem_singleton.mp hlast, ← hid]
      exact List.mem_map_of_mem hentry

theorem received_le_step (s : Shared) (turn : Turn) :
    s.received.length ≤ (step s turn).received.length := by
  cases turn with
  | poll env =>
    have hpolled := polled env s
    rw [step]
    generalize exec (poll env) s = outcome at hpolled ⊢
    cases hpolled with
    | full | failed e bus hcapacity => exact Nat.le_refl _
    | lost e packet bus hcapacity | published o packet bus hcapacity hroom hid =>
      show s.received.length ≤ (s.received ++ [packet]).length
      rw [List.length_append]
      exact Nat.le_add_right _ _
  | executeDecision native observationId decision rawPacket =>
    have hdecided := CaptureRuntime.decided native observationId decision rawPacket s
    rw [step]
    generalize exec (executeDecision native observationId decision rawPacket) s = outcome
      at hdecided ⊢
    cases hdecided <;> exact Nat.le_refl _
  | consume change => exact Nat.le_refl _

theorem step_inv (h : Inv s) (turn : Turn) (hfew : (step s turn).received.length < 2 ^ 64 - 1) :
    Inv (step s turn) := by
  cases turn with
  | poll env =>
    have hpolled := polled env s
    rw [step] at hfew ⊢
    generalize exec (poll env) s = outcome at hpolled hfew ⊢
    cases hpolled with
    | full => exact h
    | failed e bus hcapacity => exact h.setBus hcapacity
    | lost e packet bus hcapacity =>
      rw [CaptureRuntime.drawn, List.length_append] at hfew
      exact (h.setBus hcapacity).draw packet hfew
    | published o packet bus hcapacity hroom hid =>
      have hcount : s.received.length + 1 < 2 ^ 64 - 1 := by
        rw [kept, CaptureRuntime.drawn, List.length_append] at hfew
        exact hfew
      have hdrawn := (h.setBus hcapacity).draw packet hcount
      refine hdrawn.keep ?_ ?_ ?_
      · show o.observationId.toNat = (s.received ++ [packet]).length
        rw [hid, h.next, List.length_append, List.length_singleton]
      · intro hin
        -- The id is above those that were drawn before.
        have hold := h.drawn _ hin
        rw [hid, h.next] at hold
        exact Nat.not_succ_le_self _ hold
      · show _ < bus.queue.capacity
        rw [hcapacity]
        exact hroom
  | executeDecision native observationId decision rawPacket =>
    have hdecided := CaptureRuntime.decided native observationId decision rawPacket s
    rw [step]
    generalize exec (executeDecision native observationId decision rawPacket) s = outcome
      at hdecided ⊢
    cases hdecided with
    | failed e => exact h
    | dropped address hcontext => exact h.decide hcontext (.inl rfl)
    | sent address hcontext => exact h.decide hcontext (.inr rfl)
  | consume change => exact h.setBus (change.capacity_eq s.bus)

theorem Inv.run (h : Inv s) (turns : List Turn)
    (hfew : (run step s turns).received.length < 2 ^ 64 - 1) : Inv (run step s turns) := by
  induction turns using List.reverseRecOn with
  | nil => exact h
  | append_singleton turns turn ih =>
    rw [run_append, run_cons, run_nil] at hfew ⊢
    exact step_inv (ih (Nat.lt_of_le_of_lt (received_le_step _ turn) hfew)) turn hfew

/-- A packet of one byte that comes in over interface 0. -/
def oneByte : PollEnv where
  answer := some (⟨[0x61], by decide⟩, ⟨Vector.replicate 8 0, 0, 0, Vector.replicate 64 0⟩)
  captured := ⟨5⟩
  ingested := ⟨6⟩
  whileReceiving := busChange .tryRead
  afterPublishing := busChange .tryRead

/-- A reinjection that fails and is tried again, between two packets. -/
def retried : List Turn :=
  [.poll oneByte, .executeDecision ⟨none, true, none⟩ 1 .pass ⟨[0x61], by decide⟩,
    .executeDecision ⟨none, true, some 1⟩ 1 .pass ⟨[0x61], by decide⟩, .poll oneByte]

example : (run step (start ⟨.open, some 1⟩ (.new 1)) retried).publishedIds = [1, 2] ∧
    (run step (start ⟨.open, some 1⟩ (.new 1)) retried).decided = [1] := by
  decide

end CaptureRuntime

end NetworkEngine
