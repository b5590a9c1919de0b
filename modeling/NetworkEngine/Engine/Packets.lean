import NetworkEngine.Engine.Runtime

/-!
# Packets — what the engine does with one packet

`ingest_observation`, `process_observation` and `windivert_reinject` of `EngineRuntime`, and one
round of `capture_worker_loop`.  None of them touches a lifecycle: they move observations over the
bus, count them, and open the action handle on first use.
-/

namespace NetworkEngine

open Rust

/-! ## 1. Reinjection through a WinDivert handle -/

/-- The answers of the native calls that one reinjection makes. -/
structure ReinjectOutcomes where
  /-- `WinDivertOpen` of the action handle. -/
  actionOpen : Option Nat
  /-- `WinDivertHelperCalcChecksums`. -/
  calcChecksums : Bool
  /-- `WinDivertSend`: the length it sent, unless it failed. -/
  send : Option Nat
  deriving DecidableEq, Repr

namespace WinDivertBackend

def maxPacketSize : Nat := 65535

def requireOpen (b : WinDivertBackend) : Except WinDivertError Nat :=
  if b.state = .open then
    match b.native with
    | some handle => .ok handle
    | none => .error .invalidOperation
  else .error .invalidOperation

/-- `actions::reinject`.  The address is only handed to the driver. -/
def reinject (n : ReinjectOutcomes) (data : Bytes) (_address : WinDivertAddress)
    (b : WinDivertBackend) : Except WinDivertError Unit := do
  let _ ← b.requireOpen
  if data.isEmpty then throw .invalidOperation
  if maxPacketSize < data.len then throw .packetTooLarge
  if !n.calcChecksums then throw .invalidPacket
  match n.send with
  | none => throw .sendFailed
  | some sendLen => if sendLen ≠ data.len then throw .sendFailed

def reinjectWithContext (n : ReinjectOutcomes) (data context : Bytes) (b : WinDivertBackend) :
    Except WinDivertError Unit :=
  match WinDivertAddress.fromBytes context with
  | none => .error .invalidOperation
  | some address => b.reinject n data address

end WinDivertBackend

/-! ## 2. The engine's operations on a packet -/

namespace EngineRuntime

/-- Counts the answer of the bus to a published observation. -/
def countPublished (length : Nat) : EngineResult Unit → EngineStatistics → EngineStatistics
  | .ok (), statistics => statistics.recordPacketReceived (UInt64.ofNat length)
  | .error error, statistics =>
    if error.errorCode = .queueFull then statistics.recordQueueSaturation
    else statistics.recordError

/-- `publish_engine_owned` and its count, as both producers have it. -/
def publishCounted (observation : PacketObservation) : EngineOp Unit := do
  let published : EngineResult Unit ← attempt (onBus (PacketBus.publishEngineOwned observation))
  onStatistics (countPublished observation.packetLength published)
  ofResult published

/-- `now` is the clock at ingestion. -/
def ingestObservation (now : Timestamp) (observation : PacketObservation) : EngineOp Unit := do
  requireRunning
  let observation := { observation with ingestionTimestamp := now }
  if observation.packet.isEmpty then
    throw (.withMessage .invalidArgument "observation carries an empty packet")
  else if observation.packetLength ≠ observation.packet.len then
    throw (.withMessage .invalidArgument "observation packet_length does not match packet bytes")
  else publishCounted observation

/-- What `capture_worker_loop` does with a packet it received, under the id it drew. -/
def capturePacket (id : ObservationId) (packet : InterceptedPacket) (captured ingested : Timestamp) :
    EngineOp Unit :=
  publishCounted (packet.toObservation id captured ingested)

/-- `capture_start`; answers whether a worker was started.  `opened` is what `WinDivertOpen` of the
capture handle answers, `spawned` whether the thread starts. -/
def captureStart (opened : Option Nat) (spawned : Bool) : EngineOp Bool := do
  requireRunning
  let e ← getState
  -- A worker that runs already is kept, and the call succeeds.
  if e.captureThread then return false
  else
    let backendName := e.activeCaptureBackend.getD "windivert"
    if backendName ≠ "windivert" then
      throw (.withMessage .capabilityUnavailable
        ("capture backend '" ++ backendName ++ "' has no connected Engine capture worker"))
    else match exec (WinDivertBackend.start opened) .new with
      | (.error error, _) =>
        throw (.withMessage .backendStartFailed
          ("WinDivert capture handle failed to open: " ++ error.debug))
      | (.ok (), _) => do
        -- The handle is open now; it is lost when the thread does not start.
        modifyState fun e => { e with captureStopFlag := false }
        if !spawned then
          throw (.withMessage .internalError "failed to spawn capture worker")
        else do
          modifyState fun e => { e with captureThread := true }
          return true

def processObservation (hash : IdentityInput → UInt64) (env : ProcessingEnv)
    (observation : PacketObservation) : EngineOp Unit := do
  requireRunning
  modifyState fun e =>
    let shared := processObservationShared hash env observation
      ⟨e.flowTable, e.dedup, e.statistics⟩
    { e with
      flowTable := shared.flowTable, dedup := shared.dedup, statistics := shared.statistics }

/-- `processing_context` and `process_observation_shared`, which does not fail. -/
def processShared (hash : IdentityInput → UInt64) (env : ProcessingEnv)
    (observation : PacketObservation) : EngineOp Unit :=
  modifyState fun e =>
    let shared := processObservationShared hash env observation
      ⟨e.flowTable, e.dedup, e.statistics⟩
    { e with
      flowTable := shared.flowTable, dedup := shared.dedup, statistics := shared.statistics }

/-- Answers whether there was an observation. -/
def processOne (hash : IdentityInput → UInt64) (env : ProcessingEnv) : EngineOp Bool := do
  requireRunning
  match ← onBus PacketBus.tryRead with
  | none => return false
  | some observation => do
    processShared hash env observation
    -- The record goes, whatever the packet was and whoever should have decided on it.
    onBus (PacketBus.releaseProcessing observation.observationId)
    return true

/-- `guard.is_none()`: the action handle is opened on first use, and kept only when it opens. -/
def actionBackend (n : ReinjectOutcomes) : EngineOp WinDivertBackend := do
  let e ← getState
  match e.windivertAction with
  | some backend => return backend
  | none =>
    match exec (WinDivertBackend.start n.actionOpen) .new with
    | (.error error, _) =>
      throw (.withMessage .reinjectionFailed
        ("WinDivert action handle failed to open: " ++ error.debug))
    | (.ok (), backend) => do
      modifyState fun e => { e with windivertAction := some backend }
      return backend

def reinjectionError (error : WinDivertError) : EngineError :=
  .withMessage (if error = .invalidOperation then .invalidArgument else .reinjectionFailed)
    ("WinDivert reinjection failed: " ++ error.debug)

def windivertReinject (n : ReinjectOutcomes) (data nativeContext : Bytes) : EngineOp Unit := do
  requireRunning
  let e ← getState
  if data.isEmpty then throw .invalidArgument
  else match e.activeReinjectionBackend with
  | none =>
    throw (.withMessage .capabilityUnavailable "no active reinjection backend is selected")
  | some backendName => do
    let supported ← ofResult (e.backendManager.supports backendName .reinjection)
    if !supported then
      throw (.withMessage .capabilityUnavailable
        ("active reinjection backend '" ++ backendName ++ "' does not provide reinjection"))
    else if backendName ≠ "windivert" then
      throw (.withMessage .capabilityUnavailable
        ("active reinjection backend '" ++ backendName ++ "' has no Engine action executor"))
    else do
      let backend ← actionBackend n
      mapErr reinjectionError (ofResult (backend.reinjectWithContext n data nativeContext))

/-! ## 3. What they leave alone -/

/-- `e'` is `e` up to the action handle. -/
def SameButAction (e e' : EngineRuntime) : Prop :=
  ∃ action, e' = { e with windivertAction := action }

theorem actionBackend_keeps (n : ReinjectOutcomes) (e : EngineRuntime) :
    Keeps (SameButAction e) (actionBackend n) := by
  refine Keeps.bind Keeps.getState fun _ => ?_
  split
  · exact Keeps.pure
  · split
    · exact Keeps.throw
    · refine Keeps.bind (Keeps.modifyState ?_) fun _ => Keeps.pure
      rintro _ ⟨action, rfl⟩
      exact ⟨_, rfl⟩

/-- Of a reinjection, only the first use of the action handle changes anything. -/
theorem windivertReinject_keeps_of {inv : EngineRuntime → Prop} {n : ReinjectOutcomes}
    (haction : Keeps inv (actionBackend n)) (data context : Bytes) :
    Keeps inv (windivertReinject n data context) := by
  refine Keeps.bind requireRunning_keeps fun _ => Keeps.bind Keeps.getState fun _ => ?_
  apply Keeps.ite Keeps.throw
  split
  · exact Keeps.throw
  · refine Keeps.bind Keeps.ofResult fun _ => ?_
    apply Keeps.ite Keeps.throw
    apply Keeps.ite Keeps.throw
    exact Keeps.bind haction fun _ => Keeps.mapErr Keeps.ofResult

/-- A reinjection touches the action handle only. -/
theorem windivertReinject_keeps (n : ReinjectOutcomes) (data context : Bytes) (e : EngineRuntime) :
    Keeps (SameButAction e) (windivertReinject n data context) :=
  windivertReinject_keeps_of (actionBackend_keeps n e) data context

theorem captureStart_keeps {inv : EngineRuntime → Prop} (opened : Option Nat) (spawned : Bool)
    (hflag : ∀ e, inv e → inv { e with captureStopFlag := false })
    (hthread : ∀ e, inv e → inv { e with captureThread := true }) :
    Keeps inv (captureStart opened spawned) := by
  refine Keeps.bind requireRunning_keeps fun _ => Keeps.bind Keeps.getState fun _ => ?_
  apply Keeps.ite Keeps.pure
  apply Keeps.ite Keeps.throw
  split
  · exact Keeps.throw
  · refine Keeps.bind (Keeps.modifyState hflag) fun _ => ?_
    apply Keeps.ite Keeps.throw
    exact Keeps.bind (Keeps.modifyState hthread) fun _ => Keeps.pure

/-! ## 4. What a packet does not touch -/

/-- The operation leaves the lifecycles and the native slots alone. -/
def KeepsCore {α : Type} (x : EngineOp α) : Prop := ∀ core, Keeps (fun e => e.core = core) x

theorem onBus_core {α : Type} (x : BusOp α) : KeepsCore (onBus x) :=
  fun _ => Keeps.zoom fun _ _ he => he

theorem onStatistics_core (f : EngineStatistics → EngineStatistics) : KeepsCore (onStatistics f) :=
  fun _ => Keeps.modifyState fun _ he => he

theorem windivertReinject_core (n : ReinjectOutcomes) (data context : Bytes) :
    KeepsCore (windivertReinject n data context) := by
  refine fun core => Keeps.of_run fun e he => ?_
  obtain ⟨action, heq⟩ := (windivertReinject_keeps n data context e).run ⟨e.windivertAction, rfl⟩
  rw [heq]
  exact he

theorem processObservation_core (hash : IdentityInput → UInt64) (env : ProcessingEnv)
    (o : PacketObservation) : KeepsCore (processObservation hash env o) :=
  fun _ => Keeps.bind requireRunning_keeps fun _ => Keeps.modifyState fun _ he => he

theorem publishCounted_core (o : PacketObservation) : KeepsCore (publishCounted o) := by
  intro core
  refine (onBus_core _ core).attempt.bind fun published => ?_
  exact (onStatistics_core _ core).bind fun _ => Keeps.ofResult

theorem ingestObservation_core (now : Timestamp) (o : PacketObservation) :
    KeepsCore (ingestObservation now o) := by
  intro core
  refine Keeps.bind requireRunning_keeps fun _ => ?_
  apply Keeps.ite Keeps.throw
  apply Keeps.ite Keeps.throw
  exact publishCounted_core _ core

end EngineRuntime

end NetworkEngine
