import NetworkEngine.Engine.Packets
import NetworkEngine.Engine.Shutdown

/-!
# Handles — the C interface to packets

`ffi::{api, errors, handles}`: the process-wide statics and the calls that work on them.  A call
returns a code and leaves a text in `LAST_ERROR`.  A packet that was read is known to the host by a
handle; an action takes the entry of its handle out of the table, works under the engine lock, and
puts the entry back when it fails.
-/

namespace NetworkEngine

open Rust

/-! ## 1. Codes -/

/-- The codes of `errors.rs` other than `NE_OK`. -/
inductive NeCode where
  | invalidArgument
  | invalidHandle
  | notInitialized
  | alreadyInitialized
  | backendUnavailable
  | queueFull
  | bufferExhausted
  | actionFailed
  | shutdown
  | internal
  deriving DecidableEq, Repr

def NeCode.value : NeCode → Int
  | invalidArgument => -1
  | invalidHandle => -2
  | notInitialized => -3
  | alreadyInitialized => -4
  | backendUnavailable => -5
  | queueFull => -6
  | bufferExhausted => -7
  | actionFailed => -8
  | shutdown => -9
  | internal => -10

/-- The table of `error_to_c`. -/
def NeCode.ofErrorCode : EngineErrorCode → NeCode
  | .invalidArgument | .nullPointer | .bufferTooSmall | .integerOverflow => .invalidArgument
  | .invalidHandle | .handleReleased | .handleTypeMismatch => .invalidHandle
  | .notInitialized => .notInitialized
  | .alreadyInitialized => .alreadyInitialized
  | .backendUnavailable | .backendNotFound | .backendAlreadyRegistered | .backendAlreadyRunning
  | .backendNotRunning | .backendStartFailed | .backendStopFailed | .backendInitializationFailed
  | .backendShutdownFailed | .backendDegraded | .capabilityUnavailable
  | .capabilityNotSupported => .backendUnavailable
  | .queueFull | .backpressure => .queueFull
  | .bufferExhausted | .resourceExhausted => .bufferExhausted
  | .actionNotSupported | .actionFailed | .passFailed | .dropFailed | .modifyFailed
  | .reinjectionFailed => .actionFailed
  | .shutdownInProgress | .alreadyShutdown => .shutdown
  | _ => .internal

namespace Ffi

/-! ## 2. The statics -/

structure FfiState where
  /-- `GLOBAL_ENGINE`. -/
  engine : Option EngineRuntime
  /-- `PACKET_HANDLES`. -/
  packetHandles : Table UInt64 PacketObservation
  /-- `HANDLE_COUNTER`. -/
  handleCounter : UInt64
  /-- `NEXT_INJECTED_OBSERVATION_ID`. -/
  nextInjected : UInt64
  /-- `LAST_ERROR`. -/
  lastError : String

/-- A call, whose error is the code it returns. -/
abbrev FfiOp (α : Type) := Op FfiState NeCode α

section Calls

variable {α : Type}

def setLastError (message : String) : FfiOp Unit :=
  modifyState fun s => { s with lastError := message }

def fail (code : NeCode) (message : String) : FfiOp α := do
  setLastError message
  throw code

def errorToC (error : EngineError) : FfiOp α :=
  fail (.ofErrorCode error.errorCode) error.text

/-- An operation of the engine, under the engine lock and behind the check that there is one. -/
def onEngine (x : EngineOp α) : Op FfiState EngineError α := fun s =>
  -- Every call looks for the engine under the lock, as it may be gone by then.
  match s.engine with
  | none => (.error .notInitialized, s)
  | some e =>
    let r := exec x e
    (r.1, { s with engine := some r.2 })

theorem onEngine_some {s : FfiState} {e : EngineRuntime} (x : EngineOp α)
    (he : s.engine = some e) :
    exec (onEngine x) s = ((exec x e).1, { s with engine := some (exec x e).2 }) := by
  show onEngine x s = _
  rw [onEngine, he]

/-- `onEngine`, with `error_to_c` on its error. -/
def callEngine (x : EngineOp α) : FfiOp α := do
  match ← attempt (onEngine x) with
  | .ok a => return a
  | .error (error : EngineError) => errorToC error

/-- `let Some(e) = g.as_ref() else { .. }`. -/
def requireEngine : FfiOp Unit := do
  let s ← getState
  if s.engine.isNone then fail .notInitialized "engine is not initialized"
  else return ()

/-- The `c_int` that a call returns. -/
def returnValue : Except NeCode α → Int
  | .ok _ => 0
  | .error code => code.value

theorem returnValue_eq_zero {r : Except NeCode α} : returnValue r = 0 ↔ ∃ a, r = .ok a := by
  cases r with
  | ok a => exact iff_of_true rfl ⟨a, rfl⟩
  | error code => exact iff_of_false (by cases code <;> exact nofun) nofun

end Calls

/-! ## 3. The handle table -/

/-- `next_handle`: the counter wraps, and zero is passed over. -/
def nextHandle : FfiOp UInt64 := do
  let s ← getState
  let handle := s.handleCounter
  -- `fetch_add` returns the value of before.
  modifyState fun s => { s with handleCounter := handle + 1 }
  if handle ≠ 0 then return handle
  else do
    modifyState fun s => { s with handleCounter := handle + 2 }
    return handle + 1

def takePacketHandle (handle : UInt64) : FfiOp PacketObservation := do
  if handle = 0 then fail .invalidHandle "invalid packet handle"
  else do
    let s ← getState
    match s.packetHandles.lookup handle with
    | none => fail .invalidHandle "invalid or released packet handle"
    | some observation => do
      -- From here to the end of the action no other call finds the handle.
      modifyState fun s => { s with packetHandles := s.packetHandles.erase handle }
      return observation

/-- The entry is inserted even when it replaces another one. -/
def restorePacketHandle (handle : UInt64) (observation : PacketObservation) : FfiOp Unit := do
  let s ← getState
  modifyState fun s => { s with packetHandles := s.packetHandles.insert handle observation }
  if handle ∈ s.packetHandles then
    fail .internal "packet handle collision while restoring ownership"
  else return ()

section Table

variable {s : FfiState} {handle : UInt64} {observation : PacketObservation}

theorem takePacketHandle_none (h : s.packetHandles.lookup handle = none) :
    ∃ message, exec (takePacketHandle handle) s =
      (.error .invalidHandle, { s with lastError := message }) := by
  unfold takePacketHandle
  split
  · exact ⟨_, rfl⟩
  · refine ⟨"invalid or released packet handle", ?_⟩
    rw [exec_bind_ok (exec_getState s)]
    simp only [h]
    rfl

theorem takePacketHandle_some (hzero : handle ≠ 0)
    (h : s.packetHandles.lookup handle = some observation) :
    exec (takePacketHandle handle) s =
      (.ok observation, { s with packetHandles := s.packetHandles.erase handle }) := by
  rw [takePacketHandle, if_neg hzero, exec_bind_ok (exec_getState s)]
  simp only [h]
  rfl

theorem takePacketHandle_cases (s : FfiState) (handle : UInt64) :
    (∃ observation, s.packetHandles.lookup handle = some observation ∧
      exec (takePacketHandle handle) s =
        (.ok observation, { s with packetHandles := s.packetHandles.erase handle })) ∨
    ∃ message, exec (takePacketHandle handle) s =
      (.error .invalidHandle, { s with lastError := message }) := by
  cases h : s.packetHandles.lookup handle with
  | none => exact .inr (takePacketHandle_none h)
  | some observation =>
    -- The zero handle is refused without a look at the table.
    by_cases hzero : handle = 0
    · right
      rw [takePacketHandle, if_pos hzero]
      exact ⟨_, rfl⟩
    · exact .inl ⟨observation, rfl, takePacketHandle_some hzero h⟩

/-- A restore ends with the entry in the table, whether it finds another one there or not. -/
theorem restorePacketHandle_exec (s : FfiState) (handle : UInt64)
    (observation : PacketObservation) :
    ∃ r message, exec (restorePacketHandle handle observation) s =
      (r, { s with
        packetHandles := s.packetHandles.insert handle observation, lastError := message }) := by
  rw [restorePacketHandle, exec_bind_ok (exec_getState s), exec_bind_ok (exec_modifyState s _)]
  split
  · exact ⟨_, _, rfl⟩
  · exact ⟨_, _, rfl⟩

end Table

/-! ## 4. Actions on a packet -/

def observationContextForWindivert (observation : PacketObservation) : Option Bytes :=
  observation.nativeContext.bind fun context =>
    if context.backend = .windivert then some context.bytes else none

def releaseHostObservation (observation : PacketObservation) : FfiOp Unit :=
  callEngine (EngineRuntime.onBus (PacketBus.releaseHost observation.observationId))

def count (f : EngineStatistics → EngineStatistics) : FfiOp Unit :=
  callEngine (EngineRuntime.onStatistics f)

/-- What an action that gives the packet up does under the engine lock. -/
def releaseWork (f : EngineStatistics → EngineStatistics) (observation : PacketObservation) :
    FfiOp Unit := do
  requireEngine
  releaseHostObservation observation
  count f
  setLastError "OK"

/-- What an action that sends `data` in place of the packet does under the engine lock.  A packet
without a context is refused before the lock is taken. -/
def reinjectWork (n : ReinjectOutcomes) (data : Bytes) (f : EngineStatistics → EngineStatistics)
    (observation : PacketObservation) : FfiOp Unit :=
  match observationContextForWindivert observation with
  | none => fail .actionFailed "packet has no native WinDivert action context"
  | some context => do
    requireEngine
    -- The packet is sent first; its record is released once it is gone.
    callEngine (EngineRuntime.windivertReinject n data context)
    releaseHostObservation observation
    count f
    setLastError "OK"

/-- The work on an entry that was taken out, which puts the entry back when it fails.  Where the
source sets its text only after it has put the entry back, the outcome is the same: a refused
restore overwrites the text in either order. -/
def orRestore (handle : UInt64) (observation : PacketObservation) (work : FfiOp Unit) :
    FfiOp Unit := do
  match ← attempt work with
  | .ok () => return ()
  | .error (code : NeCode) => do
    restorePacketHandle handle observation
    throw code

/-- The common shape of the terminal actions. -/
def terminalAction (work : PacketObservation → FfiOp Unit) (handle : UInt64) : FfiOp Unit := do
  let observation ← takePacketHandle handle
  orRestore handle observation (work observation)

def packetRelease : UInt64 → FfiOp Unit := terminalAction (releaseWork id)

def terminalDrop : UInt64 → FfiOp Unit := terminalAction (releaseWork (·.recordDropRequested))

def packetDrop : UInt64 → FfiOp Unit := terminalDrop

def packetPass (n : ReinjectOutcomes) : UInt64 → FfiOp Unit :=
  terminalAction fun observation =>
    reinjectWork n observation.packet.rawBytes (·.recordForwarded) observation

def packetReinject (n : ReinjectOutcomes) : UInt64 → FfiOp Unit :=
  terminalAction fun observation =>
    reinjectWork n observation.packet.rawBytes (·.recordForwarded) observation

/-- `modified` is `none` for a null pointer. -/
def packetModify (n : ReinjectOutcomes) (modified : Option Bytes) (handle : UInt64) :
    FfiOp Unit :=
  match modified with
  | none => fail .invalidArgument "invalid modified packet input"
  | some modified =>
    -- Refused before the entry is taken, so there is nothing to restore.
    if modified.isEmpty then fail .invalidArgument "invalid modified packet input"
    else
      terminalAction
        (reinjectWork n modified fun statistics => statistics.recordForwarded.recordModification)
        handle

def packetAction (n : ReinjectOutcomes) (handle : UInt64) (action : Int) : FfiOp Unit :=
  if action = 0 then packetPass n handle
  else if action = 1 then packetDrop handle
  else if action = 2 then fail .invalidArgument "MODIFY requires packet_modify(data, len)"
  else if action = 3 then packetReinject n handle
  else fail .invalidArgument "invalid packet action"

/-! ## 5. Injecting and reading -/

/-- The arguments of `packet_inject`; `packet` is `none` for a null pointer. -/
structure InjectArgs where
  packet : Option Bytes
  source : Int
  direction : Int
  interfaceIndex : UInt32
  deriving DecidableEq, Repr

/-- The readings of the clock during `packet_inject`. -/
structure InjectClock where
  captured : Timestamp
  built : Timestamp
  ingested : Timestamp
  deriving DecidableEq, Repr

def nextInjectedObservationId : FfiOp ObservationId := do
  let s ← getState
  -- The counter wraps at the end of the type.
  modifyState fun s => { s with nextInjected := s.nextInjected + 1 }
  return s.nextInjected

/-- `packet_inject` up to the engine lock: the arguments are checked, then an id is drawn. -/
def injectObservation (clock : InjectClock) (args : InjectArgs) : FfiOp PacketObservation :=
  match args.packet with
  | none => fail .invalidArgument "invalid packet input"
  | some bytes =>
    if bytes.isEmpty then fail .invalidArgument "invalid packet input"
    else match backendSource args.source, direction args.direction with
      | none, _ => fail .invalidArgument "invalid backend source"
      | some _, none => fail .invalidArgument "invalid packet direction"
      | some source, some direction => do
        let id ← nextInjectedObservationId
        return .new id source clock.captured clock.built direction
          (toString args.interfaceIndex) ⟨bytes⟩
where
  backendSource (s : Int) : Option BackendSource :=
    if s = 0 then some .windivert else if s = 1 then some .npcap
    else if s = 2 then some .wfp else none
  direction (d : Int) : Option Direction :=
    if d = 0 then some .inbound else if d = 1 then some .outbound else none

/-- `packet_inject` under the engine lock. -/
def injectPublish (clock : InjectClock) (observation : PacketObservation) : FfiOp Unit := do
  requireEngine
  callEngine (EngineRuntime.ingestObservation clock.ingested observation)
  setLastError "OK"

def packetInject (clock : InjectClock) (args : InjectArgs) : FfiOp Unit := do
  let observation ← injectObservation clock args
  injectPublish clock observation

structure NePacketDescriptor where
  packetHandle : UInt64
  data : Bytes
  backendSource : BackendSource
  direction : Direction
  deriving DecidableEq, Repr

/-- `let _ = e.packet_bus.requeue_processing(observation)`. -/
def requeue (observation : PacketObservation) : FfiOp Unit := do
  let _ : EngineResult Unit ←
    attempt (onEngine (EngineRuntime.onBus (PacketBus.requeueProcessing observation)))

/-- The tail of `packet_read`, with the table locked. -/
def issueHandle (observation : PacketObservation) : FfiOp NePacketDescriptor := do
  let handle ← nextHandle
  let s ← getState
  -- The counter has come round to a handle that is still out.
  if handle ∈ s.packetHandles then do
    requeue observation
    fail .internal "packet handle collision"
  else do
    modifyState fun s => { s with packetHandles := s.packetHandles.insert handle observation }
    match ← attempt (onEngine
        (EngineRuntime.onBus (PacketBus.transferToHost observation.observationId))) with
    | .error (error : EngineError) => do
      modifyState fun s => { s with packetHandles := s.packetHandles.erase handle }
      requeue observation
      errorToC error
    | .ok () => do
      -- The lookup of the entry inserted above cannot fail: the table is locked throughout.
      setLastError "OK"
      return ⟨handle, observation.packet.rawBytes, observation.backendSource,
        observation.direction⟩

/-- `packet_read`, all of it under the engine lock. -/
def packetRead (hash : IdentityInput → UInt64) (env : ProcessingEnv) (descriptorNotNull : Bool) :
    FfiOp NePacketDescriptor := do
  if !descriptorNotNull then fail .invalidArgument "invalid packet descriptor pointer"
  else do
    requireEngine
    match ← callEngine (EngineRuntime.onBus PacketBus.tryRead) with
    | none => fail .queueFull "packet queue is empty"
    | some observation =>
      match ← attempt (onEngine (EngineRuntime.processObservation hash env observation)) with
      | .error (error : EngineError) => do
        requeue observation
        errorToC error
      | .ok () =>
        -- The check comes after processing: the flow has counted the packet by now.
        if 2 ^ 32 - 1 < observation.packet.len then do
          requeue observation
          fail .bufferExhausted "packet is too large for C ABI length"
        else issueHandle observation

/-- `capture_process`, which leaves `LAST_ERROR` as it is. -/
def captureProcess (hash : IdentityInput → UInt64) (env : ProcessingEnv) : FfiOp Unit := do
  let s ← getState
  if s.engine.isNone then throw .notInitialized
  else match ← attempt (onEngine (EngineRuntime.processOne hash env)) with
    | .ok _ => return ()
    | .error (_ : EngineError) => throw .internal

/-! ## 6. Sessions -/

structure NeInitConfig where
  queueCapacity : UInt32
  poolMaxSize : UInt32
  bufferCapacity : UInt32
  maxFlows : UInt32
  deriving DecidableEq, Repr

namespace NeInitConfig

def isValid (c : NeInitConfig) : Bool :=
  0 < c.queueCapacity && 0 < c.poolMaxSize && 0 < c.bufferCapacity && 0 < c.maxFlows

def toEngineConfig (c : NeInitConfig) : EngineConfig :=
  ⟨c.queueCapacity.toNat, c.poolMaxSize.toNat, c.bufferCapacity.toNat, c.maxFlows.toNat⟩

end NeInitConfig

/-- `config` is `none` for a null pointer; `prepared` is the reason `native_runtime::prepare` fails
for, which only leaves its text. -/
def networkInit (prepared : Option String) (config : Option NeInitConfig) (n : NativeOutcomes)
    (sync : EngineResult Unit) : FfiOp Unit := do
  prepared.elim (pure ()) setLastError
  match config with
  | none => fail .invalidArgument "invalid initialization pointer"
  | some config => do
    let s ← getState
    -- A second initialization is refused before its configuration is looked at.
    if s.engine.isSome then fail .alreadyInitialized "engine is already initialized"
    else if !config.isValid then fail .invalidArgument "invalid initialization configuration"
    else match EngineRuntime.initializeRuntime config.toEngineConfig n sync with
      | .error error => errorToC error
      | .ok e => do
        modifyState fun s => { s with engine := some e }
        setLastError "OK"

/-- `network_shutdown` under the engine lock, up to the table. -/
def shutdownEngine (n : NativeOutcomes) : FfiOp Unit := do
  requireEngine
  callEngine (EngineRuntime.shutdown n)
  -- Only a shutdown that succeeds drops the engine.
  modifyState fun s => { s with engine := none }

def clearHandles : FfiOp Unit := do
  modifyState fun s => { s with packetHandles := ∅ }
  setLastError "OK"

def networkShutdown (n : NativeOutcomes) : FfiOp Unit := do
  shutdownEngine n
  clearHandles

end Ffi

end NetworkEngine
