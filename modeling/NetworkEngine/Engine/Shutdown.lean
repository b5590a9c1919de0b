import NetworkEngine.Engine.Runtime
import NetworkEngine.Lib.Transition

/-!
# Shutdown — tearing the engine down

`EngineRuntime::shutdown`.  A native backend is stopped only when the manager's lifecycle says that
it can be, and shutdown completes only when every native slot is empty.
-/

namespace NetworkEngine

open Rust

namespace EngineRuntime

/-! ## 1. The teardown -/

/-- `capture_stop`: the worker is joined, and its result dropped. -/
def captureStop : EngineOp Unit :=
  modifyState fun e => { e with captureStopFlag := true, captureThread := false }

def stopProcessingWorker : EngineOp Unit :=
  modifyState fun e => { e with processingStop := true, processingThread := false }

def stopGateway : EngineOp Unit := do
  let e ← getState
  if e.gateway.enabled then
    mapErr (fun _ => .withMessage .gatewayNotReady "failed to stop gateway during shutdown")
      (onGateway GatewayCapability.stop)

/-- The `loop` that empties the closed bus; each round takes one observation off the queue. -/
def drainBus : Nat → EngineOp Unit
  | 0 => return ()
  | fuel + 1 => do
    match ← attempt (onBus PacketBus.tryRead) with
    | .ok (some observation) => do
      match ← attempt (onBus (PacketBus.releaseProcessing observation.observationId)) with
      | .ok _ => pure ()
      | .error (_ : EngineError) => onStatistics (·.recordError)
      drainBus fuel
    | .ok none => return ()
    | .error (_ : EngineError) => return ()

def closeBus : EngineOp Unit := do
  onBus (modifyState PacketBus.close)
  let e ← getState
  drainBus (e.packetBus.queue.items.length + 1)

/-- The `match name` of `stop_all_native_backends`, with the errors it drops. -/
def takeNative (n : NativeOutcomes) : BackendKind → Op EngineRuntime Unit Unit
  | .npcap => onNpcap (takeSlot (mapErr (fun _ => ()) NpcapBackend.stop))
  | .winDivert =>
    onWindivert (takeSlot (mapErr (fun _ => ()) (WinDivertBackend.stop n.windivertClose)))
  | .wfp => onWfp (takeSlot (mapErr (fun _ => ()) (WfpEngine.close n.wfpRemoveSublayer n.wfpClose)))
  | .ipHelper => onIphelper (takeSlot (mapErr (fun _ => ()) IpHelperBackend.stop))
  | .etw => onEtw (takeSlot (mapErr (fun _ => ()) EtwBackend.stop))

/-- One round of `stop_all_native_backends`; answers whether it failed. -/
def stopOne (n : NativeOutcomes) (name : String) : EngineOp Bool := do
  let e ← getState
  match e.backendManager.runtimeState name with
  -- The source goes on to the next name in every one of these branches.
  | .error _ => return true
  | .ok runtime =>
    if runtime.lifecycle.canStop then
      match ← attempt (onKind (takeNative n) name) with
      | .ok () =>
        match ← attempt (onManager (BackendManager.markStopped name)) with
        | .ok () => return false
        | .error (_ : EngineError) => return true
      | .error () => do
        let _ : EngineResult Unit ← attempt (onManager (BackendManager.setLifecycle name .failed))
        onStatistics (·.recordBackendFailure)
        return true
    else return false

def stopAllNativeBackends (n : NativeOutcomes) : EngineOp Unit := do
  let e ← getState
  -- Every backend is tried, also after one of them failed.
  let failed ← e.backendManager.names.foldlM
    (fun failed name => do return failed || (← stopOne n name)) false
  if failed then
    throw (.withMessage .backendStopFailed "one or more native backends failed to stop")

/-- `action.take()`: the handle is gone whether or not it closes. -/
def stopAction (n : NativeOutcomes) : EngineOp Unit := do
  let e ← getState
  modifyState fun e => { e with windivertAction := none }
  match e.windivertAction with
  | none => return ()
  | some backend =>
    match exec (WinDivertBackend.stop n.actionClose) backend with
    | (.ok (), _) => return ()
    | (.error _, _) =>
      throw (.withMessage .backendStopFailed "WinDivert action backend failed to stop")

/-- A thread or a native handle is still owned by the engine. -/
def holdsHandle (e : EngineRuntime) : Bool :=
  e.processingThread || e.captureThread || e.windivertAction.isSome || e.npcapBackend.isSome ||
    e.windivertBackend.isSome || e.wfpBackend.isSome || e.iphelperBackend.isSome ||
    e.etwBackend.isSome

def checkReleased : EngineOp Unit := do
  let e ← getState
  if e.holdsHandle then
    throw (.withMessage .backendStopFailed
      "shutdown incomplete: native thread or backend handle remains owned by the engine")

/-- Everything between `begin_shutdown` and the last check.  The metadata workers and the metadata
store, which are stopped and cleared in between, are left out. -/
def release (n : NativeOutcomes) : EngineOp Unit := do
  stopGateway
  closeBus
  stopAllNativeBackends n
  stopAction n
  setActiveCaptureBackend none
  setActiveReinjectionBackend none
  modifyState fun e => { e with flowTable := e.flowTable.clear.2 }

def shutdown (n : NativeOutcomes) : EngineOp Unit := do
  let e ← getState
  if e.isInitialized then
    captureStop
    stopProcessingWorker
    onState EngineState.beginShutdown
    release n
    checkReleased
    onState EngineState.shutdown
    modifyState fun e => { e with initialized := false }
  else throw (.withMessage .notInitialized "engine is not initialized")

/-! ## 2. What a teardown does not touch

Of all of `release`, only `stop_all_native_backends` touches the core. -/

section Core

variable {ε α : Type} {inv : EngineRuntime → Prop} {epost : EngineError → EngineRuntime → Prop}
  (hcore : ∀ e e' : EngineRuntime, e'.core = e.core → inv e → inv e')

include hcore

theorem keeps_of_core {x : Op EngineRuntime ε α} (h : ∀ e, (exec x e).2.core = e.core) :
    Keeps inv x :=
  Keeps.of_run fun e he => hcore e _ (h e) he

theorem drainBus_keeps (fuel : Nat) : Triple inv (drainBus fuel) (fun _ => inv) epost := by
  have hbus {α : Type} (x : BusOp α) :
      Triple inv (attempt (onBus x) : EngineOp _) (fun _ => inv) epost :=
    Keeps.attempt (keeps_of_core hcore fun _ => rfl)
  have hstatistics (f : EngineStatistics → EngineStatistics) :
      Triple inv (onStatistics f) (fun _ => inv) epost := fun e => hcore e _ rfl
  induction fuel with
  | zero => exact Triple.pure fun _ he => he
  | succ fuel ih =>
    refine (hbus _).bind fun r => ?_
    match r with
    | .ok (some o) =>
      refine (hbus _).bind fun released => ?_
      cases released with
      | ok _ => exact ih
      | error _ => exact (hstatistics _).bind fun _ => ih
    | .ok none => exact Triple.pure fun _ he => he
    | .error _ => exact Triple.pure fun _ he => he

theorem closeBus_keeps : Triple inv closeBus (fun _ => inv) epost := by
  have hclose : Triple inv (onBus (modifyState PacketBus.close)) (fun _ => inv) epost :=
    fun e => hcore e _ rfl
  exact hclose.bind fun _ => Triple.bind (Triple.getState fun _ he => he) fun _ => drainBus_keeps hcore _

end Core

/-- Beside the core a teardown touches the bus; of the two, the teardown keeps what its rounds over
the backends and the end of the bus keep. -/
theorem release_keeps {inv : EngineRuntime → Prop}
    (hrest : ∀ e e' : EngineRuntime, e'.core = e.core → e'.packetBus = e.packetBus → inv e → inv e')
    (hbus : Keeps inv closeBus) (n : NativeOutcomes) (hround : ∀ name, Keeps inv (stopOne n name)) :
    Keeps inv (release n) := by
  have hkeeps {ε α : Type} {x : Op EngineRuntime ε α}
      (h : ∀ e, (exec x e).2.core = e.core ∧ (exec x e).2.packetBus = e.packetBus) : Keeps inv x :=
    Keeps.of_run fun e he => hrest e _ (h e).1 (h e).2 he
  have hgateway : Keeps inv stopGateway :=
    Keeps.getState.bind fun e => Keeps.ite (hkeeps fun _ => ⟨rfl, rfl⟩) Keeps.pure
  have hbackends : Keeps inv (stopAllNativeBackends n) := by
    refine Keeps.getState.bind fun e => Keeps.bind ?_ fun _ => Keeps.ite Keeps.throw Keeps.pure
    exact Keeps.foldlM (fun _ name _ => (hround name).bind fun _ => Keeps.pure) false
  have haction : Keeps inv (stopAction n) := by
    refine Keeps.getState.bind fun e => ?_
    refine Keeps.bind (hkeeps fun _ => ⟨rfl, rfl⟩) fun _ => ?_
    split
    · exact Keeps.pure
    · split
      · exact Keeps.pure
      · exact Keeps.throw
  refine hgateway.bind fun _ => hbus.bind fun _ => hbackends.bind fun _ => haction.bind fun _ => ?_
  refine Keeps.bind (hkeeps fun _ => ⟨rfl, rfl⟩) fun _ => ?_
  refine Keeps.bind (hkeeps fun _ => ⟨rfl, rfl⟩) fun _ => ?_
  exact hkeeps fun _ => ⟨rfl, rfl⟩

/-- A round of `stop_all_native_backends` does not fail, and keeps what its parts keep. -/
theorem stopOne_keeps {inv : EngineRuntime → Prop} {epost : EngineError → EngineRuntime → Prop}
    {n : NativeOutcomes} {name : String} (hnative : Keeps inv (onKind (takeNative n) name))
    (hmanager : ∀ lifecycle, Keeps inv (onManager (BackendManager.setLifecycle name lifecycle)))
    (hstatistics : ∀ (f : EngineStatistics → EngineStatistics) e, inv e → inv { e with statistics := f e.statistics }) :
    Triple inv (stopOne n name) (fun _ => inv) epost := by
  refine Triple.bind (Triple.getState fun _ he => he) fun e => ?_
  split
  · exact Triple.pure fun _ he => he
  · split
    · refine hnative.attempt.bind fun r => ?_
      cases r with
      | ok _ =>
        refine (hmanager .stopped).attempt.bind fun r => ?_
        cases r <;> exact Triple.pure fun _ he => he
      | error _ =>
        refine (hmanager .failed).attempt.bind fun _ => ?_
        exact Triple.bind (Triple.modifyState (hstatistics _)) fun _ => Triple.pure fun _ he => he
    · exact Triple.pure fun _ he => he

end EngineRuntime

end NetworkEngine
