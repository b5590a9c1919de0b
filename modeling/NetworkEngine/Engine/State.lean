import NetworkEngine.Core.Error
import NetworkEngine.Lib.Triple

/-!
# State — the lifecycle of the engine

`network_core::engine_state`.  Each function below is one section under the lifecycle lock.
-/

namespace NetworkEngine

open Rust

inductive EngineLifecycle where
  | uninitialized
  | initializing
  | running
  | shuttingDown
  | stopped
  | failed
  deriving DecidableEq, Repr

/-- `EngineState` without the gateway policy. -/
structure EngineState where
  initialized : Bool
  shutdownRequested : Bool
  lifecycle : EngineLifecycle
  deriving DecidableEq, Repr

namespace EngineState

def new : EngineState := ⟨false, false, .uninitialized⟩

def init : Op EngineState EngineError Unit :=
  atomically fun s =>
    match s.lifecycle with
    | .running => .error .alreadyInitialized
    | .initializing | .shuttingDown => .error .invalidStateTransition
    | .failed => .error (.withMessage .invalidStateTransition "engine is in failed state")
    | .uninitialized | .stopped => .ok ((), ⟨true, false, .running⟩)

def beginShutdown : Op EngineState EngineError Unit :=
  atomically fun s =>
    match s.lifecycle with
    | .running => .ok ((), { s with lifecycle := .shuttingDown, shutdownRequested := true })
    | .uninitialized | .stopped => .error .alreadyShutdown
    | .initializing | .shuttingDown => .error .invalidStateTransition
    | .failed => .error (.withMessage .invalidStateTransition "cannot shutdown failed engine")

def shutdown : Op EngineState EngineError Unit :=
  atomically fun s =>
    match s.lifecycle with
    | .uninitialized | .stopped => .error .alreadyShutdown
    | .initializing => .error .invalidStateTransition
    | .running | .shuttingDown | .failed => .ok ((), ⟨false, true, .stopped⟩)

def requireRunning (s : EngineState) : EngineResult Unit :=
  if s.initialized then
    match s.lifecycle with
    | .running => .ok ()
    | .shuttingDown => .error .shutdownInProgress
    | .stopped | .uninitialized => .error .notInitialized
    | .initializing => .error .invalidStateTransition
    | .failed => .error (.withMessage .internalError "engine is in failed state")
  else .error .notInitialized

end EngineState

end NetworkEngine
