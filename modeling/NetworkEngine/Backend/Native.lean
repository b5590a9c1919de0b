import NetworkEngine.Core.Error
import NetworkEngine.Lib.Op

/-!
# Native — the state machines of the native backends

`backend_npcap`, `backend_windivert::handle`, `backend_wfp::engine`, `backend_iphelper` and
`backend_etw`: what `start` and `stop` (or `open` and `close`) of each keep about its native
resources.  What a native call answers is an input, collected in `NativeOutcomes`.
-/

namespace NetworkEngine

open Rust

/-- The answers of the native calls that one engine operation makes. -/
structure NativeOutcomes where
  /-- `WinDivertOpen`: the handle, unless it is null or invalid. -/
  windivertOpen : Option Nat
  /-- `WinDivertClose` of the capture backend's handle. -/
  windivertClose : Bool
  /-- `WinDivertClose` of the action handle. -/
  actionClose : Bool
  /-- `open_native_engine`. -/
  wfpOpen : EngineResult Nat
  /-- `add_sublayer`. -/
  wfpAddSublayer : EngineResult Unit
  /-- `remove_sublayer`. -/
  wfpRemoveSublayer : EngineResult Unit
  /-- `close_native_engine`. -/
  wfpClose : EngineResult Unit
  /-- `IpHelperBackend::refresh_all`. -/
  iphelperRefresh : Bool
  /-- `EventRegister`: the handle, unless the registration failed. -/
  etwRegister : Option Nat

/-- Every native call that stops or closes something succeeds. -/
def NativeOutcomes.StopsSucceed (n : NativeOutcomes) : Prop :=
  n.windivertClose = true ∧ n.actionClose = true ∧ n.wfpRemoveSublayer = .ok () ∧
    n.wfpClose = .ok ()

/-! ## 1. Npcap -/

inductive NpcapBackendState where
  | disabled
  | starting
  | running
  | degraded
  | failed
  | stopping
  | stopped
  deriving DecidableEq, Repr

inductive NpcapError where
  | alreadyRunning
  | notRunning
  deriving DecidableEq, Repr

def NpcapError.debug : NpcapError → String
  | alreadyRunning => "AlreadyRunning"
  | notRunning => "NotRunning"

/-- `NpcapBackend`; the engine opens no capture session on it. -/
structure NpcapBackend where
  state : NpcapBackendState
  deriving DecidableEq, Repr

namespace NpcapBackend

def new : NpcapBackend := ⟨.stopped⟩

def start : Op NpcapBackend NpcapError Unit :=
  atomically fun b => if b.state = .running then .error .alreadyRunning else .ok ((), ⟨.running⟩)

def stop : Op NpcapBackend NpcapError Unit :=
  atomically fun b =>
    if b.state ≠ .running ∧ b.state ≠ .degraded then .error .notRunning else .ok ((), ⟨.stopped⟩)

end NpcapBackend

/-! ## 2. WinDivert -/

inductive WinDivertHandleState where
  | closed
  | opening
  | open
  | closing
  | failed
  deriving DecidableEq, Repr

namespace WinDivertHandleState

def canOpen : WinDivertHandleState → Bool
  | closed | failed => true
  | _ => false

def canClose : WinDivertHandleState → Bool
  | WinDivertHandleState.open | failed => true
  | _ => false

end WinDivertHandleState

inductive WinDivertError where
  | initFailed
  | openFailed
  | filterFailed
  | recvFailed
  | sendFailed
  | closeFailed
  | invalidOperation
  | queueError
  | invalidPacket
  | packetTooLarge
  | queueFull
  | queueEmpty
  deriving DecidableEq, Repr

def WinDivertError.debug : WinDivertError → String
  | initFailed => "InitFailed"
  | openFailed => "OpenFailed"
  | filterFailed => "FilterFailed"
  | recvFailed => "RecvFailed"
  | sendFailed => "SendFailed"
  | closeFailed => "CloseFailed"
  | invalidOperation => "InvalidOperation"
  | queueError => "QueueError"
  | invalidPacket => "InvalidPacket"
  | packetTooLarge => "PacketTooLarge"
  | queueFull => "QueueFull"
  | queueEmpty => "QueueEmpty"

/-- `WinDivertBackend`, which is its handle.  The filter is always `"true"`, so no handle is
refused for its filter. -/
structure WinDivertBackend where
  state : WinDivertHandleState
  native : Option Nat
  deriving DecidableEq, Repr

namespace WinDivertBackend

def new : WinDivertBackend := ⟨.closed, none⟩

/-- `WinDivertHandle::open`. -/
def start (opened : Option Nat) : Op WinDivertBackend WinDivertError Unit := do
  let b ← getState
  if b.state.canOpen then
    match opened with
    | none => do
      modifyState fun b => { b with state := .failed }
      throw .openFailed
    | some handle => modifyState fun _ => ⟨.open, some handle⟩
  else throw .invalidOperation

/-- `WinDivertHandle::close`. -/
def stop (closed : Bool) : Op WinDivertBackend WinDivertError Unit := do
  let b ← getState
  if b.state = .closed then return ()
  if b.state.canClose then
    if b.native.isSome && !closed then
      modifyState fun _ => ⟨.failed, none⟩
      throw .closeFailed
    else modifyState fun _ => ⟨.closed, none⟩
  else throw .invalidOperation

end WinDivertBackend

/-! ## 3. Windows Filtering Platform -/

inductive WfpEngineState where
  | closed
  | opening
  | open
  | degraded
  | closing
  | failed
  deriving DecidableEq, Repr

namespace WfpEngineState

def canOpen : WfpEngineState → Bool
  | closed | failed => true
  | _ => false

def canClose : WfpEngineState → Bool
  | WfpEngineState.open | degraded | failed => true
  | _ => false

end WfpEngineState

structure WfpEngine where
  state : WfpEngineState
  nativeHandle : Option Nat
  sublayerInstalled : Bool
  deriving DecidableEq, Repr

namespace WfpEngine

def new : WfpEngine := ⟨.closed, none, false⟩

/-- `WfpEngine::open`.  The transitions it makes are all in the state's matrix. -/
def openEngine (opened : EngineResult Nat) (addSublayer : EngineResult Unit) :
    Op WfpEngine EngineError Unit := do
  let w ← getState
  if w.state.canOpen then
    match opened with
    | .error e => do
      modifyState fun _ => ⟨.failed, none, false⟩
      throw e
    | .ok handle =>
      match addSublayer with
      | .error e => do
        modifyState fun w => { w with state := .failed, nativeHandle := none }
        throw (.withMessage .backendInitializationFailed ("WFP sublayer install failed: " ++ e.text))
      | .ok () => modifyState fun _ => ⟨.open, some handle, true⟩
  else throw (.backend .backendAlreadyRunning "wfp" none)

/-- The first error of removing the sublayer and closing the engine handle. -/
def closeError (w : WfpEngine) (removeSublayer closed : EngineResult Unit) : Option EngineError :=
  if w.nativeHandle.isSome then
    match w.sublayerInstalled, removeSublayer, closed with
    | true, .error e, _ =>
      some (.withMessage .backendShutdownFailed ("WFP sublayer removal failed: " ++ e.text))
    | _, _, .error e => some e
    | _, _, .ok () => none
  else none

/-- `WfpEngine::close`. -/
def close (removeSublayer closed : EngineResult Unit) : Op WfpEngine EngineError Unit := do
  let w ← getState
  if w.state = .closed then return ()
  if w.state.canClose then
    match w.closeError removeSublayer closed with
    | some e => do
      modifyState fun _ => ⟨.failed, none, false⟩
      throw e
    | none => modifyState fun _ => ⟨.closed, none, false⟩
  else throw (.backend .invalidStateTransition "wfp" none)

end WfpEngine

/-! ## 4. IP Helper -/

inductive IpHelperError where
  | notRunning
  | alreadyRunning
  | queryFailed
  deriving DecidableEq, Repr

def IpHelperError.debug : IpHelperError → String
  | notRunning => "NotRunning"
  | alreadyRunning => "AlreadyRunning"
  | queryFailed => "QueryFailed"

/-- `IpHelperBackend` without the tables it refreshes. -/
structure IpHelperBackend where
  running : Bool
  deriving DecidableEq, Repr

namespace IpHelperBackend

def new : IpHelperBackend := ⟨false⟩

def start (refreshed : Bool) : Op IpHelperBackend IpHelperError Unit :=
  atomically fun b =>
    if b.running then .error .alreadyRunning
    else if refreshed then .ok ((), ⟨true⟩)
    else .error .queryFailed

def stop : Op IpHelperBackend IpHelperError Unit :=
  atomically fun b => if b.running then .ok ((), ⟨false⟩) else .error .notRunning

end IpHelperBackend

/-! ## 5. Event tracing -/

inductive EtwError where
  | alreadyRunning
  | notRunning
  | registrationFailed
  deriving DecidableEq, Repr

def EtwError.debug : EtwError → String
  | alreadyRunning => "AlreadyRunning"
  | notRunning => "NotRunning"
  | registrationFailed => "RegistrationFailed"

/-- `EtwBackend` and its provider, whose name is `"network-engine"`. -/
structure EtwBackend where
  running : Bool
  providerRunning : Bool
  handle : Option Nat
  deriving DecidableEq, Repr

namespace EtwBackend

def new : EtwBackend := ⟨false, false, none⟩

def start (registered : Option Nat) : Op EtwBackend EtwError Unit :=
  atomically fun b =>
    if b.running then .ok ((), b)
    else if b.providerRunning then .error .alreadyRunning
    else match registered with
      | none => .error .registrationFailed
      | some handle => .ok ((), ⟨true, true, some handle⟩)

/-- The status of `EventUnregister` is not looked at. -/
def stop : Op EtwBackend EtwError Unit :=
  atomically fun b =>
    if b.running then
      if b.providerRunning then .ok ((), ⟨false, false, none⟩) else .error .notRunning
    else .ok ((), b)

end EtwBackend

end NetworkEngine
