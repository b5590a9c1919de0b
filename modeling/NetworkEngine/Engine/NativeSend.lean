import NetworkEngine.Engine.Packets
import NetworkEngine.Lib.Logged

/-!
# NativeSend — the native calls of a reinjection

`actions::reinject` and `windivert_reinject` with the native calls that they make.  The checksum
helper gets a copy of the packet and a copy of the address and may write to both; what it leaves in
them is sent.
-/

namespace NetworkEngine

open Rust

/-! ## 1. Recording the calls -/

/-- What `WinDivertHelperCalcChecksums` leaves in its two buffers. -/
abbrev ChecksumHelper := Bytes → WinDivertAddress → Bytes × WinDivertAddress

/-- A native call with what it is given. -/
inductive NativeCall where
  | calcChecksums (packet : Bytes) (address : WinDivertAddress)
  | send (packet : Bytes) (address : WinDivertAddress)
  deriving DecidableEq

def NativeCall.address : NativeCall → WinDivertAddress
  | calcChecksums _ address | send _ address => address

namespace WinDivertAddress

/-- `IPChecksum`, `TCPChecksum` and `UDPChecksum`. -/
def checksumFlags : UInt32 := 0xe00000

/-- `address'` is `address` up to the checksum flags. -/
def SameButChecksums (address address' : WinDivertAddress) : Prop :=
  address' = { address with flagsRaw := address'.flagsRaw } ∧
    address'.flagsRaw &&& ~~~checksumFlags = address.flagsRaw &&& ~~~checksumFlags

theorem SameButChecksums.refl (address : WinDivertAddress) : SameButChecksums address address :=
  ⟨rfl, rfl⟩

end WinDivertAddress

variable (helper : ChecksumHelper) (n : ReinjectOutcomes) (data : Bytes)

namespace WinDivertBackend

variable {σ : Type} (address : WinDivertAddress) (b : WinDivertBackend)

/-- `reinject`, with its native calls. -/
def reinjectTraced : Op (Logged σ NativeCall) WinDivertError Unit := do
  let _ ← ofResult b.requireOpen
  if data.isEmpty then throw .invalidOperation
  if maxPacketSize < data.len then throw .packetTooLarge
  write (.calcChecksums data address)
  if !n.calcChecksums then throw .invalidPacket
  write (.send (helper data address).1 (helper data address).2)
  -- The helper has no way to change the length of its buffer.
  match n.send with
  | none => throw .sendFailed
  | some sendLen => if sendLen ≠ data.len then throw .sendFailed

def reinjectWithContextTraced (context : Bytes) : Op (Logged σ NativeCall) WinDivertError Unit :=
  match WinDivertAddress.fromBytes context with
  | none => throw .invalidOperation
  | some address => b.reinjectTraced helper n data address

/-- Without its log, the traced reinjection is the reinjection. -/
theorem reinjectTraced_erases :
    Erases (b.reinjectTraced helper n data address : Op (Logged σ NativeCall) _ _)
      (ofResult (b.reinject n data address)) := by
  apply Erases.bind_ofResult
  intro _
  apply Erases.ite_ofResult (.throw_bind _)
  apply Erases.ite_ofResult (.throw_bind _)
  apply Erases.write_bind
  apply Erases.ite_ofResult (.throw_bind _)
  apply Erases.write_bind
  cases n.send with
  | none => exact .throw_ofResult _
  | some sendLen => exact .ite_ofResult (.throw_ofResult _) (.pure_ofResult _)

theorem reinjectWithContextTraced_erases (context : Bytes) :
    Erases (b.reinjectWithContextTraced helper n data context : Op (Logged σ NativeCall) _ _)
      (ofResult (b.reinjectWithContext n data context)) := by
  unfold reinjectWithContextTraced reinjectWithContext
  cases WinDivertAddress.fromBytes context with
  | none => exact .throw_ofResult _
  | some address => exact b.reinjectTraced_erases helper n data address

/-- The call is given the packet and its address, or what the helper makes of them. -/
def Hands (call : NativeCall) : Prop :=
  call = .calcChecksums data address ∨
    call = .send (helper data address).1 (helper data address).2

theorem reinjectTraced_writes :
    Writes (Hands helper data address)
      (b.reinjectTraced helper n data address : Op (Logged σ NativeCall) _ _) := by
  apply Keeps.bind Keeps.ofResult
  intro _
  apply Keeps.ite (Writes.throw_bind _)
  apply Keeps.ite (Writes.throw_bind _)
  apply Keeps.bind (Writes.write (.inl rfl))
  intro _
  apply Keeps.ite (Writes.throw_bind _)
  apply Keeps.bind (Writes.write (.inr rfl))
  intro _
  cases n.send with
  | none => exact Keeps.throw
  | some sendLen => exact Keeps.ite Keeps.throw Keeps.pure

theorem reinjectWithContextTraced_writes {context : Bytes}
    (hcontext : WinDivertAddress.fromBytes context = some address) :
    Writes (Hands helper data address)
      (b.reinjectWithContextTraced helper n data context : Op (Logged σ NativeCall) _ _) := by
  rw [reinjectWithContextTraced, hcontext]
  exact b.reinjectTraced_writes helper n data address

end WinDivertBackend

namespace EngineRuntime

open WinDivertBackend

/-- `windivert_reinject`, with its native calls. -/
def windivertReinjectTraced (nativeContext : Bytes) :
    Op (Logged EngineRuntime NativeCall) EngineError Unit := do
  onObject requireRunning
  let e ← onObject getState
  if data.isEmpty then throw .invalidArgument
  else match e.activeReinjectionBackend with
  | none =>
    throw (.withMessage .capabilityUnavailable "no active reinjection backend is selected")
  | some backendName => do
    let supported ← ofResult (e.backendManager.supports backendName .reinjection)
    if !supported then
      throw (.withMessage .capabilityUnavailable
        ("active reinjection backend '" ++ backendName ++ "' does not provide reinjection"))
    else if backendName ≠ "windivert" then
      throw (.withMessage .capabilityUnavailable
        ("active reinjection backend '" ++ backendName ++ "' has no Engine action executor"))
    else do
      let backend ← onObject (actionBackend n)
      mapErr reinjectionError (backend.reinjectWithContextTraced helper n data nativeContext)

theorem windivertReinjectTraced_erases (nativeContext : Bytes) :
    Erases (windivertReinjectTraced helper n data nativeContext)
      (windivertReinject n data nativeContext) := by
  apply Erases.bind (.onObject _)
  intro _
  apply Erases.bind (.onObject _)
  intro e
  apply Erases.ite (.throw _)
  cases e.activeReinjectionBackend with
  | none => exact .throw _
  | some backendName =>
    apply Erases.bind (.ofResult _)
    intro supported
    apply Erases.ite (.throw _)
    apply Erases.ite (.throw _)
    apply Erases.bind (.onObject _)
    intro backend
    exact (backend.reinjectWithContextTraced_erases helper n data nativeContext).mapErr

theorem windivertReinjectTraced_writes {address : WinDivertAddress} {nativeContext : Bytes}
    (hcontext : WinDivertAddress.fromBytes nativeContext = some address) :
    Writes (Hands helper data address) (windivertReinjectTraced helper n data nativeContext) := by
  apply Keeps.bind (Writes.onObject _)
  intro _
  apply Keeps.bind (Writes.onObject _)
  intro e
  apply Keeps.ite Keeps.throw
  cases e.activeReinjectionBackend with
  | none => exact Keeps.throw
  | some backendName =>
    apply Keeps.bind Keeps.ofResult
    intro supported
    apply Keeps.ite Keeps.throw
    apply Keeps.ite Keeps.throw
    apply Keeps.bind (Writes.onObject _)
    intro backend
    exact (backend.reinjectWithContextTraced_writes helper n data address hcontext).mapErr

end EngineRuntime

end NetworkEngine
