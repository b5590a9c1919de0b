import NetworkEngine.Backend.Native
import NetworkEngine.Lib.Slot

/-!
# NativeHandles — what becomes of the native handles

`backend_windivert::handle`, `backend_wfp::engine` and `backend_wfp::filter`: three objects that keep
one native handle each.  The operations record the native calls that hand out a handle or close one.
Each of the three takes the handle out of its slot before it knows whether the close succeeds.
-/

namespace NetworkEngine

open Rust Slot

/-! ## 1. Recording native calls -/

/-- An object next to the native calls made so far. -/
abbrev Traced (σ : Type) := σ × List (Event Nat)

namespace Traced

variable {σ ε : Type}

def object : Op (Traced σ) ε σ := do return (← getState).1

def update (f : σ → σ) : Op (Traced σ) ε Unit := modifyState fun t => (f t.1, t.2)

/-- A native call that hands out a handle or is asked to close one. -/
def call (event : Event Nat) : Op (Traced σ) ε Unit := modifyState fun t => (t.1, t.2 ++ [event])

section Exec

variable (t : Traced σ)

@[simp] theorem exec_object : exec (object : Op (Traced σ) ε σ) t = (.ok t.1, t) := rfl

@[simp] theorem exec_update (f : σ → σ) :
    exec (update f : Op (Traced σ) ε Unit) t = (.ok (), (f t.1, t.2)) := rfl

@[simp] theorem exec_call (event : Event Nat) :
    exec (call event : Op (Traced σ) ε Unit) t = (.ok (), (t.1, t.2 ++ [event])) := rfl

end Exec

/-- The object that an operation leaves, and the native calls it made. -/
def calls (x : Op (Traced σ) ε Unit) (s : σ) : σ × List (Event Nat) := (exec x (s, [])).2

end Traced

/-! ## 2. `WinDivertHandle` -/

/-- Without the layer, the priority and the two flags, which only the native call looks at. -/
structure WinDivertConfig where
  filter : String
  deriving DecidableEq, Repr

structure WinDivertHandle where
  config : WinDivertConfig
  state : WinDivertHandleState
  native : Option Nat
  deriving DecidableEq, Repr

namespace WinDivertHandle

open Traced

def new (config : WinDivertConfig) : WinDivertHandle := ⟨config, .closed, none⟩

/-- `WinDivertHandle::open`; `opened` is what `WinDivertOpen` answers, `none` for a null or invalid
handle. -/
def openHandle (opened : Option Nat) : Op (Traced WinDivertHandle) WinDivertError Unit := do
  let h ← object
  if !h.state.canOpen then throw .invalidOperation
  update fun h => { h with state := .opening }
  -- `CString::new` refuses a NUL in the filter; the state stays `Opening`.
  if '\x00' ∈ h.config.filter.toList then throw .filterFailed
  match opened with
  | none => do
    update fun h => { h with state := .failed }
    throw .openFailed
  | some handle => do
    call (.opened handle)
    update fun h => { h with native := some handle, state := .open }

/-- `WinDivertHandle::close`; `closed` is whether `WinDivertClose` succeeds. -/
def close (closed : Bool) : Op (Traced WinDivertHandle) WinDivertError Unit := do
  let h ← object
  if h.state = .closed then return ()
  if !h.state.canClose then throw .invalidOperation
  update fun h => { h with state := .closing, native := none }
  match h.native with
  | some handle => do
    call (.closed handle closed)
    if !closed then
      update fun h => { h with state := .failed }
      throw .closeFailed
  | none => pure ()
  update fun h => { h with state := .closed }

def machine : Machine WinDivertHandle (Option Nat) Bool Nat where
  slot := native
  opens h opened := calls (openHandle opened) h
  closes h closed := calls (close closed) h

/-- Only an open handle is stored. -/
def Inv (h : WinDivertHandle) : Prop := h.native.isSome = true → h.state = .open

theorem native_of_canOpen {h : WinDivertHandle} (hinv : h.Inv) (hopen : h.state.canOpen = true) :
    h.native = none := by
  rw [← Option.not_isSome_iff_eq_none]
  intro hsome
  rw [hinv hsome] at hopen
  nomatch hopen

theorem inv_of_none {h : WinDivertHandle} (hnone : h.native = none) : h.Inv := by
  intro hsome
  rw [hnone] at hsome
  nomatch hsome

theorem opens_move (h : WinDivertHandle) (opened : Option Nat) (hinv : h.Inv) :
    Inv (calls (openHandle opened) h).1 ∧
      OpenMove h.native (calls (openHandle opened) h).2
        (calls (openHandle opened) h).1.native := by
  unfold calls openHandle
  by_cases hopen : h.state.canOpen = true
  · have hnone := native_of_canOpen hinv hopen
    by_cases hfilter : '\x00' ∈ h.config.filter.toList
    · simp only [exec_bind, exec_object, hopen, hfilter]
      exact ⟨inv_of_none hnone, .refused _⟩
    · cases opened with
      | none =>
        simp only [exec_bind, exec_object, hopen, hfilter]
        exact ⟨inv_of_none hnone, .refused _⟩
      | some handle =>
        simp only [exec_bind, exec_object, hopen, hfilter, hnone]
        exact ⟨fun _ => rfl, .stored handle⟩
  · simp only [exec_bind, exec_object, hopen]
    exact ⟨hinv, .refused _⟩

theorem closes_move (h : WinDivertHandle) (closed : Bool) (hinv : h.Inv) :
    Inv (calls (close closed) h).1 ∧
      CloseMove h.native (calls (close closed) h).2 (calls (close closed) h).1.native := by
  unfold calls close
  by_cases hclosed : h.state = .closed
  · simp only [exec_bind, exec_object, hclosed]
    exact ⟨hinv, .nothing _⟩
  by_cases hclose : h.state.canClose = true
  · cases hnative : h.native with
    | none =>
      simp only [exec_bind, exec_object, hclosed, hclose, hnative]
      exact ⟨inv_of_none rfl, .nothing _⟩
    | some handle =>
      simp only [exec_bind, exec_object, hclosed, hclose, hnative]
      cases closed <;> exact ⟨inv_of_none rfl, .taken handle _⟩
  · simp only [exec_bind, exec_object, hclosed, hclose]
    exact ⟨hinv, .nothing _⟩

theorem disciplined : machine.Disciplined Inv := ⟨opens_move, closes_move⟩

/-- The handle as the backend has it. -/
def backend (h : WinDivertHandle) : WinDivertBackend := ⟨h.state, h.native⟩

/-- Without its log, and with a filter without NUL, the traced open is the start of the backend. -/
theorem openHandle_untraced (h : WinDivertHandle) (opened : Option Nat)
    (hfilter : '\x00' ∉ h.config.filter.toList) :
    ((exec (openHandle opened) (h, [])).1, (calls (openHandle opened) h).1.backend) =
      exec (WinDivertBackend.start opened) h.backend := by
  unfold calls openHandle WinDivertBackend.start
  by_cases hopen : h.state.canOpen = true
  · cases opened <;> simp [exec_bind, hopen, hfilter, backend]
  · simp [exec_bind, hopen, backend]

theorem close_untraced (h : WinDivertHandle) (closed : Bool) :
    ((exec (close closed) (h, [])).1, (calls (close closed) h).1.backend) =
      exec (WinDivertBackend.stop closed) h.backend := by
  unfold calls close WinDivertBackend.stop
  by_cases hclosed : h.state = .closed
  · simp [exec_bind, hclosed, backend]
  by_cases hclose : h.state.canClose = true
  · cases hnative : h.native <;> cases closed <;>
      simp [exec_bind, hclosed, hclose, hnative, backend]
  · simp [exec_bind, hclosed, hclose, backend]

end WinDivertHandle

/-! ## 3. `WfpEngine` -/

/-- The answers to the native calls of an open: `open_native_engine`, `add_sublayer`, and
`close_native_engine` when the sublayer could not be added. -/
structure WfpOpenAnswers where
  opened : EngineResult Nat
  addSublayer : EngineResult Unit
  closed : EngineResult Unit
  deriving DecidableEq

/-- The answers to the native calls of a close: `remove_sublayer` and `close_native_engine`. -/
structure WfpCloseAnswers where
  removeSublayer : EngineResult Unit
  closed : EngineResult Unit
  deriving DecidableEq

namespace WfpEngine

open Traced

/-- `WfpEngine::open`, with its native calls. -/
def openTraced (n : WfpOpenAnswers) : Op (Traced WfpEngine) EngineError Unit := do
  let w ← object
  if !w.state.canOpen then throw (.backend .backendAlreadyRunning "wfp" none)
  update fun w => { w with state := .opening }
  match n.opened with
  | .error e => do
    update fun _ => ⟨.failed, none, false⟩
    throw e
  | .ok handle => do
    call (.opened handle)
    update fun w => { w with nativeHandle := some handle }
    match n.addSublayer with
    | .error e => do
      -- The result of the close is dropped.
      call (.closed handle n.closed.isOk)
      update fun w => { w with nativeHandle := none, state := .failed }
      throw (.withMessage .backendInitializationFailed ("WFP sublayer install failed: " ++ e.text))
    | .ok () => update fun w => { w with sublayerInstalled := true, state := .open }

/-- `WfpEngine::close`, with its native calls. -/
def closeTraced (n : WfpCloseAnswers) : Op (Traced WfpEngine) EngineError Unit := do
  let w ← object
  if w.state = .closed then return ()
  if !w.state.canClose then throw (.backend .invalidStateTransition "wfp" none)
  update fun w => { w with state := .closing, nativeHandle := none, sublayerInstalled := false }
  match w.nativeHandle with
  | none => pure ()
  | some handle => do
    -- A sublayer that could not be removed does not keep the handle from being closed.
    call (.closed handle n.closed.isOk)
    match w.closeError n.removeSublayer n.closed with
    | some e => do
      update fun w => { w with state := .failed }
      throw e
    | none => pure ()
  update fun w => { w with state := .closed }

def machine : Machine WfpEngine WfpOpenAnswers WfpCloseAnswers Nat where
  slot := nativeHandle
  opens w n := calls (openTraced n) w
  closes w n := calls (closeTraced n) w

/-- A handle is stored only while the engine is open or degraded. -/
def HandleInv (w : WfpEngine) : Prop := w.nativeHandle.isSome = true → w.state.canOpen = false

theorem nativeHandle_of_canOpen {w : WfpEngine} (hinv : w.HandleInv)
    (hopen : w.state.canOpen = true) : w.nativeHandle = none := by
  rw [← Option.not_isSome_iff_eq_none]
  intro hsome
  rw [hinv hsome] at hopen
  nomatch hopen

theorem handleInv_of_none {w : WfpEngine} (hnone : w.nativeHandle = none) : w.HandleInv := by
  intro hsome
  rw [hnone] at hsome
  nomatch hsome

theorem opens_move (w : WfpEngine) (n : WfpOpenAnswers) (hinv : w.HandleInv) :
    HandleInv (calls (openTraced n) w).1 ∧
      OpenMove w.nativeHandle (calls (openTraced n) w).2
        (calls (openTraced n) w).1.nativeHandle := by
  unfold calls openTraced
  by_cases hopen : w.state.canOpen = true
  · have hnone := nativeHandle_of_canOpen hinv hopen
    cases hopened : n.opened with
    | error e =>
      simp only [exec_bind, exec_object, hopen, hnone]
      exact ⟨handleInv_of_none rfl, .refused _⟩
    | ok handle =>
      cases hadd : n.addSublayer with
      | error e =>
        simp only [exec_bind, exec_object, hopen, hnone]
        exact ⟨handleInv_of_none rfl, .abandoned handle _⟩
      | ok u =>
        simp only [exec_bind, exec_object, hopen, hnone]
        exact ⟨fun _ => rfl, .stored handle⟩
  · simp only [exec_bind, exec_object, hopen]
    exact ⟨hinv, .refused _⟩

theorem closes_move (w : WfpEngine) (n : WfpCloseAnswers) (hinv : w.HandleInv) :
    HandleInv (calls (closeTraced n) w).1 ∧
      CloseMove w.nativeHandle (calls (closeTraced n) w).2
        (calls (closeTraced n) w).1.nativeHandle := by
  unfold calls closeTraced
  by_cases hclosed : w.state = .closed
  · simp only [exec_bind, exec_object, hclosed]
    exact ⟨hinv, .nothing _⟩
  by_cases hclose : w.state.canClose = true
  · cases hnative : w.nativeHandle with
    | none =>
      simp only [exec_bind, exec_object, hclosed, hclose, hnative]
      exact ⟨handleInv_of_none rfl, .nothing _⟩
    | some handle =>
      simp only [exec_bind, exec_object, hclosed, hclose, hnative]
      cases w.closeError n.removeSublayer n.closed <;>
        exact ⟨handleInv_of_none rfl, .taken handle _⟩
  · simp only [exec_bind, exec_object, hclosed, hclose]
    exact ⟨hinv, .nothing _⟩

theorem disciplined : machine.Disciplined HandleInv := ⟨opens_move, closes_move⟩

/-- Without its log the traced open is the open of the engine. -/
theorem openTraced_untraced (w : WfpEngine) (n : WfpOpenAnswers) :
    ((exec (openTraced n) (w, [])).1, (calls (openTraced n) w).1) =
      exec (openEngine n.opened n.addSublayer) w := by
  unfold calls openTraced openEngine
  by_cases hopen : w.state.canOpen = true
  · cases hopened : n.opened with
    | error e => simp [exec_bind, hopen]
    | ok handle => cases hadd : n.addSublayer <;> simp [exec_bind, hopen]
  · simp [exec_bind, hopen]

theorem closeTraced_untraced (w : WfpEngine) (n : WfpCloseAnswers) :
    ((exec (closeTraced n) (w, [])).1, (calls (closeTraced n) w).1) =
      exec (close n.removeSublayer n.closed) w := by
  unfold calls closeTraced close
  by_cases hclosed : w.state = .closed
  · simp [exec_bind, hclosed]
  by_cases hclose : w.state.canClose = true
  · cases hnative : w.nativeHandle with
    | none => simp [exec_bind, hclosed, hclose, hnative, closeError]
    | some handle =>
      cases herror : w.closeError n.removeSublayer n.closed <;>
        simp [exec_bind, hclosed, hclose, hnative, herror]
  · simp [exec_bind, hclosed, hclose]

end WfpEngine

/-! ## 4. `WfpFilterTable` -/

/-- The answers to the native calls of `initialize`: the handle of `FwpmEngineOpen0` or its status,
`add_sublayer`, and whether `FwpmEngineClose0` succeeds after a sublayer that could not be added. -/
structure WfpInitializeAnswers where
  opened : Except Int Nat
  addSublayer : EngineResult Unit
  closed : Bool
  deriving DecidableEq

/-- The filters by their ids. -/
structure WfpFilterTable where
  filters : List UInt64
  engineHandle : Option Nat
  deriving DecidableEq, Repr

namespace WfpFilterTable

open Traced

def new : WfpFilterTable := ⟨[], none⟩

/-- `WfpFilterTable::initialize`. -/
def initializeTable (n : WfpInitializeAnswers) : Op (Traced WfpFilterTable) EngineError Unit := do
  let t ← object
  if t.engineHandle.isSome then throw .alreadyInitialized
  match n.opened with
  | .error status => throw (.backend .backendInitializationFailed "wfp" (some status))
  | .ok handle => do
    call (.opened handle)
    match n.addSublayer with
    | .error e => do
      call (.closed handle n.closed)
      throw e
    | .ok () => update fun t => { t with engineHandle := some handle }

/-- `WfpFilterTable::shutdown`; `status` is what `FwpmEngineClose0` returns. -/
def shutdown (status : Int) : Op (Traced WfpFilterTable) EngineError Unit := do
  -- `clear` removes every filter and drops what the native removals answer.
  update fun t => { t with filters := [] }
  let t ← object
  match t.engineHandle with
  | none => pure ()
  | some handle => do
    update fun t => { t with engineHandle := none }
    call (.closed handle (status = 0))
    if status ≠ 0 then throw (.backend .backendShutdownFailed "wfp" (some status))

def machine : Machine WfpFilterTable WfpInitializeAnswers Int Nat where
  slot := engineHandle
  opens t n := calls (initializeTable n) t
  closes t status := calls (shutdown status) t

theorem opens_move (t : WfpFilterTable) (n : WfpInitializeAnswers) :
    OpenMove t.engineHandle (calls (initializeTable n) t).2
      (calls (initializeTable n) t).1.engineHandle := by
  obtain ⟨filters, engineHandle⟩ := t
  obtain ⟨opened, addSublayer, closed⟩ := n
  cases engineHandle with
  | some handle => exact .refused _
  | none =>
    cases opened with
    | error status => exact .refused _
    | ok handle =>
      cases addSublayer with
      | error e => exact .abandoned handle closed
      | ok u => exact .stored handle

theorem closes_move (t : WfpFilterTable) (status : Int) :
    CloseMove t.engineHandle (calls (shutdown status) t).2
      (calls (shutdown status) t).1.engineHandle := by
  obtain ⟨filters, engineHandle⟩ := t
  cases engineHandle with
  | none => exact .nothing _
  | some handle =>
    have hcalls : calls (shutdown status) ⟨filters, some handle⟩ =
        (⟨[], none⟩, [.closed handle (status = 0)]) := by
      by_cases hstatus : status = 0 <;> simp [calls, shutdown, exec_bind, hstatus]
    rw [hcalls]
    exact .taken handle _

theorem disciplined : machine.Disciplined fun _ => True :=
  ⟨fun t n _ => ⟨trivial, opens_move t n⟩, fun t status _ => ⟨trivial, closes_move t status⟩⟩

end WfpFilterTable

/-! ## 5. The three objects -/

/-- In every run each of the three objects forgets no handle exactly when every native close that
the run makes succeeds. -/
theorem nativeHandles_remembered_iff (config : WinDivertConfig)
    (handleCalls : List (Call (Option Nat) Bool))
    (engineCalls : List (Call WfpOpenAnswers WfpCloseAnswers))
    (tableCalls : List (Call WfpInitializeAnswers Int)) :
    (WinDivertHandle.machine.Remembers (.new config) handleCalls ↔
        WinDivertHandle.machine.AllClose (.new config) handleCalls) ∧
      (WfpEngine.machine.Remembers .new engineCalls ↔
        WfpEngine.machine.AllClose .new engineCalls) ∧
      (WfpFilterTable.machine.Remembers .new tableCalls ↔
        WfpFilterTable.machine.AllClose .new tableCalls) := by
  refine ⟨?_, ?_, ?_⟩
  · exact WinDivertHandle.disciplined.remembers_iff (WinDivertHandle.inv_of_none rfl) rfl _
  · exact WfpEngine.disciplined.remembers_iff (WfpEngine.handleInv_of_none rfl) rfl _
  · exact WfpFilterTable.disciplined.remembers_iff trivial rfl _

/-- A WinDivert handle is opened and its close fails: the handle is in no slot any more, the next
close makes no native call and returns `Ok`. -/
theorem failed_close_forgotten :
    let h := WinDivertHandle.new ⟨"true"⟩
    let opened := (WinDivertHandle.machine.opens h (some 7)).1
    let failed := (WinDivertHandle.machine.closes opened false).1
    (exec (WinDivertHandle.close false) (opened, [])).1 = .error .closeFailed ∧
      failed.native = none ∧
      exec (WinDivertHandle.close true) (failed, []) = (.ok (), (h, [])) ∧
      ¬ WinDivertHandle.machine.Remembers h [.opening (some 7), .closing false] := by
  refine ⟨by decide, by decide, by decide, fun h => ?_⟩
  have hbalance := h.accounted [.opening (some 7), .closing false] [] rfl 7
  revert hbalance
  decide

end NetworkEngine
