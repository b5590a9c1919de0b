import NetworkEngine.Backend.NpcapReceipts
import NetworkEngine.Capture.CaptureRuntime

/-!
# NpcapRuntime — a capture runtime over Npcap

`ffi::backend_runtime`, for a runtime over Npcap.  `start_npcap` makes a backend with one adapter and
one session; `poll` publishes what the session receives, and the packets are not intercepted, so that
no decision can be executed on them.
-/

namespace NetworkEngine.Npcap

open Rust Ledger Transition

/-- Its `{:?}`. -/
def NpcapError.debug : NpcapError → String
  | alreadyRunning => "AlreadyRunning"
  | notRunning => "NotRunning"
  | initializationFailed => "InitializationFailed"
  | deviceUnavailable => "DeviceUnavailable"
  | captureFailed => "CaptureFailed"
  | invalidCaptureId => "InvalidCaptureId"
  | observationCreationFailed => "ObservationCreationFailed"

/-! ## 1. The runtime -/

/-- `CaptureRuntime::Npcap`, with the native calls made so far. -/
structure Runtime where
  native : Logged NpcapBackend (Event Nat)
  captureId : Nat
  nextObservationId : UInt64

namespace Runtime

def startError (error : NpcapError) : EngineError :=
  .withMessage .backendStartFailed ("Npcap start failed: " ++ error.debug)

def stopError (error : NpcapError) : EngineError :=
  .withMessage .backendStopFailed ("Npcap stop failed: " ++ error.debug)

def captureError (error : NpcapError) : EngineError :=
  .withMessage .backendDegraded ("Npcap capture failed: " ++ error.debug)

def invalid (message : String) : EngineError := .withMessage .invalidArgument message

/-- An operation on a fallible value, and the error that takes its place. -/
def orElse {ε α : Type} (error : EngineError) (r : Except ε α) :
    Op (Logged NpcapBackend (Event Nat)) EngineError α :=
  mapErr (fun _ => error) (ofResult r)

/-- `let _ = ..`. -/
def ignored {ε α : Type} (x : Op (Logged NpcapBackend (Event Nat)) ε α) :
    Op (Logged NpcapBackend (Event Nat)) EngineError Unit := fun t => (.ok (), (exec x t).2)

/-- `start_npcap` on the backend that it makes. -/
def startBackend (interfaceIndex : UInt32) (deviceName : String) (answers : OpenAnswers) :
    Op (Logged NpcapBackend (Event Nat)) EngineError Nat := do
  mapErr startError NpcapBackend.start
  let adapter ← orElse (invalid "invalid Npcap adapter identity")
    ((AdapterInfo.new interfaceIndex deviceName).elim (.error ()) .ok)
  let b ← onObject getState
  let adapters ← orElse (invalid "failed to register Npcap adapter") (b.adapters.insert adapter)
  onObject (modifyState fun b => { b with adapters })
  let config ← orElse (invalid "invalid Npcap interface index")
    ((CaptureConfig.new interfaceIndex).elim (.error ()) .ok)
  let captureId ← mapErr captureError (NpcapBackend.createCapture config)
  match ← attempt (NpcapBackend.startCapture captureId answers) with
  | .error error => do
    ignored NpcapBackend.stop
    throw (captureError error)
  | .ok () => return captureId

/-- What `start_npcap` returns, and the native calls that have been made by then: a backend that is
not returned is dropped. -/
def startNpcap (interfaceIndex : UInt32) (deviceName : String) (answers : OpenAnswers) :
    EngineResult Runtime × List (Event Nat) :=
  if interfaceIndex = 0 ∨ (trim deviceName).isEmpty then
    (.error (invalid "Npcap requires a non-zero interface index and non-empty device name"), [])
  else
    match exec (startBackend interfaceIndex deviceName answers) (NpcapBackend.new, []) with
    | (.ok captureId, native) => (.ok ⟨native, captureId, 1⟩, native.2)
    | (.error error, native) => (.error error, NpcapBackend.drop native)

/-- The runtime and the bus, with what came in and what was published. -/
structure Shared where
  runtime : Runtime
  bus : PacketBus
  received : List CapturedPacket
  /-- The observations that the bus has accepted, with the number of packets before each. -/
  published : List (Nat × PacketObservation)

abbrev RuntimeOp (α : Type) := Op Shared EngineError α

def onNative {α : Type} (x : Op (Logged NpcapBackend (Event Nat)) EngineError α) : RuntimeOp α :=
  zoom (·.runtime.native) (fun s native => { s with runtime := { s.runtime with native } }) x

def onBus {α : Type} (x : BusOp α) : RuntimeOp α :=
  zoom (·.bus) (fun s bus => { s with bus }) x

def observe (observationId : ObservationId) (captured ingested : Timestamp)
    (packet : CapturedPacket) : PacketObservation :=
  NpcapBackend.observe observationId captured ingested (toString packet.interfaceIndex) packet

/-- The packet has come in, and the next id is used up, whether it is published or not. -/
def Shared.draw (packet : CapturedPacket) (s : Shared) : Shared :=
  { s with
    runtime := { s.runtime with
      nextObservationId := saturatingAdd64 s.runtime.nextObservationId 1 }
    received := s.received ++ [packet] }

/-- The part of `poll` that has a packet. -/
def publishPacket (packet : CapturedPacket) (captured ingested : Timestamp) : RuntimeOp Unit := do
  if packet.isEmpty then throw (invalid "Npcap returned an empty packet")
  let s ← getState
  modifyState (Shared.draw packet)
  let observation := observe s.runtime.nextObservationId captured ingested packet
  onBus (CaptureRuntime.publishEngineOwned observation)
  modifyState fun t => { t with published := t.published ++ [(s.received.length, observation)] }

def poll (answer : NextEx) (captured ingested : Timestamp) : RuntimeOp Unit := do
  let s ← getState
  match ← onNative (mapErr captureError (NpcapBackend.receivePacket s.runtime.captureId answer)) with
  | none => return ()
  | some packet => publishPacket packet captured ingested

def executeDecision (_ : ObservationId) (_ : PacketDecision) (_ : Bytes) : RuntimeOp Unit :=
  throw (.withMessage .actionNotSupported
    "selected capture backend does not support packet actions")

def stop : RuntimeOp Unit := do
  let s ← getState
  match s.runtime.native.1.state with
  | .running | .degraded => onNative (mapErr stopError NpcapBackend.stop)
  | _ => return ()

/-! ## 2. Runs -/

inductive Turn where
  | poll (answer : NextEx) (captured ingested : Timestamp)
  | executeDecision (observationId : ObservationId) (decision : PacketDecision) (rawPacket : Bytes)
  | stop
  /-- The other users of the bus. -/
  | onBus (change : PacketBus → PacketBus)

def step (s : Shared) : Turn → Shared
  | .poll answer captured ingested => (exec (poll answer captured ingested) s).2
  | .executeDecision observationId decision rawPacket =>
    (exec (executeDecision observationId decision rawPacket) s).2
  | .stop => (exec stop s).2
  | .onBus change => { s with bus := change s.bus }

/-- A runtime that has just been started, over a bus that may be in use. -/
def started (runtime : Runtime) (bus : PacketBus) : Shared := ⟨runtime, bus, [], []⟩

/-- The native calls made so far. -/
def Shared.calls (s : Shared) : List (Event Nat) := s.runtime.native.2

/-- What a runtime does with the handle that it was started with, and with what comes in on it. -/
structure Sound (handle : Nat) (s : Shared) : Prop where
  /-- The handle is used while it is open, and has been opened once, and no other. -/
  proper : Proper s.calls
  opened : openings s.calls = [handle]
  live : openAfter s.calls = [handle] ∨ openAfter s.calls = []
  /-- A stop succeeds, and from then on, whatever is called, nothing is open and every poll fails. -/
  stops : (exec stop s).1 = .ok () ∧ ∀ later,
    let t := run step (exec stop s).2 later
    openAfter t.calls = [] ∧ ∀ answer captured ingested,
      (exec (poll answer captured ingested) t).1 = .error (captureError .notRunning)
  /-- Dropping the runtime closes what is open. -/
  dropped : openAfter (NpcapBackend.drop s.runtime.native) = []
  /-- What is published is what came in, in that order, each packet once, by the number it came in
  with. -/
  published : ∀ entry ∈ s.published, ∃ packet, s.received[entry.1]? = some packet ∧
    entry.2.packet.rawBytes = packet.data ∧
      entry.2.observationId.toNat = min (entry.1 + 1) (2 ^ 64 - 1)
  order : (s.published.map Prod.fst).Pairwise (· < ·)
  /-- A poll succeeds when nothing came in, or when the bus takes what did. -/
  polls : ∀ answer captured ingested,
    (exec (poll answer captured ingested) s).1 = .ok () ↔
      match (exec (NpcapBackend.receivePacket s.runtime.captureId answer) s.runtime.native).1 with
      | .error _ => False
      | .ok none => True
      | .ok (some packet) => (exec (CaptureRuntime.publishEngineOwned
          (observe s.runtime.nextObservationId captured ingested packet)) s.bus).1 = .ok ()

/-! ## 3. Steps -/

structure Inv (handle : Nat) (s : Shared) : Prop where
  backend : NpcapBackend.World.Inv [] s.runtime.native
  opened : openings s.calls = [handle]
  captures : ∃ capture, s.runtime.native.1.captures = [capture] ∧
    (capture.handle = some handle ∨ capture.handle = none)
  captureId : s.runtime.captureId = 0
  state : s.runtime.native.1.state = .running ∨ s.runtime.native.1.state = .stopped ∧
    ∀ capture ∈ s.runtime.native.1.captures, capture.handle = none
  next : s.runtime.nextObservationId.toNat = min (s.received.length + 1) (2 ^ 64 - 1)
  published : ∀ entry ∈ s.published, ∃ packet, s.received[entry.1]? = some packet ∧
    entry.2.packet.rawBytes = packet.data ∧
      entry.2.observationId.toNat = min (entry.1 + 1) (2 ^ 64 - 1)
  order : (s.published.map Prod.fst).Pairwise (· < ·)

variable {handle : Nat} {s : Shared} {answer : NextEx} {captured ingested : Timestamp}

/-- A receive opens no handle, and keeps that of the session or gives it up. -/
theorem receivePacket_handle (answer : NextEx) (capture : CaptureSession) (calls : List (Event Nat)) :
    ((exec (CaptureSession.receivePacket answer) (capture, calls)).2.1.handle = capture.handle ∨
      (exec (CaptureSession.receivePacket answer) (capture, calls)).2.1.handle = none) ∧
      openings (exec (CaptureSession.receivePacket answer) (capture, calls)).2.2 =
        openings calls := by
  have hread : exec CaptureSession.session (capture, calls) = (.ok capture, (capture, calls)) := rfl
  by_cases hrunning : capture.state = .running
  · cases hhandle : capture.handle with
    | none =>
      have hrun : capture.isRunning = true := decide_eq_true hrunning
      unfold CaptureSession.receivePacket
      rw [exec_bind_ok hread, hrun, hhandle]
      exact ⟨.inl hhandle, rfl⟩
    | some handle =>
      rw [CaptureSession.exec_receivePacket hrunning hhandle]
      cases CaptureSession.deliver capture.config answer with
      | packet | invalid | timeout => exact ⟨.inl hhandle, openings_used calls handle⟩
      | failed => exact ⟨.inr rfl, (openings_closed _ handle).trans (openings_used calls handle)⟩
  · have hrun : capture.isRunning = false := decide_eq_false hrunning
    unfold CaptureSession.receivePacket
    rw [exec_bind_ok hread, hrun]
    exact ⟨.inl rfl, rfl⟩

/-- A receive of a backend with one session. -/
theorem receivePacket_one (answer : NextEx) {native : Logged NpcapBackend (Event Nat)}
    {capture : CaptureSession} (hcaptures : native.1.captures = [capture]) :
    ∃ capture' calls, (exec (NpcapBackend.receivePacket 0 answer) native).2 =
        ({ native.1 with captures := [capture'] }, calls) ∧
      (capture'.handle = capture.handle ∨ capture'.handle = none) ∧
      openings calls = openings native.2 := by
  have hread : exec NpcapBackend.backend native = (.ok native.1, native) := rfl
  have hsame : native = ({ native.1 with captures := [capture] }, native.2) := by
    obtain ⟨⟨state, adapters, captures, next⟩, calls⟩ := native
    obtain rfl : captures = [capture] := hcaptures
    rfl
  have hget : native.1.captures[0]? = some capture := by rw [hcaptures]; rfl
  unfold NpcapBackend.receivePacket
  rw [exec_bind_ok hread]
  by_cases hstate : !native.1.isRunning ∧ native.1.state ≠ .degraded
  · rw [if_pos hstate]
    exact ⟨capture, native.2, hsame, .inl rfl, rfl⟩
  · rw [if_neg hstate, NpcapBackend.World.exec_onCapture hget]
    let after := (exec (CaptureSession.receivePacket answer) (capture, native.2)).2
    refine ⟨after.1, after.2, ?_, receivePacket_handle answer capture native.2⟩
    rw [hcaptures]
    rfl

theorem exec_onNative {α : Type} {x : Op (Logged NpcapBackend (Event Nat)) EngineError α} :
    exec (onNative x) s = ((exec x s.runtime.native).1,
      { s with runtime := { s.runtime with native := (exec x s.runtime.native).2 } }) := rfl

/-- The native side of a poll. -/
theorem Inv.received (h : Inv handle s) (answer : NextEx) :
    Inv handle { s with runtime := { s.runtime with
      native := (exec (NpcapBackend.receivePacket 0 answer) s.runtime.native).2 } } := by
  obtain ⟨capture, hcaptures, hhandle⟩ := h.captures
  obtain ⟨capture', calls, hafter, hkept, hopened⟩ := receivePacket_one answer hcaptures
  have hback := (NpcapBackend.World.receivePacket_keeps 0 answer).run h.backend
  rw [hafter] at hback ⊢
  refine ⟨hback, hopened.trans h.opened, ⟨capture', rfl, ?_⟩, h.captureId, ?_, h.next, h.published,
    h.order⟩
  · rcases hkept with hkept | hnone
    · rw [hkept]
      exact hhandle
    · exact .inr hnone
  · refine h.state.imp_right fun ⟨hstate, hnone⟩ => ⟨hstate, fun c hc => ?_⟩
    obtain rfl := List.mem_singleton.mp hc
    rw [hcaptures] at hnone
    rcases hkept with hkept | hnone'
    · exact hkept.trans (hnone capture (List.mem_singleton_self _))
    · exact hnone'

section PublishPacket

variable {packet : CapturedPacket} {bus : PacketBus} (hempty : packet.isEmpty = false)
include hempty

theorem exec_publishPacket :
    exec (publishPacket packet captured ingested) s =
      exec (onBus (CaptureRuntime.publishEngineOwned
          (observe s.runtime.nextObservationId captured ingested packet)) >>= fun _ =>
        modifyState fun t => { t with published := t.published ++ [(s.received.length,
          observe s.runtime.nextObservationId captured ingested packet)] }) (s.draw packet) := by
  have hread : exec (getState : RuntimeOp Shared) s = (.ok s, s) := rfl
  have hdraw : exec (modifyState (Shared.draw packet) : RuntimeOp Unit) s =
    (.ok (), s.draw packet) := rfl
  unfold publishPacket
  rw [hempty, if_neg Bool.false_ne_true, exec_bind_ok hread, exec_bind_ok hdraw]

theorem exec_publishPacket_ok
    (hbus : exec (CaptureRuntime.publishEngineOwned
      (observe s.runtime.nextObservationId captured ingested packet)) s.bus = (.ok (), bus)) :
    exec (publishPacket packet captured ingested) s = (.ok (), { s.draw packet with
      bus, published := s.published ++ [(s.received.length,
        observe s.runtime.nextObservationId captured ingested packet)] }) := by
  have hpublish : exec (onBus (CaptureRuntime.publishEngineOwned
      (observe s.runtime.nextObservationId captured ingested packet))) (s.draw packet) =
      (.ok (), { s.draw packet with bus }) := by
    rw [onBus, exec_zoom]
    exact congrArg (fun r : Except EngineError Unit × PacketBus =>
      (r.1, { s.draw packet with bus := r.2 })) hbus
  rw [exec_publishPacket hempty, exec_bind_ok hpublish]
  rfl

theorem exec_publishPacket_error {e : EngineError}
    (hbus : exec (CaptureRuntime.publishEngineOwned
      (observe s.runtime.nextObservationId captured ingested packet)) s.bus = (.error e, bus)) :
    exec (publishPacket packet captured ingested) s = (.error e, { s.draw packet with bus }) := by
  have hpublish : exec (onBus (CaptureRuntime.publishEngineOwned
      (observe s.runtime.nextObservationId captured ingested packet))) (s.draw packet) =
      (.error e, { s.draw packet with bus }) := by
    rw [onBus, exec_zoom]
    exact congrArg (fun r : Except EngineError Unit × PacketBus =>
      (r.1, { s.draw packet with bus := r.2 })) hbus
  rw [exec_publishPacket hempty, exec_bind_error hpublish]

end PublishPacket

theorem Inv.publishPacket (h : Inv handle s) (packet : CapturedPacket)
    (hempty : packet.isEmpty = false) (captured ingested : Timestamp) :
    Inv handle (exec (publishPacket packet captured ingested) s).2 := by
  have hnext : (saturatingAdd64 s.runtime.nextObservationId 1).toNat =
      min ((s.received ++ [packet]).length + 1) (2 ^ 64 - 1) := by
    rw [toNat_saturatingAdd64, h.next, List.length_append, List.length_singleton, UInt64.toNat_one]
    omega
  have hbound : ∀ entry ∈ s.published, entry.1 < s.received.length := by
    intro entry hentry
    obtain ⟨packet', hget, -⟩ := h.published entry hentry
    exact (List.getElem?_eq_some_iff.mp hget).1
  have hold : ∀ entry ∈ s.published, ∃ packet', (s.received ++ [packet])[entry.1]? = some packet' ∧
      entry.2.packet.rawBytes = packet'.data ∧
        entry.2.observationId.toNat = min (entry.1 + 1) (2 ^ 64 - 1) := by
    intro entry hentry
    obtain ⟨packet', hget, hrest⟩ := h.published entry hentry
    exact ⟨packet', (List.getElem?_append_left (hbound entry hentry)).trans hget, hrest⟩
  rcases hbus : exec (CaptureRuntime.publishEngineOwned
    (observe s.runtime.nextObservationId captured ingested packet)) s.bus with ⟨e | u, bus⟩
  · rw [exec_publishPacket_error hempty hbus]
    exact ⟨h.backend, h.opened, h.captures, h.captureId, h.state, hnext, hold, h.order⟩
  · rw [exec_publishPacket_ok hempty hbus]
    refine ⟨h.backend, h.opened, h.captures, h.captureId, h.state, hnext, ?_, ?_⟩
    · intro entry hentry
      rcases List.mem_append.mp hentry with hentry | hentry
      · exact hold entry hentry
      · obtain rfl := List.mem_singleton.mp hentry
        exact ⟨packet, List.getElem?_concat_length, rfl, h.next⟩
    · rw [List.map_append, List.pairwise_append]
      refine ⟨h.order, List.pairwise_singleton _ _, fun a ha b hb => ?_⟩
      obtain ⟨entry, hentry, rfl⟩ := List.mem_map.mp ha
      obtain rfl := List.mem_singleton.mp hb
      exact hbound entry hentry

/-- The runtime with its native side as a call has left it. -/
def Shared.withNative (s : Shared) (native : Logged NpcapBackend (Event Nat)) : Shared :=
  { s with runtime := { s.runtime with native } }

/-- What a poll does with what the backend returns. -/
theorem exec_poll {r : Except NpcapError (Option CapturedPacket)}
    {native : Logged NpcapBackend (Event Nat)}
    (hreceive : exec (NpcapBackend.receivePacket s.runtime.captureId answer) s.runtime.native =
      (r, native)) :
    exec (poll answer captured ingested) s =
      match r with
      | .error e => (.error (captureError e), s.withNative native)
      | .ok none => (.ok (), s.withNative native)
      | .ok (some packet) => exec (publishPacket packet captured ingested) (s.withNative native) := by
  have hread : exec (getState : RuntimeOp Shared) s = (.ok s, s) := rfl
  have hnative : exec (onNative (mapErr captureError
      (NpcapBackend.receivePacket s.runtime.captureId answer))) s =
      (r.mapError captureError, s.withNative native) := by
    rw [exec_onNative, exec_mapErr, hreceive]
    rfl
  unfold poll
  rw [exec_bind_ok hread]
  rcases r with e | packet
  · exact exec_bind_error hnative
  · rw [exec_bind_ok hnative]
    cases packet <;> rfl

/-- A packet that a receive returns is not empty. -/
theorem isEmpty_of_receive {captureId : Nat} {packet : CapturedPacket}
    {t t' : Logged NpcapBackend (Event Nat)}
    (hreceive : exec (NpcapBackend.receivePacket captureId answer) t = (.ok (some packet), t')) :
    packet.isEmpty = false := by
  have hreceipt := NpcapBackend.receivePacket_receipt captureId answer t
  rw [hreceive] at hreceipt
  cases hreceipt with
  | packet hcapture hdelivered =>
    have hpos : 0 < packet.data.toList.length := hdelivered.nonempty
    rw [CapturedPacket.isEmpty, Bytes.isEmpty, List.isEmpty_eq_false_iff]
    exact List.length_pos_iff.mp hpos
  | other hr _ => exact absurd rfl (hr packet)

theorem Inv.poll (h : Inv handle s) (answer : NextEx) (captured ingested : Timestamp) :
    Inv handle (exec (poll answer captured ingested) s).2 := by
  rcases hreceive : exec (NpcapBackend.receivePacket s.runtime.captureId answer) s.runtime.native
    with ⟨r, native⟩
  have hafter : Inv handle (s.withNative native) := by
    have hreceived := h.received answer
    rw [h.captureId] at hreceive
    rw [hreceive] at hreceived
    exact hreceived
  rw [exec_poll hreceive]
  rcases r with e | _ | packet
  · exact hafter
  · exact hafter
  · exact hafter.publishPacket packet (isEmpty_of_receive hreceive) captured ingested

theorem exec_backendStop {t : Logged NpcapBackend (Event Nat)} (hstate : t.1.state = .running) :
    exec NpcapBackend.stop t = (.ok (),
      ({ t.1 with state := .stopped, captures := (NpcapBackend.stopAll t.1.captures t.2).1 },
        (NpcapBackend.stopAll t.1.captures t.2).2)) := by
  obtain ⟨⟨state, adapters, captures, next⟩, calls⟩ := t
  obtain rfl : state = .running := hstate
  rfl

/-- Nothing is open when no session has a handle. -/
theorem Inv.openAfter_eq_nil (h : Inv handle s)
    (hnone : ∀ capture ∈ s.runtime.native.1.captures, capture.handle = none) :
    openAfter s.calls = [] := by
  have hheld := h.backend.held
  rw [NpcapBackend.World.filterMap_handle_eq_nil hnone] at hheld
  exact hheld.openAfter_eq_nil

/-- The backend is stopped, and no session has a handle. -/
structure Stopped (handle : Nat) (s : Shared) : Prop where
  inv : Inv handle s
  state : s.runtime.native.1.state = .stopped
  none : ∀ capture ∈ s.runtime.native.1.captures, capture.handle = none

theorem openings_stopAll (captures : List CaptureSession) (calls : List (Event Nat)) :
    openings (NpcapBackend.stopAll captures calls).2 = openings calls := by
  have hstop (capture : CaptureSession) (calls : List (Event Nat)) :
      openings (exec CaptureSession.stop (capture, calls)).2.2 = openings calls := by
    by_cases hrunning : capture.state = .running
    · cases hhandle : capture.handle with
      | some handle =>
        rw [CaptureSession.exec_stop hrunning hhandle]
        exact openings_closed calls handle
      | none =>
        obtain ⟨config, state, packets, bytes, slot⟩ := capture
        obtain rfl : state = .running := hrunning
        obtain rfl : slot = none := hhandle
        rfl
    · rw [CaptureSession.exec_stop_error hrunning]
  induction captures generalizing calls with
  | nil => rfl
  | cons capture rest ih =>
    rw [NpcapBackend.stopAll]
    cases capture.isRunning with
    | true => exact (ih _).trans (hstop capture calls)
    | false => exact ih calls

/-- A stop closes what is open. -/
theorem Inv.stopped (h : Inv handle s) :
    (exec stop s).1 = .ok () ∧ Stopped handle (exec stop s).2 := by
  have hread : exec (getState : RuntimeOp Shared) s = (.ok s, s) := rfl
  rcases h.state with hrunning | ⟨hstopped, hnone⟩
  · have hstop : exec stop s = (.ok (), s.withNative
        ({ s.runtime.native.1 with
          state := .stopped
          captures := (NpcapBackend.stopAll s.runtime.native.1.captures s.runtime.native.2).1 },
          (NpcapBackend.stopAll s.runtime.native.1.captures s.runtime.native.2).2)) := by
      unfold stop
      rw [exec_bind_ok hread]
      rw [hrunning]
      show exec (onNative (mapErr stopError NpcapBackend.stop)) s = _
      rw [exec_onNative, exec_mapErr, exec_backendStop hrunning]
      rfl
    obtain ⟨capture, hcaptures, -⟩ := h.captures
    obtain ⟨-, hidle⟩ := NpcapBackend.World.stopAll_run h.backend.held h.backend.running
    have hback :=
      (NpcapBackend.World.stop_triple.of_ok h.backend (exec_backendStop hrunning)).1
    have hone : ∃ capture', (NpcapBackend.stopAll s.runtime.native.1.captures
        s.runtime.native.2).1 = [capture'] := by
      rw [hcaptures]
      exact ⟨_, rfl⟩
    obtain ⟨capture', hcapture'⟩ := hone
    have hnone : capture'.handle = none :=
      (hidle capture' (by rw [hcapture']; exact List.mem_singleton_self _)).1
    have hopened : openings (NpcapBackend.stopAll s.runtime.native.1.captures
        s.runtime.native.2).2 = [handle] := (openings_stopAll _ _).trans h.opened
    rw [hstop]
    exact ⟨rfl, ⟨hback, hopened, ⟨capture', hcapture', .inr hnone⟩, h.captureId,
      .inr ⟨rfl, fun c hc => (hidle c hc).1⟩, h.next, h.published, h.order⟩, rfl,
      fun c hc => (hidle c hc).1⟩
  · have hstop : exec stop s = (.ok (), s) := by
      unfold stop
      rw [exec_bind_ok hread, hstopped]
      rfl
    rw [hstop]
    exact ⟨rfl, h, hstopped, hnone⟩

theorem exec_receivePacket_stopped (captureId : Nat) (answer : NextEx)
    {t : Logged NpcapBackend (Event Nat)} (hstate : t.1.state = .stopped) :
    exec (NpcapBackend.receivePacket captureId answer) t = (.error .notRunning, t) := by
  have hread : exec NpcapBackend.backend t = (.ok t.1, t) := rfl
  have hrefused : !t.1.isRunning ∧ t.1.state ≠ .degraded := by
    rw [NpcapBackend.isRunning, hstate]
    exact ⟨rfl, nofun⟩
  unfold NpcapBackend.receivePacket
  rw [exec_bind_ok hread, if_pos hrefused]
  rfl

theorem Inv.step (h : Inv handle s) (turn : Turn) : Inv handle (step s turn) := by
  cases turn with
  | poll answer captured ingested => exact h.poll answer captured ingested
  | executeDecision => exact h
  | stop => exact h.stopped.2.inv
  | onBus change =>
    exact ⟨h.backend, h.opened, h.captures, h.captureId, h.state, h.next, h.published, h.order⟩

/-- A stopped runtime stays stopped. -/
theorem Stopped.step (h : Stopped handle s) (turn : Turn) : Stopped handle (step s turn) := by
  cases turn with
  | poll answer captured ingested =>
    have hpoll : exec (poll answer captured ingested) s =
        (.error (captureError .notRunning), s.withNative s.runtime.native) :=
      exec_poll (exec_receivePacket_stopped _ answer h.state)
    show Stopped handle (exec (Runtime.poll answer captured ingested) s).2
    rw [hpoll]
    exact h
  | executeDecision => exact h
  | stop => exact h.inv.stopped.2
  | onBus change => exact ⟨h.inv.step (.onBus change), h.state, h.none⟩

theorem Inv.sound (h : Inv handle s) : Sound handle s := by
  have hheld := h.backend.held
  obtain ⟨capture, hcaptures, hhandle⟩ := h.captures
  refine ⟨hheld.proper, h.opened, ?_, ?_, (NpcapBackend.World.drop_run h.backend).openAfter_eq_nil,
    h.published, h.order, fun answer captured ingested => ?_⟩
  · rcases hhandle with hopen | hnone
    · rw [hcaptures, List.filterMap_cons_some hopen] at hheld
      exact .inl (List.perm_singleton.mp hheld.perm.symm)
    · refine .inr (h.openAfter_eq_nil fun c hc => ?_)
      rw [hcaptures] at hc
      obtain rfl := List.mem_singleton.mp hc
      exact hnone
  · obtain ⟨hok, hstopped⟩ := h.stopped
    refine ⟨hok, fun later => ?_⟩
    have hlater : Stopped handle (run Runtime.step (exec stop s).2 later) :=
      run_inv (fun _ turn ht => ht.step turn) hstopped later
    refine ⟨hlater.inv.openAfter_eq_nil hlater.none, fun answer captured ingested => ?_⟩
    rw [exec_poll (exec_receivePacket_stopped _ answer hlater.state)]
  · rcases hreceive : exec (NpcapBackend.receivePacket s.runtime.captureId answer) s.runtime.native
      with ⟨r, native⟩
    rw [exec_poll hreceive]
    rcases r with e | _ | packet
    · exact iff_of_false nofun id
    · exact iff_of_true rfl trivial
    · have hempty := isEmpty_of_receive hreceive
      dsimp only
      rcases hbus : exec (CaptureRuntime.publishEngineOwned
        (observe s.runtime.nextObservationId captured ingested packet)) s.bus with ⟨e | u, bus⟩
      · rw [exec_publishPacket_error (s := s.withNative native) hempty hbus]
      · rw [exec_publishPacket_ok (s := s.withNative native) hempty hbus]

/-! ## 4. Starting -/

section Starting

variable {interfaceIndex : UInt32} {deviceName : String} {answers : OpenAnswers}

/-- What `start_npcap` needs. -/
structure CanStart (interfaceIndex : UInt32) (deviceName : String) (answers : OpenAnswers)
    (handle : Nat) : Prop where
  index : interfaceIndex ≠ 0
  name : (trim deviceName).isEmpty = false
  noNul : '\x00' ∉ deviceName.toList
  openLive : answers.openLive = some handle
  setDirection : answers.setDirection = 0

/-- The backend that is about to start its session. -/
def prepared (interfaceIndex : UInt32) (deviceName : String) : NpcapBackend :=
  ⟨.running, ⟨[⟨interfaceIndex, deviceName, "", .unknown, .unknown, none, 0, []⟩]⟩,
    [⟨⟨interfaceIndex, 65535, 1000⟩, .stopped, 0, 0, none⟩], 1⟩

theorem exec_startBackend (hindex : interfaceIndex ≠ 0) (hname : (trim deviceName).isEmpty = false) :
    exec (startBackend interfaceIndex deviceName answers) (NpcapBackend.new, []) =
      match exec (NpcapBackend.startCapture 0 answers) (prepared interfaceIndex deviceName, []) with
      | (.ok (), native) => (.ok 0, native)
      | (.error e, native) =>
        (.error (captureError e), (exec NpcapBackend.stop native).2) := by
  let adapter : AdapterInfo := ⟨interfaceIndex, deviceName, "", .unknown, .unknown, none, 0, []⟩
  have hadapter : AdapterInfo.new interfaceIndex deviceName = some adapter := by
    rw [AdapterInfo.new, if_neg hindex, AdapterInfo.newInternal, hname]
    rfl
  have hinsert : AdapterTable.new.insert adapter = .ok ⟨[adapter]⟩ := by
    unfold AdapterTable.insert
    rw [if_neg hindex]
    rfl
  have hconfig : CaptureConfig.new interfaceIndex = some ⟨interfaceIndex, 65535, 1000⟩ :=
    if_neg hindex
  have hvalid : (⟨interfaceIndex, 65535, 1000⟩ : CaptureConfig).validate = true := by
    simp [CaptureConfig.validate, hindex]
  have hstart : exec (mapErr startError NpcapBackend.start) (NpcapBackend.new, []) =
      (.ok (), (⟨.running, .new, [], 1⟩, [])) := rfl
  have hcreate : exec (mapErr captureError (NpcapBackend.createCapture ⟨interfaceIndex, 65535, 1000⟩))
      (⟨.running, ⟨[adapter]⟩, [], 1⟩, []) = (.ok 0, (prepared interfaceIndex deviceName, [])) := by
    have hsession : CaptureSession.new ⟨interfaceIndex, 65535, 1000⟩ =
        .ok ⟨⟨interfaceIndex, 65535, 1000⟩, .stopped, 0, 0, none⟩ := if_pos hvalid
    rw [exec_mapErr]
    unfold NpcapBackend.createCapture
    rw [hsession]
    rfl
  have hprepare : exec (startBackend interfaceIndex deviceName answers) (NpcapBackend.new, []) =
      exec (do
        match ← attempt (NpcapBackend.startCapture 0 answers) with
        | .error error => do
          ignored NpcapBackend.stop
          throw (captureError error)
        | .ok () => return 0) (prepared interfaceIndex deviceName, []) := by
    unfold startBackend
    rw [exec_bind_ok hstart, hadapter, hconfig]
    show exec (orElse (invalid "failed to register Npcap adapter")
      (AdapterTable.new.insert adapter) >>= _) _ = _
    rw [hinsert]
    exact exec_bind_ok hcreate
  rw [hprepare]
  rcases hopen : exec (NpcapBackend.startCapture 0 answers) (prepared interfaceIndex deviceName, [])
    with ⟨r, native⟩
  have hattempt : exec (attempt (NpcapBackend.startCapture 0 answers) :
      Op (Logged NpcapBackend (Event Nat)) EngineError _) (prepared interfaceIndex deviceName, []) =
      (.ok r, native) := by
    rw [exec_attempt, hopen]
  rw [exec_bind_ok hattempt]
  cases r <;> rfl

/-- The session that a started runtime has. -/
def running (interfaceIndex : UInt32) (handle : Nat) : CaptureSession :=
  ⟨⟨interfaceIndex, 65535, 1000⟩, .running, 0, 0, some handle⟩

theorem exec_openNativeHandle (answers : OpenAnswers) (deviceName : String)
    {config : CaptureConfig} (t : Logged CaptureSession (Event Nat)) (hsnaplen : 0 < config.snaplen ∧
      config.snaplen < 2 ^ 31) :
    (∃ handle, (exec (CaptureSession.openNativeHandle answers deviceName config) t =
        (.ok handle, (t.1, t.2 ++ [.opened handle] ++ [.used handle]))) ∧
      '\x00' ∉ deviceName.toList ∧ answers.openLive = some handle ∧ answers.setDirection = 0) ∨
    (∃ e calls, exec (CaptureSession.openNativeHandle answers deviceName config) t =
        (.error e, (t.1, calls))) ∧
      ∀ handle, ¬ ('\x00' ∉ deviceName.toList ∧ answers.openLive = some handle ∧
        answers.setDirection = 0) := by
  unfold CaptureSession.openNativeHandle
  by_cases hnul : '\x00' ∈ deviceName.toList
  · rw [if_pos hnul]
    exact .inr ⟨⟨_, _, rfl⟩, fun _ h => h.1 hnul⟩
  · rw [if_neg hnul, if_neg (Nat.not_le.mpr hsnaplen.2), if_neg (Nat.ne_of_gt hsnaplen.1)]
    cases hopen : answers.openLive with
    | none => exact .inr ⟨⟨_, _, rfl⟩, fun _ h => nomatch h.2.1⟩
    | some handle =>
      by_cases hdirection : answers.setDirection = 0
      · refine .inl ⟨handle, ?_, hnul, rfl, hdirection⟩
        rw [hdirection]
        rfl
      · refine .inr ⟨⟨.interfaceUnavailable, t.2 ++ [.opened handle] ++ [.used handle] ++
          [.closed handle], ?_⟩, fun _ h => hdirection h.2.2⟩
        show exec (write (.opened handle) >>= fun _ => write (.used handle) >>= fun _ =>
          if answers.setDirection ≠ 0 then _ else _) t = _
        rw [if_pos hdirection]
        rfl

/-- The start of a stopped session, by the answer of the library. -/
theorem exec_start {session : CaptureSession} {native : Logged CaptureSession (Event Nat)}
    {r : Except CaptureError Nat} (hstate : session.state = .stopped)
    (hvalid : session.config.validate = true) (hname : (trim deviceName).isEmpty = false)
    (hopen : exec (CaptureSession.openNativeHandle answers deviceName session.config)
      ({ session with state := .starting }, []) = (r, native)) :
    exec (CaptureSession.start answers deviceName) (session, []) =
      match r with
      | .ok handle => (.ok (), ({ native.1 with handle := some handle, state := .running }, native.2))
      | .error e => (.error e, ({ native.1 with handle := none, state := .failed }, native.2)) := by
  have hread : exec CaptureSession.session (session, []) = (.ok session, (session, [])) := rfl
  have hstarting : exec (CaptureSession.update fun s => { s with state := .starting })
      (session, []) = (.ok (), ({ session with state := .starting }, [])) := rfl
  have hattempt : exec (attempt (CaptureSession.openNativeHandle answers deviceName session.config) :
      SessionOp (Except CaptureError Nat)) ({ session with state := .starting }, []) =
      (.ok r, native) := by
    rw [exec_attempt, hopen]
  unfold CaptureSession.start
  rw [exec_bind_ok hread, hstate, hvalid, hname]
  cases r with
  | ok handle => exact (exec_bind_ok hstarting).trans (exec_bind_ok hattempt)
  | error e => exact (exec_bind_ok hstarting).trans (exec_bind_ok hattempt)

/-- The only session is started with the handle that the library hands out, or not at all. -/
theorem exec_startCapture (hindex : interfaceIndex ≠ 0) (hname : (trim deviceName).isEmpty = false) :
    (∃ handle, exec (NpcapBackend.startCapture 0 answers) (prepared interfaceIndex deviceName, []) =
        (.ok (), ({ prepared interfaceIndex deviceName with
          captures := [running interfaceIndex handle] }, [.opened handle] ++ [.used handle])) ∧
      CanStart interfaceIndex deviceName answers handle) ∨
    (∃ e native, exec (NpcapBackend.startCapture 0 answers)
        (prepared interfaceIndex deviceName, []) = (.error e, native)) ∧
      ∀ handle, ¬ CanStart interfaceIndex deviceName answers handle := by
  let capture : CaptureSession := ⟨⟨interfaceIndex, 65535, 1000⟩, .stopped, 0, 0, none⟩
  have hget : (prepared interfaceIndex deviceName).adapters.get interfaceIndex =
      .ok ⟨interfaceIndex, deviceName, "", .unknown, .unknown, none, 0, []⟩ := by
    rw [AdapterTable.get, if_neg hindex]
    simp [prepared]
  have hrun : exec (NpcapBackend.startCapture 0 answers) (prepared interfaceIndex deviceName, []) =
      exec (NpcapBackend.onCapture 0 (CaptureSession.start answers deviceName))
        (prepared interfaceIndex deviceName, []) := by
    have hread : exec NpcapBackend.backend (prepared interfaceIndex deviceName, []) =
      (.ok (prepared interfaceIndex deviceName), (prepared interfaceIndex deviceName, [])) := rfl
    unfold NpcapBackend.startCapture
    rw [exec_bind_ok hread]
    show exec (mapErr _ (ofResult ((prepared interfaceIndex deviceName).adapters.get
      interfaceIndex)) >>= _) _ = _
    rw [hget]
    rfl
  have hvalid : capture.config.validate = true := by
    simp [CaptureConfig.validate, capture, hindex]
  have hcapture : (prepared interfaceIndex deviceName, ([] : List (Event Nat))).1.captures[0]? =
    some capture := rfl
  have hsnaplen : 0 < capture.config.snaplen ∧ capture.config.snaplen < 2 ^ 31 := by
    show 0 < 65535 ∧ 65535 < 2 ^ 31
    decide
  rw [hrun, NpcapBackend.World.exec_onCapture hcapture]
  rcases exec_openNativeHandle answers deviceName ({ capture with state := .starting }, []) hsnaplen
    with ⟨handle, hopen, hnul, hlive, hdirection⟩ | ⟨⟨e, calls, hopen⟩, hnever⟩
  · rw [exec_start rfl hvalid hname hopen]
    exact .inl ⟨handle, rfl, hindex, hname, hnul, hlive, hdirection⟩
  · rw [exec_start rfl hvalid hname hopen]
    exact .inr ⟨⟨_, _, rfl⟩, fun handle h => hnever handle ⟨h.noNul, h.openLive, h.setDirection⟩⟩

end Starting

/-- `start_npcap` succeeds when the index and the name are given and the library opens the device,
and then the runtime is sound in every run, over any bus.  When it fails, every handle that it was
given has been closed. -/
theorem npcap_runtime (interfaceIndex : UInt32) (deviceName : String) (answers : OpenAnswers) :
    match startNpcap interfaceIndex deviceName answers with
    | (.ok runtime, _) => ∃ handle, CanStart interfaceIndex deviceName answers handle ∧
        openAfter runtime.native.2 = [handle] ∧
        ∀ bus turns, Sound handle (run step (started runtime bus) turns)
    | (.error _, calls) => (∀ handle, ¬ CanStart interfaceIndex deviceName answers handle) ∧
        Proper calls ∧ openAfter calls = [] := by
  unfold startNpcap
  by_cases hinvalid : interfaceIndex = 0 ∨ (trim deviceName).isEmpty = true
  · rw [if_pos hinvalid]
    refine ⟨fun handle h => ?_, along_nil, rfl⟩
    rcases hinvalid with hindex | hname
    · exact h.index hindex
    · rw [h.name] at hname
      nomatch hname
  · rw [if_neg hinvalid]
    obtain ⟨hindex, hname⟩ := not_or.mp hinvalid
    rw [Bool.not_eq_true] at hname
    have hprepared : NpcapBackend.World.Inv [] (prepared interfaceIndex deviceName, []) := by
      refine ⟨.nil, fun capture hcapture => ?_⟩
      obtain rfl := List.mem_singleton.mp hcapture
      exact iff_of_false Bool.false_ne_true nofun
    have hkept := (NpcapBackend.World.startCapture_keeps 0 answers).run hprepared
    rw [exec_startBackend hindex hname]
    rcases exec_startCapture hindex hname with ⟨handle, hstarted, hcan⟩ | ⟨⟨e, native, hfailed⟩, hnever⟩
    · rw [hstarted] at hkept ⊢
      refine ⟨handle, hcan, rfl, fun bus turns => ?_⟩
      have hstep (s : Shared) (turn : Turn) (h : Inv handle s) : Inv handle (step s turn) :=
        h.step turn
      refine (run_inv hstep ?_ turns).sound
      exact ⟨hkept, rfl, ⟨_, rfl, .inl rfl⟩, rfl, .inl rfl, rfl,
        fun _ h => absurd h List.not_mem_nil, .nil⟩
    · rw [hfailed] at hkept ⊢
      have hstop : Keeps (NpcapBackend.World.Inv []) NpcapBackend.stop :=
        NpcapBackend.World.stop_triple.post_mono fun _ _ h => h.1
      have hdropped := NpcapBackend.World.drop_run (hstop.run hkept)
      exact ⟨hnever, hdropped.proper, hdropped.openAfter_eq_nil⟩

end Runtime

end NetworkEngine.Npcap
