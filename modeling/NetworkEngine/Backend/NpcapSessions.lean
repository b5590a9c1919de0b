import NetworkEngine.Backend.NpcapCapture
import NetworkEngine.Bus.OwnedPacket

/-!
# NpcapSessions — the Npcap backend over its sessions

`backend_npcap::NpcapBackend`: the sessions it creates, the native handles they keep, and the packets
it hands out.  A run of the backend is a list of its calls, each with what the library and the clock
answer.
-/

namespace NetworkEngine.Npcap

open Rust Ledger Transition

/-! ## 1. The backend -/

inductive NpcapError where
  | alreadyRunning
  | notRunning
  | initializationFailed
  | deviceUnavailable
  | captureFailed
  | invalidCaptureId
  | observationCreationFailed
  deriving DecidableEq, Repr

/-- Without the devices and the metadata, which nothing here reads. -/
structure NpcapBackend where
  state : NpcapBackendState
  adapters : AdapterTable
  captures : List CaptureSession
  nextObservationId : UInt64
  deriving DecidableEq, Repr

/-- The backend next to the native calls made so far. -/
abbrev BackendOp (α : Type) := Op (Logged NpcapBackend (Event Nat)) NpcapError α

namespace NpcapBackend

def new : NpcapBackend := ⟨.stopped, .new, [], 1⟩

def isRunning (b : NpcapBackend) : Bool := b.state = .running

def backend : BackendOp NpcapBackend := onObject getState

def update (f : NpcapBackend → NpcapBackend) : BackendOp Unit := onObject (modifyState f)

def start : BackendOp Unit := do
  let b ← backend
  if b.state = .running then throw .alreadyRunning
  update fun b => { b with state := .starting }
  update fun b => { b with state := .running }

/-- The loop of `stop` and of `drop`. -/
def stopAll : List CaptureSession → List (Event Nat) → List CaptureSession × List (Event Nat)
  | [], calls => ([], calls)
  | capture :: rest, calls =>
    let stopped :=
      if capture.isRunning then (exec CaptureSession.stop (capture, calls)).2 else (capture, calls)
    let others := stopAll rest stopped.2
    (stopped.1 :: others.1, others.2)

def stopCaptures : BackendOp Unit := modifyState fun t =>
  let stopped := stopAll t.1.captures t.2
  ({ t.1 with captures := stopped.1 }, stopped.2)

def stop : BackendOp Unit := do
  let b ← backend
  if b.state ≠ .running ∧ b.state ≠ .degraded then throw .notRunning
  update fun b => { b with state := .stopping }
  stopCaptures
  update fun b => { b with state := .stopped }

def degrade : BackendOp Unit :=
  update fun b => if b.isRunning then { b with state := .degraded } else b

def fail : BackendOp Unit := update fun b => { b with state := .failed }

/-- `adapters_mut`, and what the caller does with the table. -/
def adaptersMut (f : AdapterTable → AdapterTable) : BackendOp Unit :=
  update fun b => { b with adapters := f b.adapters }

def createCapture (config : CaptureConfig) : BackendOp Nat := do
  let b ← backend
  if !b.isRunning then throw .notRunning
  let session ← mapErr (fun _ => .captureFailed) (ofResult (CaptureSession.new config))
  update fun b => { b with captures := b.captures ++ [session] }
  return b.captures.length

/-- `captures.get_mut(capture_id)`, and an operation on the session. -/
def onCapture {α : Type} (captureId : Nat) (x : SessionOp α) : BackendOp α := fun t =>
  match t.1.captures[captureId]? with
  | none => (.error .invalidCaptureId, t)
  | some capture =>
    let r := exec x (capture, t.2)
    (r.1.mapError fun _ => .captureFailed,
      ({ t.1 with captures := t.1.captures.set captureId r.2.1 }, r.2.2))

def startCapture (captureId : Nat) (answers : OpenAnswers) : BackendOp Unit := do
  let b ← backend
  if !b.isRunning then throw .notRunning
  match b.captures[captureId]? with
  | none => throw .invalidCaptureId
  | some capture => do
    let adapter ← mapErr (fun _ => .deviceUnavailable)
      (ofResult (b.adapters.get capture.config.interfaceIndex))
    onCapture captureId (CaptureSession.start answers adapter.name)

def stopCapture (captureId : Nat) : BackendOp Unit := onCapture captureId CaptureSession.stop

def receivePacket (captureId : Nat) (answer : NextEx) : BackendOp (Option CapturedPacket) := do
  let b ← backend
  if !b.isRunning ∧ b.state ≠ .degraded then throw .notRunning
  -- A session that is not running is refused here, and once more by the session itself.
  onCapture captureId (CaptureSession.receivePacket answer)

/-- The observation of a captured packet, without its context. -/
def observe (observationId : ObservationId) (captured ingested : Timestamp) (identity : String)
    (packet : CapturedPacket) : PacketObservation :=
  (PacketObservation.new observationId .npcap captured ingested .unknown identity ⟨packet.data⟩)
  |>.withNativeMetadata "backend" "npcap"
  |>.withNativeMetadata "interface_index" (toString packet.interfaceIndex)
  |>.withNativeMetadata "original_length" (toString packet.originalLength)
  |>.withProvenance "captured-by-npcap"

def receiveObservation (captureId : Nat) (answer : NextEx) (captureTimestamp ingested : Timestamp) :
    BackendOp (PacketObservation × NetworkCore.OwnershipTracker) := do
  match ← receivePacket captureId answer with
  | none => throw .captureFailed
  | some captured => do
    let b ← backend
    let identity := match b.adapters.get captured.interfaceIndex with
      | .ok adapter => adapter.name
      | .error _ => "npcap:" ++ toString captured.interfaceIndex
    if captured.isEmpty then throw .observationCreationFailed
    update fun b => { b with nextObservationId := b.nextObservationId + 1 }
    let observation := observe b.nextObservationId captureTimestamp ingested identity captured
    let creation {α : Type} (r : EngineResult α) : BackendOp α :=
      mapErr (fun _ => .observationCreationFailed) (ofResult r)
    let ownership ← creation (NetworkCore.OwnershipTracker.new.transition .backendOwned)
    let ownership ← creation ownership.handoffBackendToEngine
    return (observation, ownership)

/-- The sessions are dropped, one after the other. -/
def dropCaptures (captures : List CaptureSession) (calls : List (Event Nat)) : List (Event Nat) :=
  captures.foldl (fun calls capture => (exec CaptureSession.drop (capture, calls)).2.2) calls

def clearRuntimeState : BackendOp Unit := modifyState fun t =>
  ({ t.1 with captures := [], adapters := t.1.adapters.clear, nextObservationId := 1 },
    dropCaptures t.1.captures t.2)

/-- `Drop`, and then the sessions themselves: the native calls that are made in the end. -/
def drop (t : Logged NpcapBackend (Event Nat)) : List (Event Nat) :=
  let stopped := stopAll t.1.captures t.2
  dropCaptures stopped.1 stopped.2

/-! ## 2. Runs -/

inductive Turn where
  | start
  | stop
  | degrade
  | fail
  | adaptersMut (f : AdapterTable → AdapterTable)
  | createCapture (config : CaptureConfig)
  | startCapture (captureId : Nat) (answers : OpenAnswers)
  | stopCapture (captureId : Nat)
  | receivePacket (captureId : Nat) (answer : NextEx)
  | receiveObservation (captureId : Nat) (answer : NextEx) (captured ingested : Timestamp)
  | clearRuntimeState

/-- The backend, with what it has handed out since its sessions were last cleared. -/
structure World where
  native : Logged NpcapBackend (Event Nat)
  /-- The packets, with the sessions they came in on. -/
  received : List (Nat × CapturedPacket)
  observed : List (PacketObservation × NetworkCore.OwnershipTracker)

namespace World

def onBackend {α : Type} (x : BackendOp α) (w : World) : World :=
  { w with native := (exec x w.native).2 }

/-- The packet that a receive hands out. -/
def receipt (captureId : Nat) (answer : NextEx) (w : World) : List (Nat × CapturedPacket) :=
  match (exec (NpcapBackend.receivePacket captureId answer) w.native).1 with
  | .ok (some packet) => [(captureId, packet)]
  | _ => []

def step (w : World) : Turn → World
  | .start => w.onBackend NpcapBackend.start
  | .stop => w.onBackend NpcapBackend.stop
  | .degrade => w.onBackend degrade
  | .fail => w.onBackend NpcapBackend.fail
  | .adaptersMut f => w.onBackend (adaptersMut f)
  | .createCapture config => w.onBackend (createCapture config)
  | .startCapture captureId answers => w.onBackend (startCapture captureId answers)
  | .stopCapture captureId => w.onBackend (stopCapture captureId)
  | .receivePacket captureId answer =>
    { w.onBackend (NpcapBackend.receivePacket captureId answer) with
      received := w.received ++ w.receipt captureId answer }
  | .receiveObservation captureId answer captured ingested =>
    let r := exec (receiveObservation captureId answer captured ingested) w.native
    { native := r.2
      received := w.received ++ w.receipt captureId answer
      observed := w.observed ++ r.1.toOption.toList }
  | .clearRuntimeState => ⟨(exec clearRuntimeState w.native).2, [], []⟩

def start : World := ⟨(NpcapBackend.new, []), [], []⟩

/-- The handles that the sessions keep. -/
def handles (w : World) : List Nat := w.native.1.captures.filterMap (·.handle)

/-- What the backend owes to the library. -/
structure Handles (w : World) : Prop where
  /-- No native call is made with a handle that is closed or was never handed out, and the open
  handles are those of the sessions, each kept by one of them. -/
  held : Held w.handles w.native.2
  /-- A session has a handle exactly while it is running. -/
  running : ∀ capture ∈ w.native.1.captures,
    (capture.handle.isSome = true ↔ capture.state = .running)
  /-- A stop that succeeds leaves no handle open. -/
  stopped : (exec NpcapBackend.stop w.native).1 = .ok () →
    openAfter (exec NpcapBackend.stop w.native).2.2 = []
  /-- Nor does a drop, in whatever state the backend is. -/
  dropped : openAfter (drop w.native) = []
  /-- As long as the library hands out no handle that is open, no two sessions share one. -/
  apart : Fresh w.native.2 → w.handles.Nodup

/-! ## 3. Handles -/

/-- The sessions have the open handles, beside those that `others` keep. -/
structure Inv (others : List Nat) (t : Logged NpcapBackend (Event Nat)) : Prop where
  held : Held (t.1.captures.filterMap (·.handle) ++ others) t.2
  running : ∀ capture ∈ t.1.captures, (capture.handle.isSome = true ↔ capture.state = .running)

variable {others : List Nat} {t : Logged NpcapBackend (Event Nat)} {α : Type}

theorem Inv.congr {t' : Logged NpcapBackend (Event Nat)} (h : Inv others t)
    (hcaptures : t'.1.captures = t.1.captures) (hcalls : t'.2 = t.2) : Inv others t' := by
  refine ⟨?_, ?_⟩
  · rw [hcaptures, hcalls]
    exact h.held
  · rw [hcaptures]
    exact h.running

theorem update_keeps {f : NpcapBackend → NpcapBackend} (hf : ∀ b, (f b).captures = b.captures) :
    Keeps (Inv others) (update f) :=
  Keeps.modifyState fun t h => h.congr (hf t.1) rfl

theorem exec_onCapture {captureId : Nat} {x : SessionOp α} {capture : CaptureSession}
    (h : t.1.captures[captureId]? = some capture) :
    exec (onCapture captureId x) t =
      ((exec x (capture, t.2)).1.mapError fun _ => .captureFailed,
        ({ t.1 with captures := t.1.captures.set captureId (exec x (capture, t.2)).2.1 },
          (exec x (capture, t.2)).2.2)) := by
  show onCapture captureId x t = _
  unfold onCapture
  rw [h]

theorem exec_onCapture_none {captureId : Nat} {x : SessionOp α}
    (h : t.1.captures[captureId]? = none) :
    exec (onCapture captureId x) t = (.error .invalidCaptureId, t) := by
  show onCapture captureId x t = _
  unfold onCapture
  rw [h]

/-- What keeps every session in order keeps them all. -/
theorem onCapture_keeps {captureId : Nat} {x : SessionOp α}
    (hx : ∀ others, Keeps (CaptureSession.Owns others) x) :
    Keeps (Inv others) (onCapture captureId x) := by
  refine Keeps.of_run fun t h => ?_
  cases hcapture : t.1.captures[captureId]? with
  | none =>
    rw [exec_onCapture_none hcapture]
    exact h
  | some capture =>
    rw [exec_onCapture hcapture]
    obtain ⟨hlt, -⟩ := List.getElem?_eq_some_iff.mp hcapture
    have hmem : capture ∈ t.1.captures := List.mem_of_getElem? hcapture
    let rest := (t.1.captures.eraseIdx captureId).filterMap (·.handle) ++ others
    have howns : CaptureSession.Owns rest (capture, t.2) := by
      refine ⟨h.held.of_perm ?_, h.running capture hmem⟩
      have hperm := (filterMap_perm_eraseIdx CaptureSession.handle hcapture).symm
      rw [← List.append_assoc]
      exact hperm.append_right others
    have hafter := (hx rest).run howns
    refine ⟨hafter.held.of_perm ?_, ?_⟩
    · have hperm := filterMap_set_perm CaptureSession.handle hlt
        (exec x (capture, t.2)).2.1
      rw [← List.append_assoc]
      exact hperm.append_right others
    · intro capture' hcapture'
      rcases List.mem_or_eq_of_mem_set hcapture' with hold | rfl
      · exact h.running capture' hold
      · exact hafter.running

theorem filterMap_cons_handle (capture : CaptureSession) (rest : List CaptureSession)
    (others : List Nat) :
    (capture :: rest).filterMap (·.handle) ++ others =
      capture.handle.toList ++ (rest.filterMap (·.handle) ++ others) := by
  rw [List.filterMap_cons]
  cases capture.handle <;> rfl

/-- The sessions that are running are stopped, and the others have no handle. -/
theorem stopAll_run {captures : List CaptureSession} {calls : List (Event Nat)}
    (hheld : Held (captures.filterMap (·.handle) ++ others) calls)
    (hrunning : ∀ capture ∈ captures, (capture.handle.isSome = true ↔ capture.state = .running)) :
    Held others (stopAll captures calls).2 ∧
      ∀ capture ∈ (stopAll captures calls).1, capture.handle = none ∧ capture.state ≠ .running := by
  induction captures generalizing calls with
  | nil => exact ⟨hheld, nofun⟩
  | cons capture rest ih =>
    rw [filterMap_cons_handle] at hheld
    have howns : CaptureSession.Owns (rest.filterMap (·.handle) ++ others) (capture, calls) :=
      ⟨hheld, hrunning capture List.mem_cons_self⟩
    let stopped :=
      if capture.isRunning then (exec CaptureSession.stop (capture, calls)).2 else (capture, calls)
    have hstopped : CaptureSession.Idle (rest.filterMap (·.handle) ++ others) stopped ∧
        stopped.1.state ≠ .running := by
      by_cases hrun : capture.state = .running
      · obtain ⟨handle, hhandle⟩ := Option.isSome_iff_exists.mp (howns.running.mpr hrun)
        have hafter := CaptureSession.stop_keeps.run howns
        have heq : stopped = (exec CaptureSession.stop (capture, calls)).2 :=
          if_pos (decide_eq_true hrun)
        rw [heq]
        rw [CaptureSession.exec_stop hrun hhandle] at hafter ⊢
        exact ⟨hafter.idle nofun, nofun⟩
      · have heq : stopped = (capture, calls) := if_neg (by simpa [CaptureSession.isRunning])
        rw [heq]
        exact ⟨howns.idle hrun, hrun⟩
    have hrest := ih hstopped.1.held fun c hc => hrunning c (List.mem_cons_of_mem _ hc)
    refine ⟨hrest.1, fun c hc => ?_⟩
    rcases List.mem_cons.mp hc with rfl | hc
    · exact ⟨hstopped.1.none, hstopped.2⟩
    · exact hrest.2 c hc

theorem dropCaptures_run {captures : List CaptureSession} {calls : List (Event Nat)}
    (hheld : Held (captures.filterMap (·.handle) ++ others) calls) :
    Held others (dropCaptures captures calls) := by
  induction captures generalizing calls with
  | nil => exact hheld
  | cons capture rest ih =>
    rw [filterMap_cons_handle] at hheld
    exact ih (CaptureSession.drop_run (capture, calls) hheld)

theorem filterMap_handle_eq_nil {captures : List CaptureSession}
    (h : ∀ capture ∈ captures, capture.handle = none) : captures.filterMap (·.handle) = [] :=
  List.filterMap_eq_nil_iff.mpr h

theorem drop_run (h : Inv others t) : Held others (drop t) := by
  obtain ⟨hheld, hidle⟩ := stopAll_run h.held h.running
  refine dropCaptures_run ?_
  rw [filterMap_handle_eq_nil fun capture hcapture => (hidle capture hcapture).1]
  exact hheld

theorem stopCaptures_run (h : Inv others t) :
    Inv others (exec stopCaptures t).2 ∧ Held others (exec stopCaptures t).2.2 := by
  obtain ⟨hheld, hidle⟩ := stopAll_run h.held h.running
  refine ⟨⟨?_, fun capture hcapture => ?_⟩, hheld⟩
  · show Held ((stopAll t.1.captures t.2).1.filterMap (·.handle) ++ others) _
    rw [filterMap_handle_eq_nil fun capture hcapture => (hidle capture hcapture).1]
    exact hheld
  · obtain ⟨hnone, hstate⟩ := hidle capture hcapture
    rw [hnone]
    exact iff_of_false Bool.false_ne_true hstate

theorem start_keeps : Keeps (Inv others) NpcapBackend.start := by
  refine Triple.readObject_bind fun _ => Triple.reject (fun _ _ h => h.1) fun _ => ?_
  refine Triple.bind_with (fun _ => Inv others)
    (Triple.updateObject fun _ h => h.1.congr rfl rfl) fun _ => ?_
  exact Triple.updateObject fun _ h => h.congr rfl rfl

theorem stop_triple : Triple (Inv others) NpcapBackend.stop
    (fun _ t => Inv others t ∧ Held others t.2) (fun _ => Inv others) := by
  refine Triple.readObject_bind fun _ => Triple.reject (fun _ _ h => h.1) fun _ => ?_
  refine Triple.bind_with (fun _ => Inv others)
    (Triple.updateObject fun _ h => h.1.congr rfl rfl) fun _ => ?_
  refine Triple.bind_with (fun _ t => Inv others t ∧ Held others t.2)
    (Triple.modifyState fun t h => stopCaptures_run h) fun _ => ?_
  exact Triple.updateObject fun t h => ⟨h.1.congr rfl rfl, h.2⟩

theorem createCapture_keeps (config : CaptureConfig) :
    Keeps (Inv others) (createCapture config) := by
  refine Triple.readObject_bind fun b => Triple.reject (fun _ _ h => h.1) fun _ => ?_
  cases hnew : CaptureSession.new config with
  | error e => exact Triple.throw fun _ h => h.1
  | ok session =>
    have hidle : session.handle = none ∧ session.state = .stopped := by
      unfold CaptureSession.new at hnew
      split_ifs at hnew
      obtain rfl := Except.ok.inj hnew
      exact ⟨rfl, rfl⟩
    show Triple _ (update (fun b => { b with captures := b.captures ++ [session] }) >>=
      fun _ => pure b.captures.length) _ _
    refine Triple.bind_with (fun _ => Inv others) (Triple.updateObject ?_) fun _ =>
      Triple.pure fun _ h => h
    rintro t ⟨h, -⟩
    refine ⟨?_, fun capture hcapture => ?_⟩
    · have hsame : (t.1.captures ++ [session]).filterMap (·.handle) =
          t.1.captures.filterMap (·.handle) := by
        rw [List.filterMap_append, List.filterMap_cons_none hidle.1, List.filterMap_nil,
          List.append_nil]
      exact hsame ▸ h.held
    · rcases List.mem_append.mp hcapture with hold | hnew
      · exact h.running capture hold
      · obtain rfl := List.mem_singleton.mp hnew
        rw [hidle.1, hidle.2]
        exact iff_of_false Bool.false_ne_true nofun

theorem startCapture_keeps (captureId : Nat) (answers : OpenAnswers) :
    Keeps (Inv others) (startCapture captureId answers) := by
  refine Triple.readObject_bind fun b => Triple.reject (fun _ _ h => h.1) fun _ => ?_
  dsimp only
  cases b.captures[captureId]? with
  | none => exact Triple.throw fun _ h => h.1
  | some capture =>
    dsimp only
    cases b.adapters.get capture.config.interfaceIndex with
    | error e => exact Triple.throw fun _ h => h.1
    | ok adapter =>
      exact (onCapture_keeps fun _ => CaptureSession.start_keeps answers adapter.name).pre_mono
        fun _ h => h.1

theorem receivePacket_keeps (captureId : Nat) (answer : NextEx) :
    Keeps (Inv others) (NpcapBackend.receivePacket captureId answer) :=
  Triple.readObject_bind fun _ => Triple.reject (fun _ _ h => h.1) fun _ =>
    (onCapture_keeps fun _ => CaptureSession.receivePacket_keeps answer).pre_mono fun _ h => h.1

theorem receiveObservation_keeps (captureId : Nat) (answer : NextEx)
    (captured ingested : Timestamp) :
    Keeps (Inv others) (receiveObservation captureId answer captured ingested) := by
  refine (receivePacket_keeps captureId answer).bind fun packet => ?_
  cases packet with
  | none => exact Keeps.throw
  | some packet =>
    refine Triple.readObject_bind fun b => Triple.reject (fun _ _ h => h.1) fun _ => ?_
    refine Triple.bind_with (fun _ => Inv others)
      (Triple.updateObject fun _ h => h.1.congr rfl rfl) fun _ => ?_
    exact Keeps.ofResult.mapErr.bind fun _ => Keeps.ofResult.mapErr.bind fun _ => Keeps.pure

theorem clearRuntimeState_run (h : Inv others t) : Inv others (exec clearRuntimeState t).2 :=
  ⟨dropCaptures_run h.held, nofun⟩

theorem step_inv (w : World) (turn : Turn) (h : Inv [] w.native) : Inv [] (w.step turn).native := by
  cases turn with
  | start => exact start_keeps.run h
  | stop =>
    have hkeeps : Keeps (Inv []) NpcapBackend.stop := stop_triple.post_mono fun _ _ h => h.1
    exact hkeeps.run h
  | degrade =>
    have hkeeps : Keeps (Inv []) degrade := update_keeps fun b => by split <;> rfl
    exact hkeeps.run h
  | fail => exact h.congr rfl rfl
  | adaptersMut f => exact h.congr rfl rfl
  | createCapture config => exact (createCapture_keeps config).run h
  | startCapture captureId answers => exact (startCapture_keeps captureId answers).run h
  | stopCapture captureId => exact (onCapture_keeps fun _ => CaptureSession.stop_keeps).run h
  | receivePacket captureId answer => exact (receivePacket_keeps captureId answer).run h
  | receiveObservation captureId answer captured ingested =>
    exact (receiveObservation_keeps captureId answer captured ingested).run h
  | clearRuntimeState => exact clearRuntimeState_run h

/-- In every run the Npcap backend calls the library with open handles only, and each open handle
is kept by one session that is running.  Whatever else has happened, a stop that succeeds closes
them all, and so does dropping the backend. -/
theorem npcap_handles (turns : List Turn) : Handles (run step start turns) := by
  have hinv : Inv [] (run step start turns).native :=
    run_inv step_inv (show Inv [] start.native from ⟨.nil, nofun⟩) turns
  have hheld := hinv.held
  rw [List.append_nil] at hheld
  refine ⟨hheld, hinv.running, fun hstop => ?_, (drop_run hinv).openAfter_eq_nil, hheld.nodup⟩
  exact (stop_triple.of_ok hinv (Prod.ext hstop rfl)).2.openAfter_eq_nil

end World

end NpcapBackend

end NetworkEngine.Npcap
