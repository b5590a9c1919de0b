import NetworkEngine.Engine.Failover

/-!
# CaptureRoute — the active capture backend and the capture worker

`initialize` makes the first backend by name that declares `Capture` the active one, a failover the
one that the manager's policy prefers, and `capture_start` has a worker for WinDivert only.  Runs of
the calls that move the route or follow it: the backend lifecycle, registration, capture failover and
the capture worker itself.
-/

namespace NetworkEngine

open Rust Transition

namespace EngineRuntime

/-- `EngineRuntime::register_backend`. -/
def registerBackend (descriptor : BackendDescriptor) : EngineOp Unit := do
  requireRunning
  match ← attempt (onManager (BackendManager.register descriptor)) with
  | .ok () => return ()
  | .error error => do
    onStatistics (·.recordError)
    throw error

namespace CaptureRoute

/-! ## 1. Calls and what is asked of them -/

inductive Call where
  | startBackend (n : NativeOutcomes) (name : String)
  | stopBackend (n : NativeOutcomes) (name : String)
  | restartBackend (nstop nstart : NativeOutcomes) (name : String)
  | registerBackend (descriptor : BackendDescriptor)
  | failoverCaptureBackend (n : NativeOutcomes) (choice : FailoverChoice) (failed : String)
  | captureStart (opened : Option Nat) (spawned : Bool)
  | captureStop

def step (e : EngineRuntime) : Call → EngineRuntime
  | .startBackend n name => (exec (EngineRuntime.startBackend n name) e).2
  | .stopBackend n name => (exec (EngineRuntime.stopBackend n name) e).2
  | .restartBackend nstop nstart name => (exec (EngineRuntime.restartBackend nstop nstart name) e).2
  | .registerBackend descriptor => (exec (EngineRuntime.registerBackend descriptor) e).2
  | .failoverCaptureBackend n choice failed =>
    (exec (EngineRuntime.failoverCaptureBackend n choice failed) e).2
  | .captureStart opened spawned => (exec (EngineRuntime.captureStart opened spawned) e).2
  | .captureStop => (exec EngineRuntime.captureStop e).2

/-- The active capture backend, when set, has a connected worker. -/
def Connected (e : EngineRuntime) : Prop :=
  ∀ name, e.activeCaptureBackend = some name → name = "windivert"

/-- The route can be run: `capture_start` fails for its native calls only, or because the engine
does not run. -/
structure Runnable (e : EngineRuntime) : Prop where
  connected : Connected e
  starts : ∀ opened spawned error, (exec (EngineRuntime.captureStart opened spawned) e).1 = .error error →
    (exec requireRunning e).1 = .error error ∨ opened = none ∨ spawned = false

/-- The refusal of a route that has no worker. -/
def noWorker (name : String) : EngineError :=
  .withMessage .capabilityUnavailable
    ("capture backend '" ++ name ++ "' has no connected Engine capture worker")

/-- The call cannot take the route off `name`. -/
def Call.LeavesRoute (name : String) : Call → Prop
  | .stopBackend _ other | .restartBackend _ _ other => other ≠ name
  | .failoverCaptureBackend _ _ _ => False
  | .startBackend _ _ | .registerBackend _ | .captureStart _ _ | .captureStop => True

/-! ## 2. What each call does to the route -/

/-- What `capture_start` decides by. -/
def session (e : EngineRuntime) : EngineState × Bool × Option String × Bool :=
  (e.state, e.initialized, e.activeCaptureBackend, e.captureThread)

variable {e : EngineRuntime} {name : String} {n : NativeOutcomes}
  {v : EngineState × Bool × Option String × Bool}

theorem keeps_session {ε α : Type} {x : Op EngineRuntime ε α}
    (h : ∀ e, session (exec x e).2 = session e) : Keeps (session · = v) x :=
  Keeps.of_run fun e he => (h e).trans he

theorem native_keeps_session (n : NativeOutcomes) (kind : BackendKind) :
    Keeps (session · = v) (startNative n kind) ∧ Keeps (session · = v) (stopNative n kind) := by
  cases kind <;> exact ⟨keeps_session fun _ => rfl, keeps_session fun _ => rfl⟩

theorem onManager_keeps_session {ε α : Type} (x : Op BackendManager ε α) :
    Keeps (session · = v) (onManager x) := keeps_session fun _ => rfl

theorem onStatistics_keeps_session {ε : Type} (f : EngineStatistics → EngineStatistics) :
    Keeps (session · = v) (onStatistics f : Op EngineRuntime ε Unit) := keeps_session fun _ => rfl

theorem startBackend_keeps_session : Keeps (session · = v) (EngineRuntime.startBackend n name) :=
  startBackend_keeps (fun _ => onManager_keeps_session _) (fun _ _ he => he)
    (onKind_keeps fun kind _ => (native_keeps_session n kind).1)

/-- A stop clears a route to the backend it stops, and no other. -/
theorem stopBackend_keeps_session (hname : v.2.2.1 ≠ some name) :
    Keeps (session · = v) (EngineRuntime.stopBackend n name) := by
  apply stopBackend_keeps (fun _ => onManager_keeps_session _) (fun _ _ he => he)
    (onKind_keeps fun kind _ => (native_keeps_session n kind).2)
  · rintro e rfl hroute
    exact absurd hroute hname
  · exact fun _ he => he

theorem registerBackend_keeps_session (descriptor : BackendDescriptor) :
    Keeps (session · = v) (EngineRuntime.registerBackend descriptor) := by
  apply requireRunning_keeps.bind
  intro _
  apply (onManager_keeps_session _).attempt.bind
  intro r
  cases r with
  | error error => exact (onStatistics_keeps_session _).bind fun _ => Keeps.throw
  | ok _ => exact Keeps.pure

/-- Npcap is the route, and no worker runs. -/
structure Stuck (e : EngineRuntime) : Prop extends Serving e where
  route : e.activeCaptureBackend = some "npcap"
  idle : e.captureThread = false

theorem stuck_iff : Stuck e ↔ session e = (⟨true, false, .running⟩, true, some "npcap", false) := by
  rw [session, Prod.mk.injEq, Prod.mk.injEq, Prod.mk.injEq]
  constructor
  · exact fun h => ⟨h.state, h.initialized, h.route, h.idle⟩
  · exact fun h => ⟨⟨h.1, h.2.1⟩, h.2.2.1, h.2.2.2⟩

theorem Stuck.captureStart (h : Stuck e) (opened : Option Nat) (spawned : Bool) :
    exec (EngineRuntime.captureStart opened spawned) e = (.error (noWorker "npcap"), e) := by
  rw [EngineRuntime.captureStart, exec_bind_ok h.requireRunning, exec_bind_ok (exec_getState e),
    h.idle, h.route]
  rfl

theorem Stuck.step (h : Stuck e) {call : Call} (hcall : call.LeavesRoute "npcap") :
    Stuck (step e call) := by
  have hstuck {x : EngineOp Unit} (hkeeps : Keeps
      (session · = (⟨true, false, .running⟩, true, some "npcap", false)) x) :
      Stuck (exec x e).2 := stuck_iff.mpr (hkeeps.run (stuck_iff.mp h))
  cases call with
  | startBackend n name => exact hstuck startBackend_keeps_session
  | stopBackend n name =>
    exact hstuck (stopBackend_keeps_session fun heq => hcall (Option.some.inj heq).symm)
  | restartBackend nstop nstart name =>
    have hstop := stopBackend_keeps_session (n := nstop)
      (v := (⟨true, false, .running⟩, true, some "npcap", false))
      fun heq => hcall (Option.some.inj heq).symm
    exact hstuck (restartBackend_keeps hstop startBackend_keeps_session)
  | registerBackend descriptor => exact hstuck (registerBackend_keeps_session descriptor)
  | failoverCaptureBackend n choice failed => exact absurd hcall id
  | captureStart opened spawned =>
    rw [CaptureRoute.step, h.captureStart]
    exact h
  | captureStop => exact ⟨⟨h.state, h.initialized⟩, h.route, rfl⟩

/-- Over a connected route only the native calls of `capture_start` can fail. -/
theorem runnable_iff (h : Serving e) : Runnable e ↔ Connected e := by
  constructor
  · exact fun hrunnable => hrunnable.connected
  · intro hconnected
    refine ⟨hconnected, fun opened spawned error hfails => .inr ?_⟩
    rw [EngineRuntime.captureStart, exec_bind_ok h.requireRunning, exec_bind_ok (exec_getState e)]
      at hfails
    have hname : e.activeCaptureBackend.getD "windivert" = "windivert" := by
      cases hroute : e.activeCaptureBackend with
      | none => rfl
      | some name => exact hconnected name hroute
    cases hthread : e.captureThread with
    | true =>
      rw [hthread] at hfails
      cases hfails
    | false =>
      simp only [hthread, hname] at hfails
      cases opened with
      | none => exact .inl rfl
      | some handle =>
        cases spawned with
        | false => exact .inr rfl
        | true => cases hfails

/-- A clean stop of Npcap, once it runs, leaves a route that can be run. -/
theorem runnable_of_npcap_stopped (h : Serving e) (hruns : Runs e .npcap)
    (hroute : e.activeCaptureBackend = some "npcap") :
    Runnable (exec (EngineRuntime.stopBackend n "npcap") e).2 := by
  have hstop := stopBackend_runs (n := n) h hruns e rfl
  have hclean : n.stops .npcap = true := rfl
  rcases hexec : exec (EngineRuntime.stopBackend n BackendKind.npcap.name) e with ⟨error | _, e'⟩
  · rw [hexec] at hstop
    exact absurd hclean hstop.2
  · rw [hexec] at hstop
    have hnone : e'.activeCaptureBackend = none := by
      rw [hstop.1.capture, hroute]
      rfl
    rw [show exec (EngineRuntime.stopBackend n "npcap") e = (.ok (), e') from hexec]
    have hserving : Serving e' :=
      ⟨hstop.1.state.trans h.state, hstop.1.initialized.trans h.initialized⟩
    rw [runnable_iff hserving]
    intro name hname
    rw [hnone] at hname
    cases hname

theorem Stuck.not_runnable (h : Stuck e) : ¬ Runnable e := by
  intro hrunnable
  exact absurd (hrunnable.connected _ h.route) (by decide)

theorem stuck_initial (c : EngineConfig) : Stuck (initialEngine c) := ⟨⟨rfl, rfl⟩, rfl, rfl⟩

/-! ## 3. Runs -/

/-- No session has a route it can run in every state: the one that initialization selects has no
worker, and `capture_start` refuses it, whatever its native calls would answer, until a stop of
Npcap or a failover takes the route away. -/
theorem route_not_runnable (c : EngineConfig) (n₀ : NativeOutcomes) (sync : EngineResult Unit)
    (e₀ : EngineRuntime) (h : initializeRuntime c n₀ sync = .ok e₀) (calls : List Call) :
    ¬ Always step Runnable e₀ calls ∧
      ((∀ call ∈ calls, call.LeavesRoute "npcap") → ∀ opened spawned,
        (exec (EngineRuntime.captureStart opened spawned) (run step e₀ calls)).1 =
          .error (noWorker "npcap")) := by
  rw [eq_initialEngine h]
  have hstart := stuck_initial c
  constructor
  · intro halways
    exact hstart.not_runnable (halways [] calls rfl)
  · intro hleaves opened spawned
    have halong : Along step (fun _ call => call.LeavesRoute "npcap") (initialEngine c) calls := by
      intro before call after hsplit
      apply hleaves
      rw [hsplit]
      exact List.mem_append_right _ List.mem_cons_self
    have hend : Stuck (run step (initialEngine c) calls) :=
      run_inv_of_along (fun _ _ hs hcall => hs.step hcall) hstart halong
    rw [hend.captureStart]

/-- A session that starts WinDivert, and is refused the capture over the route to Npcap. -/
theorem route_not_runnable_started :
    ∃ e₀, initializeRuntime smallConfig allSucceed (.ok ()) = .ok e₀ ∧
      (exec (EngineRuntime.captureStart (some 1) true)
        (run step e₀ [.startBackend allSucceed "windivert"])).1 = .error (noWorker "npcap") := by
  have h := initializeRuntime_ok (c := smallConfig) (n := allSucceed) rfl rfl
  refine ⟨_, h, (route_not_runnable _ _ _ _ h _).2 (fun call hcall => ?_) _ _⟩
  rw [List.mem_singleton.mp hcall]
  trivial

/-- `capture_start` right after initialization, with every native call succeeding. -/
theorem fresh_capture_refused :
    ∃ e₀, initializeRuntime smallConfig allSucceed (.ok ()) = .ok e₀ ∧ ¬ Connected e₀ ∧
      (exec requireRunning e₀).1 = .ok () ∧
      (exec (EngineRuntime.captureStart (some 1) true) e₀).1 = .error (noWorker "npcap") := by
  have h := initializeRuntime_ok (c := smallConfig) (n := allSucceed) rfl rfl
  have hstuck := stuck_initial smallConfig
  refine ⟨_, h, fun hconnected => ?_, ?_, ?_⟩
  · exact absurd (hconnected _ hstuck.route) (by decide)
  · rw [hstuck.requireRunning]
  · rw [hstuck.captureStart]

end CaptureRoute

end EngineRuntime

end NetworkEngine
