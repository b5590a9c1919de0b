import NetworkEngine.Engine.Agreement
import NetworkEngine.Engine.Shutdown

/-!
# Completion — whether shutdown completes

Initialization puts a running IP Helper instance into its slot and leaves the manager's lifecycle
of `"iphelper"` at `stopped`.  From there no call brings the two together: the instance refuses a
second start, which ends in `failed`, and the manager refuses to stop a backend it does not run.
So the slot is never emptied, and the last check of shutdown finds it.  An attempt that fails has
moved the engine to `shuttingDown`, from where no later attempt gets past `begin_shutdown`.
-/

namespace NetworkEngine

open Rust Transition

namespace EngineRuntime

/-! ## 1. The IP Helper slot -/

/-- The IP Helper instance runs, and the manager does not know it. -/
structure IphelperHeld (e : EngineRuntime) : Prop where
  slot : e.iphelperBackend = some ⟨true⟩
  lifecycle : e.backendManager.lifecycleOf "iphelper" = some .stopped ∨
    e.backendManager.lifecycleOf "iphelper" = some .failed

/-- What touches neither the slot nor the manager. -/
theorem keeps_held {ε α : Type} {x : Op EngineRuntime ε α}
    (h : ∀ e, (exec x e).2.iphelperBackend = e.iphelperBackend ∧
      (exec x e).2.backendManager = e.backendManager) : Keeps IphelperHeld x := by
  refine Keeps.of_run fun e he => ?_
  obtain ⟨hslot, hmanager⟩ := h e
  exact ⟨hslot.trans he.slot, by rw [hmanager]; exact he.lifecycle⟩

theorem held_of_core (e e' : EngineRuntime) (h : e'.core = e.core) (he : IphelperHeld e) :
    IphelperHeld e' := by
  simp only [core, Prod.mk.injEq] at h
  obtain ⟨-, -, hmanager, -, -, -, hslot, -⟩ := h
  exact ⟨hslot.trans he.slot, by rw [hmanager]; exact he.lifecycle⟩

theorem onBackend_keeps_held {α : Type} {name : String} (h : name ≠ "iphelper")
    (f : ManagedBackend → EngineResult (α × ManagedBackend)) :
    Keeps IphelperHeld (onManager (BackendManager.onBackend name f)) := by
  refine Keeps.of_run fun e he => ⟨he.slot, ?_⟩
  have hframe := BackendManager.onBackend_lifecycleOf_of_ne f e.backendManager h.symm
  simp only [onManager, exec_zoom, hframe]
  exact he.lifecycle

/-- A native call by name, when the name is not that of `kind₀`. -/
theorem onKind_keeps_of_ne {ε : Type} {inv : EngineRuntime → Prop}
    {f : BackendKind → Op EngineRuntime ε Unit} {name : String} (kind₀ : BackendKind)
    (h : name ≠ kind₀.name) (hf : ∀ kind ≠ kind₀, Keeps inv (f kind)) :
    Keeps inv (onKind f name) := by
  apply onKind_keeps
  intro kind hkind
  apply hf kind
  rintro rfl
  exact h (BackendKind.fromName_eq_some.mp hkind)

/-- The native calls of the other backends. -/
theorem native_keeps_held (n : NativeOutcomes) {kind : BackendKind} (hkind : kind ≠ .ipHelper) :
    Keeps IphelperHeld (startNative n kind) ∧ Keeps IphelperHeld (stopNative n kind) ∧
      Keeps IphelperHeld (takeNative n kind) := by
  cases kind with
  | ipHelper => exact absurd rfl hkind
  | npcap | winDivert | wfp | etw =>
    refine ⟨?_, ?_, ?_⟩
    all_goals exact keeps_held fun _ => ⟨rfl, rfl⟩

theorem onStatistics_keeps_held {ε : Type} (f : EngineStatistics → EngineStatistics) :
    Keeps IphelperHeld (onStatistics f : Op EngineRuntime ε Unit) :=
  keeps_held fun _ => ⟨rfl, rfl⟩

/-! ### Starting and stopping IP Helper itself -/

/-- In the middle of `start_backend("iphelper")`. -/
structure IphelperStarting (e : EngineRuntime) : Prop where
  slot : e.iphelperBackend = some ⟨true⟩
  lifecycle : e.backendManager.lifecycleOf "iphelper" = some .starting

theorem managerStart_iphelper :
    Triple IphelperHeld (onManager (BackendManager.start "iphelper"))
      (fun _ => IphelperStarting) (fun _ => IphelperHeld) := by
  intro e he
  obtain ⟨l, hl, hstart⟩ :
      ∃ l, e.backendManager.lifecycleOf "iphelper" = some l ∧ l.canStart = true := by
    obtain hl | hl := he.lifecycle
    · exact ⟨_, hl, rfl⟩
    · exact ⟨_, hl, rfl⟩
  obtain ⟨m, hrun, hm⟩ := BackendManager.start_ok hl hstart
  rw [onManager, exec_zoom, hrun]
  exact ⟨he.slot, hm⟩

/-- The instance is running already, so starting it fails and changes nothing. -/
theorem startNative_iphelper (n : NativeOutcomes) :
    Triple IphelperStarting (attempt (onKind (startNative n) "iphelper") : EngineOp (EngineResult Unit))
      (fun r e => IphelperStarting e ∧ ∃ error, r = .error error) (fun _ => IphelperHeld) := by
  intro e he
  have hkind : onKind (startNative n) "iphelper" = startNative n .ipHelper := rfl
  -- `start` answers `AlreadyRunning`, whatever the tables would have said.
  simp only [exec_attempt, hkind, startNative, onIphelper, exec_zoom, he.slot]
  exact ⟨⟨rfl, he.lifecycle⟩, _, rfl⟩

theorem backendFailed_iphelper (error : EngineError) :
    Triple IphelperStarting (backendFailed "iphelper" error)
      (fun _ => IphelperHeld) (fun _ => IphelperHeld) := by
  have hfailed : Triple IphelperStarting
      (attempt (onManager (BackendManager.setLifecycle "iphelper" .failed)) :
        EngineOp (EngineResult Unit)) (fun _ => IphelperHeld) (fun _ => IphelperHeld) := by
    intro e he
    -- `Starting → Failed` is in the matrix, so the discarded result is a success.
    obtain ⟨m, hrun, hm⟩ := BackendManager.setLifecycle_ok he.lifecycle
      (show BackendLifecycle.canTransitionTo .starting .failed = true from rfl)
    simp only [exec_attempt, onManager, exec_zoom, hrun]
    exact ⟨he.slot, .inr hm⟩
  exact hfailed.bind fun _ => (onStatistics_keeps_held _).bind fun _ => Keeps.throw

theorem startBackend_keeps_held (n : NativeOutcomes) (name : String) :
    Keeps IphelperHeld (startBackend n name) := by
  by_cases h : name = "iphelper"
  · subst h
    refine requireRunning_keeps.bind fun _ => ?_
    refine managerStart_iphelper.bind fun _ => (startNative_iphelper n).bind fun r => ?_
    cases r with
    | error error => exact (backendFailed_iphelper error).pre_mono fun _ he => he.1
    -- The native start never succeeds.
    | ok _ =>
      refine Triple.unreachable.pre_mono ?_
      rintro _ ⟨-, _, hr⟩
      nomatch hr
  · exact startBackend_keeps (fun f => onBackend_keeps_held h f)
      (fun _ _ he => ⟨he.slot, he.lifecycle⟩)
      (onKind_keeps_of_ne .ipHelper h fun _ hkind => (native_keeps_held n hkind).1)

theorem managerStop_iphelper :
    Triple IphelperHeld (onManager (BackendManager.stop "iphelper"))
      (fun _ _ => False) (fun _ => IphelperHeld) := by
  intro e he
  obtain ⟨l, hl, hstop⟩ :
      ∃ l, e.backendManager.lifecycleOf "iphelper" = some l ∧ l.canStop = false := by
    obtain hl | hl := he.lifecycle
    · exact ⟨_, hl, rfl⟩
    · exact ⟨_, hl, rfl⟩
  obtain ⟨error, hrun⟩ := BackendManager.stop_refused hl hstop
  rw [onManager, exec_zoom, hrun]
  exact he

theorem stopBackend_keeps_held (n : NativeOutcomes) (name : String) :
    Keeps IphelperHeld (stopBackend n name) := by
  by_cases h : name = "iphelper"
  · subst h
    exact requireRunning_keeps.bind fun _ => managerStop_iphelper.bind fun _ => Triple.unreachable
  -- Clearing a route touches neither the slot nor the manager.
  · exact stopBackend_keeps (fun f => onBackend_keeps_held h f)
      (fun _ _ he => ⟨he.slot, he.lifecycle⟩)
      (onKind_keeps_of_ne .ipHelper h fun _ hkind => (native_keeps_held n hkind).2.1)
      (fun _ he _ => ⟨he.slot, he.lifecycle⟩) fun _ he => ⟨he.slot, he.lifecycle⟩

/-! ## 2. Shutdown never completes -/

theorem stopOne_keeps_held (n : NativeOutcomes) (name : String) :
    Keeps IphelperHeld (stopOne n name) := by
  by_cases h : name = "iphelper"
  · -- The manager does not call the backend stoppable, and the round passes it over.
    subst h
    refine Keeps.of_run fun e he => ?_
    have hskip : exec (stopOne n "iphelper") e = (.ok false, e) := by
      obtain ⟨b, hb, hl⟩ : ∃ b, e.backendManager.backends.lookup "iphelper" = some b ∧
          b.runtime.lifecycle.canStop = false := by
        obtain hl | hl := he.lifecycle
        all_goals
          obtain ⟨b, hb, hl⟩ := BackendManager.lifecycleOf_eq_some hl
          exact ⟨b, hb, by rw [hl]; rfl⟩
      -- `canStop` is false in `stopped` and in `failed`.
      rw [stopOne, exec_bind_ok (exec_getState e)]
      simp only [BackendManager.runtimeState, hb, hl]
      rfl
    rw [hskip]
    exact he
  · exact stopOne_keeps (onKind_keeps_of_ne .ipHelper h fun _ hkind => (native_keeps_held n hkind).2.2)
      (fun _ => onBackend_keeps_held h _) fun _ _ he => ⟨he.slot, he.lifecycle⟩

/-- The last check of shutdown finds the slot. -/
theorem checkReleased_held :
    Triple IphelperHeld checkReleased (fun _ _ => False) (fun _ => IphelperHeld) := by
  intro e he
  -- One slot that is not empty is enough.
  have hholds : e.holdsHandle = true := by
    simp only [holdsHandle, he.slot, Option.isSome_some, Bool.or_true, Bool.true_or]
  rw [checkReleased, exec_bind_ok (exec_getState e)]
  simp only [hholds, if_true]
  exact he

theorem shutdown_held (n : NativeOutcomes) :
    Triple IphelperHeld (shutdown n) (fun _ _ => False) (fun _ => IphelperHeld) := by
  refine Triple.bind Keeps.getState fun e => ?_
  split
  -- Two workers and the state of the engine: none of them is the slot or the manager.
  · refine Triple.bind (keeps_held fun _ => ⟨rfl, rfl⟩) fun _ => ?_
    refine Triple.bind (keeps_held fun _ => ⟨rfl, rfl⟩) fun _ => ?_
    refine Triple.bind (keeps_held fun _ => ⟨rfl, rfl⟩) fun _ => ?_
    refine Triple.bind (release_keeps (fun e e' h _ => held_of_core e e' h) (closeBus_keeps held_of_core) n
      (stopOne_keeps_held n)) fun _ => ?_
    exact checkReleased_held.bind fun _ => Triple.unreachable
  · exact Triple.throw fun _ he => he

theorem held_initial (c : EngineConfig) : IphelperHeld (initialEngine c) :=
  ⟨rfl, .inl (by show builtinManager.lifecycleOf _ = _; decide +kernel)⟩

theorem held_of_fresh {e : EngineRuntime} (h : Fresh e) : IphelperHeld e :=
  ⟨h.slot, .inl (by rw [h.manager]; decide +kernel)⟩

/-- The calls of a session, with what the native side answers to each. -/
inductive Call where
  | startBackend (n : NativeOutcomes) (name : String)
  | stopBackend (n : NativeOutcomes) (name : String)
  | shutdown (n : NativeOutcomes)

def step (e : EngineRuntime) : Call → EngineRuntime
  | .startBackend n name => (exec (startBackend n name) e).2
  | .stopBackend n name => (exec (stopBackend n name) e).2
  | .shutdown n => (exec (shutdown n) e).2

theorem step_held (e : EngineRuntime) (call : Call) (he : IphelperHeld e) :
    IphelperHeld (step e call) := by
  cases call with
  | startBackend n name => exact (startBackend_keeps_held n name).run he
  | stopBackend n name => exact (stopBackend_keeps_held n name).run he
  | shutdown n => exact Keeps.run ((shutdown_held n).post_mono fun _ _ h => h.elim) he

theorem shutdown_refused {e : EngineRuntime} (he : IphelperHeld e) (n : NativeOutcomes) :
    (exec (shutdown n) e).1 ≠ .ok () ∧ (exec (shutdown n) e).2.iphelperBackend = some ⟨true⟩ := by
  refine ⟨fun hok => ?_, (step_held e (.shutdown n) he).slot⟩
  exact (shutdown_held n).of_ok he (Prod.ext hok rfl : exec (shutdown n) e = (.ok (), _))

/-- From no state of a session does shutdown return `Ok`, whatever the native calls answer, and
the IP Helper instance stays in its slot. -/
theorem shutdown_never_completes (c : EngineConfig) (n₀ : NativeOutcomes) (sync : EngineResult Unit)
    (e₀ : EngineRuntime) (h : initializeRuntime c n₀ sync = .ok e₀) (calls : List Call)
    (n : NativeOutcomes) :
    (exec (shutdown n) (run step e₀ calls)).1 ≠ .ok () ∧
      (exec (shutdown n) (run step e₀ calls)).2.iphelperBackend = some ⟨true⟩ :=
  shutdown_refused (run_inv step_held (held_of_fresh (fresh_of_init h)) calls) n

/-- Every native call succeeds. -/
def allSucceed : NativeOutcomes :=
  ⟨some 1, true, true, .ok 1, .ok (), .ok (), .ok (), true, some 1⟩

def smallConfig : EngineConfig := ⟨16, 16, 2048, 16⟩

/-- WinDivert is started, and stopped again. -/
def windivertCalls : List Call := [.startBackend allSucceed "windivert",
  .stopBackend allSucceed "windivert"]

theorem shutdown_never_completes_windivert :
    ∃ e₀, initializeRuntime smallConfig allSucceed (.ok ()) = .ok e₀ ∧ allSucceed.StopsSucceed ∧
      (exec (shutdown allSucceed) (run step e₀ windivertCalls)).1 ≠ .ok () ∧
      (exec (shutdown allSucceed) (run step e₀ windivertCalls)).2.iphelperBackend =
        some ⟨true⟩ := by
  have h := initializeRuntime_ok (c := smallConfig) (n := allSucceed) rfl rfl
  exact ⟨_, h, ⟨rfl, rfl, rfl, rfl⟩,
    shutdown_never_completes smallConfig allSucceed _ _ h windivertCalls _⟩

/-- A fresh engine on which no backend was ever started is not shut down. -/
theorem fresh_shutdown_incomplete :
    ∃ e₀, initializeRuntime smallConfig allSucceed (.ok ()) = .ok e₀ ∧ allSucceed.StopsSucceed ∧
      (exec (shutdown allSucceed) e₀).1 ≠ .ok () := by
  have h := initializeRuntime_ok (c := smallConfig) (n := allSucceed) rfl rfl
  exact ⟨_, h, ⟨rfl, rfl, rfl, rfl⟩,
    (shutdown_refused (held_of_fresh (fresh_of_init h)) allSucceed).1⟩

/-! ## 3. Shutdown is not retried -/

/-- The engine is between `begin_shutdown` and the end of a shutdown. -/
structure ShuttingDown (e : EngineRuntime) : Prop where
  initialized : e.isInitialized = true
  lifecycle : e.state.lifecycle = .shuttingDown

/-- What touches neither the lifecycle nor the `initialized` flag. -/
theorem keeps_shuttingDown {ε α : Type} {x : Op EngineRuntime ε α}
    (h : ∀ e, (exec x e).2.state = e.state ∧ (exec x e).2.initialized = e.initialized) :
    Keeps ShuttingDown x := by
  refine Keeps.of_run fun e he => ?_
  obtain ⟨hstate, hinitialized⟩ := h e
  refine ⟨?_, by rw [hstate]; exact he.lifecycle⟩
  rw [isInitialized, hstate, hinitialized]
  exact he.initialized

theorem stopOne_keeps_shuttingDown (n : NativeOutcomes) (name : String) :
    Keeps ShuttingDown (stopOne n name) := by
  have hnative : Keeps ShuttingDown (onKind (takeNative n) name) := by
    apply onKind_keeps
    intro kind _
    cases kind <;> exact keeps_shuttingDown fun _ => ⟨rfl, rfl⟩
  exact stopOne_keeps hnative (fun _ => keeps_shuttingDown fun _ => ⟨rfl, rfl⟩)
    fun _ _ he => ⟨he.initialized, he.lifecycle⟩

theorem shuttingDown_of_core (e e' : EngineRuntime) (h : e'.core = e.core) (he : ShuttingDown e) :
    ShuttingDown e' := by
  simp only [core, Prod.mk.injEq] at h
  obtain ⟨hstate, hinitialized, -⟩ := h
  refine ⟨?_, by rw [hstate]; exact he.lifecycle⟩
  rw [isInitialized, hstate, hinitialized]
  exact he.initialized

theorem release_keeps_shuttingDown (n : NativeOutcomes) : Keeps ShuttingDown (release n) :=
  release_keeps (fun e e' h _ => shuttingDown_of_core e e' h) (closeBus_keeps shuttingDown_of_core) n
    (stopOne_keeps_shuttingDown n)

theorem checkReleased_keeps {inv : EngineRuntime → Prop} : Keeps inv checkReleased :=
  Keeps.getState.bind fun _ => Keeps.ite Keeps.throw Keeps.pure

/-- A shutdown that gets as far as a native stop and fails leaves the engine shutting down. -/
theorem shutdown_failed (n : NativeOutcomes) :
    Triple (fun _ => True) (shutdown n) (fun _ _ => True)
      (fun error e => error.errorCode = .backendStopFailed → ShuttingDown e) := by
  let epost : EngineError → EngineRuntime → Prop :=
    fun error e => error.errorCode = .backendStopFailed → ShuttingDown e
  let marked : EngineRuntime → Prop := fun e => e.isInitialized = true
  have hbegin : Triple marked (onState EngineState.beginShutdown)
      (fun _ => ShuttingDown) epost := by
    intro e he
    rw [onState, exec_zoom, EngineState.beginShutdown, exec_atomically]
    cases hlifecycle : e.state.lifecycle with
    | running => exact ⟨he, rfl⟩
    | uninitialized | stopped | initializing | shuttingDown | failed => exact nofun
  have hrelease : Triple ShuttingDown (release n) (fun _ => ShuttingDown) epost :=
    (release_keeps_shuttingDown n).error_mono fun _ _ he _ => he
  have hcheck : Triple ShuttingDown checkReleased (fun _ => ShuttingDown) epost :=
    checkReleased_keeps.error_mono fun _ _ he _ => he
  have hend : Triple ShuttingDown (onState EngineState.shutdown) (fun _ _ => True) epost := by
    intro e he
    rw [onState, exec_zoom, EngineState.shutdown, exec_atomically, he.lifecycle]
    trivial
  intro e _
  rw [shutdown, exec_bind_ok (exec_getState e)]
  by_cases h : e.isInitialized = true
  · rw [if_pos h]
    have hproducers : Triple marked captureStop (fun _ => marked) epost :=
      Triple.modifyState fun _ he => he
    have hworker : Triple marked stopProcessingWorker (fun _ => marked) epost :=
      Triple.modifyState fun _ he => he
    exact (hproducers.bind fun _ => hworker.bind fun _ => hbegin.bind fun _ =>
      hrelease.bind fun _ => hcheck.bind fun _ => hend.bind fun _ =>
        Triple.modifyState fun _ he => he) e h
  · rw [if_neg h]
    exact nofun

/-- The next attempt stops at `begin_shutdown`. -/
theorem shutdown_shuttingDown (n : NativeOutcomes) :
    Triple ShuttingDown (shutdown n) (fun _ _ => False)
      (fun error e => error = .invalidStateTransition ∧ ShuttingDown e) := by
  intro e he
  rw [shutdown, exec_bind_ok (exec_getState e), if_pos he.initialized]
  have hproducers : Triple ShuttingDown captureStop (fun _ => ShuttingDown)
      (fun error e => error = .invalidStateTransition ∧ ShuttingDown e) :=
    Triple.modifyState fun _ he => ⟨he.initialized, he.lifecycle⟩
  have hworker : Triple ShuttingDown stopProcessingWorker (fun _ => ShuttingDown)
      (fun error e => error = .invalidStateTransition ∧ ShuttingDown e) :=
    Triple.modifyState fun _ he => ⟨he.initialized, he.lifecycle⟩
  have hbegin : Triple ShuttingDown (onState EngineState.beginShutdown) (fun _ _ => False)
      (fun error e => error = .invalidStateTransition ∧ ShuttingDown e) := by
    intro e he
    -- From `shuttingDown` the table of states leads to `stopped` only.
    rw [onState, exec_zoom, EngineState.beginShutdown, exec_atomically, he.lifecycle]
    exact ⟨rfl, he.initialized, he.lifecycle⟩
  exact (hproducers.bind fun _ => hworker.bind fun _ => hbegin.bind fun _ => Triple.unreachable) e he

/-- No call is served any more. -/
theorem requireRunning_shuttingDown :
    Triple ShuttingDown requireRunning (fun _ _ => False) (fun _ => ShuttingDown) := by
  intro e he
  have hstate : e.state.initialized = true := by
    have h := he.initialized
    rw [isInitialized, Bool.and_eq_true] at h
    exact h.2
  rw [requireRunning, exec_bind_ok (exec_getState e), if_pos he.initialized, exec_ofResult,
    EngineState.requireRunning, if_pos hstate, he.lifecycle]
  exact he

theorem step_shuttingDown (e : EngineRuntime) (call : Call) (he : ShuttingDown e) :
    ShuttingDown (step e call) := by
  cases call with
  | startBackend n name =>
    exact Keeps.run (requireRunning_shuttingDown.bind fun _ => Triple.unreachable) he
  | stopBackend n name =>
    exact Keeps.run (requireRunning_shuttingDown.bind fun _ => Triple.unreachable) he
  | shutdown n =>
    refine Keeps.run (x := shutdown n) ?_ he
    exact ((shutdown_shuttingDown n).post_mono fun _ _ h => h.elim).error_mono fun _ _ h => h.2

/-- Once a shutdown has failed at a native stop, every later one is refused, whatever is called
in between and whatever the native calls answer. -/
theorem failed_shutdown_never_retried (e : EngineRuntime) (n₁ : NativeOutcomes) (error : EngineError)
    (hfailed : (exec (shutdown n₁) e).1 = .error error)
    (hcode : error.errorCode = .backendStopFailed) (calls : List Call) (n₂ : NativeOutcomes) :
    (exec (shutdown n₂) (run step (exec (shutdown n₁) e).2 calls)).1 =
      .error .invalidStateTransition := by
  -- An error with this code comes from behind `begin_shutdown`.
  have hdown : ShuttingDown (exec (shutdown n₁) e).2 :=
    (shutdown_failed n₁).of_error trivial (Prod.ext hfailed rfl) hcode
  exact (shutdown_shuttingDown n₂).fst_eq_error (run_inv step_shuttingDown hdown calls)
    fun _ _ h => h.1

/-! ### A native stop that fails -/

/-- The WinDivert backend runs, with an open handle. -/
structure WindivertOpen (e : EngineRuntime) : Prop where
  lifecycle : e.backendManager.lifecycleOf "windivert" = some .running
  slot : ∃ handle, e.windivertBackend = some ⟨.open, some handle⟩

/-- The engine after the start of WinDivert as its only backend. -/
structure WindivertStarted (e : EngineRuntime) : Prop extends WindivertOpen e where
  state : e.state = ⟨true, false, .running⟩
  initialized : e.initialized = true
  gateway : e.gateway.enabled = false

theorem startBackend_windivert {n : NativeOutcomes} (hopen : n.windivertOpen.isSome = true) :
    Triple Fresh (startBackend n "windivert") (fun _ => WindivertStarted) (fun _ _ => False) := by
  intro e he
  -- A fresh engine has no instance in the slot.
  have hslot : NativeDown e .winDivert := by
    intro b hb
    rw [he.windivert] at hb
    cases hb
  have hrests : Rests e .winDivert := by
    have hlookup := builtinManager_lookup .winDivert
    rw [← he.manager] at hlookup
    exact ⟨.inl ⟨_, hlookup, rfl, rfl, nofun⟩, hslot⟩
  -- What a start of a resting backend does is known from the agreement of both sides.
  have hstart := startBackend_rests (n := n) ⟨he.state, he.initialized⟩ hrests (by decide) e rfl
  rw [show "windivert" = BackendKind.winDivert.name from rfl]
  rcases hexec : exec (startBackend n BackendKind.winDivert.name) e with ⟨error | _, e'⟩
  · rw [hexec] at hstart
    exact hstart.2 hopen
  · rw [hexec] at hstart
    have hamid := hstart.1
    rcases hamid.managed with ⟨b, hb, -, hl, -⟩
    rcases hamid.slot with ⟨instance₁, hinstance, handle, rfl⟩
    have hlifecycle : e'.backendManager.lifecycleOf BackendKind.winDivert.name = some .running := by
      rw [BackendManager.lifecycleOf, hb, ← hl]
      rfl
    exact ⟨⟨hlifecycle, handle, hinstance⟩, hamid.state.trans he.state,
      hamid.initialized.trans he.initialized, by rw [hamid.gateway]; exact he.gateway⟩

/-- A handle that does not close is reported by the round of its backend. -/
theorem stopOne_windivert {epost : EngineError → EngineRuntime → Prop} {n : NativeOutcomes}
    (hclose : n.windivertClose = false) :
    Triple WindivertOpen (stopOne n "windivert") (fun r _ => r = true) epost := by
  intro e he
  obtain ⟨b, hb, hl⟩ := BackendManager.lifecycleOf_eq_some he.lifecycle
  obtain ⟨handle, hslot⟩ := he.slot
  have hnative : exec (onKind (takeNative n) "windivert") e =
      (.error (), { e with windivertBackend := some ⟨.failed, none⟩ }) := by
    show exec (takeNative n .winDivert) e = _
    simp only [takeNative, onWindivert, exec_zoom, hslot, hclose]
    rfl
  rw [stopOne, exec_bind_ok (exec_getState e)]
  simp only [BackendManager.runtimeState, hb, hl]
  -- A running backend is stopped natively, and the failed close is what the round reports.
  rw [if_pos (show BackendLifecycle.canStop .running = true from rfl),
    exec_bind_ok (exec_attempt e _), hnative]
  rfl

theorem stopOne_keeps_windivert {epost : EngineError → EngineRuntime → Prop} (n : NativeOutcomes)
    {name : String} (h : name ≠ "windivert") :
    Triple WindivertOpen (stopOne n name) (fun _ => WindivertOpen) epost := by
  have hnative (kind : BackendKind) (hkind : kind ≠ .winDivert) :
      Keeps WindivertOpen (takeNative n kind) := by
    cases kind with
    | winDivert => exact absurd rfl hkind
    | npcap | ipHelper | wfp | etw => exact Keeps.of_run fun _ he => ⟨he.lifecycle, he.slot⟩
  refine stopOne_keeps (onKind_keeps_of_ne .winDivert h hnative) (fun lifecycle => ?_)
    fun _ _ he => ⟨he.lifecycle, he.slot⟩
  refine Keeps.of_run fun e he => ⟨?_, he.slot⟩
  exact (BackendManager.onBackend_lifecycleOf_of_ne _ e.backendManager h.symm).trans he.lifecycle

/-- A WinDivert handle that does not close ends the teardown. -/
theorem stopAllNativeBackends_windivert {n : NativeOutcomes} (hclose : n.windivertClose = false) :
    Triple WindivertOpen (stopAllNativeBackends n) (fun _ _ => False)
      (fun error _ => error =
        .withMessage .backendStopFailed "one or more native backends failed to stop") := by
  intro e he
  -- The loop goes over the registered names, and this is one of them.
  have hmem : "windivert" ∈ e.backendManager.names := by
    obtain ⟨b, hb, -⟩ := BackendManager.lifecycleOf_eq_some he.lifecycle
    rw [BackendManager.names, Finset.mem_sort, Finmap.mem_keys]
    exact Finmap.mem_of_lookup_eq_some hb
  have hround (name : String) : Triple (fun _ => True) (stopOne n name) (fun _ _ => True)
      (fun error (_ : EngineRuntime) => error =
        .withMessage .backendStopFailed "one or more native backends failed to stop") :=
    stopOne_keeps (Keeps.of_run fun _ _ => trivial) (fun _ => Keeps.of_run fun _ _ => trivial)
      fun _ _ _ => trivial
  rw [stopAllNativeBackends, exec_bind_ok (exec_getState e)]
  refine Triple.bind (Triple.foldlM_any hround (fun name hname => stopOne_keeps_windivert n hname)
    (stopOne_windivert hclose) hmem) (fun failed => ?_) e he
  rintro e rfl
  rfl

theorem release_windivert {n : NativeOutcomes} (hclose : n.windivertClose = false) :
    Triple (fun e => WindivertOpen e ∧ e.gateway.enabled = false) (release n) (fun _ _ => False)
      (fun error _ => error =
        .withMessage .backendStopFailed "one or more native backends failed to stop") := by
  have hgateway : Triple (fun e => WindivertOpen e ∧ e.gateway.enabled = false) stopGateway
      (fun _ => WindivertOpen) (fun error _ => error =
        .withMessage .backendStopFailed "one or more native backends failed to stop") := by
    rintro e ⟨he, hdisabled⟩
    rw [stopGateway, exec_bind_ok (exec_getState e), hdisabled]
    exact he
  refine hgateway.bind fun _ => Triple.bind (closeBus_keeps fun e e' h he => ?_) fun _ =>
    (stopAllNativeBackends_windivert hclose).bind fun _ => Triple.unreachable
  -- Closing and emptying the bus leaves the core alone.
  simp only [core, Prod.mk.injEq] at h
  obtain ⟨-, -, hmanager, -, hslot, -⟩ := h
  exact ⟨by rw [hmanager]; exact he.lifecycle, by rw [hslot]; exact he.slot⟩

theorem shutdown_windivert {n : NativeOutcomes} (hclose : n.windivertClose = false) :
    Triple WindivertStarted (shutdown n) (fun _ _ => False)
      (fun error _ => error =
        .withMessage .backendStopFailed "one or more native backends failed to stop") := by
  have hbegin : Triple WindivertStarted (onState EngineState.beginShutdown)
      (fun _ e => WindivertOpen e ∧ e.gateway.enabled = false) (fun error _ => error =
        .withMessage .backendStopFailed "one or more native backends failed to stop") := by
    intro e he
    rw [onState, exec_zoom, he.state]
    exact ⟨⟨he.lifecycle, he.slot⟩, he.gateway⟩
  intro e he
  have hinitialized : e.isInitialized = true := by
    rw [isInitialized, he.initialized, he.state]
    rfl
  rw [shutdown, exec_bind_ok (exec_getState e), if_pos hinitialized, captureStop,
    exec_bind_ok (exec_modifyState e _), stopProcessingWorker,
    exec_bind_ok (exec_modifyState _ _)]
  exact (hbegin.bind fun _ => (release_windivert hclose).bind fun _ => Triple.unreachable) _
    ⟨⟨he.lifecycle, he.slot⟩, he.state, he.initialized, he.gateway⟩

/-- Every native call succeeds but the close of the WinDivert handle. -/
def closeFails : NativeOutcomes := { allSucceed with windivertClose := false }

/-- A session in which the first shutdown fails at the close of the WinDivert handle. -/
theorem windivert_session : ∃ e₀ e₁, initializeRuntime smallConfig allSucceed (.ok ()) = .ok e₀ ∧
    exec (startBackend allSucceed "windivert") e₀ = (.ok (), e₁) ∧
    (exec (shutdown closeFails) e₁).1 =
      .error (.withMessage .backendStopFailed "one or more native backends failed to stop") := by
  have h := initializeRuntime_ok (c := smallConfig) (n := allSucceed) rfl rfl
  have hstart := startBackend_windivert (n := allSucceed) rfl _ (fresh_of_init h)
  match hexec : exec (startBackend allSucceed "windivert") (initialEngine smallConfig) with
  | (.ok _, e₁) =>
    rw [hexec] at hstart
    exact ⟨_, e₁, h, hexec,
      (shutdown_windivert (n := closeFails) rfl).fst_eq_error hstart fun _ _ h => h⟩
  | (.error _, _) =>
    rw [hexec] at hstart
    exact hstart.elim

theorem failed_shutdown_never_retried_windivert :
    ∃ e₁ error, (exec (shutdown closeFails) e₁).1 = .error error ∧
      error.errorCode = .backendStopFailed ∧
      (exec (shutdown allSucceed) (exec (shutdown closeFails) e₁).2).1 =
        .error .invalidStateTransition := by
  obtain ⟨e₀, e₁, -, -, hfailed⟩ := windivert_session
  exact ⟨e₁, _, hfailed, rfl,
    failed_shutdown_never_retried e₁ closeFails _ hfailed rfl [] allSucceed⟩

/-- After one failed close of the WinDivert handle, the next attempt fails although every native
call succeeds. -/
theorem shutdown_retry_refused :
    ∃ e₀ e₁, initializeRuntime smallConfig allSucceed (.ok ()) = .ok e₀ ∧
      exec (startBackend allSucceed "windivert") e₀ = (.ok (), e₁) ∧
      (exec (shutdown closeFails) e₁).1 =
        .error (.withMessage .backendStopFailed "one or more native backends failed to stop") ∧
      allSucceed.StopsSucceed ∧
      (exec (shutdown allSucceed) (exec (shutdown closeFails) e₁).2).1 ≠ .ok () := by
  obtain ⟨e₀, e₁, hinit, hstart, hfailed⟩ := windivert_session
  have hdown := (shutdown_failed closeFails).of_error trivial (Prod.ext hfailed rfl) rfl
  have hretry := (shutdown_shuttingDown allSucceed).fst_eq_error hdown fun _ _ h => h.1
  refine ⟨e₀, e₁, hinit, hstart, hfailed, ⟨rfl, rfl, rfl, rfl⟩, ?_⟩
  rw [hretry]
  nofun

end EngineRuntime

end NetworkEngine
