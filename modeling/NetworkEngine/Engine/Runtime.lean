import NetworkEngine.Backend.Manager
import NetworkEngine.Backend.Native
import NetworkEngine.Bus.PacketBus
import NetworkEngine.Engine.State
import NetworkEngine.Flow.Processing
import NetworkEngine.Gateway.Capability
import NetworkEngine.Lib.Transition

/-!
# Runtime — the engine object

`EngineRuntime`, its initialization and `start_backend` / `stop_backend`.  The engine keeps the
native instance of each backend in a slot next to the manager's lifecycle of that backend, and
moves the two in separate steps.  Parts of the runtime that no modelled function reads (buffer
pool, metadata, load balancer, network state, metrics, packet policy) are left out.
-/

namespace NetworkEngine

open Rust Transition

/-! ## 1. The engine object -/

structure EngineRuntime where
  state : EngineState
  packetBus : PacketBus
  flowTable : FlowTable
  dedup : DedupFilter
  backendManager : BackendManager
  gateway : GatewayCapability
  statistics : EngineStatistics
  processingStop : Bool
  /-- Whether the handle of a worker thread is held. -/
  processingThread : Bool
  captureStopFlag : Bool
  captureThread : Bool
  windivertAction : Option WinDivertBackend
  npcapBackend : Option NpcapBackend
  windivertBackend : Option WinDivertBackend
  wfpBackend : Option WfpEngine
  iphelperBackend : Option IpHelperBackend
  etwBackend : Option EtwBackend
  activeCaptureBackend : Option String
  activeReinjectionBackend : Option String
  initialized : Bool

structure EngineConfig where
  queueCapacity : Nat
  poolMaxSize : Nat
  bufferCapacity : Nat
  maxFlows : Nat
  deriving DecidableEq, Repr

def EngineConfig.validate (c : EngineConfig) : EngineResult Unit :=
  if c.queueCapacity = 0 then
    .error (.withMessage .invalidArgument "queue_capacity must be greater than zero")
  else if c.poolMaxSize = 0 then
    .error (.withMessage .invalidArgument "pool_max_size must be greater than zero")
  else if c.bufferCapacity = 0 then
    .error (.withMessage .invalidArgument "buffer_capacity must be greater than zero")
  else if c.maxFlows = 0 then
    .error (.withMessage .invalidArgument "max_flows must be greater than zero")
  else .ok ()

abbrev EngineOp (α : Type) := Op EngineRuntime EngineError α

namespace EngineRuntime

def new (c : EngineConfig) : EngineRuntime where
  state := .new
  packetBus := .new c.queueCapacity
  flowTable := .withDefaults c.maxFlows
  dedup := .new 65536
  backendManager := .new
  gateway := .new {}
  statistics := .new
  processingStop := false
  processingThread := false
  captureStopFlag := false
  captureThread := false
  windivertAction := none
  npcapBackend := none
  windivertBackend := none
  wfpBackend := none
  iphelperBackend := none
  etwBackend := none
  activeCaptureBackend := none
  activeReinjectionBackend := none
  initialized := false

/-- The lifecycles, and the native instances in their slots. -/
def core (e : EngineRuntime) : EngineState × Bool × BackendManager × Option NpcapBackend ×
    Option WinDivertBackend × Option WfpEngine × Option IpHelperBackend × Option EtwBackend :=
  (e.state, e.initialized, e.backendManager, e.npcapBackend, e.windivertBackend, e.wfpBackend,
    e.iphelperBackend, e.etwBackend)

def isInitialized (e : EngineRuntime) : Bool := e.initialized && e.state.initialized

def requireRunning : EngineOp Unit := do
  let e ← getState
  if e.isInitialized then ofResult e.state.requireRunning
  else throw (.withMessage .notInitialized "engine is not initialized")

section Parts

variable {ε α : Type}

def onState (x : Op EngineState ε α) : Op EngineRuntime ε α :=
  zoom (·.state) (fun e state => { e with state }) x

def onBus (x : Op PacketBus ε α) : Op EngineRuntime ε α :=
  zoom (·.packetBus) (fun e packetBus => { e with packetBus }) x

def onManager (x : Op BackendManager ε α) : Op EngineRuntime ε α :=
  zoom (·.backendManager) (fun e backendManager => { e with backendManager }) x

def onGateway (x : Op GatewayCapability ε α) : Op EngineRuntime ε α :=
  zoom (·.gateway) (fun e gateway => { e with gateway }) x

def onAction (x : Op (Option WinDivertBackend) ε α) : Op EngineRuntime ε α :=
  zoom (·.windivertAction) (fun e windivertAction => { e with windivertAction }) x

def onNpcap (x : Op (Option NpcapBackend) ε α) : Op EngineRuntime ε α :=
  zoom (·.npcapBackend) (fun e npcapBackend => { e with npcapBackend }) x

def onWindivert (x : Op (Option WinDivertBackend) ε α) : Op EngineRuntime ε α :=
  zoom (·.windivertBackend) (fun e windivertBackend => { e with windivertBackend }) x

def onWfp (x : Op (Option WfpEngine) ε α) : Op EngineRuntime ε α :=
  zoom (·.wfpBackend) (fun e wfpBackend => { e with wfpBackend }) x

def onIphelper (x : Op (Option IpHelperBackend) ε α) : Op EngineRuntime ε α :=
  zoom (·.iphelperBackend) (fun e iphelperBackend => { e with iphelperBackend }) x

def onEtw (x : Op (Option EtwBackend) ε α) : Op EngineRuntime ε α :=
  zoom (·.etwBackend) (fun e etwBackend => { e with etwBackend }) x

def onStatistics (f : EngineStatistics → EngineStatistics) : Op EngineRuntime ε Unit :=
  modifyState fun e => { e with statistics := f e.statistics }

def setActiveCaptureBackend (name : Option String) : Op EngineRuntime ε Unit :=
  modifyState fun e => { e with activeCaptureBackend := name }

def setActiveReinjectionBackend (name : Option String) : Op EngineRuntime ε Unit :=
  modifyState fun e => { e with activeReinjectionBackend := name }

end Parts

/-! ## 2. Native slots -/

section Slots

variable {β : Type}

/-- `if guard.is_none() { *guard = Some(new) }`, then `start` on the instance. -/
def startSlot (new : β) (start : Op β EngineError Unit) : Op (Option β) EngineError Unit :=
  fun slot =>
    let r := exec start (slot.getD new)
    (r.1, some r.2)

/-- `guard.as_mut().ok_or(missing)?`, then `stop` on the instance, which stays in its slot. -/
def stopSlot (missing : String) (stop : Op β EngineError Unit) : Op (Option β) EngineError Unit :=
  fun slot =>
    match slot with
    | none => (.error (.withMessage .backendShutdownFailed missing), none)
    | some b =>
      let r := exec stop b
      (r.1, some r.2)

/-- The slot of a backend at shutdown: an instance that stops is taken out. -/
def takeSlot {ε : Type} (stop : Op β ε Unit) : Op (Option β) ε Unit :=
  fun slot =>
    match slot with
    | none => (.ok (), none)
    | some b =>
      match exec stop b with
      | (.ok (), _) => (.ok (), none)
      | (.error e, b') => (.error e, some b')

end Slots

/-- The error of a native start, under the engine's code and text. -/
def startError (name : String) (debug : String) : EngineError :=
  .withMessage .backendInitializationFailed (name ++ " start failed: " ++ debug)

def stopError (name : String) (debug : String) : EngineError :=
  .withMessage .backendShutdownFailed (name ++ " stop failed: " ++ debug)

def missingInstance (name : String) : String :=
  name ++ " backend has no native instance while lifecycle is active"

/-- The `match name` of `start_backend`. -/
def startNative (n : NativeOutcomes) : BackendKind → EngineOp Unit
  | .npcap => onNpcap (startSlot .new (mapErr (startError "Npcap" ·.debug) NpcapBackend.start))
  | .winDivert =>
    onWindivert (startSlot .new
      (mapErr (startError "WinDivert" ·.debug) (WinDivertBackend.start n.windivertOpen)))
  | .wfp => onWfp (startSlot .new (WfpEngine.openEngine n.wfpOpen n.wfpAddSublayer))
  | .ipHelper =>
    onIphelper (startSlot .new
      (mapErr (startError "IP Helper" ·.debug) (IpHelperBackend.start n.iphelperRefresh)))
  | .etw =>
    onEtw (startSlot .new (mapErr (startError "ETW" ·.debug) (EtwBackend.start n.etwRegister)))

/-- The `match name` of `stop_backend`. -/
def stopNative (n : NativeOutcomes) : BackendKind → EngineOp Unit
  | .npcap =>
    onNpcap (stopSlot (missingInstance "Npcap")
      (mapErr (stopError "Npcap" ·.debug) NpcapBackend.stop))
  | .winDivert =>
    onWindivert (stopSlot (missingInstance "WinDivert")
      (mapErr (stopError "WinDivert" ·.debug) (WinDivertBackend.stop n.windivertClose)))
  | .wfp => onWfp (stopSlot (missingInstance "WFP") (WfpEngine.close n.wfpRemoveSublayer n.wfpClose))
  | .ipHelper =>
    onIphelper (stopSlot (missingInstance "IP Helper")
      (mapErr (stopError "IP Helper" ·.debug) IpHelperBackend.stop))
  | .etw =>
    onEtw (stopSlot (missingInstance "ETW") (mapErr (stopError "ETW" ·.debug) EtwBackend.stop))

/-- A name that is no built-in backend has nothing native to do. -/
def onKind {ε : Type} (f : BackendKind → Op EngineRuntime ε Unit) (name : String) :
    Op EngineRuntime ε Unit :=
  match BackendKind.fromName name with
  | some kind => f kind
  | none => return ()

/-! ## 3. Starting and stopping a backend -/

/-- The tail of both functions when the native call failed. -/
def backendFailed (name : String) (error : EngineError) : EngineOp Unit := do
  let _ : EngineResult Unit ← attempt (onManager (BackendManager.setLifecycle name .failed))
  onStatistics (·.recordBackendFailure)
  throw error

def startBackend (n : NativeOutcomes) (name : String) : EngineOp Unit := do
  requireRunning
  onManager (BackendManager.start name)
  match ← attempt (onKind (startNative n) name) with
  -- The lifecycle was moved already, and is corrected to `failed`.
  | .error error => backendFailed name error
  | .ok () => do
    onManager (BackendManager.markRunning name)
    let _ : EngineResult BackendHealth ← attempt (onManager (BackendManager.recordSuccess name))

/-- The load balancer's counters of the backend, which are forgotten too, are left out. -/
def stopBackend (n : NativeOutcomes) (name : String) : EngineOp Unit := do
  requireRunning
  onManager (BackendManager.stop name)
  match ← attempt (onKind (stopNative n) name) with
  | .error error => backendFailed name error
  | .ok () => do
    onManager (BackendManager.markStopped name)
    let e ← getState
    if e.activeCaptureBackend = some name then setActiveCaptureBackend none
    if e.activeReinjectionBackend = some name then setActiveReinjectionBackend none

/-! ### What they leave alone -/

section Keeps

variable {inv : EngineRuntime → Prop} {n : NativeOutcomes} {name : String}

theorem requireRunning_keeps : Keeps inv requireRunning := by
  refine Keeps.bind Keeps.getState fun e => ?_
  split
  · exact Keeps.ofResult
  · exact Keeps.throw

theorem onKind_keeps {ε : Type} {f : BackendKind → Op EngineRuntime ε Unit}
    (hf : ∀ kind, BackendKind.fromName name = some kind → Keeps inv (f kind)) :
    Keeps inv (onKind f name) := by
  unfold onKind
  split
  · exact hf _ ‹_›
  · exact Keeps.pure

variable (hbackend : ∀ {α : Type} (f : ManagedBackend → EngineResult (α × ManagedBackend)),
    Keeps inv (onManager (BackendManager.onBackend name f)))
  (hstatistics : ∀ (f : EngineStatistics → EngineStatistics) e,
    inv e → inv { e with statistics := f e.statistics })

include hbackend hstatistics

theorem backendFailed_keeps (error : EngineError) : Keeps inv (backendFailed name error) := by
  apply (hbackend _).attempt.bind
  intro _
  exact Keeps.bind (Keeps.modifyState (hstatistics _)) fun _ => Keeps.throw

/-- A start keeps what its native call keeps, beside the entry of the backend and the counters. -/
theorem startBackend_keeps (hnative : Keeps inv (onKind (startNative n) name)) :
    Keeps inv (startBackend n name) := by
  apply requireRunning_keeps.bind
  intro _
  apply (hbackend _).bind
  intro _
  apply hnative.attempt.bind
  intro r
  cases r with
  | error error => exact backendFailed_keeps hbackend hstatistics error
  | ok _ => exact (hbackend _).bind fun _ => (hbackend _).attempt.bind fun _ => Keeps.pure

/-- A stop also clears a route to the backend. -/
theorem stopBackend_keeps (hnative : Keeps inv (onKind (stopNative n) name))
    (hcapture : ∀ e, inv e → e.activeCaptureBackend = some name →
      inv { e with activeCaptureBackend := none })
    (hreinjection : ∀ e, inv e → inv { e with activeReinjectionBackend := none }) :
    Keeps inv (stopBackend n name) := by
  apply requireRunning_keeps.bind
  intro _
  apply (hbackend _).bind
  intro _
  apply hnative.attempt.bind
  intro r
  cases r with
  | error error => exact backendFailed_keeps hbackend hstatistics error
  | ok _ =>
    apply (hbackend _).bind
    intro _
    apply Triple.getState_bind
    intro e he
    have hlast : Keeps inv (if e.activeReinjectionBackend = some name
        then setActiveReinjectionBackend none else pure () : EngineOp Unit) :=
      Keeps.ite (Keeps.modifyState hreinjection) Keeps.pure
    by_cases hroute : e.activeCaptureBackend = some name
    · rw [if_pos hroute]
      refine Triple.bind (Triple.modifyState ?_) fun _ => hlast
      rintro _ rfl
      exact hcapture _ he hroute
    · rw [if_neg hroute]
      refine Triple.pre_mono hlast ?_
      rintro _ rfl
      exact he

end Keeps

/-! ## 4. Initialization -/

/-- One round of `register_builtin_backends`. -/
def registerBuiltin (kind : BackendKind) : EngineOp Unit := do
  let e ← getState
  -- A backend that is registered already is left as it is.
  if e.backendManager.contains kind.descriptor.name then return ()
  onManager (BackendManager.register kind.descriptor)

def registerBuiltinBackends : EngineOp Unit := BackendKind.all.forM registerBuiltin

/-- The first registered backend, by name, that declares `capability`. -/
def routeFor (capability : BackendCapability) (e : EngineRuntime) : Option String :=
  (e.backendManager.descriptors.find? (capability ∈ ·.capabilities)).map (·.name)

/-- The IP Helper instance of a new engine.  `sync` is what `synchronize_network_state` answers. -/
def startIphelper (n : NativeOutcomes) (sync : EngineResult Unit) : EngineOp Unit :=
  match exec (IpHelperBackend.start n.iphelperRefresh) .new with
  | (.error error, _) =>
    throw (.withMessage .backendInitFailed ("IP Helper initialization failed: " ++ error.debug))
  | (.ok (), iphelper) => do
    ofResult sync
    modifyState fun e => { e with iphelperBackend := some iphelper }

def selectRoutes : EngineOp Unit := do
  let e ← getState
  match routeFor .capture e with
  | none =>
    throw (.withMessage .capabilityUnavailable "no capture-capable backend is registered")
  | some capture => do
    setActiveCaptureBackend (some capture)
    match routeFor .reinjection e with
    | none => return ()
    | some reinjection => setActiveReinjectionBackend (some reinjection)

/-- `EngineRuntime::initialize` behind `EngineRuntime::new`. -/
def initializeSteps (n : NativeOutcomes) (sync : EngineResult Unit) : EngineOp Unit := do
  let e ← getState
  if e.packetBus.queue.capacity = 0 then
    throw (.withMessage .invalidArgument "packet bus capacity must be greater than zero")
  else do
    onState EngineState.init
    modifyState fun e => { e with initialized := true }
    registerBuiltinBackends
    startIphelper n sync
    selectRoutes

/-- `EngineRuntime::initialize`: an engine that fails to initialize is dropped. -/
def initializeRuntime (c : EngineConfig) (n : NativeOutcomes) (sync : EngineResult Unit) :
    EngineResult EngineRuntime := do
  c.validate
  match exec (initializeSteps n sync) (.new c) with
  | (.ok (), e) => return e
  | (.error error, _) => throw error

/-! ## 5. What initialization leaves -/

theorem registerBuiltin_exec {e : EngineRuntime} {kind : BackendKind}
    (hnew : e.backendManager.contains kind.descriptor.name = false) :
    exec (registerBuiltin kind) e =
      (.ok (), { e with backendManager := e.backendManager.registered kind }) := by
  have hregister : exec (BackendManager.register kind.descriptor) e.backendManager =
      (.ok (), e.backendManager.registered kind) := by
    refine exec_atomically_ok ?_
    rw [if_neg (by cases kind <;> decide), if_neg (of_decide_eq_false hnew)]
    rfl
  rw [registerBuiltin, exec_bind_ok (exec_getState e), hnew]
  simp only [Bool.false_eq_true, if_false]
  rw [onManager, exec_zoom, hregister]

/-- The manager of an initialized engine. -/
def builtinManager : BackendManager := run BackendManager.registered .new BackendKind.all

theorem forM_registerBuiltin (kinds : List BackendKind) (e : EngineRuntime)
    (hnew : Along BackendManager.registered
      (fun m kind => m.contains kind.descriptor.name = false) e.backendManager kinds) :
    exec (kinds.forM registerBuiltin) e =
      (.ok (), { e with
        backendManager := run BackendManager.registered e.backendManager kinds }) := by
  induction kinds generalizing e with
  | nil => rfl
  | cons kind kinds ih =>
    -- Each registration is new to the manager that the ones before it left.
    obtain ⟨hhead, htail⟩ := along_cons.mp hnew
    show exec (registerBuiltin kind >>= fun _ => kinds.forM registerBuiltin) e = _
    rw [exec_bind_ok (registerBuiltin_exec hhead)]
    exact ih _ htail

theorem registerBuiltinBackends_exec {e : EngineRuntime} (h : e.backendManager = .new) :
    exec registerBuiltinBackends e = (.ok (), { e with backendManager := builtinManager }) := by
  rw [registerBuiltinBackends, forM_registerBuiltin, h]
  · rfl
  · rw [h]
    exact along_cons.mpr ⟨by decide, along_cons.mpr ⟨by decide, along_cons.mpr ⟨by decide,
      along_cons.mpr ⟨by decide, along_cons.mpr ⟨by decide, along_nil⟩⟩⟩⟩⟩

theorem builtinManager_names :
    builtinManager.names = ["etw", "iphelper", "npcap", "wfp", "windivert"] := by
  have hkeys : builtinManager.backends.keys = {"etw", "iphelper", "npcap", "wfp", "windivert"} := by
    decide +kernel
  rw [BackendManager.names, hkeys]
  -- Both lists are sorted, and they have the same elements.
  apply List.Perm.eq_of_pairwise (fun a b _ _ h h' => le_antisymm h h') (Finset.pairwise_sort _ _)
  · decide +kernel
  · apply (List.perm_ext_iff_of_nodup (Finset.sort_nodup _ _) (by decide)).mpr
    intro name
    simp

/-- Npcap comes before WinDivert, and WinDivert alone can reinject. -/
theorem selectRoutes_exec {e : EngineRuntime} (h : e.backendManager = builtinManager) :
    exec selectRoutes e = (.ok (), { e with
      activeCaptureBackend := some "npcap", activeReinjectionBackend := some "windivert" }) := by
  have hroutes : routeFor .capture e = some "npcap" ∧ routeFor .reinjection e = some "windivert" := by
    rw [routeFor, routeFor, BackendManager.descriptors, h, builtinManager_names]
    decide +kernel
  rw [selectRoutes, exec_bind_ok (exec_getState e)]
  simp only [hroutes]
  rfl

/-- The engine that a successful initialization returns. -/
def initialEngine (c : EngineConfig) : EngineRuntime :=
  { new c with
    state := ⟨true, false, .running⟩
    initialized := true
    backendManager := builtinManager
    iphelperBackend := some ⟨true⟩
    activeCaptureBackend := some "npcap"
    activeReinjectionBackend := some "windivert" }

/-- Initialization succeeds unless the bus has no room, the tables cannot be read or the network
state cannot be synchronized. -/
theorem initializeSteps_triple (n : NativeOutcomes) (sync : EngineResult Unit) (c : EngineConfig) :
    Triple (· = .new c) (initializeSteps n sync) (fun _ e => e = initialEngine c)
      (fun _ _ => c.queueCapacity = 0 ∨ n.iphelperRefresh = false ∨ sync ≠ .ok ()) := by
  -- Each step is run from the engine that the one before it leaves.
  let epost : EngineError → EngineRuntime → Prop :=
    fun _ _ => c.queueCapacity = 0 ∨ n.iphelperRefresh = false ∨ sync ≠ .ok ()
  let started : EngineRuntime :=
    { new c with state := ⟨true, false, .running⟩, initialized := true }
  have hinit : Triple (· = .new c) (onState EngineState.init)
      (fun _ e => { e with initialized := true } = started) epost := by
    rintro e rfl
    rfl
  have hmark : Triple (fun e => { e with initialized := true } = started)
      (modifyState fun e => { e with initialized := true }) (fun _ e => e = started) epost :=
    Triple.modifyState fun _ he => he
  have hregister : Triple (· = started) registerBuiltinBackends
      (fun _ e => e = { started with backendManager := builtinManager }) epost := by
    rintro e rfl
    rw [registerBuiltinBackends_exec rfl]
  have hiphelper : Triple (· = { started with backendManager := builtinManager })
      (startIphelper n sync)
      (fun _ e => e = { started with
        backendManager := builtinManager, iphelperBackend := some ⟨true⟩ }) epost := by
    rintro e rfl
    cases hrefresh : n.iphelperRefresh with
    | false =>
      rw [startIphelper, hrefresh]
      exact .inr (.inl hrefresh)
    | true =>
      cases hsync : sync with
      | error error =>
        rw [startIphelper, hrefresh]
        exact .inr (.inr (by rw [hsync]; nofun))
      | ok _ =>
        rw [startIphelper, hrefresh]
        rfl
  have hroutes : Triple (· = { started with
        backendManager := builtinManager, iphelperBackend := some ⟨true⟩ }) selectRoutes
      (fun _ e => e = initialEngine c) epost := by
    rintro e rfl
    rw [selectRoutes_exec rfl]
    rfl
  -- The capacity of the bus is looked at before anything is changed.
  rintro e rfl
  rw [initializeSteps, exec_bind_ok (exec_getState _)]
  by_cases hzero : (new c).packetBus.queue.capacity = 0
  · rw [if_pos hzero]
    exact .inl hzero
  · rw [if_neg hzero]
    exact (hinit.bind fun _ => hmark.bind fun _ => hregister.bind fun _ =>
      hiphelper.bind fun _ => hroutes) _ rfl

theorem eq_initialEngine {c : EngineConfig} {n : NativeOutcomes} {sync : EngineResult Unit}
    {e : EngineRuntime} (h : initializeRuntime c n sync = .ok e) : e = initialEngine c := by
  have htriple := initializeSteps_triple n sync c (.new c) rfl
  unfold initializeRuntime at h
  cases hc : c.validate with
  | error error =>
    rw [hc] at h
    nomatch h
  | ok _ =>
    rw [hc] at h
    match hexec : exec (initializeSteps n sync) (.new c) with
    | (.ok _, e') =>
      simp only [hexec] at h htriple
      obtain rfl := Except.ok.inj h
      exact htriple
    | (.error error, _) =>
      simp only [hexec] at h
      nomatch h

theorem initializeRuntime_ok {c : EngineConfig} {n : NativeOutcomes} (hc : c.validate = .ok ())
    (hn : n.iphelperRefresh = true) :
    initializeRuntime c n (.ok ()) = .ok (initialEngine c) := by
  have hcapacity : ¬ c.queueCapacity = 0 := by
    intro hzero
    rw [EngineConfig.validate, if_pos hzero] at hc
    nomatch hc
  have htriple := initializeSteps_triple n (.ok ()) c (.new c) rfl
  unfold initializeRuntime
  rw [hc]
  match hexec : exec (initializeSteps n (.ok ())) (.new c) with
  | (.ok _, e) =>
    simp only [hexec] at htriple
    rw [htriple]
    rfl
  | (.error error, _) =>
    simp only [hexec] at htriple
    -- None of the reasons for a failure is there.
    obtain hzero | hrefresh | hsync := htriple
    · exact absurd hzero hcapacity
    · rw [hn] at hrefresh
      nomatch hrefresh
    · exact absurd rfl hsync

/-- A new engine is running, with every backend stopped in the manager and a running IP Helper. -/
structure Fresh (e : EngineRuntime) : Prop where
  state : e.state = ⟨true, false, .running⟩
  initialized : e.initialized = true
  manager : e.backendManager = builtinManager
  slot : e.iphelperBackend = some ⟨true⟩
  windivert : e.windivertBackend = none
  gateway : e.gateway.enabled = false
  bus : ∃ capacity, e.packetBus = .new capacity

theorem fresh_of_init {c : EngineConfig} {n : NativeOutcomes} {sync : EngineResult Unit}
    {e : EngineRuntime} (h : initializeRuntime c n sync = .ok e) : Fresh e := by
  rw [eq_initialEngine h]
  exact ⟨rfl, rfl, rfl, rfl, rfl, rfl, _, rfl⟩

end EngineRuntime

end NetworkEngine
