import NetworkEngine.Engine.Failover

/-!
# GatewayControl — configuring, starting and stopping the gateway

`EngineRuntime::{gateway_config, gateway_start, gateway_stop, gateway_is_running}`.  Configuration
looks the capabilities up and hands the gateway flags; a start looks at the flags alone.  Routing
and neighbor information come from IP Helper, which the manager never runs, so that in a session of
the built-in backends no gateway is ever given the flags it needs to start.
-/

namespace NetworkEngine

open Rust Transition

/-- `NetworkStateSnapshot` by the ids of its interfaces and of its routes. -/
structure NetworkStateSnapshot where
  interfaces : List UInt64
  routes : List UInt64
  deriving DecidableEq, Repr

def NetworkStateSnapshot.findInterface (s : NetworkStateSnapshot) (id : UInt64) : Option UInt64 :=
  s.interfaces.find? (· = id)

namespace GatewayPolicy

variable (p : GatewayPolicy) (snapshot : NetworkStateSnapshot)

/-- The external interface of an enabled NAT exists. -/
def checkNat : EngineResult Unit :=
  match p.nat with
  | none => .ok ()
  | some nat =>
    if !nat.enabled then .ok ()
    else match nat.externalInterfaceId with
      | none =>
        .error (.withMessage .invalidArgument "enabled NAT requires an external interface")
      | some id =>
        if (snapshot.findInterface id.toUInt64).isNone then
          .error (.withMessage .capabilityUnavailable
            "NAT external interface is not present in NetworkState")
        else .ok ()

/-- Both interfaces of an enabled forwarding exist. -/
def checkForwarding : EngineResult Unit :=
  match p.forwarding with
  | none => .ok ()
  | some forwarding =>
    if !forwarding.enabled then .ok ()
    else match forwarding.ingressInterfaceId, forwarding.egressInterfaceId with
      | none, _ =>
        .error (.withMessage .invalidArgument "enabled forwarding requires an ingress interface")
      | some _, none =>
        .error (.withMessage .invalidArgument "enabled forwarding requires an egress interface")
      | some ingress, some egress =>
        if (snapshot.findInterface ingress.toUInt64).isNone ||
            (snapshot.findInterface egress.toUInt64).isNone then
          .error (.withMessage .capabilityUnavailable
            "gateway forwarding interface is not present in NetworkState")
        else .ok ()

/-- The preferred interface exists. -/
def checkRouting : EngineResult Unit :=
  match p.routing.preferredInterfaceId with
  | none => .ok ()
  | some id =>
    if (snapshot.findInterface id.toUInt64).isNone then
      .error (.withMessage .capabilityUnavailable
        "preferred routing interface is not present in NetworkState")
    else .ok ()

/-- A requested forwarding has what it needs. -/
def checkAvailable (reinjection routing neighbor : Bool) : EngineResult Unit :=
  if p.forwardingRequested && !reinjection then
    .error (.withMessage .capabilityUnavailable
      "no available backend supports reinjection; forwarding cannot be enabled")
  else if p.forwardingRequested && !routing then
    .error (.withMessage .capabilityUnavailable
      "routing capability is unavailable from active backends")
  -- The snapshot is looked at between the two capabilities.
  else if p.forwardingRequested && snapshot.routes.isEmpty then
    .error (.withMessage .capabilityUnavailable
      "routing capability is unavailable: NetworkState contains no routes")
  else if p.forwardingRequested && !neighbor then
    .error (.withMessage .capabilityUnavailable
      "neighbor capability is unavailable from active backends")
  else .ok ()

end GatewayPolicy

/-- What a stored gateway still lacks for its policy. -/
def GatewayCapability.checkFlags (g : GatewayCapability) : EngineResult Unit :=
  if g.policy.forwardingRequested && !g.capabilities.forwarding then
    .error (.withMessage .capabilityUnavailable "gateway forwarding capability is unavailable")
  else if g.policy.forwardingRequested && !g.capabilities.routing then
    .error (.withMessage .capabilityUnavailable "gateway routing capability is unavailable")
  else if g.policy.forwardingRequested && !g.capabilities.neighborResolution then
    .error (.withMessage .capabilityUnavailable "gateway neighbor capability is unavailable")
  else if g.policy.natRequested && !g.capabilities.nat then
    .error (.withMessage .capabilityUnavailable "gateway NAT capability is unavailable")
  else .ok ()

namespace EngineRuntime

/-! ## 1. The operations -/

/-- Some available backend declares `capability`. -/
def available (e : EngineRuntime) (capability : BackendCapability) : Bool :=
  !(e.backendManager.findCapable capability).isEmpty

/-- The flags that a gateway configured now is given. -/
def gatewayFlags (e : EngineRuntime) (snapshot : NetworkStateSnapshot) (policy : GatewayPolicy) :
    GatewayCapabilities where
  forwarding := e.available .reinjection
  -- The flag is about this snapshot; later changes of the network state do not reach it.
  routing := e.available .routeInfo && !snapshot.routes.isEmpty
  nat := policy.natRequested
  neighborResolution := e.available .neighborInfo

/-- `snapshot` is what the engine's network state holds at the call. -/
def gatewayConfig (snapshot : NetworkStateSnapshot) (policy : GatewayPolicy) : EngineOp Unit := do
  requireRunning
  ofResult (policy.validate.mapError fun _ => .withMessage .invalidArgument "invalid gateway policy")
  ofResult (policy.checkNat snapshot)
  ofResult (policy.checkForwarding snapshot)
  ofResult (policy.checkRouting snapshot)
  let e ← getState
  ofResult (policy.checkAvailable snapshot (e.available .reinjection) (e.available .routeInfo)
    (e.available .neighborInfo))
  -- The old gateway is replaced as a whole: a running one ends up disabled.
  modifyState fun e =>
    { e with gateway :=
      { GatewayCapability.new policy with capabilities := e.gatewayFlags snapshot policy } }

def gatewayStart : EngineOp Unit := do
  requireRunning
  let e ← getState
  ofResult (e.gateway.policy.validate.mapError fun _ =>
    .withMessage .invalidArgument "stored gateway policy is invalid")
  ofResult e.gateway.checkFlags
  mapErr (fun _ => .withMessage .gatewayNotReady "failed to start gateway")
    (onGateway GatewayCapability.start)

/-- The counter that it adds zero to is left out. -/
def gatewayStop : EngineOp Unit := do
  requireRunning
  let e ← getState
  -- A stop of a gateway that is off succeeds.
  if !e.gateway.enabled then return ()
  mapErr (fun _ => .withMessage .gatewayNotReady "failed to stop gateway")
    (onGateway GatewayCapability.stop)

def gatewayIsRunning (e : EngineRuntime) : Bool := e.gateway.isReady

/-! ## 2. What the manager can provide -/

variable {e : EngineRuntime} {kind : BackendKind} {name : String} {capability : BackendCapability}

/-- Between two calls, what is found capable is a built-in backend that runs. -/
theorem Settled.mem_findCapable (h : Settled e)
    (hname : name ∈ e.backendManager.findCapable capability) :
    ∃ kind, name = BackendKind.name kind ∧ Runs e kind ∧ kind ≠ .ipHelper ∧
      capability ∈ kind.descriptor.capabilities := by
  rcases BackendManager.mem_namesWhere.mp hname with ⟨b, hb, hcapable⟩
  rcases Bool.and_eq_true_iff.mp hcapable with ⟨havailable, hsupports⟩
  rcases h.known name b hb with ⟨kind, rfl⟩
  refine ⟨kind, rfl, ?_⟩
  rcases h.backends kind with ⟨hruns, hkind⟩ | hrests
  · rcases hruns.managed with ⟨b', hb', hdescriptor, -⟩
    rw [hb] at hb'
    refine ⟨hruns, hkind, ?_⟩
    rw [← hdescriptor, ← Option.some.inj hb']
    exact of_decide_eq_true hsupports
  · exact absurd ⟨b, hb, havailable⟩ hrests.not_operational

/-- IP Helper alone declares routes, and it does not run. -/
theorem Settled.available_routeInfo (h : Settled e) : e.available .routeInfo = false := by
  rw [available, Bool.not_eq_false', List.isEmpty_iff]
  apply List.eq_nil_iff_forall_not_mem.mpr
  intro name hname
  rcases h.mem_findCapable hname with ⟨kind, -, -, hkind, hcapability⟩
  -- What declares `RouteInfo` is IP Helper, and that is excluded.
  revert hkind hcapability
  cases kind <;> decide

theorem checkAvailable_ok {policy : GatewayPolicy} {snapshot : NetworkStateSnapshot}
    {reinjection routing neighbor : Bool} (hrequested : policy.forwardingRequested = true)
    (h : policy.checkAvailable snapshot reinjection routing neighbor = .ok ()) :
    reinjection = true ∧ routing = true ∧ neighbor = true := by
  unfold GatewayPolicy.checkAvailable at h
  rw [hrequested] at h
  revert h
  -- Each missing capability is an error of its own, so success leaves no choice.
  cases reinjection <;> cases routing <;> cases neighbor <;> cases snapshot.routes.isEmpty <;>
    decide

/-- When a forwarding gateway is configured, its capabilities are there. -/
theorem gatewayConfig_capable {snapshot : NetworkStateSnapshot} {policy : GatewayPolicy}
    (hrequested : policy.forwardingRequested = true) :
    Triple (fun _ => True) (gatewayConfig snapshot policy)
      (fun _ e => ∀ capability ∈ [BackendCapability.reinjection, .routeInfo, .neighborInfo],
        e.available capability = true) (fun _ _ => True) := by
  -- The checks of the policy read no state of the engine.
  have hcheck (r : EngineResult Unit) :
      Triple (fun _ : EngineRuntime => True) (ofResult r) (fun _ _ => True) (fun _ _ => True) :=
    Keeps.ofResult
  apply Triple.bind requireRunning_keeps
  intro _
  apply (hcheck _).bind
  intro _
  apply (hcheck _).bind
  intro _
  apply (hcheck _).bind
  intro _
  apply (hcheck _).bind
  intro _
  apply Triple.getState_bind
  intro s _
  cases havailable : policy.checkAvailable snapshot (s.available .reinjection)
    (s.available .routeInfo) (s.available .neighborInfo) with
  | error error => exact fun _ _ => trivial
  | ok _ =>
    rcases checkAvailable_ok hrequested havailable with ⟨hreinjection, hrouting, hneighbor⟩
    -- Storing the gateway does not touch the manager that was asked.
    rintro _ rfl
    rw [exec_bind_ok (exec_ofResult _ _)]
    intro capability hmem
    simp only [List.mem_cons, List.not_mem_nil, or_false] at hmem
    rcases hmem with rfl | rfl | rfl
    · exact hreinjection
    · exact hrouting
    · exact hneighbor

/-! ## 3. The gateway over whole runs -/

/-- The gateway is off, and without the routing flag. -/
structure GatewayOff (e : EngineRuntime) : Prop extends Settled e where
  disabled : e.gateway.enabled = false
  unrouted : e.gateway.capabilities.routing = false

/-- Settled, with the gateway as it was: no backend operation touches the gateway. -/
def SameGateway (g : GatewayCapability) (e : EngineRuntime) : Prop := Settled e ∧ e.gateway = g

theorem startBackend_keeps_gateway (g : GatewayCapability) (n : NativeOutcomes) (name : String) :
    Keeps (SameGateway g) (startBackend n name) := by
  apply startBackend_keeps_but
  intro kind e e' _ hsame h
  exact hsame.gateway.trans h

theorem stopBackend_keeps_gateway (g : GatewayCapability) (n : NativeOutcomes) (name : String) :
    Keeps (SameGateway g) (stopBackend n name) := by
  apply stopBackend_keeps_but
  intro kind e e' _ hsame h
  exact hsame.gateway.trans h

theorem failoverBackend_keeps_gateway (g : GatewayCapability) (route : Route) (n : NativeOutcomes)
    (choice : FailoverChoice) (failed : String) :
    Keeps (SameGateway g) (failoverBackend route n choice failed) := by
  apply failoverBackend_keeps (stopBackend_keeps_gateway g n failed)
  · intro s alt hs halt
    rcases hs.1.alternative_kind halt with ⟨kind, hkind⟩
    refine ⟨hs.1.publish route hkind, ?_⟩
    cases route <;> exact hs.2
  · exact fun s hs => ⟨hs.1.of_core rfl hs.1.capture hs.1.reinjection hs.1.action, hs.2⟩

theorem failover_step_gateway (h : Settled e) (call : Failover.Call) :
    SameGateway e.gateway (Failover.step e call) := by
  cases call with
  | startBackend n name => exact (startBackend_keeps_gateway _ n name).run ⟨h, rfl⟩
  | stopBackend n name => exact (stopBackend_keeps_gateway _ n name).run ⟨h, rfl⟩
  | restartBackend nstop nstart name =>
    exact (restartBackend_keeps (stopBackend_keeps_gateway _ nstop name)
      (startBackend_keeps_gateway _ nstart name)).run ⟨h, rfl⟩
  | isolateFailedBackend n name =>
    exact (isolateFailedBackend_keeps (stopBackend_keeps_gateway _ n name)).run ⟨h, rfl⟩
  | failoverCaptureBackend n choice failed =>
    exact (failoverBackend_keeps_gateway _ .capture n choice failed).run ⟨h, rfl⟩
  | failoverReinjectionBackend n choice failed =>
    exact (failoverBackend_keeps_gateway _ .reinjection n choice failed).run ⟨h, rfl⟩
  | windivertReinject r data context =>
    refine ⟨(windivertReinject_keeps_settled r data context).run h, ?_⟩
    -- A reinjection may open the action handle and does nothing else to the engine.
    rcases (windivertReinject_keeps r data context e).run ⟨e.windivertAction, rfl⟩ with ⟨action, heq⟩
    show (exec (windivertReinject r data context) e).2.gateway = e.gateway
    rw [heq]

/-- A gateway without the routing flag does not start. -/
theorem gatewayStart_keeps_off : Keeps GatewayOff gatewayStart := by
  apply requireRunning_keeps.bind
  intro _
  apply Keeps.getState.bind
  intro e
  apply Keeps.ofResult.bind
  intro _
  apply Keeps.ofResult.bind
  intro _
  apply Keeps.mapErr
  apply Keeps.of_run
  intro s h
  -- Every gateway needs the routing flag, whatever its policy asks for.
  have hready : s.gateway.canStart = false := by
    rw [GatewayCapability.canStart, GatewayCapabilities.forwardingReady, h.unrouted, Bool.and_false,
      Bool.false_and, Bool.and_false, Bool.false_and]
  have hexec : exec (onGateway GatewayCapability.start) s = (.error .notReady, s) := by
    rw [onGateway, exec_zoom, GatewayCapability.start, exec_bind_ok (exec_getState _), hready]
    rfl
  rw [hexec]
  exact h

/-- A gateway is configured without the routing flag. -/
theorem gatewayConfig_keeps_off (snapshot : NetworkStateSnapshot) (policy : GatewayPolicy) :
    Keeps GatewayOff (gatewayConfig snapshot policy) := by
  apply requireRunning_keeps.bind
  intro _
  apply Keeps.ofResult.bind
  intro _
  apply Keeps.ofResult.bind
  intro _
  apply Keeps.ofResult.bind
  intro _
  apply Keeps.ofResult.bind
  intro _
  apply Keeps.getState.bind
  intro e
  apply Keeps.ofResult.bind
  intro _
  apply Keeps.modifyState
  intro s h
  -- The stored gateway is new, so it is off, and the flag was looked up just now.
  refine ⟨h.toSettled.of_core rfl h.capture h.reinjection h.action, rfl, ?_⟩
  show (s.available .routeInfo && !snapshot.routes.isEmpty) = false
  rw [h.toSettled.available_routeInfo, Bool.false_and]

theorem gatewayStop_keeps_off : Keeps GatewayOff gatewayStop := by
  apply requireRunning_keeps.bind
  intro _
  apply Triple.getState_bind
  intro s h
  rw [h.disabled]
  exact Triple.pure fun _ heq => heq ▸ h

namespace GatewayControl

/-- The calls of a session with a gateway. -/
inductive Call where
  | backend (call : Failover.Call)
  | gatewayConfig (snapshot : NetworkStateSnapshot) (policy : GatewayPolicy)
  | gatewayStart
  | gatewayStop

def step (e : EngineRuntime) : Call → EngineRuntime
  | .backend call => Failover.step e call
  | .gatewayConfig snapshot policy => (exec (EngineRuntime.gatewayConfig snapshot policy) e).2
  | .gatewayStart => (exec EngineRuntime.gatewayStart e).2
  | .gatewayStop => (exec EngineRuntime.gatewayStop e).2

theorem step_off (e : EngineRuntime) (call : Call) (h : GatewayOff e) : GatewayOff (step e call) := by
  cases call with
  | backend call =>
    rcases failover_step_gateway h.toSettled call with ⟨hsettled, hgateway⟩
    -- The backend operations and the gateway touch disjoint parts of the engine.
    refine ⟨hsettled, ?_, ?_⟩
    · exact (congrArg GatewayCapability.enabled hgateway).trans h.disabled
    · exact (congrArg (·.capabilities.routing) hgateway).trans h.unrouted
  | gatewayConfig snapshot policy => exact (gatewayConfig_keeps_off snapshot policy).run h
  | gatewayStart => exact gatewayStart_keeps_off.run h
  | gatewayStop => exact gatewayStop_keeps_off.run h

/-- A gateway that runs with forwarding has every capability that forwarding needs. -/
def FailsClosed (e : EngineRuntime) : Prop :=
  e.gatewayIsRunning = true → e.gateway.policy.forwardingRequested = true →
    ∀ capability ∈ [BackendCapability.reinjection, .routeInfo, .neighborInfo],
      e.backendManager.findCapable capability ≠ []

theorem off_of_init {c : EngineConfig} {n₀ : NativeOutcomes} {sync : EngineResult Unit}
    {e₀ : EngineRuntime} (h : initializeRuntime c n₀ sync = .ok e₀) : GatewayOff e₀ := by
  rw [eq_initialEngine h]
  exact ⟨settled_initial c, rfl, rfl⟩

/-- In a session of the built-in backends no gateway runs. -/
theorem gatewayIsRunning_run {c : EngineConfig} {n₀ : NativeOutcomes} {sync : EngineResult Unit}
    {e₀ : EngineRuntime} (h : initializeRuntime c n₀ sync = .ok e₀) (calls : List Call) :
    (run step e₀ calls).gatewayIsRunning = false := by
  have hoff := run_inv step_off (off_of_init h) calls
  rw [gatewayIsRunning, GatewayCapability.isReady, hoff.disabled, Bool.false_and]

/-- Whatever is called and whatever the native calls answer, the gateway fails closed. -/
theorem gateway_fails_closed (c : EngineConfig) (n₀ : NativeOutcomes) (sync : EngineResult Unit)
    (e₀ : EngineRuntime) (h : initializeRuntime c n₀ sync = .ok e₀) (calls : List Call) :
    FailsClosed (run step e₀ calls) := by
  intro hrunning
  rw [gatewayIsRunning_run h calls] at hrunning
  cases hrunning

def forwardingPolicy : GatewayPolicy where
  enabled := true
  forwarding := some ⟨true, some 1, some 2, .allow⟩

/-- With every backend started, a forwarding gateway configured and started, and WinDivert stopped. -/
theorem gateway_fails_closed_forwarding :
    ∃ e₀, initializeRuntime smallConfig allSucceed (.ok ()) = .ok e₀ ∧
      FailsClosed (run step e₀ [.backend (.startBackend allSucceed "windivert"),
        .backend (.startBackend allSucceed "iphelper"),
        .gatewayConfig ⟨[1, 2], [1]⟩ forwardingPolicy, .gatewayStart,
        .backend (.stopBackend allSucceed "windivert")]) := by
  have h := initializeRuntime_ok (c := smallConfig) (n := allSucceed) rfl rfl
  exact ⟨_, h, gateway_fails_closed _ _ _ _ h _⟩

end GatewayControl

end EngineRuntime

end NetworkEngine
