import NetworkEngine.Backend.Selection
import NetworkEngine.Engine.Agreement
import NetworkEngine.Engine.Completion

/-!
# Failover — moving a route to another backend

`restart_backend`, `isolate_failed_backend` and the two failovers of `EngineRuntime`, and when they
and `windivert_reinject` fail closed.  A route is a name that the engine keeps apart from the
lifecycle of the backend it names: a clean stop clears it and a failover replaces it, and nothing
else does.  Reinjection follows the route and does not look at the lifecycle.
-/

namespace NetworkEngine

open Rust Transition

namespace EngineRuntime

/-! ## 1. The operations -/

/-- `nstop` and `nstart` are the answers of the native calls of its two halves. -/
def restartBackend (nstop nstart : NativeOutcomes) (name : String) : EngineOp Unit := do
  requireRunning
  let e ← getState
  let runtime ← ofResult (e.backendManager.runtimeState name)
  match runtime.lifecycle with
  -- A native stop that fails ends the restart: the backend is not started again.
  | .running | .degraded => do
    stopBackend nstop name
    startBackend nstart name
  | .failed | .stopped | .disabled => startBackend nstart name
  | .starting | .stopping =>
    throw (.withMessage .concurrentOperation ("backend '" ++ name ++ "' is already transitioning"))

def isolateFailedBackend (n : NativeOutcomes) (name : String) : EngineOp Unit := do
  requireRunning
  let e ← getState
  let runtime ← ofResult (e.backendManager.runtimeState name)
  match runtime.lifecycle with
  | .running | .degraded => stopBackend n name
  -- Nothing to stop; the route is not looked at either.
  | .failed | .stopped | .disabled => return ()
  | .starting | .stopping =>
    throw (.withMessage .concurrentOperation
      ("backend '" ++ name ++ "' is transitioning and cannot be isolated yet"))

/-- The failover policy and the round-robin cursor that the manager holds at a failover. -/
structure FailoverChoice where
  policy : FailoverPolicy
  cursor : Nat
  deriving DecidableEq, Repr

/-- The alternative that a failover from `failed` finds. -/
def alternative (choice : FailoverChoice) (capability : BackendCapability) (failed : String)
    (e : EngineRuntime) : Option String :=
  e.backendManager.selectHealthyBackendForFailover choice.policy choice.cursor capability failed

/-- The two routes of the engine. -/
inductive Route where
  | capture
  | reinjection
  deriving DecidableEq, Repr

namespace Route

def capability : Route → BackendCapability
  | capture => .capture
  | reinjection => .reinjection

def active : Route → EngineRuntime → Option String
  | capture, e => e.activeCaptureBackend
  | reinjection, e => e.activeReinjectionBackend

def publish : Route → Option String → EngineOp Unit
  | capture => setActiveCaptureBackend
  | reinjection => setActiveReinjectionBackend

/-- The text of the error when there is no alternative. -/
def unavailable : Route → String
  | capture => "no healthy backend provides a sufficient capture capability for failover"
  | reinjection => "no healthy backend provides a sufficient reinjection capability for failover"

end Route

/-- The body of both failovers. -/
def failoverBackend (route : Route) (n : NativeOutcomes) (choice : FailoverChoice)
    (failed : String) : EngineOp String := do
  requireRunning
  isolateFailedBackend n failed
  -- The candidates are those of the manager after the isolation.
  let e ← getState
  match e.alternative choice route.capability failed with
  | none => throw (.withMessage .capabilityUnavailable route.unavailable)
  | some name => do
    route.publish (some name)
    onStatistics (·.recordBackendFailover)
    return name

def failoverCaptureBackend (n : NativeOutcomes) (choice : FailoverChoice) (failed : String) :
    EngineOp String :=
  failoverBackend .capture n choice failed

def failoverReinjectionBackend (n : NativeOutcomes) (choice : FailoverChoice) (failed : String) :
    EngineOp String :=
  failoverBackend .reinjection n choice failed

/-! ## 2. What they keep -/

variable {e : EngineRuntime} {n : NativeOutcomes} {kind : BackendKind} {name : String}

section Keeps

variable {inv : EngineRuntime → Prop}

/-- A restart keeps what its two halves keep. -/
theorem restartBackend_keeps {nstop nstart : NativeOutcomes}
    (hstop : Keeps inv (stopBackend nstop name)) (hstart : Keeps inv (startBackend nstart name)) :
    Keeps inv (restartBackend nstop nstart name) := by
  apply requireRunning_keeps.bind
  intro _
  apply Keeps.getState.bind
  intro e
  apply Keeps.ofResult.bind
  intro runtime
  -- One case for each lifecycle, as the source groups them.
  split
  · exact hstop.bind fun _ => hstart
  · exact hstop.bind fun _ => hstart
  · exact hstart
  · exact hstart
  · exact hstart
  · exact Keeps.throw
  · exact Keeps.throw

theorem isolateFailedBackend_keeps (hstop : Keeps inv (stopBackend n name)) :
    Keeps inv (isolateFailedBackend n name) := by
  apply requireRunning_keeps.bind
  intro _
  apply Keeps.getState.bind
  intro e
  apply Keeps.ofResult.bind
  intro runtime
  split
  · exact hstop
  · exact hstop
  · exact Keeps.pure
  · exact Keeps.pure
  · exact Keeps.pure
  · exact Keeps.throw
  · exact Keeps.throw

/-- A failover keeps what the stop keeps and what the new route does not break. -/
theorem failoverBackend_keeps {route : Route} {choice : FailoverChoice}
    (hstop : Keeps inv (stopBackend n name))
    (hpublish : ∀ s alt, inv s → s.alternative choice route.capability name = some alt →
      inv (exec (route.publish (some alt)) s).2)
    (hcount : ∀ s, inv s → inv { s with statistics := s.statistics.recordBackendFailover }) :
    Keeps inv (failoverBackend route n choice name) := by
  apply requireRunning_keeps.bind
  intro _
  apply (isolateFailedBackend_keeps hstop).bind
  intro _
  apply Triple.getState_bind
  intro s hs
  split
  · exact Triple.throw fun _ h => h ▸ hs
  · rename_i alt halt
    -- The selection was made in this very state, so `hpublish` applies to it.
    have hroute : Triple (· = s) (route.publish (some alt)) (fun _ => inv) (fun _ => inv) := by
      intro s' hs'
      have hpublished := hpublish s alt hs halt
      rw [hs']
      cases route <;> exact hpublished
    apply hroute.bind
    intro _
    have hrecorded : Keeps inv (onStatistics (·.recordBackendFailover) : EngineOp Unit) :=
      Keeps.modifyState hcount
    exact hrecorded.bind fun _ => Keeps.pure

end Keeps

theorem startBackend_keeps_settled (n : NativeOutcomes) (name : String) :
    Keeps Settled (startBackend n name) :=
  Keeps.of_run fun _ h => h.startBackend n name

theorem stopBackend_keeps_settled (n : NativeOutcomes) (name : String) :
    Keeps Settled (stopBackend n name) :=
  Keeps.of_run fun _ h => h.stopBackend n name

/-- What a failover may publish is a registered backend with the capability. -/
theorem Settled.alternative_kind (h : Settled e) {choice : FailoverChoice} {route : Route}
    {failed : String} (halt : e.alternative choice route.capability failed = some name) :
    ∃ kind, name = BackendKind.name kind ∧ route.capability ∈ kind.descriptor.capabilities := by
  rcases BackendManager.selectHealthyBackendForFailover_spec halt with ⟨-, b, hb, -, -, hsupports⟩
  rcases h.known name b hb with ⟨kind, rfl⟩
  have hdescriptor : b.runtime.descriptor = kind.descriptor := by
    rcases h.managed kind with ⟨l, b', hb', hdescriptor, -⟩
    -- The manager holds one entry for the name, the one with the built-in descriptor.
    rw [hb] at hb'
    rw [Option.some.inj hb']
    exact hdescriptor
  refine ⟨kind, rfl, ?_⟩
  rw [← hdescriptor]
  exact of_decide_eq_true hsupports

theorem Settled.publish (h : Settled e) (route : Route)
    (hkind : name = kind.name ∧ route.capability ∈ kind.descriptor.capabilities) :
    Settled (exec (route.publish (some name)) e).2 := by
  cases route with
  | capture =>
    refine h.of_core rfl (fun other hother => ?_) h.reinjection h.action
    rw [← Option.some.inj hother]
    exact ⟨kind, hkind⟩
  | reinjection =>
    refine h.of_core rfl h.capture (fun other hother => ?_) h.action
    rw [← Option.some.inj hother]
    exact ⟨kind, hkind⟩

theorem failoverBackend_keeps_settled (route : Route) (n : NativeOutcomes) (choice : FailoverChoice)
    (failed : String) : Keeps Settled (failoverBackend route n choice failed) := by
  apply failoverBackend_keeps (stopBackend_keeps_settled n failed)
  · intro s alt hs halt
    rcases hs.alternative_kind halt with ⟨kind, hkind⟩
    exact hs.publish route hkind
  · exact fun s hs => hs.of_core rfl hs.capture hs.reinjection hs.action

/-! ## 3. What a failover leaves -/

/-- The manager's lifecycle of `name` permits normal use. -/
def Operational (e : EngineRuntime) (name : String) : Prop :=
  ∃ b, e.backendManager.backends.lookup name = some b ∧ b.runtime.isAvailable = true

/-- A failover from `failed` returned `r` and left `e'`: the route does not name `failed`, and a
published alternative is another backend, fit for the route. -/
structure FailedOver (route : Route) (failed : String) (r : EngineResult String)
    (e' : EngineRuntime) : Prop where
  released : route.active e' ≠ some failed
  published : ∀ name, r = .ok name → name ≠ failed ∧
    ∃ b, e'.backendManager.backends.lookup name = some b ∧ b.runtime.isAvailable = true ∧
      b.health.health ≠ .unhealthy ∧ b.runtime.supports route.capability = true

/-- The failover ends with the route on `failed`: it was there, and either the backend is
operational and its native stop fails, or it is not and there is no alternative. -/
def StaysActive (route : Route) (n : NativeOutcomes) (choice : FailoverChoice) (failed : String)
    (e : EngineRuntime) : Prop :=
  route.active e = some failed ∧
    (Operational e failed ∧ (∃ kind, failed = BackendKind.name kind ∧ n.stops kind = false) ∨
      ¬ Operational e failed ∧ e.alternative choice route.capability failed = none)

theorem Managed.operational_iff {l : BackendLifecycle} (h : Managed e.backendManager kind l) :
    Operational e kind.name ↔ l = .running ∨ l = .degraded := by
  rcases h with ⟨b, hb, -, hl, -⟩
  constructor
  · intro hop
    rcases hop with ⟨b', hb', havailable⟩
    rw [hb] at hb'
    rw [← hl, Option.some.inj hb']
    exact of_decide_eq_true havailable
  · intro hrunning
    rw [← hl] at hrunning
    exact ⟨b, hb, decide_eq_true hrunning⟩

theorem Runs.operational (h : Runs e kind) : Operational e kind.name :=
  h.managed.operational_iff.mpr (.inl rfl)

theorem Rests.not_operational (h : Rests e kind) : ¬ Operational e kind.name := by
  intro hop
  rcases h.managed with hmanaged | hmanaged
  · exact absurd (hmanaged.operational_iff.mp hop) (by decide)
  · exact absurd (hmanaged.operational_iff.mp hop) (by decide)

theorem Settled.route (h : Settled e) {route : Route} (hactive : route.active e = some name) :
    ∃ kind, name = BackendKind.name kind ∧ route.capability ∈ kind.descriptor.capabilities := by
  cases route with
  | capture => exact h.capture name hactive
  | reinjection => exact h.reinjection name hactive

theorem Amid.route {e' : EngineRuntime} {l : BackendLifecycle} {up : Bool}
    {f : Option String → Option String} (h : Amid e kind l up f e') (route : Route) :
    route.active e' = f (route.active e) := by
  cases route with
  | capture => exact h.capture
  | reinjection => exact h.reinjection

theorem Managed.runtimeState {m : BackendManager} {l : BackendLifecycle} (h : Managed m kind l) :
    ∃ runtime, m.runtimeState kind.name = .ok runtime ∧ runtime.lifecycle = l := by
  rcases h with ⟨b, hb, -, hl, -⟩
  exact ⟨b.runtime, by rw [BackendManager.runtimeState, hb], hl⟩

theorem isolateFailedBackend_runs (h : Serving e) (hruns : Runs e kind) :
    exec (isolateFailedBackend n kind.name) e = exec (stopBackend n kind.name) e := by
  rcases hruns.managed.runtimeState with ⟨runtime, hruntime, hl⟩
  rw [isolateFailedBackend, exec_bind_ok h.requireRunning, exec_bind_ok (exec_getState e), hruntime,
    exec_bind_ok (exec_ofResult e _), hl]

/-- A backend that rests is isolated as it is: an active route to it stays. -/
theorem isolateFailedBackend_rests (h : Serving e) (hrests : Rests e kind) :
    exec (isolateFailedBackend n kind.name) e = (.ok (), e) := by
  rcases hrests.managed with hmanaged | hmanaged
  all_goals
    rcases hmanaged.runtimeState with ⟨runtime, hruntime, hl⟩
    rw [isolateFailedBackend, exec_bind_ok h.requireRunning, exec_bind_ok (exec_getState e),
      hruntime, exec_bind_ok (exec_ofResult e _), hl]
    rfl

theorem isolateFailedBackend_unknown (h : Serving e)
    (hname : e.backendManager.backends.lookup name = none) :
    exec (isolateFailedBackend n name) e = (.error (.code .backendNotFound), e) := by
  rw [isolateFailedBackend, exec_bind_ok h.requireRunning, exec_bind_ok (exec_getState e)]
  apply exec_bind_error
  rw [BackendManager.runtimeState, hname, exec_ofResult]

theorem Serving.failover_isolated (h : Serving e) {route : Route} {choice : FailoverChoice}
    {failed : String} {e₁ : EngineRuntime}
    (hisolated : exec (isolateFailedBackend n failed) e = (.ok (), e₁)) :
    FailedOver route failed (exec (failoverBackend route n choice failed) e).1
        (exec (failoverBackend route n choice failed) e).2 ↔
      ¬ (route.active e₁ = some failed ∧
        e₁.alternative choice route.capability failed = none) := by
  rw [failoverBackend, exec_bind_ok h.requireRunning, exec_bind_ok hisolated,
    exec_bind_ok (exec_getState e₁)]
  cases halt : e₁.alternative choice route.capability failed with
  | none =>
    constructor
    · exact fun hover hactive => hover.released hactive.1
    · exact fun hactive => ⟨fun h => hactive ⟨h, rfl⟩, nofun⟩
  | some name =>
    rcases BackendManager.selectHealthyBackendForFailover_spec halt with
      ⟨hne, b, hb, havailable, hhealthy, hsupports⟩
    refine iff_of_true ?_ fun h => nomatch h.2
    have hfit : b.health.health ≠ .unhealthy := by
      rw [hhealthy]
      nofun
    -- Publishing writes a route alone: the manager that was selected from is the one left.
    cases route
    all_goals
      refine ⟨fun hactive => hne (Option.some.inj hactive), fun alt halt' => ?_⟩
      rw [← Except.ok.inj halt']
      exact ⟨hne, b, hb, havailable, hfit, hsupports⟩

theorem Serving.failover_refused (h : Serving e) {route : Route} {choice : FailoverChoice}
    {failed : String} {e₁ : EngineRuntime} {error : EngineError}
    (hrefused : exec (isolateFailedBackend n failed) e = (.error error, e₁)) :
    FailedOver route failed (exec (failoverBackend route n choice failed) e).1
        (exec (failoverBackend route n choice failed) e).2 ↔ route.active e₁ ≠ some failed := by
  rw [failoverBackend, exec_bind_ok h.requireRunning, exec_bind_error hrefused]
  exact ⟨fun hover => hover.released, fun hactive => ⟨hactive, nofun⟩⟩

/-- A failover releases the route, and publishes a fit alternative if any, unless it is one of
those that keep it. -/
theorem Settled.failover_iff (h : Settled e) (route : Route) (n : NativeOutcomes)
    (choice : FailoverChoice) (failed : String) :
    FailedOver route failed (exec (failoverBackend route n choice failed) e).1
        (exec (failoverBackend route n choice failed) e).2 ↔
      ¬ StaysActive route n choice failed e := by
  -- A name the manager does not know is no active route either, and the failover is refused.
  by_cases hknown : ∃ kind, failed = BackendKind.name kind
  · rcases hknown with ⟨kind, rfl⟩
    rcases h.backends kind with ⟨hruns, hkind⟩ | hrests
    · have hisolate := isolateFailedBackend_runs (n := n) h.toServing hruns
      rcases h.stopBackend_cases n kind.name with ⟨error, -, hrests⟩ |
        ⟨kind', e', hname, -, -, ⟨hexec, hstops, hamid⟩ | ⟨error, hexec, hstops, hamid⟩⟩
      · exact absurd hruns.operational (hrests kind rfl).not_operational
      · -- The stop succeeds, and clears the route.
        rw [h.toServing.failover_isolated (hisolate.trans hexec), hamid.route]
        refine iff_of_true (fun hactive => (clearRoute_eq_some hactive.1).2 rfl) ?_
        intro hstays
        rcases hstays.2 with ⟨-, kind'', hname', hfails⟩ | ⟨hrest, -⟩
        · rw [← BackendKind.name_injective hname', BackendKind.name_injective hname, hstops] at hfails
          cases hfails
        · exact hrest hruns.operational
      · -- The stop fails, and the route is what it was.
        rw [h.toServing.failover_refused (hisolate.trans hexec), hamid.route, not_iff_not]
        refine ⟨fun hactive => ⟨hactive, .inl ⟨hruns.operational, kind', hname, ?_⟩⟩, fun h => h.1⟩
        exact Bool.eq_false_iff.mpr hstops
    -- Resting backends are isolated as they are, so only an alternative can move the route.
    · rw [h.toServing.failover_isolated (isolateFailedBackend_rests h.toServing hrests), not_iff_not]
      refine and_congr_right fun _ => ⟨fun halt => .inr ⟨hrests.not_operational, halt⟩, ?_⟩
      rintro (⟨hop, -⟩ | ⟨-, halt⟩)
      · exact absurd hop hrests.not_operational
      · exact halt
  · have hnone := h.lookup_unknown hknown
    have hinactive : route.active e ≠ some failed := by
      intro hactive
      rcases h.route hactive with ⟨kind, hkind, -⟩
      exact hknown ⟨kind, hkind⟩
    rw [h.toServing.failover_refused (isolateFailedBackend_unknown h.toServing hnone)]
    exact iff_of_true hinactive fun hstays => hinactive hstays.1

/-! ## 4. When a reinjection reaches the driver -/

section Reinjection

variable {r : ReinjectOutcomes} {data context : Bytes}

/-- The call makes the native send: what `WinDivertSend` answers decides its result. -/
def Sends (r : ReinjectOutcomes) (data context : Bytes) (e : EngineRuntime) : Prop :=
  ∃ send send', (exec (windivertReinject { r with send } data context) e).1 ≠
    (exec (windivertReinject { r with send := send' } data context) e).1

/-- The packet, its context and the native calls before the send are in order. -/
structure Sendable (r : ReinjectOutcomes) (data context : Bytes) (e : EngineRuntime) : Prop where
  nonempty : data.isEmpty = false
  size : data.len ≤ WinDivertBackend.maxPacketSize
  context : (WinDivertAddress.fromBytes context).isSome = true
  checksums : r.calcChecksums = true
  handle : e.windivertAction.isSome = true ∨ r.actionOpen.isSome = true

theorem reinjectWithContext_of_up {b : WinDivertBackend} (h : b.Up) (hdata : data.isEmpty = false) :
    b.reinjectWithContext r data context =
      if (WinDivertAddress.fromBytes context).isSome then
        if data.len ≤ WinDivertBackend.maxPacketSize then
          if r.calcChecksums then
            if r.send = some data.len then .ok () else .error .sendFailed
          else .error .invalidPacket
        else .error .packetTooLarge
      else .error .invalidOperation := by
  rcases h with ⟨handle, rfl⟩
  unfold WinDivertBackend.reinjectWithContext
  cases WinDivertAddress.fromBytes context with
  | none => rfl
  | some address =>
    show WinDivertBackend.reinject r data address ⟨.open, some handle⟩ = _
    unfold WinDivertBackend.reinject
    rw [hdata]
    -- The size, the checksums and the send are checked in this order.
    by_cases hsize : data.len ≤ WinDivertBackend.maxPacketSize
    · rw [if_neg (Nat.not_lt.mpr hsize)]
      cases r.calcChecksums with
      | false => simp [hsize]; rfl
      | true =>
        cases r.send with
        | none => simp [hsize]; rfl
        | some sendLen =>
          by_cases hlen : sendLen = data.len
          · simp [hsize, hlen]; rfl
          · simp [hsize, hlen]; rfl
    · rw [if_pos (Nat.not_le.mp hsize), if_neg hsize]
      rfl

/-- The action handle that a settled engine reinjects through is open. -/
theorem Settled.actionBackend_cases (h : Settled e) (r : ReinjectOutcomes) :
    (∃ b action, exec (actionBackend r) e = (.ok b, { e with windivertAction := some action }) ∧
      b.Up ∧ action.Up ∧ (e.windivertAction.isSome = true ∨ r.actionOpen.isSome = true)) ∨
    (∃ error, exec (actionBackend r) e = (.error error, e)) ∧
      ¬ (e.windivertAction.isSome = true ∨ r.actionOpen.isSome = true) := by
  cases haction : e.windivertAction with
  | some b =>
    have hup := h.action b haction
    refine .inl ⟨b, b, ?_, hup, hup, .inl rfl⟩
    rw [actionBackend, exec_bind_ok (exec_getState e), haction]
    show (_, e) = _
    rw [← haction]
  | none =>
    cases hopen : r.actionOpen with
    | none =>
      -- The handle could not be opened, and the engine keeps none.
      refine .inr ⟨⟨.withMessage .reinjectionFailed
        ("WinDivert action handle failed to open: " ++ WinDivertError.openFailed.debug), ?_⟩, by simp⟩
      rw [actionBackend, exec_bind_ok (exec_getState e), haction, hopen]
      rfl
    | some handle =>
      refine .inl ⟨⟨.open, some handle⟩, ⟨.open, some handle⟩, ?_, ⟨handle, rfl⟩, ⟨handle, rfl⟩,
        .inr rfl⟩
      rw [actionBackend, exec_bind_ok (exec_getState e), haction, hopen]
      rfl

/-- The handle is opened before the send. -/
theorem actionBackend_send (r : ReinjectOutcomes) (send : Option Nat) :
    actionBackend { r with send } = actionBackend r := rfl

theorem not_sends_of_const (x : EngineResult Unit)
    (h : ∀ send, (exec (windivertReinject { r with send } data context) e).1 = x) :
    ¬ Sends r data context e := by
  intro hsends
  rcases hsends with ⟨send, send', hne⟩
  exact hne ((h send).trans (h send').symm)

/-- Only WinDivert reinjects. -/
theorem Settled.reinjection_windivert (h : Settled e)
    (hactive : e.activeReinjectionBackend = some name) : name = "windivert" := by
  rcases h.reinjection name hactive with ⟨kind, rfl, hcapability⟩
  revert hcapability
  cases kind <;> decide

/-- Past the checks: the engine looks at the route and at what the backend declares. -/
theorem Settled.reinject_exec (h : Settled e)
    (hactive : e.activeReinjectionBackend = some "windivert") (hdata : data.isEmpty = false) :
    exec (windivertReinject r data context) e =
      exec (actionBackend r >>= fun backend =>
        mapErr reinjectionError (ofResult (backend.reinjectWithContext r data context))) e := by
  -- The declared capability is a fact of the descriptor and holds in every lifecycle.
  have hsupports : e.backendManager.supports "windivert" .reinjection = .ok true := by
    rcases h.managed .winDivert with ⟨l, b, hb, hdescriptor, -⟩
    have hlookup : e.backendManager.backends.lookup "windivert" = some b := hb
    rw [BackendManager.supports, BackendManager.runtimeState, hlookup]
    show Except.ok (b.runtime.supports .reinjection) = _
    rw [BackendRuntimeState.supports, hdescriptor]
    decide
  rw [windivertReinject, exec_bind_ok h.toServing.requireRunning, exec_bind_ok (exec_getState e),
    hdata, hactive]
  -- The lifecycle was not consulted on the way here.
  simp only [hsupports]
  rfl

/-- With the action handle up, a reinjection reaches the driver when its checks pass: each check
that fails before the send answers the same for every send. -/
theorem checks_of_sends {b : WinDivertBackend} (hup : b.Up) (hdata : data.isEmpty = false)
    (hresult : ∀ send : Option Nat, (exec (windivertReinject { r with send } data context) e).1 =
      (b.reinjectWithContext { r with send } data context).mapError reinjectionError)
    (hsends : Sends r data context e) :
    (WinDivertAddress.fromBytes context).isSome = true ∧
      data.len ≤ WinDivertBackend.maxPacketSize ∧ r.calcChecksums = true := by
  by_cases hcontext : (WinDivertAddress.fromBytes context).isSome = true
  · by_cases hsize : data.len ≤ WinDivertBackend.maxPacketSize
    · by_cases hchecksums : r.calcChecksums = true
      · exact ⟨hcontext, hsize, hchecksums⟩
      · refine absurd hsends (not_sends_of_const (.error (reinjectionError .invalidPacket))
          fun send => ?_)
        rw [hresult, reinjectWithContext_of_up hup hdata, if_pos hcontext, if_pos hsize,
          if_neg hchecksums]
        rfl
    · refine absurd hsends (not_sends_of_const (.error (reinjectionError .packetTooLarge))
        fun send => ?_)
      rw [hresult, reinjectWithContext_of_up hup hdata, if_pos hcontext, if_neg hsize]
      rfl
  · refine absurd hsends (not_sends_of_const (.error (reinjectionError .invalidOperation))
      fun send => ?_)
    rw [hresult, reinjectWithContext_of_up hup hdata, if_neg hcontext]
    rfl

theorem Settled.sendable_of_sends (h : Settled e) (hsends : Sends r data context e) :
    Sendable r data context e ∧ e.activeReinjectionBackend = some "windivert" := by
  by_cases hempty : data.isEmpty = true
  -- Each refusal before the send has one text, whatever the send would answer.
  · refine absurd hsends (not_sends_of_const (.error .invalidArgument) fun send => ?_)
    rw [windivertReinject, exec_bind_ok h.toServing.requireRunning,
      exec_bind_ok (exec_getState e), if_pos hempty]
    rfl
  have hdata : data.isEmpty = false := Bool.eq_false_iff.mpr hempty
  cases hactive : e.activeReinjectionBackend with
  | none =>
    refine absurd hsends (not_sends_of_const (.error (.withMessage .capabilityUnavailable
      "no active reinjection backend is selected")) fun send => ?_)
    rw [windivertReinject, exec_bind_ok h.toServing.requireRunning,
      exec_bind_ok (exec_getState e), hdata, hactive]
    rfl
  | some name =>
    cases h.reinjection_windivert hactive
    rcases h.actionBackend_cases r with ⟨b, action, haction, hup, -, hhandle⟩ | ⟨⟨error, haction⟩, -⟩
    · have hresult (send : Option Nat) :
          (exec (windivertReinject { r with send } data context) e).1 =
            (b.reinjectWithContext { r with send } data context).mapError reinjectionError := by
        rw [h.reinject_exec hactive hdata, actionBackend_send, exec_bind_ok haction]
        rfl
      rcases checks_of_sends hup hdata hresult hsends with ⟨hcontext, hsize, hchecksums⟩
      exact ⟨⟨hdata, hsize, hcontext, hchecksums, hhandle⟩, rfl⟩
    · refine absurd hsends (not_sends_of_const (.error error) fun send => ?_)
      rw [h.reinject_exec hactive hdata, actionBackend_send, exec_bind_error haction]

/-- A reinjection reaches the driver exactly when everything before the send is in order and the
route names WinDivert, whatever its lifecycle. -/
theorem Settled.sends_iff (h : Settled e) :
    Sends r data context e ↔
      Sendable r data context e ∧ e.activeReinjectionBackend = some "windivert" := by
  refine ⟨h.sendable_of_sends, fun hboth => ?_⟩
  rcases hboth with ⟨hsendable, hactive⟩
  rcases h.actionBackend_cases r with ⟨b, action, haction, hup, -, -⟩ | ⟨-, hno⟩
  · have hresult (send : Option Nat) :
        (exec (windivertReinject { r with send } data context) e).1 =
          if send = some data.len then .ok () else .error (reinjectionError .sendFailed) := by
      rw [h.reinject_exec hactive hsendable.nonempty, actionBackend_send, exec_bind_ok haction,
        exec_mapErr, exec_ofResult, reinjectWithContext_of_up hup hsendable.nonempty,
        if_pos hsendable.context, if_pos hsendable.size, if_pos hsendable.checksums]
      dsimp only
      split <;> rfl
    -- A complete send succeeds and a failed one does not.
    refine ⟨some data.len, none, ?_⟩
    rw [hresult, hresult, if_pos rfl, if_neg nofun]
    nofun
  · exact absurd hsendable.handle hno

theorem windivertReinject_keeps_settled (r : ReinjectOutcomes) (data context : Bytes) :
    Keeps Settled (windivertReinject r data context) := by
  apply windivertReinject_keeps_of
  apply Keeps.of_run
  intro e h
  rcases h.actionBackend_cases r with ⟨b, action, hexec, -, hup, -⟩ | ⟨⟨error, hexec⟩, -⟩
  · rw [hexec]
    refine h.of_core rfl h.capture h.reinjection fun b' hb' => ?_
    rw [← Option.some.inj hb']
    exact hup
  · rw [hexec]
    exact h

end Reinjection

/-! ## 5. Whole runs -/

namespace Failover

/-- The calls of a session, with what the native side and the manager's policy answer to each. -/
inductive Call where
  | startBackend (n : NativeOutcomes) (name : String)
  | stopBackend (n : NativeOutcomes) (name : String)
  | restartBackend (nstop nstart : NativeOutcomes) (name : String)
  | isolateFailedBackend (n : NativeOutcomes) (name : String)
  | failoverCaptureBackend (n : NativeOutcomes) (choice : FailoverChoice) (failed : String)
  | failoverReinjectionBackend (n : NativeOutcomes) (choice : FailoverChoice) (failed : String)
  | windivertReinject (r : ReinjectOutcomes) (data nativeContext : Bytes)

def step (e : EngineRuntime) : Call → EngineRuntime
  | .startBackend n name => (exec (EngineRuntime.startBackend n name) e).2
  | .stopBackend n name => (exec (EngineRuntime.stopBackend n name) e).2
  | .restartBackend nstop nstart name => (exec (EngineRuntime.restartBackend nstop nstart name) e).2
  | .isolateFailedBackend n name => (exec (EngineRuntime.isolateFailedBackend n name) e).2
  | .failoverCaptureBackend n choice failed =>
    (exec (EngineRuntime.failoverCaptureBackend n choice failed) e).2
  | .failoverReinjectionBackend n choice failed =>
    (exec (EngineRuntime.failoverReinjectionBackend n choice failed) e).2
  | .windivertReinject r data nativeContext =>
    (exec (EngineRuntime.windivertReinject r data nativeContext) e).2

/-- The call fails closed: a reinjection sends only through an operational backend, and a failover
leaves the route off the failed backend, on a fit alternative if it returns one. -/
def FailsClosed (e : EngineRuntime) : Call → Prop
  | .windivertReinject r data nativeContext => Sends r data nativeContext e →
    ∃ name, e.activeReinjectionBackend = some name ∧ Operational e name
  | .failoverCaptureBackend n choice failed =>
    FailedOver .capture failed (exec (EngineRuntime.failoverCaptureBackend n choice failed) e).1
      (exec (EngineRuntime.failoverCaptureBackend n choice failed) e).2
  | .failoverReinjectionBackend n choice failed =>
    FailedOver .reinjection failed
      (exec (EngineRuntime.failoverReinjectionBackend n choice failed) e).1
      (exec (EngineRuntime.failoverReinjectionBackend n choice failed) e).2
  | _ => True

/-- The calls that do not: a reinjection over a route to WinDivert while the engine's WinDivert
instance is not open, and a failover that the route stays active through. -/
def StaysOpen (e : EngineRuntime) : Call → Prop
  | .windivertReinject r data nativeContext => Sendable r data nativeContext e ∧
    e.activeReinjectionBackend = some "windivert" ∧ ¬ NativeUp e .winDivert
  | .failoverCaptureBackend n choice failed => StaysActive .capture n choice failed e
  | .failoverReinjectionBackend n choice failed => StaysActive .reinjection n choice failed e
  | _ => False

theorem settled_step (e : EngineRuntime) (call : Call) (h : Settled e) : Settled (step e call) := by
  cases call with
  | startBackend n name => exact h.startBackend n name
  | stopBackend n name => exact h.stopBackend n name
  | restartBackend nstop nstart name =>
    exact (restartBackend_keeps (stopBackend_keeps_settled nstop name)
      (startBackend_keeps_settled nstart name)).run h
  | isolateFailedBackend n name =>
    exact (isolateFailedBackend_keeps (stopBackend_keeps_settled n name)).run h
  | failoverCaptureBackend n choice failed =>
    exact (failoverBackend_keeps_settled .capture n choice failed).run h
  | failoverReinjectionBackend n choice failed =>
    exact (failoverBackend_keeps_settled .reinjection n choice failed).run h
  | windivertReinject r data context =>
    exact (windivertReinject_keeps_settled r data context).run h

/-- The manager runs WinDivert exactly when its instance is up. -/
theorem operational_windivert_iff (h : Settled e) :
    Operational e "windivert" ↔ NativeUp e .winDivert := by
  rcases h.backends .winDivert with ⟨hruns, -⟩ | hrests
  · exact iff_of_true hruns.operational hruns.slot
  · have hdown : NativeDown e .winDivert := hrests.slot
    exact iff_of_false hrests.not_operational hdown.not_nativeUp

theorem failsClosed_iff (h : Settled e) (call : Call) : FailsClosed e call ↔ ¬ StaysOpen e call := by
  cases call with
  | windivertReinject r data context =>
    show (Sends r data context e → _) ↔ ¬ (_ ∧ _ ∧ _)
    rw [h.sends_iff]
    constructor
    · intro hclosed hopen
      rcases hclosed ⟨hopen.1, hopen.2.1⟩ with ⟨name, hactive, hop⟩
      cases h.reinjection_windivert hactive
      exact hopen.2.2 ((operational_windivert_iff h).mp hop)
    · intro hclosed hsends
      refine ⟨"windivert", hsends.2, (operational_windivert_iff h).mpr ?_⟩
      by_contra hdown
      exact hclosed ⟨hsends.1, hsends.2, hdown⟩
  | failoverCaptureBackend n choice failed => exact h.failover_iff .capture n choice failed
  | failoverReinjectionBackend n choice failed => exact h.failover_iff .reinjection n choice failed
  | startBackend | stopBackend | restartBackend | isolateFailedBackend =>
    exact iff_of_true trivial id

/-- WinDivert alone reinjects, so that a failover from it finds nothing. -/
theorem reinjection_alternative (h : Settled e) (choice : FailoverChoice) :
    e.alternative choice .reinjection "windivert" = none := by
  cases halt : e.alternative choice .reinjection "windivert" with
  | none => rfl
  | some name =>
    have hroute : e.alternative choice Route.reinjection.capability "windivert" = some name := halt
    rcases h.alternative_kind hroute with ⟨kind, rfl, hcapability⟩
    have hne := (BackendManager.selectHealthyBackendForFailover_spec halt).1
    -- Of the five built-in backends only WinDivert declares reinjection.
    revert hcapability hne
    cases kind <;> decide

/-- In a session, every call fails closed exactly when no call is one of those that stay open. -/
theorem failsClosed_run_iff (c : EngineConfig) (n₀ : NativeOutcomes) (sync : EngineResult Unit)
    (e₀ : EngineRuntime) (h : initializeRuntime c n₀ sync = .ok e₀) (calls : List Call) :
    Along step FailsClosed e₀ calls ↔ Along step (fun e call => ¬ StaysOpen e call) e₀ calls := by
  rw [eq_initialEngine h]
  -- Settled states are kept by every call and tell which calls stay open.
  apply along_iff Settled
  · exact fun e call hsettled _ => settled_step e call hsettled
  · exact fun e call hsettled => failsClosed_iff hsettled call
  · exact settled_initial c

def preferHealthy : FailoverChoice := ⟨.preferHealthy, 0⟩

/-- Once WinDivert runs, a failover from Npcap keeps reinjection closed. -/
theorem failsClosed_run_started :
    ∃ e₀, initializeRuntime smallConfig allSucceed (.ok ()) = .ok e₀ ∧
      Along step FailsClosed e₀ [.startBackend allSucceed "windivert",
        .failoverReinjectionBackend allSucceed preferHealthy "npcap"] := by
  have h := initializeRuntime_ok (c := smallConfig) (n := allSucceed) rfl rfl
  refine ⟨_, h, (failsClosed_run_iff _ _ _ _ h _).mpr ?_⟩
  have hstarted := settled_step _ (.startBackend allSucceed "windivert") (settled_initial smallConfig)
  refine along_cons.mpr ⟨id, along_cons.mpr ⟨fun hstays => ?_, along_nil⟩⟩
  exact absurd (hstarted.reinjection_windivert hstays.1) (by decide)

/-- The packet of a reinjection, under an all-zero WinDivert address. -/
def onePacket : Call :=
  .windivertReinject ⟨some 1, true, some 1⟩ ⟨[0x60], by decide⟩ ⟨List.replicate 80 0, by decide⟩

/-- Right after initialization, with WinDivert stopped, a reinjection is sent, and a failover from
WinDivert fails and leaves it the active route. -/
theorem fresh_engine_open :
    ∃ e₀, initializeRuntime smallConfig allSucceed (.ok ()) = .ok e₀ ∧
      e₀.backendManager.lifecycleOf "windivert" = some .stopped ∧ ¬ FailsClosed e₀ onePacket ∧
      ¬ FailsClosed e₀ (.failoverReinjectionBackend allSucceed preferHealthy "windivert") := by
  have h := initializeRuntime_ok (c := smallConfig) (n := allSucceed) rfl rfl
  have hsettled := settled_initial smallConfig
  have hrests : ¬ Operational (initialEngine smallConfig) "windivert" := by
    intro hop
    rcases (operational_windivert_iff hsettled).mp hop with ⟨b, hb, -⟩
    cases hb
  refine ⟨_, h, ?_, ?_, ?_⟩
  · show builtinManager.lifecycleOf _ = _
    decide +kernel
  · rw [onePacket, failsClosed_iff hsettled, not_not]
    refine ⟨⟨by decide, by decide, by decide, rfl, .inr rfl⟩, rfl, fun hup => ?_⟩
    exact hrests ((operational_windivert_iff hsettled).mpr hup)
  · rw [failsClosed_iff hsettled, not_not]
    exact ⟨rfl, .inr ⟨hrests, reinjection_alternative hsettled _⟩⟩

end Failover

end EngineRuntime

end NetworkEngine
