import Mathlib.Data.Finset.Sort
import Mathlib.Data.String.Basic
import NetworkEngine.Core.Error
import NetworkEngine.Lib.Checked
import NetworkEngine.Lib.Table
import NetworkEngine.Lib.Triple

/-!
# Manager — backend lifecycles, health and the backend manager

`backend_manager::{capabilities, backend, health, manager}` and the catalogue of
`backend_contracts`.  The manager only keeps lifecycle and health; starting and stopping a native
backend is the engine's work.
-/

namespace NetworkEngine

open Rust

/-! ## 1. Capabilities and descriptors -/

inductive BackendCapability where
  | capture
  | interception
  | filtering
  | inspection
  | direction
  | ipv4
  | ipv6
  | tcp
  | udp
  | icmp
  | icmpV6
  | networkLayer
  | addressMetadata
  | modification
  | drop
  | pass
  | reinjection
  | queueControl
  | handleLifetime
  | errorReporting
  | l2Capture
  | rawEthernet
  | adapterEnumeration
  | wfpEngineAccess
  | wfpFilters
  | wfpLayers
  | wfpFlows
  | interfaceInfo
  | routeInfo
  | neighborInfo
  | gatewayInfo
  | diagnostics
  | telemetry
  | forwarding
  | natState
  deriving DecidableEq, Repr

inductive BackendRole where
  | primary
  | supplementary
  deriving DecidableEq, Repr

structure BackendDescriptor where
  name : String
  version : String
  description : String
  capabilities : Finset BackendCapability
  required : Bool := false
  role : BackendRole := .supplementary
  deriving DecidableEq

inductive BackendKind where
  | npcap
  | winDivert
  | wfp
  | ipHelper
  | etw
  deriving DecidableEq, Repr

namespace BackendKind

def name : BackendKind → String
  | npcap => "npcap"
  | winDivert => "windivert"
  | wfp => "wfp"
  | ipHelper => "iphelper"
  | etw => "etw"

def all : List BackendKind := [npcap, winDivert, wfp, ipHelper, etw]

def fromName (name : String) : Option BackendKind :=
  if name = "npcap" then some npcap
  else if name = "windivert" then some winDivert
  else if name = "wfp" then some wfp
  else if name = "iphelper" then some ipHelper
  else if name = "etw" then some etw
  else none

/-- `descriptor_for`. -/
def descriptor : BackendKind → BackendDescriptor
  | npcap => {
      name := "npcap"
      version := "0.1.0"
      description := "Npcap Layer-2/raw packet acquisition backend"
      capabilities := {.capture, .inspection, .l2Capture, .rawEthernet, .adapterEnumeration,
        .addressMetadata, .errorReporting}
      role := .primary }
  | winDivert => {
      name := "windivert"
      version := "0.1.0"
      description := "WinDivert IP-layer interception and packet-action backend"
      capabilities := {.capture, .interception, .filtering, .inspection, .direction, .ipv4, .ipv6,
        .tcp, .udp, .icmp, .icmpV6, .networkLayer, .addressMetadata, .modification, .drop, .pass,
        .reinjection, .queueControl, .handleLifetime, .errorReporting}
      role := .primary }
  | wfp => {
      name := "wfp"
      version := "0.1.0"
      description := "Windows Filtering Platform backend"
      capabilities := {.filtering, .inspection, .interception, .wfpEngineAccess, .wfpFilters,
        .wfpLayers, .wfpFlows, .addressMetadata, .errorReporting}
      role := .primary }
  | ipHelper => {
      name := "iphelper"
      version := "0.1.0"
      description := "Windows IP Helper network-state backend"
      capabilities := {.interfaceInfo, .routeInfo, .neighborInfo, .gatewayInfo,
        .adapterEnumeration, .errorReporting} }
  | etw => {
      name := "etw"
      version := "0.1.0"
      description := "Windows ETW diagnostics and telemetry backend"
      capabilities := {.diagnostics, .telemetry, .errorReporting} }

/-- Every kind has a descriptor under its own name. -/
theorem descriptor_name (kind : BackendKind) : kind.descriptor.name = kind.name := by
  cases kind <;> rfl

theorem name_injective : Function.Injective name := by
  intro kind other
  cases kind <;> cases other <;> decide

theorem fromName_eq_some {name : String} {kind : BackendKind} :
    fromName name = some kind ↔ name = kind.name := by
  constructor
  · intro h
    unfold fromName at h
    split_ifs at h with h₁ h₂ h₃ h₄ h₅ <;> obtain rfl := Option.some.inj h <;> assumption
  · rintro rfl
    cases kind <;> decide

end BackendKind

/-! ## 2. Lifecycle and health -/

inductive BackendLifecycle where
  | disabled
  | starting
  | running
  | degraded
  | failed
  | stopping
  | stopped
  deriving DecidableEq, Repr

namespace BackendLifecycle

def isActive : BackendLifecycle → Bool
  | starting | running | degraded | stopping => true
  | _ => false

def canStart : BackendLifecycle → Bool
  | disabled | stopped | failed => true
  | _ => false

def canStop : BackendLifecycle → Bool
  | starting | running | degraded => true
  | _ => false

def canTransitionTo (self next : BackendLifecycle) : Bool :=
  self == next ||
    match self, next with
    | disabled, starting => true
    | starting, running | starting, degraded | starting, failed | starting, stopping => true
    | running, degraded | running, stopping | running, failed => true
    | degraded, running | degraded, stopping | degraded, failed => true
    | stopping, stopped | stopping, failed => true
    | failed, starting | failed, stopped => true
    | stopped, starting | stopped, disabled => true
    | _, _ => false

end BackendLifecycle

inductive BackendHealth where
  | unknown
  | healthy
  | degraded
  | unhealthy
  deriving DecidableEq, Repr

/-- `a.saturating_add(1)` on `u32`. -/
def saturatingSucc32 (a : UInt32) : UInt32 := if a.toNat + 1 < 2 ^ 32 then a + 1 else a

theorem toNat_saturatingSucc32 (a : UInt32) :
    (saturatingSucc32 a).toNat = min (a.toNat + 1) (2 ^ 32 - 1) := by
  unfold saturatingSucc32
  split
  · rename_i h
    rw [UInt32.toNat_add, UInt32.toNat_one, Nat.mod_eq_of_lt h]
    omega
  · have hlt := a.toNat_lt
    omega

/-- `HealthMonitor` without its clock readings, which no verdict depends on. -/
structure HealthMonitor where
  failureThreshold : UInt32
  recoveryThreshold : UInt32
  failures : UInt32
  recoveries : UInt32
  health : BackendHealth
  deriving DecidableEq, Repr

namespace HealthMonitor

def new (failureThreshold recoveryThreshold : UInt32) : HealthMonitor :=
  ⟨max failureThreshold 1, max recoveryThreshold 1, 0, 0, .unknown⟩

def withDefaults : HealthMonitor := new 3 2

def recordSuccess (m : HealthMonitor) : HealthMonitor :=
  match m.health with
  -- The first success is believed at once; a recovery takes `recoveryThreshold` of them.
  | .unknown => { m with failures := 0, recoveries := 1, health := .healthy }
  | .healthy =>
    { m with failures := 0, recoveries := saturatingSucc32 m.recoveries, health := .healthy }
  | .degraded | .unhealthy =>
    let recoveries := saturatingSucc32 m.recoveries
    { m with
      failures := 0
      recoveries
      health := if m.recoveryThreshold ≤ recoveries then .healthy else .degraded }

def recordFailure (m : HealthMonitor) : HealthMonitor :=
  let failures := saturatingSucc32 m.failures
  { m with
    failures
    recoveries := 0
    health := if m.failureThreshold ≤ failures then .unhealthy else .degraded }

/-- The thresholds stay. -/
def reset (m : HealthMonitor) : HealthMonitor :=
  { m with failures := 0, recoveries := 0, health := .unknown }

def forceHealth (health : BackendHealth) (m : HealthMonitor) : HealthMonitor :=
  { m with health, failures := 0, recoveries := 0 }

end HealthMonitor

structure BackendRuntimeState where
  descriptor : BackendDescriptor
  lifecycle : BackendLifecycle
  errorCount : UInt64
  lastNativeError : Option Int
  deriving DecidableEq

namespace BackendRuntimeState

def new (descriptor : BackendDescriptor) : BackendRuntimeState := ⟨descriptor, .stopped, 0, none⟩

def transition (next : BackendLifecycle) (r : BackendRuntimeState) :
    EngineResult BackendRuntimeState :=
  if r.lifecycle.canTransitionTo next then .ok { r with lifecycle := next }
  else .error .invalidStateTransition

def recordError (nativeError : Option Int) (r : BackendRuntimeState) : BackendRuntimeState :=
  { r with errorCount := saturatingAdd64 r.errorCount 1, lastNativeError := nativeError }

/-- The lifecycle permits normal use; health is not looked at. -/
def isAvailable (r : BackendRuntimeState) : Bool :=
  r.lifecycle = .running ∨ r.lifecycle = .degraded

def supports (r : BackendRuntimeState) (capability : BackendCapability) : Bool :=
  capability ∈ r.descriptor.capabilities

end BackendRuntimeState

/-! ## 3. The manager -/

structure ManagedBackend where
  runtime : BackendRuntimeState
  health : HealthMonitor
  deriving DecidableEq

def ManagedBackend.new (descriptor : BackendDescriptor) : ManagedBackend :=
  ⟨.new descriptor, .withDefaults⟩

structure BackendManager where
  backends : Table String ManagedBackend
  deriving DecidableEq

namespace BackendManager

def new : BackendManager := ⟨∅⟩

/-- The Unicode property `White_Space`. -/
def isWhitespace (c : Char) : Bool :=
  (0x09 ≤ c.toNat && c.toNat ≤ 0x0d) || (0x2000 ≤ c.toNat && c.toNat ≤ 0x200a) ||
    [0x20, 0x85, 0xa0, 0x1680, 0x2028, 0x2029, 0x202f, 0x205f, 0x3000].contains c.toNat

def register (descriptor : BackendDescriptor) : Op BackendManager EngineError Unit :=
  atomically fun m =>
    -- `name.trim().is_empty()`
    if descriptor.name.toList.all isWhitespace then .error (.code .invalidArgument)
    else if descriptor.name ∈ m.backends then .error (.code .backendAlreadyRegistered)
    else .ok ((), ⟨m.backends.insert descriptor.name (.new descriptor)⟩)

/-- The manager after `register` of a built-in backend that it does not know. -/
def registered (m : BackendManager) (kind : BackendKind) : BackendManager :=
  ⟨m.backends.insert kind.descriptor.name (.new kind.descriptor)⟩

def contains (m : BackendManager) (name : String) : Bool := name ∈ m.backends

/-- `backends.get_mut(name).ok_or(BackendNotFound)?`, and the section's work on the entry. -/
def onBackend {α : Type} (name : String)
    (f : ManagedBackend → EngineResult (α × ManagedBackend)) : Op BackendManager EngineError α :=
  atomically fun m =>
    match m.backends.lookup name with
    | none => .error (.code .backendNotFound)
    | some b => do
      let (a, b') ← f b
      return (a, ⟨m.backends.insert name b'⟩)

def runtimeState (m : BackendManager) (name : String) : EngineResult BackendRuntimeState :=
  match m.backends.lookup name with
  | none => .error (.code .backendNotFound)
  | some b => .ok b.runtime

def supports (m : BackendManager) (name : String) (capability : BackendCapability) :
    EngineResult Bool :=
  (·.supports capability) <$> m.runtimeState name

/-- The health that an authoritative lifecycle change forces. -/
def forcedHealth : BackendLifecycle → HealthMonitor → HealthMonitor
  | .running, health => health.forceHealth .healthy
  | .failed, health => health.forceHealth .unhealthy
  -- `Degraded` is among these: it keeps whatever health the backend has.
  | _, health => health

def transitionTo (lifecycle : BackendLifecycle) (b : ManagedBackend) :
    EngineResult (Unit × ManagedBackend) := do
  let runtime ← b.runtime.transition lifecycle
  return ((), ⟨runtime, forcedHealth lifecycle b.health⟩)

def setLifecycle (name : String) (lifecycle : BackendLifecycle) : Op BackendManager EngineError Unit :=
  onBackend name (transitionTo lifecycle)

def start (name : String) : Op BackendManager EngineError Unit :=
  onBackend name fun b =>
    if b.runtime.lifecycle.canStart then do
      -- The health of the last session stays until the backend runs again.
      let runtime ← b.runtime.transition .starting
      return ((), { b with runtime })
    else if b.runtime.lifecycle = .running then .error (.code .backendAlreadyRunning)
    else .error (.code .invalidStateTransition)

def markRunning (name : String) : Op BackendManager EngineError Unit := setLifecycle name .running

def stop (name : String) : Op BackendManager EngineError Unit :=
  onBackend name fun b =>
    if b.runtime.lifecycle = .stopped then .error (.code .backendNotRunning)
    else if b.runtime.lifecycle.canStop then do
      let runtime ← b.runtime.transition .stopping
      return ((), { b with runtime })
    else .error (.code .invalidStateTransition)

def markStopped (name : String) : Op BackendManager EngineError Unit := setLifecycle name .stopped

def recordSuccess (name : String) : Op BackendManager EngineError BackendHealth :=
  onBackend name fun b =>
    let health := b.health.recordSuccess
    let runtime :=
      -- The matrix lets every degraded backend run again.
      if health.health = .healthy ∧ b.runtime.lifecycle = .degraded then
        { b.runtime with lifecycle := .running }
      else b.runtime
    .ok (health.health, ⟨runtime, health⟩)

/-- The lifecycle that a recorded failure asks for. -/
def failureLifecycle (health : BackendHealth) (lifecycle : BackendLifecycle) :
    Option BackendLifecycle :=
  match health with
  | .unhealthy => if lifecycle = .failed then none else some .failed
  -- A backend that starts, or is degraded already, stays as it is.
  | .degraded => if lifecycle = .running then some .degraded else none
  | .healthy | .unknown => none

/-- The error is recorded before the transition is tried, and stays when it is refused. -/
def recordFailure (name : String) (nativeError : Option Int) :
    Op BackendManager EngineError BackendHealth := fun m =>
  match m.backends.lookup name with
  | none => (.error (.code .backendNotFound), m)
  | some b =>
    let runtime := b.runtime.recordError nativeError
    let health := b.health.recordFailure
    match failureLifecycle health.health runtime.lifecycle with
    | none => (.ok health.health, ⟨m.backends.insert name ⟨runtime, health⟩⟩)
    | some next =>
      match runtime.transition next with
      | .ok runtime => (.ok health.health, ⟨m.backends.insert name ⟨runtime, health⟩⟩)
      | .error err => (.error err, ⟨m.backends.insert name ⟨runtime, health⟩⟩)

def unregister (name : String) : Op BackendManager EngineError Unit :=
  atomically fun m =>
    match m.backends.lookup name with
    | none => .error (.code .backendNotFound)
    | some b =>
      if b.runtime.lifecycle.isActive then .error (.code .concurrentOperation)
      else .ok ((), ⟨m.backends.erase name⟩)

def health (m : BackendManager) (name : String) : EngineResult BackendHealth :=
  match m.backends.lookup name with
  | none => .error (.code .backendNotFound)
  | some b => .ok b.health.health

/-- The registered names, in order. -/
def names (m : BackendManager) : List String := m.backends.keys.sort (· ≤ ·)

/-- The registered descriptors, ordered by name. -/
def descriptors (m : BackendManager) : List BackendDescriptor :=
  m.names.filterMap fun name => (m.backends.lookup name).map (·.runtime.descriptor)

/-- The registered backends that satisfy `p`, in order. -/
def namesWhere (m : BackendManager) (p : ManagedBackend → Bool) : List String :=
  m.names.filter fun name => (m.backends.lookup name).any p

def findCapable (m : BackendManager) (capability : BackendCapability) : List String :=
  m.namesWhere fun b => b.runtime.isAvailable && b.runtime.supports capability

def findHealthyCapable (m : BackendManager) (capability : BackendCapability) : List String :=
  m.namesWhere fun b =>
    b.runtime.isAvailable && b.runtime.supports capability && b.health.health = .healthy

/-- The lifecycle of a registered backend. -/
def lifecycleOf (m : BackendManager) (name : String) : Option BackendLifecycle :=
  (m.backends.lookup name).map (·.runtime.lifecycle)

theorem mem_namesWhere {m : BackendManager} {p : ManagedBackend → Bool} {name : String} :
    name ∈ m.namesWhere p ↔ ∃ b, m.backends.lookup name = some b ∧ p b = true := by
  rw [namesWhere, List.mem_filter, names, Finset.mem_sort, Finmap.mem_keys, Option.any_eq_true]
  constructor
  · exact fun h => h.2
  · intro h
    rcases h with ⟨b, hb, hp⟩
    exact ⟨Finmap.mem_of_lookup_eq_some hb, b, hb, hp⟩

/-! ### What an operation leaves alone -/

theorem onBackend_lookup_of_ne {α : Type} {name other : String}
    (f : ManagedBackend → EngineResult (α × ManagedBackend)) (m : BackendManager)
    (h : other ≠ name) :
    (exec (onBackend name f) m).2.backends.lookup other = m.backends.lookup other := by
  rw [onBackend, exec_atomically]
  cases m.backends.lookup name with
  | none => rfl
  | some b =>
    dsimp only
    cases f b with
    | error e => rfl
    | ok r => exact (Table.lookup_insert ..).trans (if_neg h)

theorem onBackend_ok {α : Type} {name : String} {m : BackendManager} {b b' : ManagedBackend}
    {f : ManagedBackend → EngineResult (α × ManagedBackend)} {a : α}
    (hb : m.backends.lookup name = some b) (hf : f b = .ok (a, b')) :
    exec (onBackend name f) m = (.ok a, ⟨m.backends.insert name b'⟩) :=
  exec_atomically_ok (by rw [hb]; simp only [hf]; rfl)

theorem onBackend_error {α : Type} {name : String} {m : BackendManager} {b : ManagedBackend}
    {f : ManagedBackend → EngineResult (α × ManagedBackend)} {e : EngineError}
    (hb : m.backends.lookup name = some b) (hf : f b = .error e) :
    exec (onBackend name f) m = (.error e, m) :=
  exec_atomically_error (by rw [hb]; simp only [hf]; rfl)

theorem onBackend_unknown {α : Type} {name : String} {m : BackendManager}
    (f : ManagedBackend → EngineResult (α × ManagedBackend)) (h : m.backends.lookup name = none) :
    exec (onBackend name f) m = (.error (.code .backendNotFound), m) :=
  exec_atomically_error (by rw [h])

/-! ### Lifecycles under the operations -/

theorem lifecycleOf_eq_some {m : BackendManager} {name : String} {l : BackendLifecycle}
    (h : m.lifecycleOf name = some l) :
    ∃ b, m.backends.lookup name = some b ∧ b.runtime.lifecycle = l :=
  Option.map_eq_some_iff.mp h

theorem lifecycleOf_insert (m : BackendManager) (name : String) (b : ManagedBackend) :
    lifecycleOf ⟨m.backends.insert name b⟩ name = some b.runtime.lifecycle := by
  rw [lifecycleOf, Table.lookup_insert, if_pos rfl]
  rfl

theorem onBackend_lifecycleOf_of_ne {α : Type} {name other : String}
    (f : ManagedBackend → EngineResult (α × ManagedBackend)) (m : BackendManager)
    (h : other ≠ name) :
    (exec (onBackend name f) m).2.lifecycleOf other = m.lifecycleOf other := by
  rw [lifecycleOf, onBackend_lookup_of_ne f m h]
  rfl

/-- A lifecycle change that the matrix allows. -/
theorem setLifecycle_ok {m : BackendManager} {name : String} {l next : BackendLifecycle}
    (h : m.lifecycleOf name = some l) (hmatrix : l.canTransitionTo next = true) :
    ∃ m', exec (setLifecycle name next) m = (.ok (), m') ∧ m'.lifecycleOf name = some next := by
  obtain ⟨b, hb, rfl⟩ := lifecycleOf_eq_some h
  obtain ⟨b', hf, hnext⟩ :
      ∃ b', transitionTo next b = .ok ((), b') ∧ b'.runtime.lifecycle = next := by
    rw [transitionTo, BackendRuntimeState.transition, if_pos hmatrix]
    exact ⟨_, rfl, rfl⟩
  exact ⟨_, onBackend_ok hb hf, by rw [lifecycleOf_insert, hnext]⟩

theorem start_ok {m : BackendManager} {name : String} {l : BackendLifecycle}
    (h : m.lifecycleOf name = some l) (hstart : l.canStart = true) :
    ∃ m', exec (start name) m = (.ok (), m') ∧ m'.lifecycleOf name = some .starting := by
  obtain ⟨b, hb, rfl⟩ := lifecycleOf_eq_some h
  -- What may start may become `Starting`: the guard is inside the matrix.
  have hmatrix : b.runtime.lifecycle.canTransitionTo .starting = true := by
    revert hstart
    cases b.runtime.lifecycle <;> decide
  let b' : ManagedBackend := { b with runtime := { b.runtime with lifecycle := .starting } }
  have hrun : exec (start name) m = (.ok (), ⟨m.backends.insert name b'⟩) := by
    refine onBackend_ok hb ?_
    rw [if_pos hstart, BackendRuntimeState.transition, if_pos hmatrix]
    rfl
  exact ⟨_, hrun, lifecycleOf_insert ..⟩

/-- A backend that cannot stop is left as it is. -/
theorem stop_refused {m : BackendManager} {name : String} {l : BackendLifecycle}
    (h : m.lifecycleOf name = some l) (hstop : l.canStop = false) :
    ∃ e, exec (stop name) m = (.error e, m) := by
  obtain ⟨b, hb, rfl⟩ := lifecycleOf_eq_some h
  -- The source tells a stopped backend apart; both refusals leave the manager alone.
  by_cases hstopped : b.runtime.lifecycle = .stopped
  · exact ⟨_, onBackend_error hb (if_pos hstopped)⟩
  · refine ⟨_, onBackend_error hb (e := .code .invalidStateTransition) ?_⟩
    rw [if_neg hstopped, hstop]
    rfl

end BackendManager

end NetworkEngine
