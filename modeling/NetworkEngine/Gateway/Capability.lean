import NetworkEngine.Core.Policy
import NetworkEngine.Lib.Op

/-!
# Capability — the gateway's administrative state

`gateway_capability::{state, gateway_context}` and `GatewayCapability`.  The gateway runs on the
capability flags it was given when it was configured; it does not look at a backend.  Its runtime
tables, and the limits they are created with, are apart from this state.
-/

namespace NetworkEngine

open Rust

inductive GatewayState where
  | idle
  | active
  | degraded
  | error
  deriving DecidableEq, Repr

def GatewayState.canTransitionTo : GatewayState → GatewayState → Bool
  | .idle, .active | .idle, .error => true
  | .active, .idle | .active, .degraded | .active, .error => true
  | .degraded, .active | .degraded, .idle | .degraded, .error => true
  | .error, .idle => true
  | _, _ => false

structure GatewayCapabilities where
  forwarding : Bool := false
  routing : Bool := false
  nat : Bool := false
  neighborResolution : Bool := false
  deriving DecidableEq, Repr

def GatewayCapabilities.forwardingReady (c : GatewayCapabilities) : Bool :=
  c.forwarding && c.routing && c.neighborResolution

inductive GatewayCapabilityError where
  | notReady
  | notRunning
  | invalidState
  deriving DecidableEq, Repr

/-- `GatewayCapability` with the fields of its context. -/
structure GatewayCapability where
  enabled : Bool
  state : GatewayState
  policy : GatewayPolicy
  capabilities : GatewayCapabilities
  deriving DecidableEq, Repr

namespace GatewayCapability

def new (policy : GatewayPolicy) : GatewayCapability := ⟨false, .idle, policy, {}⟩

def canStart (g : GatewayCapability) : Bool :=
  g.policy.enabled && g.capabilities.forwardingReady &&
    decide (g.state = .idle ∨ g.state = .degraded)

def canForward (g : GatewayCapability) : Bool :=
  g.policy.enabled && g.capabilities.forwardingReady &&
    decide (g.state = .active ∨ g.state = .degraded)

/-- `GatewayStateManager::transition`, whose error the gateway replaces by its own. -/
def transition (next : GatewayState) : Op GatewayCapability GatewayCapabilityError Unit := do
  let g ← getState
  if g.state = next then return ()
  if g.state.canTransitionTo next then modifyState fun g => { g with state := next }
  else throw .invalidState

def start : Op GatewayCapability GatewayCapabilityError Unit := do
  let g ← getState
  if g.canStart then
    transition .active
    modifyState fun g => { g with enabled := true }
  else throw .notReady

def stop : Op GatewayCapability GatewayCapabilityError Unit := do
  modifyState fun g => { g with enabled := false }
  transition .idle

def isReady (g : GatewayCapability) : Bool := g.enabled && g.canForward

end GatewayCapability

end NetworkEngine
