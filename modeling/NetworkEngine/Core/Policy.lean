import NetworkEngine.Core.Error

/-!
# Policy — what the host asks of the gateway

`network_core::policy`, as far as the gateway reads it.  A policy is the host's intent: the engine
validates it and never makes one up.
-/

namespace NetworkEngine

inductive PolicyDecision where
  | allow
  | deny
  deriving DecidableEq, Repr

inductive NatPolicyMode where
  | disabled
  | sourceNat
  | destinationNat
  | masquerade
  deriving DecidableEq, Repr

structure NatPolicy where
  enabled : Bool := false
  mode : NatPolicyMode := .disabled
  externalInterfaceId : Option UInt32 := none
  deriving DecidableEq, Repr

def NatPolicy.validate (p : NatPolicy) : EngineResult Unit :=
  if p.enabled then
    match p.mode with
    | .disabled => .error .configurationInvalid
    | .sourceNat | .destinationNat | .masquerade =>
      if p.externalInterfaceId.isNone then .error .configurationInvalid else .ok ()
  else if p.mode ≠ .disabled then .error .configurationInvalid
  else .ok ()

structure ForwardingPolicy where
  enabled : Bool := false
  ingressInterfaceId : Option UInt32 := none
  egressInterfaceId : Option UInt32 := none
  decision : PolicyDecision := .allow
  deriving DecidableEq, Repr

def ForwardingPolicy.validate (p : ForwardingPolicy) : EngineResult Unit :=
  if !p.enabled then .ok ()
  else if p.ingressInterfaceId.isNone || p.egressInterfaceId.isNone then
    .error .configurationInvalid
  else if p.ingressInterfaceId = p.egressInterfaceId then .error .configurationInvalid
  else .ok ()

structure RoutingContext where
  tableId : UInt32 := 0
  preferredInterfaceId : Option UInt32 := none
  deriving DecidableEq, Repr

structure GatewayPolicy where
  enabled : Bool := false
  defaultDecision : PolicyDecision := .deny
  nat : Option NatPolicy := none
  forwarding : Option ForwardingPolicy := none
  routing : RoutingContext := {}
  deriving DecidableEq, Repr

namespace GatewayPolicy

/-- `GatewayPolicy::validate`; the routing context is always valid. -/
def validate (p : GatewayPolicy) : EngineResult Unit := do
  match p.nat with
  | some nat => nat.validate
  | none => pure ()
  match p.forwarding with
  | some forwarding => forwarding.validate
  | none => pure ()
  if p.enabled && p.forwarding.isNone then throw .configurationInvalid

def forwardingRequested (p : GatewayPolicy) : Bool := p.forwarding.any (·.enabled)

def natRequested (p : GatewayPolicy) : Bool := p.nat.any (·.enabled)

end GatewayPolicy

end NetworkEngine
