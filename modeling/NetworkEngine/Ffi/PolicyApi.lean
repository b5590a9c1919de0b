import NetworkEngine.Engine.PacketPolicy
import NetworkEngine.Engine.State
import NetworkEngine.Ffi.Handles
import NetworkEngine.Parser.UpperLayer

/-!
# PolicyApi — the rules that the host adds

`ffi::policy_api`: the packet action policy under the engine lock, and what becomes of a rule for
one protocol number.  The rule parser, the packet parser and the matcher each have a table of their
own; a rule works for the numbers that all three know.
-/

namespace NetworkEngine

open Rust Ipv6Extension ParsedPacket

/-! ## 1. The arguments of a rule -/

namespace PolicyApi

def action (v : Int) : Option PacketActionPolicy :=
  if v = 0 then some .pass
  else if v = 1 then some .drop
  else if v = 2 then some .inspect
  else none

def direction (v : Int) : Option (Option Direction) :=
  if v = -1 then some none
  else if v = 0 then some (some .inbound)
  else if v = 1 then some (some .outbound)
  else if v = 2 then some (some .unknown)
  else none

def protocol (v : Int) : Option (Option NetworkCore.Protocol) :=
  if v = -1 then some none
  else if v = 1 then some (some .icmp)
  else if v = 6 then some (some .tcp)
  else if v = 17 then some (some .udp)
  else if v = 58 then some (some .icmpV6)
  else if 0 ≤ v ∧ v ≤ 255 then some (some (.other (UInt8.ofNat v.toNat)))
  else none

/-- `bytes` is what the pointer points to, if it is not null. -/
def ip (family : Int) (bytes : Option (Nat → UInt8)) : Option (Option IpAddr) :=
  if family = 0 then some none
  else
    match bytes with
    | none => none
    | some byte =>
      if family = 4 then some (some (.v4 ⟨byte 0, byte 1, byte 2, byte 3⟩))
      else if family = 6 then some (some (.v6 ⟨Vector.ofFn fun i => byte i⟩))
      else none

/-! ## 2. The calls -/

/-- The part of the engine that the policy calls look at. -/
structure PolicyEngine where
  state : EngineState
  packetPolicy : PacketActionPolicyConfig
  deriving DecidableEq, Repr

/-- A call on `GLOBAL_ENGINE`. -/
abbrev PolicyOp (α : Type) := Op (Option PolicyEngine) NeCode α

/-- `match argument { Some(v) => v, None => return NE_ERROR_INVALID_ARGUMENT }`. -/
def argument {α : Type} (parsed : Option α) : PolicyOp α :=
  match parsed with
  | some v => return v
  | none => throw .invalidArgument

/-- `engine.packet_policy()`. -/
def packetPolicy : PolicyOp PacketActionPolicyConfig := do
  match ← getState with
  | none => throw .notInitialized
  | some engine => return engine.packetPolicy

/-- `engine.set_packet_policy(policy)`; whatever its error is, the caller gets the same code. -/
def setPacketPolicy (policy : PacketActionPolicyConfig) : PolicyOp Unit := fun s =>
  match s with
  | none => (.error .notInitialized, s)
  | some engine =>
    match engine.state.requireRunning with
    | .ok () => (.ok (), some { engine with packetPolicy := policy })
    | .error _ => (.error .internal, s)

def packetPolicySetDefault (actionValue : Int) : PolicyOp Unit := do
  let action ← argument (action actionValue)
  let current ← packetPolicy
  setPacketPolicy { defaultAction := action, rules := current.rules }

def packetPolicyClearRules : PolicyOp Unit := do
  let current ← packetPolicy
  setPacketPolicy { defaultAction := current.defaultAction, rules := [] }

/-- `(port != 0).then_some(port)`. -/
def portOf (port : UInt16) : Option UInt16 := if port ≠ 0 then some port else none

def packetPolicyAddRule (priority : UInt32) (directionValue protocolValue srcIpFamily : Int)
    (srcIp : Option (Nat → UInt8)) (dstIpFamily : Int) (dstIp : Option (Nat → UInt8))
    (srcPort dstPort : UInt16) (actionValue : Int) : PolicyOp Unit := do
  let action ← argument (action actionValue)
  let direction ← argument (direction directionValue)
  let protocol ← argument (protocol protocolValue)
  let srcIp ← argument (ip srcIpFamily srcIp)
  let dstIp ← argument (ip dstIpFamily dstIp)
  let rule : FilterRule := {
    priority
    matchDirection := direction
    matchProtocol := protocol
    matchSrcIp := srcIp
    matchDstIp := dstIp
    matchSrcPort := portOf srcPort
    matchDstPort := portOf dstPort
    action }
  let current ← packetPolicy
  setPacketPolicy { current with rules := current.rules ++ [rule] }

/-! ## 3. Rules for one protocol -/

variable {s s' : Option PolicyEngine} {rule : FilterRule} {parsed : ParsedPacket}
  {packetDirection : Direction} {number : Int} {expected : NetworkCore.Protocol}

/-- The rule decides about the packet, as the only rule of any policy. -/
def Decides (rule : FilterRule) (parsed : ParsedPacket) (packetDirection : Direction) : Prop :=
  ∀ defaultAction, (evaluatePacket parsed packetDirection ⟨defaultAction, [rule]⟩ :
    Checked EngineError PacketDecision) = .ok rule.action.decision

theorem evaluatePacket_single (defaultAction : PacketActionPolicy) :
    (evaluatePacket parsed packetDirection ⟨defaultAction, [rule]⟩ :
      Checked EngineError PacketDecision) =
      .ok (if ruleMatches rule parsed packetDirection then rule.action.decision
        else defaultAction.decision) := by
  show (if ruleMatches rule parsed packetDirection then pure rule.action.decision
    else pure defaultAction.decision : Checked EngineError PacketDecision) = _
  split <;> rfl

theorem decides_iff :
    Decides rule parsed packetDirection ↔ ruleMatches rule parsed packetDirection = true := by
  constructor
  · intro h
    by_contra hmiss
    have hdecision (defaultAction : PacketActionPolicy) :
        defaultAction.decision = rule.action.decision := by
      have heq := h defaultAction
      rw [evaluatePacket_single, if_neg hmiss] at heq
      exact Except.ok.inj heq
    -- Two different defaults cannot both be the action of the rule.
    have hsame := (hdecision .pass).trans (hdecision .drop).symm
    cases hsame
  · intro h defaultAction
    rw [evaluatePacket_single, if_pos h]

/-- The transport protocol that the parser and the matcher know under this number. -/
def Numbered (transport : TransportProtocol) (value : UInt8) : Prop :=
  transport = .icmp ∧ value = 1 ∨ transport = .tcp ∧ value = 6 ∨
    transport = .udp ∧ value = 17 ∨ transport = .icmpv6 ∧ value = 58

instance (transport : TransportProtocol) (value : UInt8) : Decidable (Numbered transport value) :=
  inferInstanceAs (Decidable (_ ∨ _))

/-- The numbers that a rule may name, and what they are compared with. -/
theorem protocol_eq_some (h : protocol number = some (some expected)) :
    ∃ value : UInt8, number = value.toNat ∧
      ∀ transport : TransportProtocol,
        transport.toProtocol = some expected ↔ Numbered transport value := by
  unfold protocol at h
  split_ifs at h with h₁ h₂ h₃ h₄ h₅ h₆
  · cases Option.some.inj h
  · refine ⟨1, h₂, fun transport => ?_⟩
    obtain rfl := Option.some.inj (Option.some.inj h)
    cases transport <;> decide
  · refine ⟨6, h₃, fun transport => ?_⟩
    obtain rfl := Option.some.inj (Option.some.inj h)
    cases transport <;> decide
  · refine ⟨17, h₄, fun transport => ?_⟩
    obtain rfl := Option.some.inj (Option.some.inj h)
    cases transport <;> decide
  · refine ⟨58, h₅, fun transport => ?_⟩
    obtain rfl := Option.some.inj (Option.some.inj h)
    cases transport <;> decide
  · obtain rfl := Option.some.inj (Option.some.inj h)
    have hvalue : (UInt8.ofNat number.toNat).toNat = number.toNat :=
      UInt8.toNat_ofNat_of_lt' (by
        show number.toNat < 2 ^ 8
        omega)
    refine ⟨UInt8.ofNat number.toNat, by omega, fun transport => ?_⟩
    have hother (value : UInt8) (hne : number ≠ value.toNat) :
        UInt8.ofNat number.toNat ≠ value := by
      rintro rfl
      omega
    have hicmp := hother 1 h₂
    have htcp := hother 6 h₃
    have hudp := hother 17 h₄
    have hicmpV6 := hother 58 h₅
    cases transport <;> simp [TransportProtocol.toProtocol, Numbered, hicmp, htcp, hudp, hicmpV6]

theorem argument_bind_ok {α β : Type} {parsed : Option α} {f : α → PolicyOp β} {b : β}
    (h : exec (argument parsed >>= f) s = (.ok b, s')) :
    ∃ v, parsed = some v ∧ exec (f v) s = (.ok b, s') := by
  cases parsed with
  | none => cases (Prod.mk.inj h).1
  | some v => exact ⟨v, rfl, h⟩

theorem packetPolicy_bind_ok {β : Type} {f : PacketActionPolicyConfig → PolicyOp β} {b : β}
    (h : exec (packetPolicy >>= f) s = (.ok b, s')) :
    ∃ engine, s = some engine ∧ exec (f engine.packetPolicy) s = (.ok b, s') := by
  cases s with
  | none => cases (Prod.mk.inj h).1
  | some engine => exact ⟨engine, rfl, h⟩

theorem setPacketPolicy_ok {engine : PolicyEngine} {policy : PacketActionPolicyConfig}
    (h : exec (setPacketPolicy policy) (some engine) = (.ok (), s')) :
    s' = some { engine with packetPolicy := policy } := by
  change setPacketPolicy policy (some engine) = _ at h
  unfold setPacketPolicy at h
  dsimp only at h
  split at h
  · exact (Prod.mk.inj h).2.symm
  · cases (Prod.mk.inj h).1

theorem protocol_eq_any (h : protocol number = some none) : number = -1 := by
  unfold protocol at h
  split_ifs at h with hany
  · exact hany
  all_goals cases Option.some.inj h

/-- What a successful call has added to the policy. -/
theorem packetPolicyAddRule_ok {priority : UInt32} {srcIp dstIp : Option (Nat → UInt8)}
    {actionValue : Int}
    (h : exec (packetPolicyAddRule priority (-1) number 0 srcIp 0 dstIp 0 0 actionValue) s =
      (.ok (), s')) :
    ∃ engine action expected, s = some engine ∧ protocol number = some expected ∧
      s' = some { engine with
        packetPolicy.rules := engine.packetPolicy.rules ++
          [⟨priority, none, expected, none, none, none, none, action⟩] } := by
  obtain ⟨action, -, h⟩ := argument_bind_ok h
  obtain ⟨direction, hdirection, h⟩ := argument_bind_ok h
  obtain ⟨expected, hprotocol, h⟩ := argument_bind_ok h
  obtain ⟨srcIp, hsrc, h⟩ := argument_bind_ok h
  obtain ⟨dstIp, hdst, h⟩ := argument_bind_ok h
  obtain ⟨engine, rfl, h⟩ := packetPolicy_bind_ok h
  obtain rfl : none = direction := Option.some.inj hdirection
  obtain rfl : none = srcIp := Option.some.inj hsrc
  obtain rfl : none = dstIp := Option.some.inj hdst
  exact ⟨engine, action, expected, rfl, hprotocol, setPacketPolicy_ok h⟩

/-- Such a rule looks at the transport protocol alone. -/
theorem ruleMatches_protocol {priority : UInt32} {action : PacketActionPolicy} :
    ruleMatches ⟨priority, none, some expected, none, none, none, none, action⟩ parsed
      packetDirection = true ↔ parsed.transport.toProtocol = some expected := by
  rw [ruleMatches_iff]
  simp

theorem numbered_ipv4Transport (upper value : UInt8) :
    Numbered (ipv4Transport upper) value ↔
      value = upper ∧ (upper = 6 ∨ upper = 17 ∨ upper = 1) := by
  unfold ipv4Transport Numbered
  split_ifs with htcp hudp hicmp
  · simp [htcp]
  · simp [hudp]
  · simp [hicmp]
  · simp [htcp, hudp, hicmp]

theorem numbered_ipv6Transport (upper value : UInt8) :
    Numbered (ipv6Transport upper) value ↔
      value = upper ∧ (upper = 6 ∨ upper = 17 ∨ upper = 58) := by
  unfold ipv6Transport Numbered
  split_ifs with htcp hudp hicmpV6
  · simp [htcp]
  · simp [hudp]
  · simp [hicmpV6]
  · simp [htcp, hudp, hicmpV6]

/-- The upper-layer protocols that the parser tells apart: TCP, UDP and the ICMP of the family,
behind no more extension headers than it walks. -/
def Classified (family : NetworkProtocol) (count : Nat) (upper : UInt8) : Prop :=
  count ≤ 16 ∧ (upper = 6 ∨ upper = 17 ∨ family = .ipv4 ∧ upper = 1 ∨ family = .ipv6 ∧ upper = 58)

instance (family : NetworkProtocol) (count : Nat) (upper : UInt8) :
    Decidable (Classified family count upper) :=
  inferInstanceAs (Decidable (_ ∧ _))

theorem numbered_classOf {raw : Bytes} {offset count : Nat} {upper : UInt8}
    {family : NetworkProtocol} (h : UpperLayer raw offset family count upper) (value : UInt8) :
    Numbered (classOf family count upper) value ↔
      value = upper ∧ Classified family count upper := by
  unfold Classified
  cases h with
  | ipv4 =>
    show Numbered (ipv4Transport upper) value ↔ _
    rw [numbered_ipv4Transport]
    simp
  | @ipv6 _ nextHeader _ es =>
    show Numbered (if es.length ≤ 16 then ipv6Transport (announced nextHeader es) else .unknown)
      value ↔ _
    by_cases hcount : es.length ≤ 16
    · rw [if_pos hcount, numbered_ipv6Transport]
      simp [hcount]
    · rw [if_neg hcount]
      simp [hcount, Numbered]

/-- A rule for one protocol number decides about the packets of that upper-layer protocol, and no
others, unless it names a protocol that the parser has no class for. -/
theorem protocolRule_iff (priority : UInt32) (number : Int) (srcIp dstIp : Option (Nat → UInt8))
    (actionValue : Int) (s s' : Option PolicyEngine)
    (hadd : exec (packetPolicyAddRule priority (-1) number 0 srcIp 0 dstIp 0 0 actionValue) s =
      (.ok (), s'))
    (hnumber : number ≠ -1) (source : BackendSource) (raw : Bytes) (layer : PacketInputLayer)
    (parsed : ParsedPacket) (hparsed : parseBytes source raw layer = .ok parsed)
    (offset : Nat) (hat : HeaderAt raw layer offset) (family : NetworkProtocol) (count : Nat)
    (upper : UInt8) (hupper : UpperLayer raw offset family count upper)
    (packetDirection : Direction) :
    ∃ engine rule, s = some engine ∧
      s' = some { engine with
        packetPolicy.rules := engine.packetPolicy.rules ++ [rule] } ∧
      ((Decides rule parsed packetDirection ↔ number = upper.toNat) ↔
        (number = upper.toNat → Classified family count upper)) := by
  obtain ⟨engine, action, expected, rfl, hprotocol, rfl⟩ := packetPolicyAddRule_ok hadd
  refine ⟨engine, _, rfl, rfl, ?_⟩
  cases expected with
  | none => exact absurd (protocol_eq_any hprotocol) hnumber
  | some expected =>
    obtain ⟨value, rfl, hvalue⟩ := protocol_eq_some hprotocol
    have hclass := parseBytes_class hparsed hat hupper
    rw [decides_iff, ruleMatches_protocol, hvalue, hclass, numbered_classOf hupper, Int.natCast_inj,
      UInt8.toNat_inj]
    tauto

/-- An engine that runs and passes every packet. -/
def passing : PolicyEngine := ⟨⟨true, false, .running⟩, ⟨.pass, []⟩⟩

/-- The engine with a rule that drops one protocol. -/
def dropping (expected : NetworkCore.Protocol) : PolicyEngine :=
  ⟨⟨true, false, .running⟩, ⟨.pass, [⟨0, none, some expected, none, none, none, none, .drop⟩]⟩⟩

/-- An IPv4 header without a payload. -/
def bareIpv4 (protocol : UInt8) : Bytes where
  toList := [0x45, 0, 0, 20, 0, 0, 0, 0, 64, protocol, 0, 0, 10, 0, 0, 1, 10, 0, 0, 2]
  length_le := by
    show 20 ≤ isizeMax
    decide

theorem upperLayer_bareIpv4 (protocol : UInt8) :
    UpperLayer (bareIpv4 protocol) 0 .ipv4 0 protocol :=
  @UpperLayer.ipv4 _ _ 0x45 protocol rfl (by decide) rfl

/-- A rule for TCP works. -/
theorem protocolRule_iff_tcp :
    ∃ parsed rule, parseBytes .windivert (bareIpv4 6) .ip = .ok parsed ∧
      (Decides rule parsed .inbound ↔ (6 : Int) = (6 : UInt8).toNat) := by
  obtain ⟨parsed, hparsed⟩ :
      ∃ parsed, (parseBytes .windivert (bareIpv4 6) .ip).toOption = some parsed :=
    Option.isSome_iff_exists.mp (by decide +kernel)
  have hok := toOption_eq_some hparsed
  obtain ⟨engine, rule, -, -, hiff⟩ := protocolRule_iff 0 6 none none 1 (some passing)
    (some (dropping .tcp)) (by decide) (by decide) .windivert (bareIpv4 6) .ip parsed hok 0 .ip
    .ipv4 0 6 (upperLayer_bareIpv4 6) .inbound
  exact ⟨parsed, rule, hok, hiff.mpr fun _ => by decide⟩

/-- A rule that drops GRE is accepted and drops nothing. -/
theorem gre_rule_never_decides :
    ∃ parsed rule,
      exec (packetPolicyAddRule 0 (-1) 47 0 none 0 none 0 0 1) (some passing) =
        (.ok (), some { passing with packetPolicy.rules := [rule] }) ∧
      parseBytes .windivert (bareIpv4 47) .ip = .ok parsed ∧
      UpperLayer (bareIpv4 47) 0 .ipv4 0 47 ∧
      ¬ (Decides rule parsed .inbound ↔ (47 : Int) = (47 : UInt8).toNat) := by
  obtain ⟨parsed, hparsed⟩ :
      ∃ parsed, (parseBytes .windivert (bareIpv4 47) .ip).toOption = some parsed :=
    Option.isSome_iff_exists.mp (by decide +kernel)
  have hok := toOption_eq_some hparsed
  have hclass := parseBytes_class hok .ip (upperLayer_bareIpv4 47)
  refine ⟨parsed, ⟨0, none, some (.other 47), none, none, none, none, .drop⟩, by decide, hok,
    upperLayer_bareIpv4 47, fun hiff => ?_⟩
  have hdecides := hiff.mpr rfl
  rw [decides_iff, ruleMatches_protocol, hclass] at hdecides
  cases hdecides

end PolicyApi

end NetworkEngine
