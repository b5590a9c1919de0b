import NetworkEngine.Core.Filter
import NetworkEngine.Gateway.Forwarding
import NetworkEngine.Gateway.Routing

/-!
# CidrMatchers — five matchers, one answer

The forwarding table, the routing table, the routes and addresses of the network state and the
address rules of filters each compare addresses under a mask of their own.
-/

namespace NetworkEngine

open Rust

/-- What a constructor that checks the prefix length builds, and what the matcher then answers. -/
def cidrAnswer {ε : Type} (network : IpAddr) (prefixLen : UInt8) (candidate : IpAddr) :
    Option (Checked ε Bool) :=
  if network.maxPrefix < prefixLen then none
  else some (.ok (network.Covers prefixLen.toNat candidate))

variable {ε : Type}

theorem map_if_rejected {α β : Type} {c : Prop} [Decidable c] {a : α} {f : α → β} {b : β}
    (h : ¬ c → f a = b) :
    (if c then none else some a : Option α).map f = if c then none else some b := by
  by_cases hc : c
  · rw [if_pos hc, if_pos hc]
    rfl
  · rw [if_neg hc, if_neg hc, Option.map_some, h hc]

/-- All matchers accept the prefix lengths of the family, and answer whether the candidate is of the
family of the network and begins with the same bits.  None of them panics. -/
theorem cidr_matchers_agree (network : IpAddr) (prefixLen : UInt8) (candidate : IpAddr)
    (interfaceId metric : UInt32) (nextHop : Option IpAddr) (id interface : UInt64) :
    (ForwardingEntry.new network prefixLen interfaceId nextHop).map (·.matches candidate) =
        cidrAnswer (ε := ε) network prefixLen candidate ∧
      (RoutingEntry.new network prefixLen nextHop interfaceId metric).map (·.matches candidate) =
        cidrAnswer (ε := ε) network prefixLen candidate ∧
      (NetworkState.RouteInfo.new id network prefixLen interface).map (·.contains candidate) =
        cidrAnswer (ε := ε) network prefixLen candidate ∧
      (NetworkState.AddressInfo.new interface network prefixLen).map (·.contains candidate) =
        cidrAnswer (ε := ε) network prefixLen candidate ∧
      (AddressMatch.ofNetwork network prefixLen).map (·.matches candidate) =
        cidrAnswer (ε := ε) network prefixLen candidate := by
  unfold cidrAnswer
  refine ⟨?_, ?_, ?_, ?_, ?_⟩
  · unfold ForwardingEntry.new
    by_cases h : network.maxPrefix < prefixLen
    · rw [dif_pos h, if_pos h]
      rfl
    · rw [dif_neg h, if_neg h, Option.map_some, ForwardingEntry.matches_eq]
  · unfold RoutingEntry.new
    by_cases h : network.maxPrefix < prefixLen
    · rw [dif_pos h, if_pos h]
      rfl
    · rw [dif_neg h, if_neg h, Option.map_some, RoutingEntry.matches_eq]
  · apply map_if_rejected
    intro h
    exact NetworkState.RouteInfo.contains_eq (UInt8.not_lt.mp h) candidate
  · apply map_if_rejected
    intro h
    exact NetworkState.AddressInfo.contains_eq (UInt8.not_lt.mp h) candidate
  · unfold AddressMatch.ofNetwork
    by_cases h : network.maxPrefix < prefixLen
    · rw [if_neg (UInt8.not_le.mpr h), if_pos h]
      rfl
    · have hle := UInt8.not_lt.mp h
      rw [if_pos hle, if_neg h, Option.map_some, AddressMatch.matches_network hle]

end NetworkEngine
