import NetworkEngine.Network.Cidr

/-!
# Filter — address rules of a packet filter

`network_core::filter`, the rules for addresses.
-/

namespace NetworkEngine

open Rust

/-- A rule, whose networks `network` makes. -/
inductive AddressMatch where
  | exact (address : IpAddr)
  | network (address : IpAddr) (prefixLen : UInt8)
  deriving DecidableEq, Repr

namespace AddressMatch

def ofNetwork (address : IpAddr) (prefixLen : UInt8) : Option AddressMatch :=
  if prefixLen ≤ address.maxPrefix then some (.network address prefixLen) else none

def «matches» {ε : Type} (rule : AddressMatch) (candidate : IpAddr) : Checked ε Bool :=
  match rule with
  | .exact address => pure (address = candidate)
  | .network address prefixLen =>
    inFamily (fun network value => matchesUnder network.toU32 value.toU32 prefixLen)
      (fun network value => matchesUnder network.toU128 value.toU128 prefixLen) address candidate

theorem matches_network {ε : Type} {address : IpAddr} {prefixLen : UInt8}
    (h : prefixLen ≤ address.maxPrefix) (candidate : IpAddr) :
    ((network address prefixLen).matches candidate : Checked ε Bool) =
      .ok (address.Covers prefixLen.toNat candidate) :=
  inFamily_eq h (fun _ _ hle => matchesUnder_eq _ _ hle) (fun _ _ hle => matchesUnder_eq _ _ hle)

end AddressMatch

end NetworkEngine
