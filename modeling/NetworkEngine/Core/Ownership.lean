import NetworkEngine.Core.Error

/-!
# Ownership — who holds a packet

`network_core::ownership` and `packet_bus::ownership`.  `transitionOwnership` is the authoritative
table; a tracker moves from an expected owner to a target owner when the table allows the move and
the owner is the expected one.
-/

namespace NetworkEngine

/-! ## 1. The authoritative table -/

inductive OwnershipState where
  | allocated
  | backendOwned
  | engineOwned
  | busOwned
  | processingOwned
  | hostOwned
  | released
  deriving DecidableEq, Repr

namespace OwnershipState

def isActive : OwnershipState → Bool
  | released => false
  | _ => true

/-- The `Debug` text. -/
def debug : OwnershipState → String
  | allocated => "Allocated"
  | backendOwned => "BackendOwned"
  | engineOwned => "EngineOwned"
  | busOwned => "BusOwned"
  | processingOwned => "ProcessingOwned"
  | hostOwned => "HostOwned"
  | released => "Released"

end OwnershipState

def transitionOwnership (current target : OwnershipState) : EngineResult OwnershipState :=
  if current = target ∧ current.isActive then .ok target
  else
    match current, target with
    | .allocated, .backendOwned
    | .backendOwned, .engineOwned
    | .engineOwned, .busOwned
    | .busOwned, .processingOwned
    | .processingOwned, .hostOwned
    | .processingOwned, .engineOwned
    | .hostOwned, .released => .ok target
    | current, target =>
      if target = .released ∧ current.isActive then .ok .released
      else if current = .released then
        .error (.withMessage .invalidStateTransition
          "use-after-release: packet has already been released")
      else
        .error (.withMessage .invalidStateTransition
          ("illegal ownership transition: " ++ current.debug ++ " → " ++ target.debug))

/-! ## 2. Trackers -/

inductive Owner where
  | allocated
  | backend
  | engine
  | bus
  | processing
  | host
  | released
  deriving DecidableEq, Repr

def Owner.asCore : Owner → OwnershipState
  | allocated => .allocated
  | backend => .backendOwned
  | engine => .engineOwned
  | bus => .busOwned
  | processing => .processingOwned
  | host => .hostOwned
  | released => .released

structure OwnershipTracker where
  owner : Owner
  deriving DecidableEq, Repr

namespace OwnershipTracker

/-- `OwnershipTracker::default()`. -/
def default : OwnershipTracker := ⟨.allocated⟩

/-- The table check, then the `compare_exchange`. -/
def transfer (t : OwnershipTracker) (expected target : Owner) : EngineResult OwnershipTracker := do
  let _ ← transitionOwnership expected.asCore target.asCore
  if t.owner = expected then .ok ⟨target⟩ else .error .invalidStateTransition

/-- A move the table allows succeeds exactly from its expected owner. -/
theorem transfer_eq_ok {t t' : OwnershipTracker} {expected target : Owner}
    (hallowed : (transitionOwnership expected.asCore target.asCore).isOk = true) :
    t.transfer expected target = .ok t' ↔ t.owner = expected ∧ t' = ⟨target⟩ := by
  unfold transfer
  cases h : transitionOwnership expected.asCore target.asCore with
  | error e =>
    rw [h] at hallowed
    nomatch hallowed
  | ok state =>
    simp only [bind, Except.bind]
    split
    · rename_i howner
      simp only [howner, true_and, Except.ok.injEq, eq_comm]
    · rename_i howner
      simp only [howner, false_and, reduceCtorEq]

theorem transfer_of_ne {t : OwnershipTracker} {expected : Owner} (h : t.owner ≠ expected)
    (target : Owner) : ∃ e, t.transfer expected target = .error e := by
  unfold transfer
  cases transitionOwnership expected.asCore target.asCore with
  | error e => exact ⟨e, rfl⟩
  | ok state =>
    refine ⟨.invalidStateTransition, ?_⟩
    simp only [bind, Except.bind, if_neg h]

/-- The move back from `Engine` to `Processing` is not in the table. -/
theorem transfer_engine_processing (t : OwnershipTracker) :
    ∃ e, t.transfer .engine .processing = .error e := ⟨_, rfl⟩

end OwnershipTracker

end NetworkEngine
