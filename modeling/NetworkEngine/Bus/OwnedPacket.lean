import NetworkEngine.Bus.OwnershipRace
import NetworkEngine.Capture.CaptureRuntime

/-!
# OwnedPacket — a packet and its tracker

`packet_bus::ownership::OwnedPacket`, beside the tracker of `network_core::ownership` that its
states mirror.  A hand-over of the packet names the owner it takes the packet from; the tracker of
`network_core` looks at the current owner and at the target only, and keeps a history.
-/

namespace NetworkEngine

open Rust Transition Trail

/-! ## 1. The tracker of `network_core` -/

namespace NetworkCore.OwnershipTracker

def handoffBackendToEngine (t : OwnershipTracker) : EngineResult OwnershipTracker :=
  t.transition .engineOwned

def handoffEngineToBus (t : OwnershipTracker) : EngineResult OwnershipTracker :=
  t.transition .busOwned

def handoffBusToProcessing (t : OwnershipTracker) : EngineResult OwnershipTracker :=
  t.transition .processingOwned

def requeueToEngine (t : OwnershipTracker) : EngineResult OwnershipTracker :=
  t.transition .engineOwned

def handoffToHost (t : OwnershipTracker) : EngineResult OwnershipTracker := t.transition .hostOwned

def release (t : OwnershipTracker) : EngineResult OwnershipTracker := t.transition .released

end NetworkCore.OwnershipTracker

/-! ## 2. The packet -/

/-- `OwnershipTracker::release` of `packet_bus`, of a caller that nobody races with. -/
def OwnershipTracker.release (t : OwnershipTracker) : EngineResult OwnershipTracker :=
  if t.owner = .released then .error .invalidHandle else t.transfer t.owner .released

structure OwnedPacket where
  tracker : OwnershipTracker
  data : List UInt8
  deriving DecidableEq, Repr

namespace OwnedPacket

def new (data : List UInt8) : OwnedPacket := ⟨.default, data⟩

def owner (p : OwnedPacket) : Owner := p.tracker.owner

def transfer (expected target : Owner) : Op OwnedPacket EngineError Unit :=
  atomically fun p => do
    let tracker ← p.tracker.transfer expected target
    return ((), { p with tracker })

def clearData : Op OwnedPacket EngineError Unit := modifyState fun p => { p with data := [] }

def allocatedToBackend : Op OwnedPacket EngineError Unit := transfer .allocated .backend
def backendToEngine : Op OwnedPacket EngineError Unit := transfer .backend .engine
def engineToBus : Op OwnedPacket EngineError Unit := transfer .engine .bus
def busToProcessing : Op OwnedPacket EngineError Unit := transfer .bus .processing
def processingToEngine : Op OwnedPacket EngineError Unit := transfer .processing .engine
def processingToHost : Op OwnedPacket EngineError Unit := transfer .processing .host
def engineToHost : Op OwnedPacket EngineError Unit := transfer .engine .host

def engineRelease : Op OwnedPacket EngineError Unit := do
  transfer .engine .released
  clearData

def hostRelease : Op OwnedPacket EngineError Unit := do
  transfer .host .released
  clearData

def release : Op OwnedPacket EngineError Unit := do
  atomically fun p => do
    let tracker ← p.tracker.release
    return ((), { p with tracker })
  clearData

def intoData (p : OwnedPacket) : EngineResult (List UInt8) :=
  if p.owner = .released then .error .invalidHandle else .ok p.data

/-! ## 3. Runs -/

inductive Call where
  | allocatedToBackend
  | backendToEngine
  | engineToBus
  | busToProcessing
  | processingToEngine
  | processingToHost
  | engineToHost
  | engineRelease
  | hostRelease
  | release
  deriving DecidableEq, Repr

namespace Call

def perform : Call → Op OwnedPacket EngineError Unit
  | allocatedToBackend => OwnedPacket.allocatedToBackend
  | backendToEngine => OwnedPacket.backendToEngine
  | engineToBus => OwnedPacket.engineToBus
  | busToProcessing => OwnedPacket.busToProcessing
  | processingToEngine => OwnedPacket.processingToEngine
  | processingToHost => OwnedPacket.processingToHost
  | engineToHost => OwnedPacket.engineToHost
  | engineRelease => OwnedPacket.engineRelease
  | hostRelease => OwnedPacket.hostRelease
  | release => OwnedPacket.release

/-- The same hand-over on the tracker of `network_core`. -/
def onCore : Call → NetworkCore.OwnershipTracker → EngineResult NetworkCore.OwnershipTracker
  | allocatedToBackend => (·.transition .backendOwned)
  | backendToEngine => (·.handoffBackendToEngine)
  | engineToBus => (·.handoffEngineToBus)
  | busToProcessing => (·.handoffBusToProcessing)
  | processingToEngine => (·.requeueToEngine)
  | processingToHost | engineToHost => (·.handoffToHost)
  | engineRelease | hostRelease | release => (·.release)

/-- The owner that a call takes the packet from; `release` takes it from anyone. -/
def source : Call → Option Owner
  | allocatedToBackend => some .allocated
  | backendToEngine => some .backend
  | engineToBus | engineToHost | engineRelease => some .engine
  | busToProcessing => some .bus
  | processingToEngine | processingToHost => some .processing
  | hostRelease => some .host
  | release => none

def target : Call → Owner
  | allocatedToBackend => .backend
  | backendToEngine | processingToEngine => .engine
  | engineToBus => .bus
  | busToProcessing => .processing
  | processingToHost | engineToHost => .host
  | engineRelease | hostRelease | release => .released

end Call

/-- A packet, and a tracker of `network_core` that is told of every hand-over that succeeds. -/
structure Pair where
  packet : OwnedPacket
  core : NetworkCore.OwnershipTracker

def step (s : Pair) (call : Call) : Pair :=
  match exec call.perform s.packet with
  | (.ok (), packet) =>
    match call.onCore s.core with
    | .ok core => ⟨packet, core⟩
    | .error _ => ⟨packet, s.core⟩
  | (.error _, packet) => ⟨packet, s.core⟩

def start (data : List UInt8) : Pair := ⟨.new data, .new⟩

/-- The packet comes from the owner that the call names. -/
def FromSource (p : OwnedPacket) (call : Call) : Prop := ∀ owner ∈ call.source, p.owner = owner

structure Mirrors (data : List UInt8) (s : Pair) : Prop where
  state : s.core.state = s.packet.owner.asCore
  /-- The history is a way through the table, from the allocation to the present owner. -/
  history : s.core.history.IsChain (fun a b => (transitionOwnership a b).isOk = true) ∧
    s.core.history.head? = some .allocated ∧ s.core.history.getLast? = some s.core.state
  /-- A call succeeds when the packet comes from its source and the table lets it go on. -/
  accepts : ∀ call : Call, (exec call.perform s.packet).1.isOk = true ↔
    FromSource s.packet call ∧ (call.onCore s.core).isOk = true
  /-- A call that fails changes nothing. -/
  refused : ∀ call : Call, (exec call.perform s.packet).1.isOk = false → step s call = s
  /-- The bytes are the first ones until the packet is released, and none afterwards. -/
  bytes : s.packet.data = if s.packet.owner = .released then [] else data
  intoData : s.packet.intoData =
    if s.packet.owner = .released then .error .invalidHandle else .ok data

/-! ## 4. What a call does -/

open OwnershipTracker.Race (Allowed)

variable {p : OwnedPacket} {expected target : Owner} {call : Call}

theorem exec_transfer_ok (hallowed : Allowed expected target) (howner : p.owner = expected) :
    exec (transfer expected target) p = (.ok (), { p with tracker := ⟨target⟩ }) := by
  have htracker : p.tracker.transfer expected target = .ok ⟨target⟩ :=
    (OwnershipTracker.transfer_eq_ok hallowed).mpr ⟨howner, rfl⟩
  refine exec_atomically_ok ?_
  rw [htracker]
  rfl

theorem exec_transfer_error (h : ¬ (Allowed expected target ∧ p.owner = expected)) :
    ∃ e, exec (transfer expected target) p = (.error e, p) := by
  have hrefused : ∃ e, p.tracker.transfer expected target = .error e := by
    by_cases hallowed : Allowed expected target
    · exact OwnershipTracker.transfer_of_ne (fun howner => h ⟨hallowed, howner⟩) target
    · rw [Allowed] at hallowed
      cases htable : transitionOwnership expected.asCore target.asCore with
      | error e => exact ⟨e, OwnershipTracker.Race.transfer_refused _ htable⟩
      | ok state =>
        rw [htable] at hallowed
        exact absurd rfl hallowed
  rcases hrefused with ⟨e, he⟩
  refine ⟨e, exec_atomically_error ?_⟩
  rw [he]
  rfl

/-- The packet at its next owner. -/
def moved (p : OwnedPacket) (target : Owner) : OwnedPacket :=
  ⟨⟨target⟩, if target = .released then [] else p.data⟩

/-- A call goes along the table, from its source. -/
def Goes (p : OwnedPacket) (call : Call) : Prop :=
  FromSource p call ∧ Allowed p.owner call.target

/-- A hand-over that ends at another owner than `Released`. -/
theorem exec_handOver (hsource : call.source = some expected) (htarget : call.target = target)
    (hactive : target ≠ .released) (hperform : call.perform = transfer expected target) :
    (Goes p call → exec call.perform p = (.ok (), p.moved call.target)) ∧
      (¬ Goes p call → ∃ e, exec call.perform p = (.error e, p)) := by
  have hiff : Goes p call ↔ Allowed expected target ∧ p.owner = expected := by
    unfold Goes FromSource
    rw [hsource, htarget]
    simp only [Option.mem_some_iff, forall_eq']
    constructor
    · rintro ⟨rfl, h⟩
      exact ⟨h, rfl⟩
    · rintro ⟨h, rfl⟩
      exact ⟨rfl, h⟩
  rw [hiff, hperform, htarget]
  refine ⟨fun h => ?_, exec_transfer_error⟩
  rw [exec_transfer_ok h.1 h.2, moved, if_neg hactive]

/-- A release, by whatever owner it names. -/
theorem exec_thenClear {x : Op OwnedPacket EngineError Unit}
    (hok : Goes p call → exec x p = (.ok (), { p with tracker := ⟨.released⟩ }))
    (herror : ¬ Goes p call → ∃ e, exec x p = (.error e, p)) (htarget : call.target = .released)
    (hperform : call.perform = do x; clearData) :
    (Goes p call → exec call.perform p = (.ok (), p.moved call.target)) ∧
      (¬ Goes p call → ∃ e, exec call.perform p = (.error e, p)) := by
  rw [hperform, htarget]
  constructor
  · intro h
    rw [exec_bind_ok (hok h), clearData, exec_modifyState, moved, if_pos rfl]
  · intro h
    rcases herror h with ⟨e, he⟩
    exact ⟨e, exec_bind_error he⟩

theorem goes_released (htarget : call.target = .released) (hsource : call.source = some expected)
    (hallowed : Allowed expected .released) : Goes p call ↔ p.owner = expected := by
  unfold Goes FromSource
  rw [htarget, hsource]
  simp only [Option.mem_some_iff, forall_eq']
  constructor
  · exact And.left
  · intro h
    exact ⟨h, h ▸ hallowed⟩

theorem exec_perform (p : OwnedPacket) (call : Call) :
    (Goes p call → exec call.perform p = (.ok (), p.moved call.target)) ∧
      (¬ Goes p call → ∃ e, exec call.perform p = (.error e, p)) := by
  cases call with
  | allocatedToBackend => exact exec_handOver rfl rfl (by decide) rfl
  | backendToEngine => exact exec_handOver rfl rfl (by decide) rfl
  | engineToBus => exact exec_handOver rfl rfl (by decide) rfl
  | busToProcessing => exact exec_handOver rfl rfl (by decide) rfl
  | processingToEngine => exact exec_handOver rfl rfl (by decide) rfl
  | processingToHost => exact exec_handOver rfl rfl (by decide) rfl
  | engineToHost => exact exec_handOver rfl rfl (by decide) rfl
  | engineRelease =>
    have hiff : Goes p .engineRelease ↔ p.owner = .engine := goes_released rfl rfl (by decide)
    refine exec_thenClear (fun h => exec_transfer_ok (by decide) (hiff.mp h)) (fun h => ?_) rfl rfl
    exact exec_transfer_error fun hgo => h (hiff.mpr hgo.2)
  | hostRelease =>
    have hiff : Goes p .hostRelease ↔ p.owner = .host := goes_released rfl rfl (by decide)
    refine exec_thenClear (fun h => exec_transfer_ok (by decide) (hiff.mp h)) (fun h => ?_) rfl rfl
    exact exec_transfer_error fun hgo => h (hiff.mpr hgo.2)
  | release =>
    have hiff : Goes p .release ↔ p.owner ≠ .released :=
      ⟨fun h => h.2.active, fun h => ⟨nofun, OwnershipTracker.Race.allowed_release h⟩⟩
    refine exec_thenClear (fun h => exec_atomically_ok ?_) (fun h => ?_) rfl rfl
    · have hactive : p.tracker.owner ≠ .released := hiff.mp h
      have htracker : p.tracker.transfer p.tracker.owner .released = .ok ⟨.released⟩ :=
        (OwnershipTracker.transfer_eq_ok
          (OwnershipTracker.Race.allowed_release hactive)).mpr ⟨rfl, rfl⟩
      rw [OwnershipTracker.release, if_neg hactive, htracker]
      rfl
    · have hreleased : p.tracker.owner = .released := not_not.mp fun hactive => h (hiff.mpr hactive)
      refine ⟨.invalidHandle, exec_atomically_error ?_⟩
      rw [OwnershipTracker.release, if_pos hreleased]
      rfl

/-! ## 5. The two trackers -/

/-- The table never changes the target. -/
theorem eq_target_of_transition {a b c : OwnershipState} (h : transitionOwnership a b = .ok c) :
    c = b := by
  revert h
  cases a <;> cases b <;> simp [transitionOwnership, OwnershipState.isActive, eq_comm]

theorem onCore_eq (call : Call) (t : NetworkCore.OwnershipTracker) :
    call.onCore t = t.transition call.target.asCore := by
  cases call <;> rfl

theorem transition_ok {t : NetworkCore.OwnershipTracker} {target : OwnershipState}
    (h : (transitionOwnership t.state target).isOk = true) :
    t.transition target = .ok ⟨target, t.history ++ [target]⟩ := by
  unfold NetworkCore.OwnershipTracker.transition
  cases htable : transitionOwnership t.state target with
  | error e =>
    rw [htable] at h
    nomatch h
  | ok state =>
    rw [eq_target_of_transition htable]
    rfl

theorem transition_isOk (t : NetworkCore.OwnershipTracker) (target : OwnershipState) :
    (t.transition target).isOk = (transitionOwnership t.state target).isOk := by
  unfold NetworkCore.OwnershipTracker.transition
  cases transitionOwnership t.state target <;> rfl

structure Inv (data : List UInt8) (s : Pair) : Prop where
  state : s.core.state = s.packet.owner.asCore
  chain : s.core.history.IsChain fun a b => (transitionOwnership a b).isOk = true
  first : s.core.history.head? = some .allocated
  last : s.core.history.getLast? = some s.core.state
  bytes : s.packet.data = if s.packet.owner = .released then [] else data

variable {data : List UInt8} {s : Pair}

theorem step_refused (h : ¬ Goes s.packet call) : step s call = s := by
  rcases (exec_perform s.packet call).2 h with ⟨e, he⟩
  rw [step, he]

theorem Inv.step_goes (h : Inv data s) (hgoes : Goes s.packet call) :
    step s call = ⟨s.packet.moved call.target,
      ⟨call.target.asCore, s.core.history ++ [call.target.asCore]⟩⟩ := by
  have hallowed : (transitionOwnership s.core.state call.target.asCore).isOk = true := by
    rw [h.state]
    exact hgoes.2
  rw [step, (exec_perform s.packet call).1 hgoes]
  dsimp only
  rw [onCore_eq, transition_ok hallowed]

theorem Inv.step (h : Inv data s) (call : Call) : Inv data (step s call) := by
  by_cases hgoes : Goes s.packet call
  · rw [h.step_goes hgoes]
    refine ⟨rfl, ?_, ?_, ?_, ?_⟩
    · refine List.isChain_append.mpr ⟨h.chain, List.isChain_singleton _, ?_⟩
      intro a ha b hb
      rw [h.last] at ha
      obtain rfl := Option.some.inj ha
      obtain rfl := Option.some.inj hb
      rw [h.state]
      exact hgoes.2
    · rw [List.head?_append, h.first]
      rfl
    · exact List.getLast?_concat ..
    · show (if call.target = .released then [] else s.packet.data) = _
      rw [h.bytes, if_neg hgoes.2.active]
      rfl
  · rw [step_refused hgoes]
    exact h

theorem Inv.mirrors (h : Inv data s) : Mirrors data s where
  state := h.state
  history := ⟨h.chain, h.first, h.last⟩
  accepts call := by
    have hcore : (call.onCore s.core).isOk = true ↔ Allowed s.packet.owner call.target := by
      rw [onCore_eq, transition_isOk, h.state]
      rfl
    rw [hcore]
    by_cases hgoes : Goes s.packet call
    · rw [(exec_perform s.packet call).1 hgoes]
      exact iff_of_true rfl hgoes
    · rcases (exec_perform s.packet call).2 hgoes with ⟨e, he⟩
      rw [he]
      exact iff_of_false Bool.false_ne_true hgoes
  refused call hfail := by
    refine step_refused fun hgoes => ?_
    rw [(exec_perform s.packet call).1 hgoes] at hfail
    nomatch hfail
  bytes := h.bytes
  intoData := by
    unfold intoData
    split_ifs with hreleased
    · rfl
    · rw [h.bytes, if_neg hreleased]

/-- Over every run of its calls an `OwnedPacket` is where the tracker of `network_core` says, and
its bytes are those it was made of until it is released.  A call succeeds exactly when that tracker
accepts it and the packet comes from the owner that the call names. -/
theorem ownedPacket_mirrors (data : List UInt8) (calls : List Call) :
    Mirrors data (run step (start data) calls) := by
  have hstart : Inv data (start data) :=
    ⟨rfl, List.isChain_singleton _, rfl, rfl, rfl⟩
  have hstep (s : Pair) (call : Call) (h : Inv data s) : Inv data (step s call) := h.step call
  exact (run_inv hstep hstart calls).mirrors

end OwnedPacket

end NetworkEngine
