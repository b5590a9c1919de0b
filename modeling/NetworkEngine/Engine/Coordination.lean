import NetworkEngine.Backend.Coherence
import NetworkEngine.Backend.Complementarity
import NetworkEngine.Core.Observation

/-!
# Coordination — which backends take part in processing an observation

`ffi::coordination`.  A plan assigns each required capability to the backend the observation came
from, if that backend declares it, and otherwise to the active backend of the coverage report.
-/

namespace NetworkEngine

open Transition

/-- The discriminants of the enumeration. -/
def BackendCapability.sortKey : BackendCapability → Nat
  | capture => 0
  | interception => 1
  | filtering => 2
  | inspection => 3
  | direction => 4
  | ipv4 => 10
  | ipv6 => 11
  | tcp => 12
  | udp => 13
  | icmp => 14
  | icmpV6 => 15
  | networkLayer => 20
  | addressMetadata => 21
  | modification => 30
  | drop => 31
  | pass => 32
  | reinjection => 33
  | queueControl => 40
  | handleLifetime => 41
  | errorReporting => 42
  | l2Capture => 50
  | rawEthernet => 51
  | adapterEnumeration => 52
  | wfpEngineAccess => 60
  | wfpFilters => 61
  | wfpLayers => 62
  | wfpFlows => 63
  | interfaceInfo => 70
  | routeInfo => 71
  | neighborInfo => 72
  | gatewayInfo => 73
  | diagnostics => 80
  | telemetry => 81
  | forwarding => 90
  | natState => 91

structure CoordinatedObservation where
  observation : PacketObservation
  participated : List String
  appliedCapabilities : List BackendCapability
  complete : Bool
  missing : List BackendCapability
  deriving DecidableEq, Repr

/-! ## 1. The plan -/

def backendNameForSource (observation : PacketObservation) : Option String :=
  match observation.backendSource with
  | .npcap => some "npcap"
  | .windivert => some "windivert"
  | .wfp => some "wfp"
  | .iphelper => some "iphelper"
  | .etw => some "etw"
  | .unknown => none

namespace MultiBackendCoordinator

/-- The lists that the planning loop fills. -/
structure Plan where
  participated : List String
  applied : List BackendCapability
  missing : List BackendCapability
  deriving DecidableEq, Repr

/-- The backend participates, once, and the capability counts as applied. -/
def Plan.apply (plan : Plan) (backend : String) (capability : BackendCapability) : Plan where
  participated :=
    if backend ∈ plan.participated then plan.participated else plan.participated ++ [backend]
  applied := plan.applied ++ [capability]
  missing := plan.missing

/-- The manager's coverage report decides. -/
def planFallback (m : BackendManager) (plan : Plan) (capability : BackendCapability) : Plan :=
  match (m.selectWithFallback capability).active with
  | some active => plan.apply active capability
  | none => { plan with missing := plan.missing ++ [capability] }

/-- One turn of the planning loop. -/
def planCapability (m : BackendManager) (sourceBackend : Option String) (plan : Plan)
    (capability : BackendCapability) : Plan :=
  match sourceBackend with
  | some source =>
    -- `supports(..).unwrap_or(false)` reads the descriptor, not the lifecycle.
    if (m.supports source capability).toOption.getD false then plan.apply source capability
    else planFallback m plan capability
  | none => planFallback m plan capability

def coordinate (m : BackendManager) (observation : PacketObservation)
    (required : List BackendCapability) : CoordinatedObservation :=
  let plan := required.foldl (planCapability m (backendNameForSource observation)) ⟨[], [], []⟩
  { observation
    participated := plan.participated.insertionSort (· ≤ ·)
    appliedCapabilities := plan.applied.insertionSort fun c d => c.sortKey ≤ d.sortKey
    complete := plan.missing.isEmpty
    missing := plan.missing.insertionSort fun c d => c.sortKey ≤ d.sortKey }

/-! ## 2. The provider of a capability -/

variable {m : BackendManager} {sourceBackend : Option String} {observation : PacketObservation}
  {required : List BackendCapability} {capability : BackendCapability} {name : String}

/-- The backend that the plan assigns a capability to. -/
def provider (m : BackendManager) (sourceBackend : Option String)
    (capability : BackendCapability) : Option String :=
  match sourceBackend.filter fun source => (m.supports source capability).toOption.getD false with
  | some source => some source
  | none => (m.selectWithFallback capability).active

theorem planCapability_eq (plan : Plan) :
    planCapability m sourceBackend plan capability =
      match provider m sourceBackend capability with
      | some backend => plan.apply backend capability
      | none => { plan with missing := plan.missing ++ [capability] } := by
  unfold planCapability provider planFallback
  cases sourceBackend with
  | none => rfl
  | some source =>
    by_cases hdeclares : (m.supports source capability).toOption.getD false = true
    · simp [Option.filter, hdeclares]
    · simp [Option.filter, hdeclares]

theorem declares_iff :
    (m.supports name capability).toOption.getD false = true ↔ m.Declares name capability := by
  rw [← BackendManager.supports_iff]
  cases m.supports name capability with
  | error e => simp [Except.toOption]
  | ok declares => simp [Except.toOption]

/-- Whoever the plan assigns a capability to declares it, and is operational unless it is the
source. -/
theorem provider_spec (h : provider m sourceBackend capability = some name) :
    m.Declares name capability ∧ (sourceBackend = some name ∨ m.Operational name) := by
  unfold provider at h
  split at h
  · rename_i source hsource
    obtain rfl := Option.some.inj h
    have hfilter := Option.filter_eq_some_iff.mp hsource
    exact ⟨declares_iff.mp hfilter.2, .inl hfilter.1⟩
  · have hprovides := BackendManager.provides_of_active h
    exact ⟨hprovides.1, .inr hprovides.2⟩

/-- A source that declares the capability is preferred. -/
theorem provider_of_declares (h : m.Declares name capability) :
    provider m (some name) capability = some name := by
  unfold provider
  simp [Option.filter, declares_iff.mpr h]

theorem provider_eq_none (h : provider m sourceBackend capability = none) (name : String) :
    ¬ m.Provides name capability := by
  unfold provider at h
  split at h
  · cases h
  · exact BackendManager.active_eq_none_iff.mp h name

/-! ## 3. The lists of the plan -/

/-- What the loop has filled in after the capabilities it has seen. -/
structure Filled (m : BackendManager) (sourceBackend : Option String)
    (seen : List BackendCapability) (plan : Plan) : Prop where
  applied : plan.applied = seen.filter fun c => (provider m sourceBackend c).isSome
  missing : plan.missing = seen.filter fun c => !(provider m sourceBackend c).isSome
  participated : ∀ name, name ∈ plan.participated ↔
    ∃ c ∈ seen, provider m sourceBackend c = some name
  nodup : plan.participated.Nodup

theorem Filled.concat {seen : List BackendCapability} {plan : Plan}
    (h : Filled m sourceBackend seen plan) (capability : BackendCapability) :
    Filled m sourceBackend (seen ++ [capability])
      (planCapability m sourceBackend plan capability) := by
  rw [planCapability_eq]
  cases hprovider : provider m sourceBackend capability with
  | none =>
    constructor
    · simp [h.applied, hprovider]
    · simp [h.missing, hprovider]
    · intro name
      show name ∈ plan.participated ↔ _
      rw [h.participated]
      simp [or_and_right, exists_or, hprovider]
    · exact h.nodup
  | some backend =>
    constructor
    · simp [Plan.apply, h.applied, hprovider]
    · simp [Plan.apply, h.missing, hprovider]
    · intro name
      have hmem : name ∈ (plan.apply backend capability).participated ↔
          name ∈ plan.participated ∨ name = backend := by
        unfold Plan.apply
        dsimp only
        split_ifs with hold
        · constructor
          · exact .inl
          · rintro (hname | rfl)
            · exact hname
            · exact hold
        · simp
      rw [hmem, h.participated]
      simp [or_and_right, exists_or, hprovider, eq_comm]
    · unfold Plan.apply
      dsimp only
      split_ifs with hold
      · exact h.nodup
      · exact List.nodup_append.mpr ⟨h.nodup, List.nodup_singleton _, by
          rintro _ hname _ hlast rfl
          exact hold (List.mem_singleton.mp hlast ▸ hname)⟩

theorem filled_foldl (m : BackendManager) (sourceBackend : Option String)
    (required : List BackendCapability) :
    Filled m sourceBackend required
      (required.foldl (planCapability m sourceBackend) ⟨[], [], []⟩) := by
  induction required using List.reverseRecOn with
  | nil => exact ⟨rfl, rfl, by simp, List.nodup_nil⟩
  | append_singleton required capability ih =>
    rw [List.foldl_concat]
    exact ih.concat capability

theorem mem_appliedCapabilities :
    capability ∈ (coordinate m observation required).appliedCapabilities ↔
      capability ∈ required ∧
        ∃ name, provider m (backendNameForSource observation) capability = some name := by
  unfold coordinate
  simp only [List.mem_insertionSort, (filled_foldl m _ required).applied, List.mem_filter,
    Option.isSome_iff_exists]

theorem mem_missing :
    capability ∈ (coordinate m observation required).missing ↔
      capability ∈ required ∧
        provider m (backendNameForSource observation) capability = none := by
  unfold coordinate
  simp [(filled_foldl m _ required).missing]

theorem mem_participated :
    name ∈ (coordinate m observation required).participated ↔
      ∃ c ∈ required, provider m (backendNameForSource observation) c = some name := by
  unfold coordinate
  simp only [List.mem_insertionSort, (filled_foldl m _ required).participated]

/-- Sorting and splitting lose no requirement. -/
theorem count_required (m : BackendManager) (observation : PacketObservation)
    (required : List BackendCapability) (capability : BackendCapability) :
    required.count capability =
      (coordinate m observation required).appliedCapabilities.count capability +
        (coordinate m observation required).missing.count capability := by
  unfold coordinate
  dsimp only
  rw [(List.perm_insertionSort _ _).count_eq, (List.perm_insertionSort _ _).count_eq,
    (filled_foldl m _ required).applied, (filled_foldl m _ required).missing]
  unfold List.count
  have hsplit := List.countP_eq_countP_filter_add required (· == capability)
    fun c => (provider m (backendNameForSource observation) c).isSome
  simpa using hsplit

theorem complete_iff :
    (coordinate m observation required).complete = true ↔
      (coordinate m observation required).missing = [] := by
  unfold coordinate
  dsimp only
  rw [List.isEmpty_iff, ← List.length_eq_zero_iff, ← List.length_eq_zero_iff,
    List.length_insertionSort]

/-! ## 4. Truthful plans -/

/-- A plan that claims what the backends can do, and no more. -/
structure Truthful (m : BackendManager) (required : List BackendCapability)
    (plan : CoordinatedObservation) : Prop where
  count : ∀ c, required.count c = plan.appliedCapabilities.count c + plan.missing.count c
  exclusive : ∀ c, ¬ (c ∈ plan.appliedCapabilities ∧ c ∈ plan.missing)
  applied : ∀ c ∈ plan.appliedCapabilities, ∃ name ∈ plan.participated, m.Provides name c
  nodup : plan.participated.Nodup
  participated : ∀ name ∈ plan.participated,
    ∃ c ∈ plan.appliedCapabilities, m.Provides name c
  complete : plan.complete = true ↔ plan.missing = []
  missing : ∀ c ∈ plan.missing, ∀ name, ¬ m.Provides name c

/-- Whatever the plan relies on the source for, the source can do now. -/
def SourceOperational (m : BackendManager) (observation : PacketObservation)
    (required : List BackendCapability) : Prop :=
  ∀ capability ∈ required, ∀ source, backendNameForSource observation = some source →
    m.Declares source capability → m.Operational source

theorem provides_of_provider (h : SourceOperational m observation required)
    (hrequired : capability ∈ required)
    (hprovider : provider m (backendNameForSource observation) capability = some name) :
    m.Provides name capability := by
  have hspec := provider_spec hprovider
  rcases hspec.2 with hsource | hoperational
  · exact ⟨hspec.1, h capability hrequired name hsource hspec.1⟩
  · exact ⟨hspec.1, hoperational⟩

theorem Truthful.sourceOperational
    (h : Truthful m required (coordinate m observation required)) :
    SourceOperational m observation required := by
  intro capability hrequired source hsource hdeclares
  -- The source participates, so it provides some applied capability.
  have hprovider : provider m (backendNameForSource observation) capability = some source := by
    rw [hsource]
    exact provider_of_declares hdeclares
  obtain ⟨_, _, hprovides⟩ :=
    h.participated source (mem_participated.mpr ⟨capability, hrequired, hprovider⟩)
  exact hprovides.2

/-- A plan is truthful exactly when no required capability is declared by a source backend that is
not operational. -/
theorem coordinate_truthful_iff (m : BackendManager) (observation : PacketObservation)
    (required : List BackendCapability) :
    Truthful m required (coordinate m observation required) ↔
      SourceOperational m observation required := by
  constructor
  · exact Truthful.sourceOperational
  · intro h
    constructor
    · exact count_required m observation required
    · intro c hboth
      obtain ⟨name, hsome⟩ := (mem_appliedCapabilities.mp hboth.1).2
      exact absurd (hsome.symm.trans (mem_missing.mp hboth.2).2) (Option.some_ne_none name)
    · intro c hc
      obtain ⟨hrequired, name, hprovider⟩ := mem_appliedCapabilities.mp hc
      exact ⟨name, mem_participated.mpr ⟨c, hrequired, hprovider⟩,
        provides_of_provider h hrequired hprovider⟩
    · unfold coordinate
      exact (List.perm_insertionSort _ _).nodup_iff.mpr (filled_foldl m _ required).nodup
    · intro name hname
      obtain ⟨c, hrequired, hprovider⟩ := mem_participated.mp hname
      exact ⟨c, mem_appliedCapabilities.mpr ⟨hrequired, name, hprovider⟩,
        provides_of_provider h hrequired hprovider⟩
    · exact complete_iff
    · intro c hc
      exact provider_eq_none (mem_missing.mp hc).2

/-- A registered backend that was never started covers what its descriptor declares. -/
theorem stopped_source_covers :
    ¬ Truthful (run BackendManager.step .new [.register BackendKind.npcap.descriptor]) [.capture]
      (coordinate (run BackendManager.step .new [.register BackendKind.npcap.descriptor])
        (.new 1 .npcap ⟨0⟩ ⟨0⟩ .inbound "test" ⟨⟨[1, 2, 3, 4], by decide⟩⟩)
        [.capture]) := by
  intro h
  have hoperational := h.sourceOperational .capture (by simp) "npcap" rfl
    ⟨.new BackendKind.npcap.descriptor, by decide, by decide⟩
  rw [← BackendManager.isOperational_iff] at hoperational
  exact absurd hoperational (by decide)

end MultiBackendCoordinator

end NetworkEngine
