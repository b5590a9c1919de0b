import NetworkEngine.Backend.Manager

/-!
# Complementarity — the coverage of a capability

`backend_manager::complementarity`.  The matrix names the backends that the Engine intends for a
capability; a coverage report says which of the registered ones declare it, and which one is active.
-/

namespace NetworkEngine

/-! ## 1. The matrix and the report -/

inductive CapabilityStatus where
  | available
  | degraded
  | unavailable
  | lost
  deriving DecidableEq, Repr

def CapabilityStatus.isUsable : CapabilityStatus → Bool
  | available | degraded => true
  | _ => false

structure CapabilityCoverage where
  capability : BackendCapability
  status : CapabilityStatus
  active : Option String
  primary : List String
  fallbacks : List String
  deriving DecidableEq, Repr

namespace CapabilityCoverage

def empty (capability : BackendCapability) : CapabilityCoverage :=
  ⟨capability, .unavailable, none, [], []⟩

/-- All the names of a report. -/
def listed (coverage : CapabilityCoverage) : List String := coverage.primary ++ coverage.fallbacks

end CapabilityCoverage

namespace CapabilityFallbackMatrix

def primary : BackendCapability → List String
  | .capture | .l2Capture | .rawEthernet | .adapterEnumeration => ["npcap"]
  | .ipv4 | .ipv6 | .tcp | .udp | .icmp | .icmpV6 | .networkLayer | .addressMetadata =>
    ["windivert"]
  | .interception | .filtering | .inspection | .direction => ["windivert"]
  | .modification | .pass | .drop | .reinjection => ["windivert"]
  | .queueControl | .handleLifetime | .errorReporting => ["windivert"]
  | .wfpEngineAccess | .wfpFilters | .wfpLayers | .wfpFlows => ["wfp"]
  | .interfaceInfo | .routeInfo | .neighborInfo | .gatewayInfo => ["iphelper"]
  | .diagnostics | .telemetry => ["etw"]
  -- The Engine owns these; no backend is designated.
  | .forwarding | .natState => []

def fallbacks : BackendCapability → List String
  | .capture | .l2Capture | .rawEthernet => ["windivert"]
  | .ipv4 | .ipv6 | .tcp | .udp | .icmp | .icmpV6 => ["npcap"]
  | .filtering | .pass | .drop => ["wfp"]
  | .neighborInfo => ["npcap"]
  | _ => []

end CapabilityFallbackMatrix

namespace BackendManager

/-! ## 2. `select_with_fallback` -/

/-- One turn of the loop over the registered names. -/
def classify (m : BackendManager) (coverage : CapabilityCoverage) (name : String) :
    CapabilityCoverage :=
  match m.runtimeState name with
  | .error _ => coverage
  | .ok runtime =>
    if !runtime.supports coverage.capability then coverage
    else if name ∈ CapabilityFallbackMatrix.primary coverage.capability then
      { coverage with primary := coverage.primary ++ [name] }
    else if name ∈ CapabilityFallbackMatrix.fallbacks coverage.capability then
      { coverage with fallbacks := coverage.fallbacks ++ [name] }
    -- A backend that the matrix does not name is a fallback as well.
    else { coverage with fallbacks := coverage.fallbacks ++ [name] }

/-- The lifecycle permits use, and the health does not forbid it. -/
def isOperational (m : BackendManager) (name : String) : Bool :=
  match m.runtimeState name with
  | .error _ => false
  | .ok runtime =>
    if !(runtime.lifecycle = .running ∨ runtime.lifecycle = .degraded) then false
    else
      match m.health name with
      | .ok health => health ≠ .unhealthy
      | .error _ => false

/-- The registered backends that declare the capability, the primary ones apart. -/
def declaredCoverage (m : BackendManager) (capability : BackendCapability) : CapabilityCoverage :=
  let coverage := m.names.foldl m.classify (.empty capability)
  { coverage with
    primary := coverage.primary.insertionSort (· ≤ ·)
    fallbacks := coverage.fallbacks.insertionSort (· ≤ ·) }

def selectWithFallback (m : BackendManager) (capability : BackendCapability) :
    CapabilityCoverage :=
  let coverage := m.declaredCoverage capability
  match coverage.primary.find? m.isOperational with
  | some active => { coverage with active := some active, status := .available }
  | none =>
    match coverage.fallbacks.find? m.isOperational with
    | some active => { coverage with active := some active, status := .degraded }
    | none =>
      if coverage.primary.isEmpty && coverage.fallbacks.isEmpty then
        { coverage with status := .unavailable }
      else { coverage with status := .lost }

def capabilityStatus (m : BackendManager) (capability : BackendCapability) : CapabilityStatus :=
  (m.selectWithFallback capability).status

/-! ## 3. What a report says -/

/-- The backend is registered with the capability in its descriptor. -/
def Declares (m : BackendManager) (name : String) (capability : BackendCapability) : Prop :=
  ∃ b, m.backends.lookup name = some b ∧ b.runtime.supports capability = true

/-- The backend is in use. -/
def InUse (m : BackendManager) (name : String) : Prop :=
  ∃ b, m.backends.lookup name = some b ∧ b.runtime.isAvailable = true

/-- The backend is in use and not known to be unhealthy. -/
def Operational (m : BackendManager) (name : String) : Prop :=
  ∃ b, m.backends.lookup name = some b ∧ b.runtime.isAvailable = true ∧
    b.health.health ≠ .unhealthy

/-- The backend can execute the capability now. -/
def Provides (m : BackendManager) (name : String) (capability : BackendCapability) : Prop :=
  m.Declares name capability ∧ m.Operational name

variable {m : BackendManager} {name : String} {capability : BackendCapability}

theorem isOperational_iff : m.isOperational name = true ↔ m.Operational name := by
  unfold isOperational Operational runtimeState health BackendRuntimeState.isAvailable
  cases m.backends.lookup name with
  | none => simp
  | some b =>
    by_cases hused : b.runtime.lifecycle = .running ∨ b.runtime.lifecycle = .degraded
    · simp [hused]
    · simp [hused]

theorem supports_iff : m.supports name capability = .ok true ↔ m.Declares name capability := by
  unfold supports Declares runtimeState
  cases m.backends.lookup name with
  | none => simp
  | some b => simp

theorem mem_findCapable :
    name ∈ m.findCapable capability ↔ m.Declares name capability ∧ m.InUse name := by
  unfold findCapable Declares InUse
  rw [mem_namesWhere]
  constructor
  · rintro ⟨b, hb, hp⟩
    have hboth := Bool.and_eq_true_iff.mp hp
    exact ⟨⟨b, hb, hboth.2⟩, b, hb, hboth.1⟩
  · rintro ⟨⟨b, hb, hsupports⟩, b', hb', havailable⟩
    obtain rfl : b = b' := Option.some.inj (hb.symm.trans hb')
    exact ⟨b, hb, by rw [havailable, hsupports]; rfl⟩

theorem Operational.inUse (h : m.Operational name) : m.InUse name := by
  rcases h with ⟨b, hb, havailable, -⟩
  exact ⟨b, hb, havailable⟩

/-- What provides a capability is among the capable. -/
theorem Provides.mem_findCapable (h : m.Provides name capability) :
    name ∈ m.findCapable capability :=
  BackendManager.mem_findCapable.mpr ⟨h.1, h.2.inUse⟩

/-! ### The names of a report -/

variable {coverage : CapabilityCoverage} {other : String}

/-- A backend is only put into one of the lists. -/
theorem classify_kept :
    (m.classify coverage name).capability = coverage.capability ∧
      (m.classify coverage name).active = coverage.active := by
  unfold classify
  cases m.runtimeState name with
  | error e => exact ⟨rfl, rfl⟩
  | ok runtime =>
    dsimp only
    split_ifs <;> exact ⟨rfl, rfl⟩

@[simp] theorem classify_capability :
    (m.classify coverage name).capability = coverage.capability :=
  classify_kept.1

@[simp] theorem classify_active : (m.classify coverage name).active = coverage.active :=
  classify_kept.2

theorem declaredCoverage_active : (m.declaredCoverage capability).active = none := by
  show (m.names.foldl m.classify (.empty capability)).active = none
  -- The loop only adds names.
  have hkeep (names : List String) (coverage : CapabilityCoverage) :
      (names.foldl m.classify coverage).active = coverage.active := by
    induction names generalizing coverage with
    | nil => rfl
    | cons name names ih => rw [List.foldl_cons, ih, classify_active]
  exact hkeep m.names _

theorem mem_listed_classify : other ∈ (m.classify coverage name).listed ↔
    other ∈ coverage.listed ∨ other = name ∧ m.Declares name coverage.capability := by
  unfold classify Declares runtimeState CapabilityCoverage.listed
  cases m.backends.lookup name with
  | none => simp
  | some b =>
    by_cases hsupports : b.runtime.supports coverage.capability = true
    · -- Whatever the matrix says, the name is added to one of the two lists.
      simp only [hsupports, Bool.not_true, Bool.false_eq_true, if_false]
      split_ifs <;> simp [hsupports] <;> tauto
    · simp [hsupports]

theorem mem_listed_foldl (names : List String) (coverage : CapabilityCoverage) :
    other ∈ (names.foldl m.classify coverage).listed ↔
      other ∈ coverage.listed ∨ other ∈ names ∧ m.Declares other coverage.capability := by
  induction names generalizing coverage with
  | nil => simp
  | cons name names ih =>
    rw [List.foldl_cons, ih, mem_listed_classify, classify_capability, List.mem_cons]
    constructor
    · rintro ((hold | ⟨rfl, hdeclares⟩) | ⟨hmem, hdeclares⟩)
      · exact .inl hold
      · exact .inr ⟨.inl rfl, hdeclares⟩
      · exact .inr ⟨.inr hmem, hdeclares⟩
    · rintro (hold | ⟨rfl | hmem, hdeclares⟩)
      · exact .inl (.inl hold)
      · exact .inl (.inr ⟨rfl, hdeclares⟩)
      · exact .inr ⟨hmem, hdeclares⟩

/-- A report lists exactly the backends that declare the capability. -/
theorem mem_listed :
    name ∈ (m.declaredCoverage capability).listed ↔ m.Declares name capability := by
  have hsorted : name ∈ (m.declaredCoverage capability).listed ↔
      name ∈ (m.names.foldl m.classify (.empty capability)).listed := by
    unfold declaredCoverage CapabilityCoverage.listed
    simp only [List.mem_append, List.mem_insertionSort]
  rw [hsorted, mem_listed_foldl]
  constructor
  · intro h
    rcases h with hnone | hdeclares
    · cases hnone
    · exact hdeclares.2
  · intro h
    have hname : name ∈ m.names := by
      obtain ⟨b, hb, -⟩ := h
      rw [names, Finset.mem_sort, Finmap.mem_keys]
      exact Finmap.mem_of_lookup_eq_some hb
    exact .inr ⟨hname, h⟩

/-! ### The active backend -/

/-- The active backend is the first operational one of the report, the primary ones first. -/
theorem selectWithFallback_active : (m.selectWithFallback capability).active =
    (m.declaredCoverage capability).listed.find? m.isOperational := by
  unfold selectWithFallback CapabilityCoverage.listed
  rw [List.find?_append]
  dsimp only
  cases (m.declaredCoverage capability).primary.find? m.isOperational with
  | some active => rfl
  | none =>
    cases (m.declaredCoverage capability).fallbacks.find? m.isOperational with
    | some active => rfl
    | none =>
      dsimp only
      split_ifs <;> exact declaredCoverage_active

theorem provides_of_active (h : (m.selectWithFallback capability).active = some name) :
    m.Provides name capability := by
  rw [selectWithFallback_active] at h
  have hmem := mem_listed.mp (List.mem_of_find?_eq_some h)
  exact ⟨hmem, isOperational_iff.mp (List.find?_some h)⟩

/-- No backend is active exactly when none provides the capability. -/
theorem active_eq_none_iff :
    (m.selectWithFallback capability).active = none ↔ ∀ name, ¬ m.Provides name capability := by
  rw [selectWithFallback_active, List.find?_eq_none]
  constructor
  · intro h name hprovides
    exact h name (mem_listed.mpr hprovides.1) (isOperational_iff.mpr hprovides.2)
  · intro h name hmem hoperational
    exact h name ⟨mem_listed.mp hmem, isOperational_iff.mp hoperational⟩

theorem isSome_active_iff :
    (m.selectWithFallback capability).active.isSome ↔ ∃ name, m.Provides name capability := by
  rw [← not_iff_not, Bool.not_eq_true, Option.isSome_eq_false_iff, Option.isNone_iff_eq_none,
    active_eq_none_iff]
  push Not
  rfl

/-- A capability is usable exactly when a backend is active for it. -/
theorem isUsable_iff : (m.capabilityStatus capability).isUsable = true ↔
    (m.selectWithFallback capability).active.isSome = true := by
  unfold capabilityStatus selectWithFallback
  dsimp only
  cases (m.declaredCoverage capability).primary.find? m.isOperational with
  | some active => simp [CapabilityStatus.isUsable]
  | none =>
    cases (m.declaredCoverage capability).fallbacks.find? m.isOperational with
    | some active => simp [CapabilityStatus.isUsable]
    | none =>
      dsimp only
      split_ifs <;> simp [CapabilityStatus.isUsable, declaredCoverage_active]

/-- A capability that is not usable is lost if some backend declares it, and unavailable if not. -/
theorem capabilityStatus_of_unusable (h : (m.selectWithFallback capability).active = none) :
    m.capabilityStatus capability = .unavailable ∧ (∀ name, ¬ m.Declares name capability) ∨
      m.capabilityStatus capability = .lost ∧ ∃ name, m.Declares name capability := by
  rw [selectWithFallback_active, CapabilityCoverage.listed, List.find?_append,
    Option.or_eq_none_iff] at h
  unfold capabilityStatus selectWithFallback
  simp only [h.1, h.2]
  have hempty : ((m.declaredCoverage capability).primary.isEmpty &&
      (m.declaredCoverage capability).fallbacks.isEmpty) = true ↔
      (m.declaredCoverage capability).listed = [] := by
    simp [CapabilityCoverage.listed]
  split_ifs with hnone
  · left
    have hlisted := hempty.mp hnone
    refine ⟨rfl, fun name hdeclares => ?_⟩
    have hmem := mem_listed.mpr hdeclares
    rw [hlisted] at hmem
    cases hmem
  · right
    obtain ⟨name, hname⟩ := List.exists_mem_of_ne_nil _ (mt hempty.mpr hnone)
    exact ⟨rfl, name, mem_listed.mp hname⟩

end BackendManager

end NetworkEngine
