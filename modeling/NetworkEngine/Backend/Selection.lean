import NetworkEngine.Backend.Manager

/-!
# Selection — which backend is chosen

`backend_manager::selection` and the capability requirements of `backend_manager::capabilities`.
The failover policy and the round-robin cursor, which the manager keeps beside its backends, are
arguments; every read of the cursor moves it on.
-/

namespace NetworkEngine

open Rust

structure CapabilityRequirement where
  capability : BackendCapability
  required : Bool
  deriving DecidableEq, Repr

def CapabilityRequirement.mandatory (capability : BackendCapability) : CapabilityRequirement :=
  ⟨capability, true⟩

/-- `check_requirements(..).is_satisfied()`: optional capabilities never block. -/
def requirementsSatisfied (available : Finset BackendCapability)
    (requirements : List CapabilityRequirement) : Bool :=
  requirements.all fun requirement =>
    requirement.capability ∈ available || !requirement.required

inductive FailoverPolicy where
  | none
  | preferPrimary
  | preferHealthy
  | roundRobin
  deriving DecidableEq, Repr

namespace BackendManager

variable (m : BackendManager)

def findCapableRequirements (requirements : List CapabilityRequirement) : List String :=
  m.namesWhere fun b =>
    b.runtime.isAvailable && requirementsSatisfied b.runtime.descriptor.capabilities requirements

def isHealthy (name : String) : Bool :=
  match m.health name with
  | .ok health => health = .healthy
  | .error _ => false

def isPrimary (name : String) : Bool :=
  match m.runtimeState name with
  | .ok runtime => runtime.descriptor.role = .primary
  | .error _ => false

def findHealthyCapableRequirements (requirements : List CapabilityRequirement) : List String :=
  (m.findCapableRequirements requirements).filter m.isHealthy

/-- The first candidate that satisfies `p`, or the first one. -/
def preferred (p : String → Bool) (candidates : List String) : Option String :=
  candidates.find? p <|> candidates.head?

def selectFromCandidates (policy : FailoverPolicy) (cursor : Nat) (candidates : List String) :
    Option String :=
  if candidates.isEmpty then Option.none
  else
    match policy with
    | .none => candidates.head?
    | .preferPrimary => preferred m.isPrimary candidates
    | .preferHealthy => preferred m.isHealthy candidates
    | .roundRobin => candidates[cursor % candidates.length]?

def selectBackendForRequirements (policy : FailoverPolicy) (cursor : Nat)
    (requirements : List CapabilityRequirement) : Option String :=
  m.selectFromCandidates policy cursor (m.findCapableRequirements requirements)

def selectBackend (policy : FailoverPolicy) (cursor : Nat) (capability : BackendCapability) :
    Option String :=
  m.selectBackendForRequirements policy cursor [.mandatory capability]

def selectHealthyBackendForFailover (policy : FailoverPolicy) (cursor : Nat)
    (capability : BackendCapability) (excludedBackend : String) : Option String :=
  if policy = .none then Option.none
  else
    -- All candidates are healthy, so `preferHealthy` takes the first of them.
    m.selectFromCandidates policy cursor
      ((m.findHealthyCapableRequirements [.mandatory capability]).filter (· ≠ excludedBackend))

variable {m}

theorem preferred_mem {p : String → Bool} {candidates : List String} {name : String}
    (h : preferred p candidates = some name) : name ∈ candidates := by
  unfold preferred at h
  cases hfound : candidates.find? p with
  | none =>
    rw [hfound] at h
    exact List.mem_of_head? h
  | some first =>
    rw [hfound] at h
    rw [← Option.some.inj h]
    exact List.mem_of_find?_eq_some hfound

/-- Selection only returns candidates. -/
theorem selectFromCandidates_mem {policy : FailoverPolicy} {cursor : Nat}
    {candidates : List String} {name : String}
    (h : m.selectFromCandidates policy cursor candidates = some name) : name ∈ candidates := by
  unfold selectFromCandidates at h
  split at h
  · exact absurd h (Option.some_ne_none name).symm
  · cases policy with
    | none => exact List.mem_of_head? h
    | preferPrimary => exact preferred_mem h
    | preferHealthy => exact preferred_mem h
    | roundRobin => exact List.mem_of_getElem? h

theorem selectFromCandidates_isSome_iff {policy : FailoverPolicy} {cursor : Nat}
    {candidates : List String} :
    (m.selectFromCandidates policy cursor candidates).isSome ↔ candidates ≠ [] := by
  cases candidates with
  | nil => simp [selectFromCandidates]
  | cons first rest =>
    have hpreferred (p : String → Bool) : (preferred p (first :: rest)).isSome = true := by
      unfold preferred
      cases (first :: rest).find? p <;> rfl
    have hcursor : cursor % (first :: rest).length < (first :: rest).length :=
      Nat.mod_lt _ (Nat.succ_pos _)
    refine iff_of_true ?_ (List.cons_ne_nil first rest)
    unfold selectFromCandidates
    rw [if_neg (by simp)]
    cases policy with
    | none => rfl
    | preferPrimary => exact hpreferred _
    | preferHealthy => exact hpreferred _
    | roundRobin =>
      rw [List.getElem?_eq_getElem hcursor]
      rfl

/-- A turn of the round robin reaches each candidate. -/
theorem exists_roundRobin {candidates : List String} {name : String} (h : name ∈ candidates) :
    ∃ cursor, m.selectFromCandidates .roundRobin cursor candidates = some name := by
  obtain ⟨cursor, hlt, rfl⟩ := List.mem_iff_getElem.mp h
  have hne : ¬ candidates.isEmpty = true := fun hempty =>
    List.ne_nil_of_mem h (List.isEmpty_iff.mp hempty)
  refine ⟨cursor, ?_⟩
  rw [selectFromCandidates, if_neg hne]
  show candidates[cursor % candidates.length]? = some candidates[cursor]
  rw [Nat.mod_eq_of_lt hlt, List.getElem?_eq_getElem hlt]

/-! ### Failover candidates -/

variable (m) in
/-- What failover selects from. -/
def failoverCandidates (capability : BackendCapability) (excludedBackend : String) : List String :=
  (m.findHealthyCapableRequirements [.mandatory capability]).filter (· ≠ excludedBackend)

theorem selectHealthyBackendForFailover_eq {policy : FailoverPolicy} (hpolicy : policy ≠ .none)
    (cursor : Nat) (capability : BackendCapability) (excludedBackend : String) :
    m.selectHealthyBackendForFailover policy cursor capability excludedBackend =
      m.selectFromCandidates policy cursor (m.failoverCandidates capability excludedBackend) :=
  if_neg hpolicy

theorem isHealthy_iff {name : String} {b : ManagedBackend} (hb : m.backends.lookup name = some b) :
    m.isHealthy name = true ↔ b.health.health = .healthy := by
  unfold isHealthy BackendManager.health
  rw [hb]
  exact decide_eq_true_iff

theorem requirementsSatisfied_mandatory {available : Finset BackendCapability}
    {capability : BackendCapability} :
    requirementsSatisfied available [.mandatory capability] = decide (capability ∈ available) := by
  simp [requirementsSatisfied, CapabilityRequirement.mandatory]

/-- The candidates are the other backends that are operational, healthy and capable. -/
theorem mem_failoverCandidates {capability : BackendCapability} {excludedBackend name : String} :
    name ∈ m.failoverCandidates capability excludedBackend ↔
      name ≠ excludedBackend ∧ ∃ b, m.backends.lookup name = some b ∧
        b.runtime.isAvailable = true ∧ b.health.health = .healthy ∧
        b.runtime.supports capability = true := by
  rw [failoverCandidates, findHealthyCapableRequirements, findCapableRequirements,
    List.mem_filter, List.mem_filter, mem_namesWhere, decide_eq_true_iff, and_comm]
  apply and_congr_right
  intro _
  constructor
  · rintro ⟨⟨b, hb, hcapable⟩, hhealthy⟩
    rw [requirementsSatisfied_mandatory] at hcapable
    have hand := Bool.and_eq_true_iff.mp hcapable
    exact ⟨b, hb, hand.1, (isHealthy_iff hb).mp hhealthy, hand.2⟩
  · rintro ⟨b, hb, havailable, hhealth, hsupports⟩
    refine ⟨⟨b, hb, ?_⟩, (isHealthy_iff hb).mpr hhealth⟩
    rw [requirementsSatisfied_mandatory]
    exact Bool.and_eq_true_iff.mpr ⟨havailable, hsupports⟩

/-- A failover candidate is another backend that is operational, healthy and capable. -/
theorem selectHealthyBackendForFailover_spec {policy : FailoverPolicy} {cursor : Nat}
    {capability : BackendCapability} {excludedBackend name : String}
    (h : m.selectHealthyBackendForFailover policy cursor capability excludedBackend = some name) :
    name ≠ excludedBackend ∧ ∃ b, m.backends.lookup name = some b ∧
      b.runtime.isAvailable = true ∧ b.health.health = .healthy ∧
      b.runtime.supports capability = true := by
  by_cases hpolicy : policy = .none
  · unfold selectHealthyBackendForFailover at h
    rw [if_pos hpolicy] at h
    cases h
  · rw [selectHealthyBackendForFailover_eq hpolicy] at h
    exact mem_failoverCandidates.mp (selectFromCandidates_mem h)

end BackendManager

end NetworkEngine
