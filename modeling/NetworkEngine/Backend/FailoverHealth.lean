import NetworkEngine.Backend.Coherence

/-!
# FailoverHealth — what a failover may pick

`select_healthy_backend_for_failover` over whole runs of the manager.  A degradation is recorded in
the lifecycle, in the health, or in both; the selector asks for a lifecycle in use and reads the
health alone, so that a backend degraded by `set_lifecycle` stays a candidate.
-/

namespace NetworkEngine

open Rust Transition

namespace BackendManager

variable {m : BackendManager} {b b' : ManagedBackend} {name excluded : String} {call : Call}
  {capability : BackendCapability}

/-! ## 1. The purpose of the selector -/

/-- A backend that may take over from `excluded`. -/
def FullyHealthy (m : BackendManager) (capability : BackendCapability) (excluded name : String) :
    Prop :=
  name ≠ excluded ∧ ∃ b, m.backends.lookup name = some b ∧ b.runtime.lifecycle = .running ∧
    b.health.health = .healthy ∧ b.runtime.supports capability = true

/-- Whatever the policy and the cursor, failover picks a fully healthy backend, if there is one. -/
structure FailoverSound (m : BackendManager) : Prop where
  picked : ∀ policy cursor capability excluded name,
    m.selectHealthyBackendForFailover policy cursor capability excluded = some name →
      m.FullyHealthy capability excluded name
  none : ∀ policy cursor capability excluded,
    m.selectHealthyBackendForFailover policy cursor capability excluded = none →
      policy = .none ∨ ∀ name, ¬ m.FullyHealthy capability excluded name

theorem FullyHealthy.mem_failoverCandidates (h : m.FullyHealthy capability excluded name) :
    name ∈ m.failoverCandidates capability excluded := by
  obtain ⟨hother, b, hb, hrunning, hhealth, hsupports⟩ := h
  exact BackendManager.mem_failoverCandidates.mpr
    ⟨hother, b, hb, isAvailable_iff.mpr (.inl hrunning), hhealth, hsupports⟩

/-- With another policy than `None`, nothing is picked only if there is no candidate. -/
theorem not_fullyHealthy_of_none {policy : FailoverPolicy} {cursor : Nat}
    (hpolicy : policy ≠ .none)
    (h : m.selectHealthyBackendForFailover policy cursor capability excluded = none) :
    ¬ m.FullyHealthy capability excluded name := by
  intro hhealthy
  rw [selectHealthyBackendForFailover_eq hpolicy] at h
  have hsome : (m.selectFromCandidates policy cursor
      (m.failoverCandidates capability excluded)).isSome = true :=
    selectFromCandidates_isSome_iff.mpr (List.ne_nil_of_mem hhealthy.mem_failoverCandidates)
  rw [h] at hsome
  cases hsome

/-! ## 2. Which states are sound -/

/-- The lifecycle does not say `Degraded` beside a health that says `Healthy`, unless the backend
can do nothing. -/
def Settled (b : ManagedBackend) : Prop :=
  b.runtime.lifecycle = .degraded → b.health.health = .healthy →
    b.runtime.descriptor.capabilities = ∅

def AllSettled (m : BackendManager) : Prop :=
  ∀ name b, m.backends.lookup name = some b → Settled b

theorem exists_other (name : String) : ∃ excluded, name ≠ excluded := by
  refine ⟨name.push 'x', fun heq => ?_⟩
  have hlength := congrArg String.length heq
  rw [String.length_push] at hlength
  omega

/-- A round robin comes to every candidate, so each has to be running. -/
theorem FailoverSound.allSettled (h : m.FailoverSound) : m.AllSettled := by
  intro name b hb hdegraded hhealth
  apply Finset.eq_empty_of_forall_notMem
  intro capability hsupports
  obtain ⟨excluded, hother⟩ := exists_other name
  have hcandidate : name ∈ m.failoverCandidates capability excluded :=
    mem_failoverCandidates.mpr ⟨hother, b, hb, isAvailable_iff.mpr (.inr hdegraded), hhealth,
      decide_eq_true hsupports⟩
  obtain ⟨cursor, hpicked⟩ := exists_roundRobin (m := m) hcandidate
  have hpolicy : FailoverPolicy.roundRobin ≠ .none := by decide
  rw [← selectHealthyBackendForFailover_eq hpolicy] at hpicked
  obtain ⟨-, b', hb', hrunning, -⟩ := h.picked _ _ _ _ _ hpicked
  rw [hb] at hb'
  rw [← Option.some.inj hb', hdegraded] at hrunning
  cases hrunning

theorem AllSettled.fullyHealthy (h : m.AllSettled) {policy : FailoverPolicy} {cursor : Nat}
    (hpicked : m.selectHealthyBackendForFailover policy cursor capability excluded = some name) :
    m.FullyHealthy capability excluded name := by
  obtain ⟨hother, b, hb, havailable, hhealth, hsupports⟩ :=
    selectHealthyBackendForFailover_spec hpicked
  refine ⟨hother, b, hb, ?_, hhealth, hsupports⟩
  obtain hrunning | hdegraded := isAvailable_iff.mp havailable
  · exact hrunning
  · have hmem := of_decide_eq_true hsupports
    rw [h name b hb hdegraded hhealth] at hmem
    exact absurd hmem (Finset.notMem_empty capability)

theorem failoverSound_iff : m.FailoverSound ↔ m.AllSettled := by
  constructor
  · exact fun h => h.allSettled
  · intro h
    constructor
    · exact fun policy cursor capability excluded name hpicked => h.fullyHealthy hpicked
    · intro policy cursor capability excluded hnone
      by_cases hpolicy : policy = .none
      · exact .inl hpolicy
      · exact .inr fun name => not_fullyHealthy_of_none hpolicy hnone

/-! ## 3. Whole runs -/

/-- The call sets a healthy backend, one that can do something, to `Degraded`. -/
def DegradesHealthy (m : BackendManager) (call : Call) : Prop :=
  ∃ name b, call = .setLifecycle name .degraded ∧ m.backends.lookup name = some b ∧
    b.runtime.lifecycle.canTransitionTo .degraded = true ∧ b.health.health = .healthy ∧
    b.runtime.descriptor.capabilities.Nonempty

/-- A success that makes a degraded backend healthy makes it run. -/
theorem settled_afterSuccess (b : ManagedBackend) : Settled (afterSuccess b) := by
  intro hdegraded hhealth
  change (if _ then _ else _ : BackendRuntimeState).lifecycle = .degraded at hdegraded
  split at hdegraded
  · cases hdegraded
  · rename_i hrecovered
    exact absurd ⟨hhealth, hdegraded⟩ hrecovered

theorem settled_afterFailure (nativeError : Option Int) (b : ManagedBackend) :
    Settled (afterFailure nativeError b) := by
  intro _ hhealth
  change b.health.recordFailure.health = .healthy at hhealth
  obtain hunhealthy | hdegraded := recordFailure_health b.health
  · rw [hunhealthy] at hhealth
    cases hhealth
  · rw [hdegraded] at hhealth
    cases hhealth

theorem AllSettled.step (h : m.AllSettled) (hcall : ¬ m.DegradesHealthy call) :
    (m.step call).AllSettled := by
  refine every_step (fun descriptor hdegraded => nomatch hdegraded) ?_ h
  intro name b b' hb hmove _
  cases hmove with
  | lifecycle htarget hmatrix =>
    intro hdegraded hhealth
    change _ = BackendLifecycle.degraded at hdegraded
    subst hdegraded
    -- The change to `Degraded` forces no health.
    apply Finset.not_nonempty_iff_eq_empty.mp
    intro hnonempty
    exact hcall ⟨name, b, Call.eq_of_target_degraded htarget, hb, hmatrix, hhealth, hnonempty⟩
  | success _ => exact settled_afterSuccess b
  | failure _ => exact settled_afterFailure _ b

theorem not_allSettled_of_degradesHealthy (h : m.DegradesHealthy call) :
    ¬ (m.step call).AllSettled := by
  obtain ⟨name, b, rfl, hb, hmatrix, hhealth, hnonempty⟩ := h
  intro hsettled
  have hempty := hsettled name _ (setLifecycle_stored hb hmatrix) rfl hhealth
  exact hnonempty.ne_empty hempty

/-- In every state of a run failover picks fully healthy backends only, and picks one where there is
one, exactly when no call of the run sets a healthy backend to `Degraded`. -/
theorem failoverSound_run_iff (calls : List Call) :
    Always step FailoverSound new calls ↔
      Along step (fun m call => ¬ m.DegradesHealthy call) new calls := by
  apply always_iff_along AllSettled
  · exact fun m hm => failoverSound_iff.mpr hm
  · exact fun m call hm hcall => hm.step hcall
  · intro m call _ hcall
    rw [failoverSound_iff]
    exact not_allSettled_of_degradesHealthy (not_not.mp hcall)
  · intro name b hb
    cases hb

/-- A backend that is registered, runs, and is set to `Degraded`. -/
def degradedCalls : List Call :=
  [.register {
      name := "degraded"
      version := "1.0.0"
      description := "selection test backend"
      capabilities := {.capture} },
    .start "degraded", .markRunning "degraded", .setLifecycle "degraded" .degraded]

/-- The one backend after these calls. -/
def degradedBackend : ManagedBackend where
  runtime := ⟨⟨"degraded", "1.0.0", "selection test backend", {.capture}, false, .supplementary⟩,
    .degraded, 0, none⟩
  health := ⟨3, 2, 0, 0, .healthy⟩

theorem run_degradedCalls :
    run step new degradedCalls = ⟨(∅ : Table String _).insert "degraded" degradedBackend⟩ := by
  decide

/-- Its health stays `Healthy`, and failover picks it. -/
theorem degraded_candidate_picked :
    (run step new degradedCalls).selectHealthyBackendForFailover .preferHealthy 0 .capture "other" =
        some "degraded" ∧
      (run step new degradedCalls).lifecycleOf "degraded" = some .degraded ∧
      ¬ Always step FailoverSound new degradedCalls := by
  have hb : (run step new degradedCalls).backends.lookup "degraded" = some degradedBackend := by
    rw [run_degradedCalls]
    exact Finmap.lookup_insert _
  have honly : ∀ name b', (run step new degradedCalls).backends.lookup name = some b' →
      name = "degraded" := by
    intro name b' hb'
    rw [run_degradedCalls] at hb'
    obtain hempty | ⟨hname, -⟩ := lookup_insert_cases (m := new) hb'
    · cases hempty
    · exact hname
  have hcandidate : "degraded" ∈ (run step new degradedCalls).failoverCandidates .capture "other" :=
    mem_failoverCandidates.mpr ⟨by decide, degradedBackend, hb, rfl, rfl, rfl⟩
  have hpolicy : FailoverPolicy.preferHealthy ≠ .none := by decide
  have hsome : ((run step new degradedCalls).selectHealthyBackendForFailover .preferHealthy 0
      .capture "other").isSome = true := by
    rw [selectHealthyBackendForFailover_eq hpolicy]
    exact selectFromCandidates_isSome_iff.mpr (List.ne_nil_of_mem hcandidate)
  -- One backend is stored, so the one that is picked is it.
  obtain ⟨name, hpicked⟩ := Option.isSome_iff_exists.mp hsome
  obtain ⟨-, b', hb', -⟩ := selectHealthyBackendForFailover_spec hpicked
  rw [honly name b' hb'] at hpicked
  refine ⟨hpicked, by rw [lifecycleOf, hb]; rfl, fun hsound => ?_⟩
  have hempty := failoverSound_iff.mp (hsound degradedCalls [] rfl) "degraded" _ hb rfl rfl
  exact absurd hempty (by decide)

end BackendManager

end NetworkEngine
