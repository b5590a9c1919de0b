import NetworkEngine.Backend.Selection
import NetworkEngine.Lib.Transition

/-!
# Coherence — lifecycle and health over whole runs of the manager

Lifecycle and health are two state machines that the operations of the manager update together or
one at a time.  A running backend is always healthy.  An unhealthy backend is out of use as long
as nobody sets it to `Degraded` while it starts: that change keeps the health it finds.
-/

namespace NetworkEngine

open Rust Transition

namespace BackendManager

/-! ## 1. Calls -/

inductive Call where
  | register (descriptor : BackendDescriptor)
  | unregister (name : String)
  | start (name : String)
  | markRunning (name : String)
  | stop (name : String)
  | markStopped (name : String)
  | setLifecycle (name : String) (lifecycle : BackendLifecycle)
  | recordSuccess (name : String)
  | recordFailure (name : String) (nativeError : Option Int)
  deriving DecidableEq

def step (m : BackendManager) : Call → BackendManager
  | .register descriptor => (exec (register descriptor) m).2
  | .unregister name => (exec (unregister name) m).2
  | .start name => (exec (start name) m).2
  | .markRunning name => (exec (markRunning name) m).2
  | .stop name => (exec (stop name) m).2
  | .markStopped name => (exec (markStopped name) m).2
  | .setLifecycle name lifecycle => (exec (setLifecycle name lifecycle) m).2
  | .recordSuccess name => (exec (recordSuccess name) m).2
  | .recordFailure name nativeError => (exec (recordFailure name nativeError) m).2

/-! ## 2. What a call does to a backend -/

variable {m : BackendManager} {b b' : ManagedBackend} {name : String} {call : Call}
  {lifecycle : BackendLifecycle}

/-- The backend that the call wants in another lifecycle, and that lifecycle. -/
def Call.target : Call → Option (String × BackendLifecycle)
  | .start name => some (name, .starting)
  | .markRunning name => some (name, .running)
  | .stop name => some (name, .stopping)
  | .markStopped name => some (name, .stopped)
  | .setLifecycle name lifecycle => some (name, lifecycle)
  | .register _ | .unregister _ | .recordSuccess _ | .recordFailure _ _ => none

/-- The backend in its next lifecycle.  `Starting` and `Stopping` force no health. -/
def moved (lifecycle : BackendLifecycle) (b : ManagedBackend) : ManagedBackend :=
  ⟨{ b.runtime with lifecycle }, forcedHealth lifecycle b.health⟩

def afterSuccess (b : ManagedBackend) : ManagedBackend where
  runtime :=
    if b.health.recordSuccess.health = .healthy ∧ b.runtime.lifecycle = .degraded then
      { b.runtime with lifecycle := .running }
    else b.runtime
  health := b.health.recordSuccess

/-- The lifecycle after a recorded failure: a transition that the matrix refuses is not made. -/
def lifecycleAfterFailure (health : BackendHealth) (lifecycle : BackendLifecycle) :
    BackendLifecycle :=
  match failureLifecycle health lifecycle with
  | none => lifecycle
  | some next => if lifecycle.canTransitionTo next then next else lifecycle

/-- The backend after a recorded failure, whether or not the call returns an error. -/
def afterFailure (nativeError : Option Int) (b : ManagedBackend) : ManagedBackend where
  runtime := { b.runtime.recordError nativeError with
    lifecycle := lifecycleAfterFailure b.health.recordFailure.health b.runtime.lifecycle }
  health := b.health.recordFailure

/-- What the call does to the backend of that name, if it does anything. -/
inductive Moves (call : Call) (name : String) (b : ManagedBackend) : ManagedBackend → Prop
  | lifecycle {next : BackendLifecycle} (htarget : call.target = some (name, next))
      (hmatrix : b.runtime.lifecycle.canTransitionTo next = true) : Moves call name b (moved next b)
  | success (hcall : call = .recordSuccess name) : Moves call name b (afterSuccess b)
  | failure {nativeError : Option Int} (hcall : call = .recordFailure name nativeError) :
      Moves call name b (afterFailure nativeError b)

theorem transitionTo_eq (hmatrix : b.runtime.lifecycle.canTransitionTo lifecycle = true) :
    transitionTo lifecycle b = .ok ((), moved lifecycle b) := by
  rw [transitionTo, BackendRuntimeState.transition, if_pos hmatrix]
  rfl

theorem transitionTo_ok (h : transitionTo lifecycle b = .ok ((), b')) :
    b.runtime.lifecycle.canTransitionTo lifecycle = true ∧ b' = moved lifecycle b := by
  unfold transitionTo BackendRuntimeState.transition at h
  split at h
  · rename_i hmatrix
    exact ⟨hmatrix, (Prod.mk.inj (Except.ok.inj h)).2.symm⟩
  · cases h

theorem recordFailure_state (nativeError : Option Int)
    (hb : m.backends.lookup name = some b) :
    (exec (recordFailure name nativeError) m).2 =
      ⟨m.backends.insert name (afterFailure nativeError b)⟩ := by
  show (recordFailure name nativeError m).2 = _
  unfold recordFailure afterFailure lifecycleAfterFailure
  rw [hb]
  dsimp only
  have hlifecycle : (b.runtime.recordError nativeError).lifecycle = b.runtime.lifecycle := rfl
  rw [hlifecycle]
  -- The failure is stored before the transition is tried, and an error does not undo it.
  cases failureLifecycle b.health.recordFailure.health b.runtime.lifecycle with
  | none => rfl
  | some next =>
    dsimp only
    unfold BackendRuntimeState.transition
    rw [hlifecycle]
    by_cases hmatrix : b.runtime.lifecycle.canTransitionTo next = true
    · rw [if_pos hmatrix, if_pos hmatrix]
    · rw [if_neg hmatrix, if_neg hmatrix]
      rfl

theorem recordFailure_unknown (nativeError : Option Int) (hb : m.backends.lookup name = none) :
    exec (recordFailure name nativeError) m = (.error (.code .backendNotFound), m) := by
  show recordFailure name nativeError m = _
  unfold recordFailure
  rw [hb]

theorem lookup_insert_cases {other : String}
    (h : (m.backends.insert other b).lookup name = some b') :
    m.backends.lookup name = some b' ∨ name = other ∧ b' = b := by
  rw [Table.lookup_insert] at h
  split at h
  · rename_i heq
    exact .inr ⟨heq, (Option.some.inj h).symm⟩
  · exact .inl h

/-- The section of one backend, which moves it when it succeeds. -/
theorem onBackend_lookup {α : Type} {other : String}
    {f : ManagedBackend → EngineResult (α × ManagedBackend)}
    (h : (exec (onBackend other f) m).2.backends.lookup name = some b')
    (hmoves : ∀ b a b', f b = .ok (a, b') → Moves call other b b') :
    m.backends.lookup name = some b' ∨
      ∃ b, m.backends.lookup name = some b ∧ Moves call name b b' := by
  cases hb : m.backends.lookup other with
  | none =>
    rw [onBackend_unknown f hb] at h
    exact .inl h
  | some b =>
    cases hf : f b with
    | error err =>
      rw [onBackend_error hb hf] at h
      exact .inl h
    | ok r =>
      rw [onBackend_ok hb hf] at h
      obtain hsame | ⟨rfl, rfl⟩ := lookup_insert_cases h
      · exact .inl hsame
      · exact .inr ⟨b, hb, hmoves b r.1 r.2 hf⟩

theorem transitionTo_moves {other : String} (htarget : call.target = some (other, lifecycle)) :
    ∀ b a b', transitionTo lifecycle b = .ok (a, b') → Moves call other b b' := by
  intro b a b' hf
  obtain ⟨hmatrix, rfl⟩ := transitionTo_ok hf
  exact .lifecycle htarget hmatrix

/-- A stored backend is an old one, one that was registered now, or the one the call moves. -/
theorem step_lookup (h : (m.step call).backends.lookup name = some b') :
    (m.backends.lookup name = some b' ∨ ∃ b, m.backends.lookup name = some b ∧
      Moves call name b b') ∨ ∃ descriptor, b' = .new descriptor := by
  cases call with
  | register descriptor =>
    change (exec (register descriptor) m).2.backends.lookup name = some b' at h
    unfold register at h
    rw [exec_atomically] at h
    split_ifs at h
    · exact .inl (.inl h)
    · exact .inl (.inl h)
    · obtain hsame | ⟨-, hnew⟩ := lookup_insert_cases h
      · exact .inl (.inl hsame)
      · exact .inr ⟨descriptor, hnew⟩
  | unregister other =>
    change (exec (unregister other) m).2.backends.lookup name = some b' at h
    unfold unregister at h
    rw [exec_atomically] at h
    cases hb : m.backends.lookup other with
    | none =>
      rw [hb] at h
      exact .inl (.inl h)
    | some b =>
      rw [hb] at h
      dsimp only at h
      split_ifs at h
      · exact .inl (.inl h)
      · change (m.backends.erase other).lookup name = some b' at h
        rw [Table.lookup_erase] at h
        split at h
        · cases h
        · exact .inl (.inl h)
  | start other =>
    refine .inl (onBackend_lookup h fun b a b' hf => ?_)
    unfold BackendRuntimeState.transition at hf
    split_ifs at hf with _ hmatrix
    · rw [← (Prod.mk.inj (Except.ok.inj hf)).2]
      exact .lifecycle rfl hmatrix
    all_goals cases hf
  | stop other =>
    refine .inl (onBackend_lookup h fun b a b' hf => ?_)
    unfold BackendRuntimeState.transition at hf
    split_ifs at hf with _ _ hmatrix
    · rw [← (Prod.mk.inj (Except.ok.inj hf)).2]
      exact .lifecycle rfl hmatrix
    all_goals cases hf
  | markRunning other => exact .inl (onBackend_lookup h (transitionTo_moves rfl))
  | markStopped other => exact .inl (onBackend_lookup h (transitionTo_moves rfl))
  | setLifecycle other lifecycle => exact .inl (onBackend_lookup h (transitionTo_moves rfl))
  | recordSuccess other =>
    refine .inl (onBackend_lookup h fun b a b' hf => ?_)
    rw [← (Prod.mk.inj (Except.ok.inj hf)).2]
    exact .success rfl
  | recordFailure other nativeError =>
    change (exec (recordFailure other nativeError) m).2.backends.lookup name = some b' at h
    cases hb : m.backends.lookup other with
    | none =>
      rw [recordFailure_unknown nativeError hb] at h
      exact .inl (.inl h)
    | some b =>
      rw [recordFailure_state nativeError hb] at h
      obtain hsame | ⟨rfl, rfl⟩ := lookup_insert_cases h
      · exact .inl (.inl hsame)
      · exact .inl (.inr ⟨b, hb, .failure rfl⟩)

/-- The rule for what holds of every stored backend. -/
theorem every_step {P : ManagedBackend → Prop} (hnew : ∀ descriptor, P (.new descriptor))
    (hmoves : ∀ name b b', m.backends.lookup name = some b → Moves call name b b' → P b → P b')
    (h : ∀ name b, m.backends.lookup name = some b → P b) :
    ∀ name b, (m.step call).backends.lookup name = some b → P b := by
  intro name b' hb'
  obtain (hsame | ⟨b, hb, hmove⟩) | ⟨descriptor, rfl⟩ := step_lookup hb'
  · exact h name b' hsame
  · exact hmoves name b b' hb hmove (h name b hb)
  · exact hnew descriptor

theorem setLifecycle_stored (hb : m.backends.lookup name = some b)
    (hmatrix : b.runtime.lifecycle.canTransitionTo lifecycle = true) :
    (m.step (.setLifecycle name lifecycle)).backends.lookup name = some (moved lifecycle b) := by
  show (exec (setLifecycle name lifecycle) m).2.backends.lookup name = some (moved lifecycle b)
  rw [setLifecycle, onBackend_ok hb (transitionTo_eq hmatrix)]
  exact Finmap.lookup_insert _

/-! ## 3. Coherence of one backend -/

/-- Running backends are healthy, and unhealthy ones are not in use. -/
structure Coherent (b : ManagedBackend) : Prop where
  running : b.runtime.lifecycle = .running → b.health.health = .healthy
  unhealthy : b.health.health = .unhealthy →
    b.runtime.lifecycle ≠ .running ∧ b.runtime.lifecycle ≠ .degraded

theorem Coherent.of_unused (hrunning : b.runtime.lifecycle ≠ .running)
    (hdegraded : b.runtime.lifecycle ≠ .degraded) : Coherent b where
  running h := absurd h hrunning
  unhealthy _ := ⟨hrunning, hdegraded⟩

theorem Coherent.new (descriptor : BackendDescriptor) : Coherent (.new descriptor) :=
  .of_unused nofun nofun

/-- The change that leaves an unhealthy backend in use: to `Degraded`, while it starts. -/
def Misplaced (b : ManagedBackend) (lifecycle : BackendLifecycle) : Prop :=
  lifecycle = .degraded ∧ b.runtime.lifecycle = .starting ∧ b.health.health = .unhealthy

-- Only `Running` and `Degraded` are in use; the first forces the health and the second keeps it.
theorem coherent_moved (h : Coherent b)
    (hmatrix : b.runtime.lifecycle.canTransitionTo lifecycle = true)
    (hplaced : ¬ Misplaced b lifecycle) : Coherent (moved lifecycle b) := by
  cases lifecycle with
  | running =>
    refine ⟨fun _ => rfl, fun hunhealthy => ?_⟩
    exact nomatch (show BackendHealth.healthy = .unhealthy from hunhealthy)
  | degraded =>
    refine ⟨fun hrunning => ?_, fun hunhealthy => ?_⟩
    · exact nomatch (show BackendLifecycle.degraded = .running from hrunning)
    · -- An unhealthy backend that may become `Degraded` was `Starting`.
      have hbefore : b.health.health = .unhealthy := hunhealthy
      have hunused := h.unhealthy hbefore
      have hstarting : b.runtime.lifecycle = .starting := by
        -- Into `Degraded` the matrix leads from `Running`, `Degraded` and `Starting` only.
        revert hmatrix hunused
        cases b.runtime.lifecycle <;> decide
      exact absurd ⟨rfl, hstarting, hbefore⟩ hplaced
  | disabled | starting | failed | stopping | stopped => exact .of_unused nofun nofun

theorem recordSuccess_health (monitor : HealthMonitor) :
    monitor.recordSuccess.health ≠ .unhealthy ∧
      (monitor.health = .healthy → monitor.recordSuccess.health = .healthy) := by
  -- A success lifts any health out of `Unhealthy`, if only to `Degraded`.
  unfold HealthMonitor.recordSuccess
  cases hhealth : monitor.health with
  | unknown => exact ⟨nofun, nofun⟩
  | healthy => exact ⟨nofun, fun _ => rfl⟩
  | degraded =>
    refine ⟨?_, nofun⟩
    dsimp only
    split <;> exact nofun
  | unhealthy =>
    refine ⟨?_, nofun⟩
    dsimp only
    split <;> exact nofun

theorem recordFailure_health (monitor : HealthMonitor) :
    monitor.recordFailure.health = .unhealthy ∨ monitor.recordFailure.health = .degraded := by
  unfold HealthMonitor.recordFailure
  dsimp only
  split
  · exact .inl rfl
  · exact .inr rfl

theorem coherent_afterSuccess (h : Coherent b) : Coherent (afterSuccess b) := by
  have hhealth := recordSuccess_health b.health
  refine ⟨fun hrunning => ?_, fun hunhealthy => absurd hunhealthy hhealth.1⟩
  change (if _ then _ else _ : BackendRuntimeState).lifecycle = .running at hrunning
  split at hrunning
  -- The lifecycle recovers only together with the health.
  · rename_i hrecovered
    exact hrecovered.1
  · exact hhealth.2 (h.running hrunning)

theorem lifecycleAfterFailure_unhealthy (lifecycle : BackendLifecycle) :
    lifecycleAfterFailure .unhealthy lifecycle ≠ .running ∧
      lifecycleAfterFailure .unhealthy lifecycle ≠ .degraded := by
  -- Out of `Running` and `Degraded` the matrix always lets a backend fail.
  cases lifecycle <;> decide

theorem lifecycleAfterFailure_degraded (lifecycle : BackendLifecycle) :
    lifecycleAfterFailure .degraded lifecycle ≠ .running := by
  cases lifecycle <;> decide

/-- A failure takes the backend out of use or leaves it degraded. -/
theorem coherent_afterFailure (nativeError : Option Int) (b : ManagedBackend) :
    Coherent (afterFailure nativeError b) := by
  rcases recordFailure_health b.health with hhealth | hhealth
  · have hunused := lifecycleAfterFailure_unhealthy b.runtime.lifecycle
    rw [← hhealth] at hunused
    exact .of_unused hunused.1 hunused.2
  · have hused := lifecycleAfterFailure_degraded b.runtime.lifecycle
    rw [← hhealth] at hused
    refine ⟨fun hrunning => absurd hrunning hused, fun hunhealthy => ?_⟩
    have heq : BackendHealth.degraded = .unhealthy := hhealth.symm.trans hunhealthy
    cases heq

/-! ## 4. Coherence of the manager -/

def AllCoherent (m : BackendManager) : Prop :=
  ∀ name b, m.backends.lookup name = some b → Coherent b

/-- The call sets an unhealthy backend that is starting to `Degraded`. -/
def Misplaces (m : BackendManager) (call : Call) : Prop :=
  ∃ name b, call = .setLifecycle name .degraded ∧ m.backends.lookup name = some b ∧
    b.runtime.lifecycle = .starting ∧ b.health.health = .unhealthy

/-- Only `set_lifecycle` asks for `Degraded`. -/
theorem Call.eq_of_target_degraded (h : call.target = some (name, .degraded)) :
    call = .setLifecycle name .degraded := by
  cases call with
  | setLifecycle other lifecycle =>
    rw [Call.target, Option.some_inj, Prod.mk.injEq] at h
    rw [h.1, h.2]
  | start _ | markRunning _ | stop _ | markStopped _ =>
    rw [Call.target, Option.some_inj, Prod.mk.injEq] at h
    exact nomatch h.2
  | register _ | unregister _ | recordSuccess _ | recordFailure _ _ => cases h

theorem AllCoherent.step (h : m.AllCoherent) (hplaced : ¬ m.Misplaces call) :
    (m.step call).AllCoherent := by
  refine every_step Coherent.new (fun name b b' hb hmove hcoherent => ?_) h
  cases hmove with
  | lifecycle htarget hmatrix =>
    apply coherent_moved hcoherent hmatrix
    rintro ⟨rfl, hstarting, hunhealthy⟩
    exact hplaced ⟨name, b, Call.eq_of_target_degraded htarget, hb, hstarting, hunhealthy⟩
  | success _ => exact coherent_afterSuccess hcoherent
  | failure _ => exact coherent_afterFailure _ b

theorem not_allCoherent_of_misplaces (h : m.Misplaces call) : ¬ (m.step call).AllCoherent := by
  rcases h with ⟨name, b, rfl, hb, hstarting, hunhealthy⟩
  intro hcoherent
  -- The matrix allows the change and nothing corrects the health.
  have hmatrix : b.runtime.lifecycle.canTransitionTo .degraded = true := by
    rw [hstarting]
    rfl
  have hstored := setLifecycle_stored hb hmatrix
  exact ((hcoherent name _ hstored).unhealthy hunhealthy).2 rfl

/-! ## 5. Whole runs -/

/-- Lifecycle and health agree, and what the selectors return is not unhealthy. -/
structure HealthyInUse (m : BackendManager) : Prop where
  running : ∀ name b, m.backends.lookup name = some b → b.runtime.lifecycle = .running →
    b.health.health = .healthy
  unhealthy : ∀ name b, m.backends.lookup name = some b → b.health.health = .unhealthy →
    b.runtime.lifecycle ≠ .running ∧ b.runtime.lifecycle ≠ .degraded
  findCapable : ∀ capability, ∀ name ∈ m.findCapable capability, m.health name ≠ .ok .unhealthy
  findCapableRequirements : ∀ requirements, ∀ name ∈ m.findCapableRequirements requirements,
    m.health name ≠ .ok .unhealthy
  selectBackend : ∀ policy cursor capability name,
    m.selectBackend policy cursor capability = some name → m.health name ≠ .ok .unhealthy

theorem isAvailable_iff {r : BackendRuntimeState} :
    r.isAvailable = true ↔ r.lifecycle = .running ∨ r.lifecycle = .degraded := by
  unfold BackendRuntimeState.isAvailable
  exact decide_eq_true_iff

theorem AllCoherent.not_unhealthy (h : m.AllCoherent) (hb : m.backends.lookup name = some b)
    (havailable : b.runtime.isAvailable = true) : m.health name ≠ .ok .unhealthy := by
  intro hhealth
  unfold health at hhealth
  rw [hb] at hhealth
  have hunused := (h name b hb).unhealthy (Except.ok.inj hhealth)
  rcases isAvailable_iff.mp havailable with hrunning | hdegraded
  · exact hunused.1 hrunning
  · exact hunused.2 hdegraded

theorem healthyInUse_iff : m.HealthyInUse ↔ m.AllCoherent := by
  constructor
  · intro h name b hb
    exact ⟨h.running name b hb, h.unhealthy name b hb⟩
  · intro h
    have hrequirements (requirements : List CapabilityRequirement) (name : String)
        (hname : name ∈ m.findCapableRequirements requirements) :
        m.health name ≠ .ok .unhealthy := by
      rcases mem_namesWhere.mp hname with ⟨b, hb, hp⟩
      exact h.not_unhealthy hb (Bool.and_eq_true_iff.mp hp).1
    constructor
    · exact fun name b hb => (h name b hb).running
    · exact fun name b hb => (h name b hb).unhealthy
    · intro capability name hname
      rcases mem_namesWhere.mp hname with ⟨b, hb, hp⟩
      exact h.not_unhealthy hb (Bool.and_eq_true_iff.mp hp).1
    · exact hrequirements
    · intro policy cursor capability name hname
      exact hrequirements _ name (selectFromCandidates_mem hname)

theorem allCoherent_new : new.AllCoherent := by
  intro name b hb
  cases hb

/-- Lifecycle and health agree in every state of a run exactly when no call of the run sets an
unhealthy backend that is starting to `Degraded`. -/
theorem healthyInUse_run_iff (calls : List Call) :
    Always step HealthyInUse new calls ↔ Along step (fun m call => ¬ m.Misplaces call) new calls := by
  apply always_iff_along AllCoherent
  · exact fun m hm => healthyInUse_iff.mpr hm
  · exact fun m call hm hplaced => hm.step hplaced
  · intro m call _ hmis
    rw [healthyInUse_iff]
    exact not_allCoherent_of_misplaces (not_not.mp hmis)
  · exact allCoherent_new

/-- A backend that failed and starts again may be set to `Degraded`: it is unhealthy and found. -/
theorem restarted_degraded_unhealthy :
    ¬ Always step HealthyInUse new [.register BackendKind.npcap.descriptor, .start "npcap",
      .setLifecycle "npcap" .failed, .start "npcap", .setLifecycle "npcap" .degraded] := by
  intro h
  have hlast := h [.register BackendKind.npcap.descriptor, .start "npcap",
    .setLifecycle "npcap" .failed, .start "npcap", .setLifecycle "npcap" .degraded] [] rfl
  have hfound : "npcap" ∈ findCapable (run step new [.register BackendKind.npcap.descriptor,
      .start "npcap", .setLifecycle "npcap" .failed, .start "npcap",
      .setLifecycle "npcap" .degraded]) .capture :=
    mem_namesWhere.mpr ⟨⟨⟨BackendKind.npcap.descriptor, .degraded, 0, none⟩,
      ⟨3, 2, 0, 0, .unhealthy⟩⟩, by decide, by decide⟩
  exact hlast.findCapable .capture "npcap" hfound (by decide)

end BackendManager

end NetworkEngine
