import NetworkEngine.Backend.Coherence

/-!
# FailureReport — what a failure report leaves behind

`BackendManager::record_failure` counts the error and judges the health before it asks for the
lifecycle that goes with them.  The matrix may refuse that lifecycle, and the counts stay.  The clock
readings of the health monitors, which nothing else looks at, are kept here beside the manager.
-/

namespace NetworkEngine

open Rust Transition

attribute [ext] HealthMonitor BackendRuntimeState ManagedBackend

namespace BackendManager

variable {m : BackendManager} {b : ManagedBackend} {monitor : HealthMonitor} {name : String}
  {nativeError : Option Int} {call : Call}

/-! ## 1. Clock readings -/

/-- `last_check`, `last_failure` and `last_recovery` of a `HealthMonitor`. -/
structure HealthReadings where
  lastCheck : Option Nat
  lastFailure : Option Nat
  lastRecovery : Option Nat
  deriving DecidableEq, Repr

namespace HealthReadings

def new : HealthReadings := ⟨none, none, none⟩

def recordSuccess (now : Nat) (r : HealthReadings) : HealthReadings :=
  { r with lastCheck := some now, lastRecovery := some now }

def recordFailure (now : Nat) (r : HealthReadings) : HealthReadings :=
  { r with lastCheck := some now, lastFailure := some now }

end HealthReadings

/-- The manager and the readings of its backends. -/
structure Clocked where
  manager : BackendManager
  readings : String → HealthReadings

/-- The readings after a report on a backend, which only a registered one takes. -/
def Clocked.noted (s : Clocked) (name : String) (f : HealthReadings → HealthReadings) :
    String → HealthReadings :=
  if s.manager.contains name then Function.update s.readings name (f (s.readings name))
  else s.readings

/-- A call at the time `now`.  `force_health` reads no clock. -/
def Clocked.step (s : Clocked) : Nat × Call → Clocked
  | (now, call) =>
    { manager := s.manager.step call
      readings :=
        match call with
        | .register descriptor =>
          match (exec (register descriptor) s.manager).1 with
          | .ok () => Function.update s.readings descriptor.name .new
          | .error _ => s.readings
        | .recordSuccess name => s.noted name (.recordSuccess now)
        | .recordFailure name _ => s.noted name (.recordFailure now)
        | .unregister _ | .start _ | .markRunning _ | .stop _ | .markStopped _
        | .setLifecycle _ _ => s.readings }

/-- The manager after some calls since its creation. -/
def Clocked.after (calls : List (Nat × Call)) : Clocked :=
  run Clocked.step ⟨.new, fun _ => .new⟩ calls

/-- What a caller may rely on: a rejected report changes nothing, and an accepted one returns the
health that is stored, with a lifecycle that goes with it. -/
structure Reported (s : Clocked) (now : Nat) (name : String) (nativeError : Option Int) : Prop where
  rejected : ∀ err m', exec (recordFailure name nativeError) s.manager = (.error err, m') →
    m'.backends.lookup name = s.manager.backends.lookup name ∧
      (s.step (now, .recordFailure name nativeError)).readings name = s.readings name
  accepted : ∀ health m', exec (recordFailure name nativeError) s.manager = (.ok health, m') →
    ∃ b b', s.manager.backends.lookup name = some b ∧ m'.backends.lookup name = some b' ∧
      b'.health.health = health ∧
      (health = .unhealthy → b'.runtime.lifecycle = .failed) ∧
      (health = .degraded → b.runtime.lifecycle = .running → b'.runtime.lifecycle = .degraded)

/-! ## 2. The result of a report -/

/-- Neither in use nor on the way into it or out of it. -/
def AtRest (lifecycle : BackendLifecycle) : Prop := lifecycle = .stopped ∨ lifecycle = .disabled

instance (lifecycle : BackendLifecycle) : Decidable (AtRest lifecycle) :=
  inferInstanceAs (Decidable (_ ∨ _))

/-- Of the lifecycles that a failure asks for, the matrix refuses `Failed` to a backend at rest. -/
theorem failureLifecycle_refused_iff (health : BackendHealth) (lifecycle : BackendLifecycle) :
    (∃ next ∈ failureLifecycle health lifecycle, ¬ lifecycle.canTransitionTo next = true) ↔
      health = .unhealthy ∧ AtRest lifecycle := by
  cases health <;> cases lifecycle <;> decide

theorem recordFailure_eq (nativeError : Option Int) (hb : m.backends.lookup name = some b) :
    exec (recordFailure name nativeError) m =
      (if b.health.recordFailure.health = .unhealthy ∧ AtRest b.runtime.lifecycle then
        .error .invalidStateTransition else .ok b.health.recordFailure.health,
        ⟨m.backends.insert name (afterFailure nativeError b)⟩) := by
  apply Prod.ext
  · show (recordFailure name nativeError m).1 = _
    have hrefused :=
      failureLifecycle_refused_iff b.health.recordFailure.health b.runtime.lifecycle
    unfold recordFailure
    rw [hb]
    dsimp only
    have hlifecycle : (b.runtime.recordError nativeError).lifecycle = b.runtime.lifecycle := rfl
    rw [hlifecycle]
    cases hnext : failureLifecycle b.health.recordFailure.health b.runtime.lifecycle with
    | none =>
      rw [hnext] at hrefused
      rw [if_neg (fun h => by simpa using hrefused.mpr h)]
    | some next =>
      rw [hnext] at hrefused
      dsimp only
      unfold BackendRuntimeState.transition
      rw [hlifecycle]
      by_cases hmatrix : b.runtime.lifecycle.canTransitionTo next = true
      · rw [if_pos hmatrix, if_neg (fun h => by simpa [hmatrix] using hrefused.mpr h)]
      · rw [if_neg hmatrix, if_pos (hrefused.mp ⟨next, rfl, hmatrix⟩)]
  · exact recordFailure_state nativeError hb

/-- The lifecycles that go with the two outcomes. -/
theorem lifecycleAfterFailure_of_accepted (lifecycle : BackendLifecycle) :
    (¬ AtRest lifecycle → lifecycleAfterFailure .unhealthy lifecycle = .failed) ∧
      lifecycleAfterFailure .degraded .running = .degraded := by
  cases lifecycle <;> decide

/-- An accepted report is as its caller expects. -/
theorem accepted_of_recordFailure {health : BackendHealth} {m' : BackendManager}
    (h : exec (recordFailure name nativeError) m = (.ok health, m')) :
    ∃ b b', m.backends.lookup name = some b ∧ m'.backends.lookup name = some b' ∧
      b'.health.health = health ∧
      (health = .unhealthy → b'.runtime.lifecycle = .failed) ∧
      (health = .degraded → b.runtime.lifecycle = .running →
        b'.runtime.lifecycle = .degraded) := by
  cases hb : m.backends.lookup name with
  | none =>
    rw [recordFailure_unknown nativeError hb] at h
    cases h
  | some b =>
    rw [recordFailure_eq nativeError hb] at h
    obtain ⟨hresult, rfl⟩ := Prod.mk.inj h
    split at hresult
    · cases hresult
    · rename_i haccepted
      have hhealth : b.health.recordFailure.health = health := Except.ok.inj hresult
      have hlifecycle := lifecycleAfterFailure_of_accepted b.runtime.lifecycle
      refine ⟨b, afterFailure nativeError b, rfl, Finmap.lookup_insert _, hhealth, ?_, ?_⟩
      · intro hunhealthy
        show lifecycleAfterFailure b.health.recordFailure.health b.runtime.lifecycle = .failed
        rw [hhealth, hunhealthy] at haccepted ⊢
        exact hlifecycle.1 fun hrest => haccepted ⟨rfl, hrest⟩
      · intro hdegraded hrunning
        show lifecycleAfterFailure b.health.recordFailure.health b.runtime.lifecycle = .degraded
        rw [hhealth, hdegraded, hrunning]
        exact hlifecycle.2

/-! ## 3. The counts of a reachable manager -/

/-- What the counters say about the health. -/
structure Counted (monitor : HealthMonitor) : Prop where
  threshold : monitor.failureThreshold = 3
  recoveries : 0 < monitor.failures.toNat → monitor.recoveries = 0
  unhealthy : 3 ≤ monitor.failures.toNat → monitor.health = .unhealthy

/-- A monitor without failures on record. -/
theorem Counted.of_failures (hthreshold : monitor.failureThreshold = 3)
    (hfailures : monitor.failures = 0) : Counted monitor where
  threshold := hthreshold
  recoveries hpos := by
    rw [hfailures] at hpos
    cases hpos
  unhealthy hle := by
    rw [hfailures] at hle
    cases hle

theorem Counted.forcedHealth (h : Counted monitor) (lifecycle : BackendLifecycle) :
    Counted (forcedHealth lifecycle monitor) := by
  cases lifecycle with
  | running | failed => exact .of_failures h.threshold rfl
  | disabled | starting | degraded | stopping | stopped => exact h

theorem Counted.recordSuccess (h : Counted monitor) : Counted monitor.recordSuccess := by
  unfold HealthMonitor.recordSuccess
  cases monitor.health with
  | unknown | healthy | degraded | unhealthy => exact .of_failures h.threshold rfl

theorem toNat_failures (monitor : HealthMonitor) :
    monitor.recordFailure.failures.toNat = min (monitor.failures.toNat + 1) (2 ^ 32 - 1) :=
  toNat_saturatingSucc32 _

/-- The third failure in a row makes a backend unhealthy. -/
theorem Counted.unhealthy_iff (h : Counted monitor) :
    monitor.recordFailure.health = .unhealthy ↔ 2 ≤ monitor.failures.toNat := by
  have hfailures := toNat_failures monitor
  have hle : monitor.failureThreshold ≤ monitor.recordFailure.failures ↔
      3 ≤ monitor.recordFailure.failures.toNat := by
    rw [h.threshold, UInt32.le_iff_toNat_le]
    rfl
  show (if monitor.failureThreshold ≤ monitor.recordFailure.failures then BackendHealth.unhealthy
    else .degraded) = .unhealthy ↔ _
  rw [ite_eq_left_iff, imp_iff_not (by decide), not_not, hle]
  omega

theorem Counted.recordFailure (h : Counted monitor) : Counted monitor.recordFailure where
  threshold := h.threshold
  recoveries _ := rfl
  unhealthy hle := by
    rw [toNat_failures] at hle
    exact h.unhealthy_iff.mpr (by omega)

def AllCounted (m : BackendManager) : Prop :=
  ∀ name b, m.backends.lookup name = some b → Counted b.health

theorem AllCounted.step (h : m.AllCounted) : (m.step call).AllCounted := by
  refine every_step (fun _ => .of_failures rfl rfl) (fun name b b' _ hmove hcounted => ?_) h
  cases hmove with
  | lifecycle _ _ => exact hcounted.forcedHealth _
  | success _ => exact hcounted.recordSuccess
  | failure _ => exact hcounted.recordFailure

theorem counted_run (calls : List (Nat × Call)) : (Clocked.after calls).manager.AllCounted := by
  have hstep : ∀ (s : Clocked) (turn : Nat × Call), s.manager.AllCounted →
      (s.step turn).manager.AllCounted := fun s turn hs => hs.step
  exact run_inv hstep (fun _ _ hb => by cases hb) calls

/-! ## 4. Rejected reports -/

/-- Both counters are full and the last error is this one: there is nothing left to count. -/
def Exhausted (b : ManagedBackend) (nativeError : Option Int) : Prop :=
  b.runtime.errorCount.toNat = 2 ^ 64 - 1 ∧ b.health.failures.toNat = 2 ^ 32 - 1 ∧
    b.runtime.lastNativeError = nativeError

theorem Exhausted.recordFailure (h : Exhausted b nativeError) (hcounted : Counted b.health) :
    b.health.recordFailure = b.health := by
  have hfailures := h.2.1
  have hthree : 3 ≤ b.health.failures.toNat := by omega
  ext1
  · rfl
  · rfl
  · apply UInt32.toNat_inj.mp
    rw [toNat_failures]
    omega
  · exact (hcounted.recoveries (by omega)).symm
  · rw [hcounted.unhealthy hthree]
    exact hcounted.unhealthy_iff.mpr (by omega)

/-- A refused report shows in the backend, unless there is nothing left to record. -/
theorem afterFailure_eq_iff (hcounted : Counted b.health) (hrest : AtRest b.runtime.lifecycle)
    (hfailures : 2 ≤ b.health.failures.toNat) :
    afterFailure nativeError b = b ↔ Exhausted b nativeError := by
  constructor
  · intro h
    have herrors := congrArg (fun b => b.runtime.errorCount.toNat) h
    have hcount := congrArg (fun b => b.health.failures.toNat) h
    change (saturatingAdd64 b.runtime.errorCount 1).toNat = _ at herrors
    change b.health.recordFailure.failures.toNat = _ at hcount
    rw [toNat_saturatingAdd64, UInt64.toNat_one] at herrors
    rw [toNat_failures] at hcount
    refine ⟨by omega, by omega, ?_⟩
    exact (congrArg (fun b => b.runtime.lastNativeError) h).symm
  · intro h
    have hunhealthy := hcounted.unhealthy_iff.mpr hfailures
    apply ManagedBackend.ext
    · ext1
      · rfl
      · show lifecycleAfterFailure b.health.recordFailure.health b.runtime.lifecycle = _
        rw [hunhealthy]
        obtain hstopped | hdisabled := hrest
        · rw [hstopped]
          rfl
        · rw [hdisabled]
          rfl
      · apply UInt64.toNat_inj.mp
        show (saturatingAdd64 b.runtime.errorCount 1).toNat = _
        rw [toNat_saturatingAdd64, h.1]
        rfl
      · exact h.2.2.symm
    · exact h.recordFailure hcounted

/-- The clock has not moved since the last report, which was of a failure. -/
def HealthReadings.At (r : HealthReadings) (now : Nat) : Prop :=
  r.lastCheck = some now ∧ r.lastFailure = some now

theorem HealthReadings.recordFailure_eq_iff {r : HealthReadings} {now : Nat} :
    r.recordFailure now = r ↔ r.At now := by
  obtain ⟨lastCheck, lastFailure, lastRecovery⟩ := r
  constructor
  · intro h
    obtain ⟨hcheck, hfailure, -⟩ := HealthReadings.mk.inj h
    exact ⟨hcheck.symm, hfailure.symm⟩
  · rintro ⟨hcheck, hfailure⟩
    obtain rfl : lastCheck = some now := hcheck
    obtain rfl : lastFailure = some now := hfailure
    rfl

theorem Clocked.readings_recordFailure {s : Clocked} (now : Nat)
    (hb : s.manager.backends.lookup name = some b) :
    (s.step (now, .recordFailure name nativeError)).readings name =
      (s.readings name).recordFailure now := by
  have hknown : s.manager.contains name = true :=
    decide_eq_true (Finmap.mem_of_lookup_eq_some hb)
  show s.noted name (.recordFailure now) name = _
  rw [Clocked.noted, if_pos hknown, Function.update_self]

/-- In a reachable manager a report keeps to its contract unless it is the third failure in a row,
or a later one, of a backend at rest. -/
theorem reported_iff (calls : List (Nat × Call)) (now : Nat) (name : String)
    (nativeError : Option Int) :
    Reported (.after calls) now name nativeError ↔
      ∀ b, (Clocked.after calls).manager.backends.lookup name = some b →
        AtRest b.runtime.lifecycle → 2 ≤ b.health.failures.toNat →
          Exhausted b nativeError ∧ ((Clocked.after calls).readings name).At now := by
  constructor
  · intro h b hb hrest hfailures
    have hcounted := counted_run calls name b hb
    have hrefused := recordFailure_eq nativeError hb
    rw [if_pos ⟨hcounted.unhealthy_iff.mpr hfailures, hrest⟩] at hrefused
    -- What a rejected report leaves alone is what it would have changed.
    obtain ⟨hsame, hreadings⟩ := h.rejected _ _ hrefused
    rw [hb] at hsame
    rw [Clocked.readings_recordFailure now hb] at hreadings
    refine ⟨?_, HealthReadings.recordFailure_eq_iff.mp hreadings⟩
    exact (afterFailure_eq_iff hcounted hrest hfailures).mp
      (Option.some.inj ((Finmap.lookup_insert _).symm.trans hsame))
  · intro h
    refine ⟨fun err m' hexec => ?_, fun health m' => accepted_of_recordFailure⟩
    cases hb : (Clocked.after calls).manager.backends.lookup name with
    | none =>
      rw [recordFailure_unknown nativeError hb] at hexec
      have hunknown : (Clocked.after calls).manager.contains name = false :=
        decide_eq_false (Finmap.lookup_eq_none.mp hb)
      constructor
      · rw [← (Prod.mk.inj hexec).2, hb]
      · -- Nobody reads the clock for a backend that is not registered.
        show (Clocked.after calls).noted name (.recordFailure now) name = _
        rw [Clocked.noted, hunknown]
        rfl
    | some b =>
      have hcounted := counted_run calls name b hb
      rw [recordFailure_eq nativeError hb] at hexec
      obtain ⟨hresult, rfl⟩ := Prod.mk.inj hexec
      split at hresult
      · rename_i hrefused
        have hfailures := hcounted.unhealthy_iff.mp hrefused.1
        obtain ⟨hexhausted, hat⟩ := h b hb hrefused.2 hfailures
        constructor
        · rw [(afterFailure_eq_iff hcounted hrefused.2 hfailures).mpr hexhausted]
          exact Finmap.lookup_insert _
        · rw [Clocked.readings_recordFailure now hb]
          exact HealthReadings.recordFailure_eq_iff.mpr hat
      · cases hresult

/-- A registered backend that never started, with two failures on record. -/
def failedTwice : Clocked :=
  .after [(0, .register BackendKind.npcap.descriptor), (1, .recordFailure "npcap" (some 5)),
    (2, .recordFailure "npcap" (some 5))]

/-- The third report is rejected, and counted. -/
theorem third_report_rejected :
    (exec (recordFailure "npcap" (some 7)) failedTwice.manager).1 =
        .error .invalidStateTransition ∧
      failedTwice.manager.backends.lookup "npcap" = some
        ⟨⟨BackendKind.npcap.descriptor, .stopped, 2, some 5⟩, ⟨3, 2, 2, 0, .degraded⟩⟩ ∧
      (exec (recordFailure "npcap" (some 7)) failedTwice.manager).2.backends.lookup "npcap" = some
        ⟨⟨BackendKind.npcap.descriptor, .stopped, 3, some 7⟩, ⟨3, 2, 3, 0, .unhealthy⟩⟩ ∧
      ¬ Reported failedTwice 3 "npcap" (some 7) := by
  have hbefore : failedTwice.manager.backends.lookup "npcap" = some
      ⟨⟨BackendKind.npcap.descriptor, .stopped, 2, some 5⟩, ⟨3, 2, 2, 0, .degraded⟩⟩ := by decide
  have hafter :
      (exec (recordFailure "npcap" (some 7)) failedTwice.manager).2.backends.lookup "npcap" = some
        ⟨⟨BackendKind.npcap.descriptor, .stopped, 3, some 7⟩, ⟨3, 2, 3, 0, .unhealthy⟩⟩ := by decide
  have hresult : (exec (recordFailure "npcap" (some 7)) failedTwice.manager).1 =
      .error .invalidStateTransition := by decide
  refine ⟨hresult, hbefore, hafter, fun h => ?_⟩
  have hsame := (h.rejected _ (exec (recordFailure "npcap" (some 7)) failedTwice.manager).2
    (Prod.ext hresult rfl)).1
  rw [hbefore, hafter] at hsame
  exact absurd hsame (by decide)

end BackendManager

end NetworkEngine
