import NetworkEngine.Backend.Manager
import NetworkEngine.Lib.Transition

/-!
# HealthHistory — the health as a function of what was observed

A monitor keeps two counters and its last verdict.  After any observations since its creation, or
since the last reset, the verdict is the one that the whole history gives.
-/

namespace NetworkEngine

namespace HealthMonitor

open Transition

/-! ## 1. Histories -/

inductive Observation where
  | success
  | failure
  deriving DecidableEq, Repr

def observe (m : HealthMonitor) : Observation → HealthMonitor
  | .success => m.recordSuccess
  | .failure => m.recordFailure

/-- A call that changes a monitor. -/
inductive Call where
  | observe (observation : Observation)
  | reset
  | forceHealth (health : BackendHealth)

def call (m : HealthMonitor) : Call → HealthMonitor
  | .observe observation => m.observe observation
  | .reset => m.reset
  | .forceHealth health => m.forceHealth health

/-- The number of `observation`s in a row that a history ends in. -/
def streak (observation : Observation) (history : List Observation) : Nat :=
  (history.reverse.takeWhile (· = observation)).length

/-- The health that a history calls for. -/
def judged (failureThreshold recoveryThreshold : Nat) (history : List Observation) :
    BackendHealth :=
  match history.getLast? with
  | none => .unknown
  | some .failure =>
    if max 1 failureThreshold ≤ streak .failure history then .unhealthy else .degraded
  | some .success =>
    -- A backend that never failed has nothing to recover from.
    if .failure ∉ history ∨ max 1 recoveryThreshold ≤ streak .success history then .healthy
    else .degraded

variable {F R : UInt32} {history : List Observation} {m : HealthMonitor}
  {observation other : Observation}

theorem streak_concat_self (observation : Observation) (history : List Observation) :
    streak observation (history ++ [observation]) = streak observation history + 1 := by
  unfold streak
  rw [List.reverse_append, List.reverse_singleton, List.singleton_append,
    List.takeWhile_cons_of_pos (by simp), List.length_cons]

theorem streak_concat_of_ne (history : List Observation) (h : other ≠ observation) :
    streak observation (history ++ [other]) = 0 := by
  unfold streak
  rw [List.reverse_append, List.reverse_singleton, List.singleton_append,
    List.takeWhile_cons_of_neg (by simpa using h), List.length_nil]

theorem judged_concat_failure (F R : Nat) (history : List Observation) :
    judged F R (history ++ [.failure]) =
      if max 1 F ≤ streak .failure history + 1 then .unhealthy else .degraded := by
  rw [judged, List.getLast?_concat, streak_concat_self]

theorem judged_concat_success (F R : Nat) (history : List Observation) :
    judged F R (history ++ [.success]) =
      if .failure ∉ history ∨ max 1 R ≤ streak .success history + 1 then .healthy
      else .degraded := by
  rw [judged, List.getLast?_concat, streak_concat_self]
  simp only [List.mem_append, List.mem_singleton, reduceCtorEq, or_false]

theorem judged_eq_unknown_iff {F R : Nat} : judged F R history = .unknown ↔ history = [] := by
  induction history using List.reverseRecOn with
  | nil => exact iff_of_true rfl rfl
  | append_singleton history observation _ =>
    refine iff_of_false ?_ (by simp)
    cases observation with
    | success => rw [judged_concat_success]; split <;> decide
    | failure => rw [judged_concat_failure]; split <;> decide

/-- A verdict short of healthy has a failure behind it. -/
theorem failure_mem_of_judged {F R : Nat}
    (h : judged F R history = .degraded ∨ judged F R history = .unhealthy) :
    .failure ∈ history := by
  induction history using List.reverseRecOn with
  | nil => rcases h with h | h <;> cases h
  | append_singleton history observation _ =>
    cases observation with
    | failure => exact List.mem_append_right history (List.mem_singleton.mpr rfl)
    | success =>
      rw [judged_concat_success] at h
      split at h
      · exact absurd h (by decide)
      · rename_i hrecovering
        exact List.mem_append_left _ (not_not.mp fun hnever => hrecovering (.inl hnever))

/-! ## 2. The monitor follows the history -/

/-- The counters are the streaks, as far as a `u32` goes, and the health is the verdict. -/
structure Follows (F R : UInt32) (history : List Observation) (m : HealthMonitor) : Prop where
  failureThreshold : m.failureThreshold = max F 1
  recoveryThreshold : m.recoveryThreshold = max R 1
  failures : m.failures.toNat = min (streak .failure history) (2 ^ 32 - 1)
  recoveries : m.recoveries.toNat = min (streak .success history) (2 ^ 32 - 1)
  health : m.health = judged F.toNat R.toNat history

theorem follows_new (F R : UInt32) : Follows F R [] (new F R) where
  failureThreshold := rfl
  recoveryThreshold := rfl
  failures := rfl
  recoveries := rfl
  health := rfl

/-- A counter at its limit still tells whether a threshold is reached. -/
theorem threshold_le_saturatingSucc32_iff {threshold counter : UInt32} {n : Nat}
    (hcounter : counter.toNat = min n (2 ^ 32 - 1)) :
    max threshold 1 ≤ saturatingSucc32 counter ↔ max 1 threshold.toNat ≤ n + 1 := by
  have hmax : (max threshold 1).toNat = max 1 threshold.toNat := by
    show (if threshold ≤ 1 then 1 else threshold).toNat = max 1 threshold.toNat
    have hle : threshold ≤ 1 ↔ threshold.toNat ≤ 1 := UInt32.le_iff_toNat_le
    by_cases hone : threshold ≤ 1
    · rw [if_pos hone, UInt32.toNat_one, max_eq_left (hle.mp hone)]
    · rw [if_neg hone]
      have hgt : ¬ threshold.toNat ≤ 1 := fun h => hone (hle.mpr h)
      omega
  have hlt := threshold.toNat_lt
  rw [UInt32.le_iff_toNat_le, toNat_saturatingSucc32, hmax, hcounter]
  omega

theorem toNat_saturatingSucc32_of_min {counter : UInt32} {n : Nat}
    (hcounter : counter.toNat = min n (2 ^ 32 - 1)) :
    (saturatingSucc32 counter).toNat = min (n + 1) (2 ^ 32 - 1) := by
  rw [toNat_saturatingSucc32, hcounter]
  omega

theorem Follows.recordFailure (h : Follows F R history m) :
    Follows F R (history ++ [.failure]) m.recordFailure where
  failureThreshold := h.failureThreshold
  recoveryThreshold := h.recoveryThreshold
  failures := by
    rw [streak_concat_self]
    exact toNat_saturatingSucc32_of_min h.failures
  recoveries := by
    rw [streak_concat_of_ne history (by decide)]
    rfl
  health := by
    rw [judged_concat_failure]
    show (if m.failureThreshold ≤ saturatingSucc32 m.failures then _ else _) = _
    rw [h.failureThreshold]
    exact if_congr (threshold_le_saturatingSucc32_iff h.failures) rfl rfl

/-- What a success does to a monitor, apart from the health. -/
theorem recordSuccess_counters (m : HealthMonitor) :
    m.recordSuccess.failureThreshold = m.failureThreshold ∧
      m.recordSuccess.recoveryThreshold = m.recoveryThreshold ∧ m.recordSuccess.failures = 0 ∧
      m.recordSuccess.recoveries =
        if m.health = .unknown then 1 else saturatingSucc32 m.recoveries := by
  unfold HealthMonitor.recordSuccess
  cases m.health with
  | unknown | healthy | degraded | unhealthy => exact ⟨rfl, rfl, rfl, rfl⟩

theorem recordSuccess_health (m : HealthMonitor) :
    m.recordSuccess.health =
      if (m.health = .degraded ∨ m.health = .unhealthy) ∧
          ¬ m.recoveryThreshold ≤ saturatingSucc32 m.recoveries then .degraded
      else .healthy := by
  unfold HealthMonitor.recordSuccess
  cases m.health with
  | unknown | healthy => rfl
  | degraded | unhealthy =>
    by_cases h : m.recoveryThreshold ≤ saturatingSucc32 m.recoveries <;> simp [h]

/-- A verdict of healthy shows the grounds for it, which the next success keeps. -/
theorem recovering_of_judged_healthy {F R : Nat} (h : judged F R history = .healthy) :
    .failure ∉ history ∨ max 1 R ≤ streak .success history + 1 := by
  induction history using List.reverseRecOn with
  | nil => cases h
  | append_singleton history observation _ =>
    cases observation with
    | failure =>
      rw [judged_concat_failure] at h
      split at h <;> cases h
    | success =>
      rw [judged_concat_success] at h
      rw [streak_concat_self]
      split at h
      · rename_i hgrounds
        rcases hgrounds with hnever | hreached
        · exact .inl (by simpa using hnever)
        · exact .inr (by omega)
      · cases h

theorem Follows.recordSuccess (h : Follows F R history m) :
    Follows F R (history ++ [.success]) m.recordSuccess := by
  obtain ⟨hfailureThreshold, hrecoveryThreshold, hfailures, hrecoveries⟩ :=
    recordSuccess_counters m
  have hreached : m.recoveryThreshold ≤ saturatingSucc32 m.recoveries ↔
      max 1 R.toNat ≤ streak .success history + 1 := by
    rw [h.recoveryThreshold]
    exact threshold_le_saturatingSucc32_iff h.recoveries
  constructor
  case failureThreshold => rw [hfailureThreshold, h.failureThreshold]
  case recoveryThreshold => rw [hrecoveryThreshold, h.recoveryThreshold]
  case failures =>
    rw [hfailures, streak_concat_of_ne history (by decide)]
    rfl
  case recoveries =>
    rw [hrecoveries, streak_concat_self]
    by_cases hunknown : m.health = .unknown
    · -- Nothing was observed yet, and the counter starts at one.
      have hempty : history = [] := judged_eq_unknown_iff.mp (h.health.symm.trans hunknown)
      rw [if_pos hunknown, hempty]
      rfl
    · rw [if_neg hunknown]
      exact toNat_saturatingSucc32_of_min h.recoveries
  case health =>
    rw [recordSuccess_health, judged_concat_success]
    simp only [hreached]
    by_cases hill : m.health = .degraded ∨ m.health = .unhealthy
    · have hfailed : .failure ∈ history := failure_mem_of_judged (h.health ▸ hill)
      by_cases hlong : max 1 R.toNat ≤ streak .success history + 1
      · rw [if_neg (fun hn => hn.2 hlong), if_pos (.inr hlong)]
      · rw [if_pos ⟨hill, hlong⟩, if_neg (fun hn => hn.elim (· hfailed) hlong)]
    · rw [if_neg (fun hn => hill hn.1)]
      symm
      apply if_pos
      cases hhealth : m.health with
      | unknown =>
        rw [judged_eq_unknown_iff.mp (h.health.symm.trans hhealth)]
        exact .inl List.not_mem_nil
      | healthy => exact recovering_of_judged_healthy (h.health.symm.trans hhealth)
      | degraded => exact absurd (.inl hhealth) hill
      | unhealthy => exact absurd (.inr hhealth) hill

theorem Follows.run (h : Follows F R history m) (observations : List Observation) :
    Follows F R (history ++ observations) (run observe m observations) := by
  induction observations generalizing history m with
  | nil => rwa [List.append_nil]
  | cons observation observations ih =>
    rw [run_cons, List.append_cons]
    cases observation with
    | success => exact ih h.recordSuccess
    | failure => exact ih h.recordFailure

/-! ## 3. Resets -/

/-- No call moves a threshold. -/
theorem thresholds_call (m : HealthMonitor) (c : Call) :
    (m.call c).failureThreshold = m.failureThreshold ∧
      (m.call c).recoveryThreshold = m.recoveryThreshold := by
  cases c with
  | observe observation =>
    cases observation with
    | success =>
      have hcounters := recordSuccess_counters m
      exact ⟨hcounters.1, hcounters.2.1⟩
    | failure => exact ⟨rfl, rfl⟩
  | reset => exact ⟨rfl, rfl⟩
  | forceHealth health => exact ⟨rfl, rfl⟩

theorem thresholds_run (m : HealthMonitor) (calls : List Call) :
    (run call m calls).failureThreshold = m.failureThreshold ∧
      (run call m calls).recoveryThreshold = m.recoveryThreshold := by
  induction calls generalizing m with
  | nil => exact ⟨rfl, rfl⟩
  | cons c calls ih =>
    rw [run_cons, (ih _).1, (ih _).2]
    exact thresholds_call m c

/-- A reset starts a new history, whatever was called before it. -/
theorem follows_reset (F R : UInt32) (calls : List Call) :
    Follows F R [] (run call (new F R) calls).reset where
  failureThreshold := (thresholds_run (new F R) calls).1
  recoveryThreshold := (thresholds_run (new F R) calls).2
  failures := rfl
  recoveries := rfl
  health := rfl

/-- The health is what the observations since the creation, or since the last reset, call for. -/
theorem health_eq_judged (failureThreshold recoveryThreshold : UInt32) (before : List Call)
    (history : List Observation) :
    (run observe (new failureThreshold recoveryThreshold) history).health =
        judged failureThreshold.toNat recoveryThreshold.toNat history ∧
      (run observe (run call (new failureThreshold recoveryThreshold) before).reset
        history).health = judged failureThreshold.toNat recoveryThreshold.toNat history :=
  ⟨((follows_new failureThreshold recoveryThreshold).run history).health,
    ((follows_reset failureThreshold recoveryThreshold before).run history).health⟩

/-- A recovery that a second failure breaks off starts again. -/
example :
    (run observe (new 3 2) [.success, .failure, .success, .failure, .success]).health =
      .degraded := by decide

end HealthMonitor

end NetworkEngine
