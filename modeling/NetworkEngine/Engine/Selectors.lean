import NetworkEngine.Backend.Coherence
import NetworkEngine.Backend.Complementarity
import NetworkEngine.Engine.LoadCounters

/-!
# Selectors — four ways to choose a backend

`LoadBalancer::pick_backend_for_capability` beside the selectors of the manager.  `find_capable` and
`select_backend` look at the lifecycle alone; the load balancer and the coverage report look at the
health as well.  They agree as long as no unhealthy backend is in use.
-/

namespace NetworkEngine

open Rust Transition

namespace LoadBalancer

/-! ## 1. The least loaded backend -/

/-- One turn of the loop over the candidates; `best` is a name with its load. -/
def keepBetter (m : BackendManager) (s : Shared) (best : Option (String × UInt64))
    (name : String) : Option (String × UInt64) :=
  -- The lifecycle and the health are looked up again, as in `select_with_fallback`.
  if !m.isOperational name then best
  else
    let load := (s.loadOf name).inFlight
    match best with
    | none => some (name, load)
    | some (currentName, currentLoad) =>
      if load < currentLoad then some (name, load)
      else if load = currentLoad ∧ name < currentName then some (name, load)
      else some (currentName, currentLoad)

def pickBackendForCapability (m : BackendManager) (s : Shared) (capability : BackendCapability) :
    Option String :=
  let candidates := m.findCapable capability
  if candidates.isEmpty then none
  else (candidates.foldl (keepBetter m s) none).map (·.1)

/-- `name` is to be taken before `other`: less loaded, or as loaded and not after it. -/
def Before (s : Shared) (name other : String) : Prop :=
  (s.loadOf name).inFlight < (s.loadOf other).inFlight ∨
    (s.loadOf name).inFlight = (s.loadOf other).inFlight ∧ name ≤ other

variable {m : BackendManager} {s : Shared} {name other third : String}
  {best : Option (String × UInt64)} {capability : BackendCapability}

theorem Before.refl (s : Shared) (name : String) : Before s name name := .inr ⟨rfl, le_rfl⟩

theorem Before.trans (h : Before s name other) (h' : Before s other third) :
    Before s name third := by
  unfold Before at h h' ⊢
  rcases h with hlt | ⟨heq, hle⟩
  · rcases h' with hlt' | ⟨heq', -⟩
    · exact .inl (UInt64.lt_trans hlt hlt')
    · exact .inl (heq' ▸ hlt)
  · rcases h' with hlt' | ⟨heq', hle'⟩
    · exact .inl (heq ▸ hlt')
    · exact .inr ⟨heq.trans heq', hle.trans hle'⟩

theorem before_total (s : Shared) (name other : String) :
    Before s name other ∨ Before s other name := by
  unfold Before
  rcases Nat.lt_trichotomy (s.loadOf name).inFlight.toNat (s.loadOf other).inFlight.toNat
    with h | h | h
  · exact .inl (.inl (UInt64.lt_iff_toNat_lt.mpr h))
  · have heq := UInt64.toNat_inj.mp h
    rcases le_total name other with hle | hle
    · exact .inl (.inr ⟨heq, hle⟩)
    · exact .inr (.inr ⟨heq.symm, hle⟩)
  · exact .inr (.inl (UInt64.lt_iff_toNat_lt.mpr h))

/-- What the loop keeps after the names it has seen. -/
inductive Best (m : BackendManager) (s : Shared) (seen : List String) :
    Option (String × UInt64) → Prop
  | none (hnone : ∀ name ∈ seen, ¬ m.Operational name) : Best m s seen none
  | some (name : String) (hmem : name ∈ seen) (hoperational : m.Operational name)
      (hleast : ∀ other ∈ seen, m.Operational other → Before s name other) :
      Best m s seen (some (name, (s.loadOf name).inFlight))

theorem keepBetter_of_not_operational (h : ¬ m.Operational name) :
    keepBetter m s best name = best := by
  have hno : m.isOperational name = false := by
    rw [← Bool.not_eq_true, BackendManager.isOperational_iff]
    exact h
  unfold keepBetter
  rw [hno]
  rfl

theorem keepBetter_none (h : m.Operational name) :
    keepBetter m s none name = some (name, (s.loadOf name).inFlight) := by
  unfold keepBetter
  rw [BackendManager.isOperational_iff.mpr h]
  rfl

/-- Of two backends the loop keeps the one to be taken first. -/
theorem keepBetter_some (h : m.Operational name) (other : String) :
    ∃ kept, keepBetter m s (some (other, (s.loadOf other).inFlight)) name =
        some (kept, (s.loadOf kept).inFlight) ∧
      (kept = name ∨ kept = other) ∧ Before s kept name ∧ Before s kept other := by
  unfold keepBetter
  rw [BackendManager.isOperational_iff.mpr h]
  simp only [Bool.not_true, Bool.false_eq_true, if_false]
  split_ifs with hlt heq
  · exact ⟨name, rfl, .inl rfl, .refl s name, .inl hlt⟩
  · exact ⟨name, rfl, .inl rfl, .refl s name, .inr ⟨heq.1, heq.2.le⟩⟩
  · refine ⟨other, rfl, .inr rfl, ?_, .refl s other⟩
    rcases before_total s other name with hbefore | hbefore | hbefore
    · exact hbefore
    · exact absurd hbefore hlt
    · have hle : other ≤ name := not_lt.mp fun hless => heq ⟨hbefore.1, hless⟩
      exact .inr ⟨hbefore.1.symm, hle⟩

theorem Best.concat {seen : List String} (h : Best m s seen best) :
    Best m s (seen ++ [name]) (keepBetter m s best name) := by
  by_cases hname : m.Operational name
  · cases h with
    | none hnone =>
      rw [keepBetter_none hname]
      refine .some name (List.mem_append_right _ (List.mem_singleton_self name)) hname ?_
      intro other hother hoperational
      rcases List.mem_append.mp hother with hseen | hlast
      · exact absurd hoperational (hnone other hseen)
      · rw [List.mem_singleton.mp hlast]
        exact .refl s name
    | some current hmem hoperational hleast =>
      obtain ⟨kept, hkept, hone, hlast, hcurrent⟩ := keepBetter_some (s := s) hname current
      rw [hkept]
      have hkeeps : kept ∈ seen ++ [name] ∧ m.Operational kept := by
        rcases hone with rfl | rfl
        · exact ⟨by simp, hname⟩
        · exact ⟨List.mem_append_left _ hmem, hoperational⟩
      refine .some kept hkeeps.1 hkeeps.2 fun other hother hop => ?_
      rcases List.mem_append.mp hother with hseen | hnew
      · exact hcurrent.trans (hleast other hseen hop)
      · rw [List.mem_singleton.mp hnew]
        exact hlast
  · rw [keepBetter_of_not_operational hname]
    cases h with
    | none hnone =>
      refine .none fun other hother => ?_
      rcases List.mem_append.mp hother with hseen | hlast
      · exact hnone other hseen
      · rw [List.mem_singleton.mp hlast]
        exact hname
    | some current hmem hoperational hleast =>
      refine .some current (List.mem_append_left _ hmem) hoperational fun other hother hop => ?_
      rcases List.mem_append.mp hother with hseen | hlast
      · exact hleast other hseen hop
      · rw [List.mem_singleton.mp hlast] at hop
        exact absurd hop hname

theorem best_foldl (names : List String) : Best m s names (names.foldl (keepBetter m s) none) := by
  induction names using List.reverseRecOn with
  | nil => exact .none fun name hname => nomatch hname
  | append_singleton names name ih =>
    rw [List.foldl_concat]
    exact ih.concat

theorem best_pick (m : BackendManager) (s : Shared) (capability : BackendCapability) :
    ∃ best, Best m s (m.findCapable capability) best ∧
      pickBackendForCapability m s capability = best.map (·.1) := by
  refine ⟨_, best_foldl _, ?_⟩
  unfold pickBackendForCapability
  dsimp only
  split
  · rename_i hempty
    rw [List.isEmpty_iff.mp hempty]
    rfl
  · rfl

/-- The balancer picks the least loaded of the backends that provide the capability. -/
theorem pick_spec (h : pickBackendForCapability m s capability = some name) :
    m.Provides name capability ∧ ∀ other, m.Provides other capability → Before s name other := by
  obtain ⟨best, hbest, hpick⟩ := best_pick m s capability
  rw [h] at hpick
  cases hbest with
  | none hnone => cases hpick
  | some picked hmem hoperational hleast =>
    obtain rfl : name = picked := Option.some.inj hpick
    have hcapable := BackendManager.mem_findCapable.mp hmem
    refine ⟨⟨hcapable.1, hoperational⟩, fun other hother => ?_⟩
    exact hleast other hother.mem_findCapable hother.2

/-- It picks none only if none provides the capability. -/
theorem pick_isSome_iff :
    (pickBackendForCapability m s capability).isSome ↔ ∃ name, m.Provides name capability := by
  constructor
  · intro h
    obtain ⟨name, hname⟩ := Option.isSome_iff_exists.mp h
    exact ⟨name, (pick_spec hname).1⟩
  · intro h
    obtain ⟨name, hname⟩ := h
    obtain ⟨best, hbest, hpick⟩ := best_pick m s capability
    cases hbest with
    | none hnone => exact absurd hname.2 (hnone name hname.mem_findCapable)
    | some picked hmem hoperational hleast =>
      rw [hpick]
      rfl

end LoadBalancer

namespace BackendManager

variable {m : BackendManager} {name : String} {capability : BackendCapability}

/-! ## 2. Selection by policy -/

/-- The capability and the single mandatory requirement ask the same. -/
theorem findCapable_eq_requirements :
    m.findCapable capability = m.findCapableRequirements [.mandatory capability] := by
  unfold findCapable findCapableRequirements
  congr 1
  funext b
  rw [requirementsSatisfied_mandatory]
  rfl

/-! ## 3. Agreement -/

/-- The selectors agree on what is available, and each returns a capable backend. -/
structure SelectorsAgree (m : BackendManager) : Prop where
  selectBackend : ∀ policy cursor capability,
    m.findCapable capability ≠ [] ↔ (m.selectBackend policy cursor capability).isSome
  pick : ∀ balancer capability, m.findCapable capability ≠ [] ↔
    (LoadBalancer.pickBackendForCapability m balancer capability).isSome
  active : ∀ capability,
    m.findCapable capability ≠ [] ↔ (m.selectWithFallback capability).active.isSome
  requirements : ∀ capability,
    m.findCapable capability = m.findCapableRequirements [.mandatory capability]
  selected_mem : ∀ policy cursor capability name,
    m.selectBackend policy cursor capability = some name → name ∈ m.findCapable capability
  picked_mem : ∀ balancer capability name,
    LoadBalancer.pickBackendForCapability m balancer capability = some name →
      name ∈ m.findCapable capability
  active_mem : ∀ capability name,
    (m.selectWithFallback capability).active = some name → name ∈ m.findCapable capability

theorem findCapable_ne_nil_iff :
    m.findCapable capability ≠ [] ↔ ∃ name, m.Declares name capability ∧ m.InUse name := by
  constructor
  · intro h
    obtain ⟨name, hname⟩ := List.exists_mem_of_ne_nil _ h
    exact ⟨name, mem_findCapable.mp hname⟩
  · intro h hnil
    obtain ⟨name, hname⟩ := h
    have hmem := mem_findCapable.mpr hname
    rw [hnil] at hmem
    cases hmem

/-- The selectors agree in a state exactly when a capability of a backend in use is also provided
by some backend that is not unhealthy. -/
theorem selectorsAgree_iff : m.SelectorsAgree ↔
    ∀ name capability, m.Declares name capability → m.InUse name →
      ∃ other, m.Provides other capability := by
  constructor
  · intro h name capability hdeclares hinUse
    have hcapable := findCapable_ne_nil_iff.mpr ⟨name, hdeclares, hinUse⟩
    exact isSome_active_iff.mp ((h.active capability).mp hcapable)
  · intro h
    have hprovided (capability : BackendCapability) :
        m.findCapable capability ≠ [] ↔ ∃ name, m.Provides name capability := by
      rw [findCapable_ne_nil_iff]
      constructor
      · rintro ⟨name, hdeclares, hinUse⟩
        exact h name capability hdeclares hinUse
      · rintro ⟨name, hname⟩
        exact ⟨name, hname.1, hname.2.inUse⟩
    constructor
    · intro policy cursor capability
      rw [BackendManager.selectBackend, selectBackendForRequirements,
        selectFromCandidates_isSome_iff, findCapable_eq_requirements]
    · intro balancer capability
      rw [LoadBalancer.pick_isSome_iff, hprovided]
    · intro capability
      rw [isSome_active_iff, hprovided]
    · exact fun capability => findCapable_eq_requirements
    · intro policy cursor capability name hname
      rw [findCapable_eq_requirements]
      exact selectFromCandidates_mem hname
    · exact fun balancer capability name hname =>
        (LoadBalancer.pick_spec hname).1.mem_findCapable
    · exact fun capability name hname => (provides_of_active hname).mem_findCapable

/-- In a coherent manager whatever is in use is operational. -/
theorem AllCoherent.selectorsAgree (h : m.AllCoherent) : m.SelectorsAgree := by
  rw [selectorsAgree_iff]
  intro name capability hdeclares hinUse
  obtain ⟨b, hb, havailable⟩ := hinUse
  refine ⟨name, hdeclares, b, hb, havailable, fun hunhealthy => ?_⟩
  have hunused := (h name b hb).unhealthy hunhealthy
  rcases isAvailable_iff.mp havailable with hrunning | hdegraded
  · exact hunused.1 hrunning
  · exact hunused.2 hdegraded

/-- The selectors agree in every state of a run that never sets an unhealthy backend that is
starting to `Degraded`. -/
theorem selectorsAgree_run (calls : List Call)
    (h : Along step (fun m call => ¬ m.Misplaces call) new calls) :
    Always step SelectorsAgree new calls := by
  have hcoherent : Always step AllCoherent new calls :=
    always_of_along (fun _ _ hm hplaced => hm.step hplaced) allCoherent_new h
  exact fun before after hsplit => (hcoherent before after hsplit).selectorsAgree

/-- A backend that is registered and brought up. -/
theorem selectorsAgree_run_started :
    Always step SelectorsAgree new
      [.register BackendKind.npcap.descriptor, .start "npcap", .markRunning "npcap"] := by
  have hplaced (m : BackendManager) (call : Call)
      (hcall : ∀ name, call ≠ .setLifecycle name .degraded) : ¬ m.Misplaces call := by
    rintro ⟨name, b, hmis, -⟩
    exact hcall name hmis
  refine selectorsAgree_run _ (along_cons.mpr ⟨hplaced _ _ (by simp), along_cons.mpr ⟨?_, ?_⟩⟩)
  · exact hplaced _ _ (by simp)
  · exact along_cons.mpr ⟨hplaced _ _ (by simp), along_nil⟩

/-- A restarted backend that is set to `Degraded` is unhealthy: it is found, and not picked. -/
theorem found_and_not_picked :
    ¬ Always step SelectorsAgree new [.register BackendKind.npcap.descriptor, .start "npcap",
      .setLifecycle "npcap" .failed, .start "npcap", .setLifecycle "npcap" .degraded] := by
  intro h
  have hlast := h [.register BackendKind.npcap.descriptor, .start "npcap",
    .setLifecycle "npcap" .failed, .start "npcap", .setLifecycle "npcap" .degraded] [] rfl
  let b : ManagedBackend :=
    ⟨⟨BackendKind.npcap.descriptor, .degraded, 0, none⟩, ⟨3, 2, 0, 0, .unhealthy⟩⟩
  have hbackends : run step new [.register BackendKind.npcap.descriptor, .start "npcap",
      .setLifecycle "npcap" .failed, .start "npcap", .setLifecycle "npcap" .degraded] =
      ⟨(∅ : Table String ManagedBackend).insert "npcap" b⟩ := by
    decide
  rw [hbackends, selectorsAgree_iff] at hlast
  have hb := Finmap.lookup_insert (∅ : Table String ManagedBackend) (a := "npcap") (b := b)
  obtain ⟨other, hprovides⟩ :=
    hlast "npcap" .capture ⟨b, hb, by decide⟩ ⟨b, hb, by decide⟩
  -- The only backend is unhealthy.
  obtain ⟨b', hb', -, hhealthy⟩ := hprovides.2
  rw [Table.lookup_insert] at hb'
  split at hb'
  · rw [← Option.some.inj hb'] at hhealthy
    exact hhealthy rfl
  · cases hb'

end BackendManager

end NetworkEngine
