import NetworkEngine.Engine.Selectors

/-!
# LoadSelect — the least loaded backend for a kind of work

`LoadBalancer::select`: one pass over the backends with the primary capability of the work, a second
one with its fallback capability, and a count on each way out.
-/

namespace NetworkEngine

open Rust Transition

/-! ## 1. Work and decisions -/

inductive WorkKind where
  | l2Observation
  | l3Capture
  | filtering
  | modification
  | reinjection
  | metadata
  | flowInfo
  | networkState
  | diagnostics
  deriving DecidableEq, Repr

namespace WorkKind

def primaryCapability : WorkKind → BackendCapability
  | l2Observation => .l2Capture
  | l3Capture => .capture
  | filtering => .filtering
  | modification => .modification
  | reinjection => .reinjection
  | metadata => .wfpFlows
  | flowInfo => .wfpFlows
  | networkState => .interfaceInfo
  | diagnostics => .diagnostics

def fallbackCapability : WorkKind → Option BackendCapability
  | l2Observation => some .capture
  | l3Capture => some .l2Capture
  | filtering => some .drop
  | modification => none
  | reinjection => none
  -- The primary capability once more: this fallback is never taken.
  | metadata => some .wfpFlows
  | flowInfo => none
  | networkState => some .neighborInfo
  | diagnostics => none

end WorkKind

structure LoadDecision where
  backend : Option String
  capability : BackendCapability
  usedFallback : Bool
  deriving DecidableEq, Repr

namespace LoadDecision

def isRouted (d : LoadDecision) : Bool := d.backend.isSome

def isPrimary (d : LoadDecision) : Bool := d.isRouted && !d.usedFallback

def isFallback (d : LoadDecision) : Bool := d.isRouted && d.usedFallback

end LoadDecision

namespace LoadBalancer

/-- The counters of `LoadBalancer` that `select` adds to. -/
structure DecisionCounters where
  decisions : UInt64
  fallbackDecisions : UInt64
  unroutedDecisions : UInt64
  deriving DecidableEq, Repr

namespace DecisionCounters

def new : DecisionCounters := ⟨0, 0, 0⟩

def countDecision (c : DecisionCounters) : DecisionCounters :=
  { c with decisions := c.decisions + 1 }

def countFallback (c : DecisionCounters) : DecisionCounters :=
  { c with fallbackDecisions := c.fallbackDecisions + 1 }

def countUnrouted (c : DecisionCounters) : DecisionCounters :=
  { c with unroutedDecisions := c.unroutedDecisions + 1 }

end DecisionCounters

def select (m : BackendManager) (s : Shared) (kind : WorkKind) (c : DecisionCounters) :
    LoadDecision × DecisionCounters :=
  let primary := kind.primaryCapability
  let fallback := kind.fallbackCapability
  let unrouted := (⟨none, primary, false⟩, c.countDecision.countUnrouted)
  match pickBackendForCapability m s primary with
  | some name => (⟨some name, primary, false⟩, c.countDecision)
  | none =>
    match fallback with
    | none => unrouted
    | some capability =>
      match pickBackendForCapability m s capability with
      | some name => (⟨some name, capability, true⟩, c.countDecision.countFallback)
      | none => unrouted

/-! ## 2. What is selected -/

variable {m : BackendManager} {s : Shared} {kind : WorkKind} {c : DecisionCounters}
  {capability : BackendCapability} {name other : String}

/-- The backend that provides the capability with the least (load, name). -/
def Least (m : BackendManager) (s : Shared) (capability : BackendCapability) (name : String) :
    Prop :=
  m.Provides name capability ∧ ∀ other, m.Provides other capability → Before s name other

/-- What a decision says about the backends. -/
structure LeastLoaded (m : BackendManager) (s : Shared) (kind : WorkKind) (d : LoadDecision) :
    Prop where
  primary : ∀ name, d = ⟨some name, kind.primaryCapability, false⟩ ↔
    Least m s kind.primaryCapability name
  fallback : ∀ name capability, d = ⟨some name, capability, true⟩ ↔
    (¬ ∃ other, m.Provides other kind.primaryCapability) ∧
      kind.fallbackCapability = some capability ∧ Least m s capability name
  unrouted : d.backend = none ↔ (¬ ∃ other, m.Provides other kind.primaryCapability) ∧
    ∀ capability, kind.fallbackCapability = some capability →
      ¬ ∃ other, m.Provides other capability

theorem before_antisymm (h : Before s name other) (h' : Before s other name) : name = other := by
  unfold Before at h h'
  rw [UInt64.lt_iff_toNat_lt] at h h'
  rcases h with hlt | ⟨heq, hle⟩
  · rcases h' with hlt' | ⟨heq', -⟩
    · omega
    · rw [heq'] at hlt
      exact absurd hlt (Nat.lt_irrefl _)
  · rcases h' with hlt' | ⟨-, hle'⟩
    · rw [heq] at hlt'
      exact absurd hlt' (Nat.lt_irrefl _)
    · exact le_antisymm hle hle'

theorem pick_eq_some_iff :
    pickBackendForCapability m s capability = some name ↔ Least m s capability name := by
  constructor
  · exact pick_spec
  · intro h
    obtain ⟨picked, hpicked⟩ := Option.isSome_iff_exists.mp (pick_isSome_iff.mpr ⟨name, h.1⟩)
    have hleast := pick_spec hpicked
    rw [hpicked, before_antisymm (hleast.2 name h.1) (h.2 picked hleast.1)]

theorem pick_eq_none_iff : pickBackendForCapability m s capability = none ↔
    ¬ ∃ name, m.Provides name capability := by
  rw [← pick_isSome_iff, Option.not_isSome_iff_eq_none]

/-- The three ways out of `select`, each with what it counts. -/
inductive Selects (m : BackendManager) (s : Shared) (kind : WorkKind) (c : DecisionCounters) :
    LoadDecision × DecisionCounters → Prop
  | primary (name : String) (hleast : Least m s kind.primaryCapability name) :
      Selects m s kind c (⟨some name, kind.primaryCapability, false⟩, c.countDecision)
  | fallback (name : String) (capability : BackendCapability)
      (hnone : ¬ ∃ other, m.Provides other kind.primaryCapability)
      (hfallback : kind.fallbackCapability = some capability)
      (hleast : Least m s capability name) :
      Selects m s kind c (⟨some name, capability, true⟩, c.countDecision.countFallback)
  | unrouted (hnone : ¬ ∃ other, m.Provides other kind.primaryCapability)
      (hfallback : ∀ capability, kind.fallbackCapability = some capability →
        ¬ ∃ other, m.Provides other capability) :
      Selects m s kind c (⟨none, kind.primaryCapability, false⟩, c.countDecision.countUnrouted)

theorem selects (m : BackendManager) (s : Shared) (kind : WorkKind) (c : DecisionCounters) :
    Selects m s kind c (select m s kind c) := by
  unfold select
  dsimp only
  cases hprimary : pickBackendForCapability m s kind.primaryCapability with
  | some name => exact .primary name (pick_eq_some_iff.mp hprimary)
  | none =>
    have hnone := pick_eq_none_iff.mp hprimary
    dsimp only
    cases hkind : kind.fallbackCapability with
    | none =>
      apply Selects.unrouted hnone
      intro capability hcapability
      rw [hkind] at hcapability
      cases hcapability
    | some capability =>
      dsimp only
      cases hfallback : pickBackendForCapability m s capability with
      | some name => exact .fallback name capability hnone hkind (pick_eq_some_iff.mp hfallback)
      | none =>
        apply Selects.unrouted hnone
        intro capability' hcapability
        rw [hkind] at hcapability
        rw [← Option.some.inj hcapability]
        exact pick_eq_none_iff.mp hfallback

theorem Least.unique (h : Least m s capability name) (h' : Least m s capability other) :
    name = other :=
  before_antisymm (h.2 other h'.1) (h'.2 name h.1)

theorem Selects.leastLoaded {r : LoadDecision × DecisionCounters} (h : Selects m s kind c r) :
    LeastLoaded m s kind r.1 := by
  cases h with
  | primary name hleast =>
    have hsome : ∃ other, m.Provides other kind.primaryCapability := ⟨name, hleast.1⟩
    constructor
    case primary =>
      intro other
      rw [LoadDecision.mk.injEq, and_iff_left ⟨rfl, rfl⟩, Option.some.injEq]
      exact ⟨fun heq => heq ▸ hleast, hleast.unique⟩
    case fallback =>
      intro other capability
      exact iff_of_false (fun heq => by cases heq) (fun hboth => hboth.1 hsome)
    case unrouted => exact iff_of_false (fun heq => by cases heq) (fun hboth => hboth.1 hsome)
  | fallback name capability hnone hfallback hleast =>
    constructor
    case primary =>
      intro other
      exact iff_of_false (fun heq => by cases heq) (fun hother => hnone ⟨other, hother.1⟩)
    case fallback =>
      intro other capability'
      rw [LoadDecision.mk.injEq, Option.some.injEq, and_iff_right hnone, hfallback,
        Option.some.injEq, and_iff_left rfl]
      constructor
      · rintro ⟨rfl, rfl⟩
        exact ⟨rfl, hleast⟩
      · rintro ⟨rfl, hother⟩
        exact ⟨hleast.unique hother, rfl⟩
    case unrouted =>
      apply iff_of_false (fun heq => by cases heq)
      exact fun hboth => hboth.2 capability hfallback ⟨name, hleast.1⟩
  | unrouted hnone hfallback =>
    constructor
    case primary =>
      intro other
      exact iff_of_false (fun heq => by cases heq) (fun hother => hnone ⟨other, hother.1⟩)
    case fallback =>
      intro other capability
      apply iff_of_false (fun heq => by cases heq)
      exact fun hother => hfallback capability hother.2.1 ⟨other, hother.2.2.1⟩
    case unrouted => exact iff_of_true rfl ⟨hnone, hfallback⟩

/-! ## 3. Registration -/

end LoadBalancer

namespace BackendManager

/-- A registration changes at most the entry of its own name. -/
theorem step_register (m : BackendManager) (descriptor : BackendDescriptor) :
    m.step (.register descriptor) =
      if descriptor.name.toList.all isWhitespace ∨ descriptor.name ∈ m.backends then m
      else ⟨m.backends.insert descriptor.name (.new descriptor)⟩ := by
  show (exec (register descriptor) m).2 = _
  rw [register, exec_atomically]
  by_cases hblank : descriptor.name.toList.all isWhitespace = true
  · rw [if_pos hblank, if_pos (.inl hblank)]
  · rw [if_neg hblank]
    by_cases hknown : descriptor.name ∈ m.backends
    · rw [if_pos hknown, if_pos (.inr hknown)]
    · rw [if_neg hknown, if_neg (fun h => h.elim hblank hknown)]

theorem step_register_comm (m : BackendManager) {d d' : BackendDescriptor}
    (h : d.name ≠ d'.name) :
    (m.step (.register d)).step (.register d') = (m.step (.register d')).step (.register d) := by
  have hmem {b : ManagedBackend} {k k' : String} (hk : k ≠ k') :
      k' ∈ m.backends.insert k b ↔ k' ∈ m.backends := by
    rw [Finmap.mem_insert, or_iff_right hk.symm]
  rw [step_register m d, step_register m d']
  by_cases hd : d.name.toList.all isWhitespace ∨ d.name ∈ m.backends
  · rw [if_pos hd, step_register m d']
    by_cases hd' : d'.name.toList.all isWhitespace ∨ d'.name ∈ m.backends
    · rw [if_pos hd', step_register, if_pos hd]
    · rw [if_neg hd', step_register, if_pos]
      exact hd.imp_right (hmem h.symm).mpr
  · rw [if_neg hd, step_register _ d']
    simp only [hmem h]
    by_cases hd' : d'.name.toList.all isWhitespace ∨ d'.name ∈ m.backends
    · rw [if_pos hd', if_pos hd', step_register, if_neg hd]
    · rw [if_neg hd', if_neg hd', step_register]
      simp only [hmem h.symm]
      rw [if_neg hd, Finmap.insert_insert_of_ne _ h]

/-- Backends of different names may register in any order. -/
theorem run_register_perm (m : BackendManager) {ds ds' : List BackendDescriptor}
    (hperm : ds.Perm ds') (hnames : (ds.map (·.name)).Nodup) :
    run step m (ds.map .register) = run step m (ds'.map .register) := by
  unfold run
  rw [List.foldl_map, List.foldl_map]
  apply hperm.foldl_eq'
  intro d hd d' hd' m'
  by_cases heq : d = d'
  · rw [heq]
  · exact step_register_comm m' fun hname => heq (List.inj_on_of_nodup_map hnames hd hd' hname)

end BackendManager

namespace LoadBalancer

/-! ## 4. Runs of selects -/

/-- A call of `select`, with the manager and the loads as they are then. -/
structure Request where
  manager : BackendManager
  shared : Shared
  kind : WorkKind

/-- The decisions of a run, and the counters after it. -/
def selectAll (c : DecisionCounters) : List Request → List LoadDecision × DecisionCounters
  | [] => ([], c)
  | r :: requests =>
    let (decision, c') := select r.manager r.shared r.kind c
    let (decisions, c'') := selectAll c' requests
    (decision :: decisions, c'')

/-- The counters are those of before and the decisions, counted as `u64` counters count. -/
structure Counts (c : DecisionCounters) (results : List LoadDecision) (c' : DecisionCounters) :
    Prop where
  decisions : c'.decisions = c.decisions + UInt64.ofNat (results.countP (·.isPrimary) +
    results.countP (·.isFallback) + results.countP (!·.isRouted))
  fallback : c'.fallbackDecisions =
    c.fallbackDecisions + UInt64.ofNat (results.countP (·.isFallback))
  unrouted : c'.unroutedDecisions =
    c.unroutedDecisions + UInt64.ofNat (results.countP (!·.isRouted))

theorem Counts.nil (c : DecisionCounters) : Counts c [] c where
  decisions := (UInt64.add_zero _).symm
  fallback := (UInt64.add_zero _).symm
  unrouted := (UInt64.add_zero _).symm

theorem add_ofNat_succ (a : UInt64) {n n' : Nat} (h : n' = n + 1) :
    a + 1 + UInt64.ofNat n = a + UInt64.ofNat n' := by
  rw [h, UInt64.ofNat_add, UInt64.add_assoc, UInt64.add_comm 1]
  rfl

/-- Every decision is of one of the three kinds. -/
theorem countP_kinds (results : List LoadDecision) :
    results.countP (·.isPrimary) + results.countP (·.isFallback) +
      results.countP (!·.isRouted) = results.length := by
  induction results with
  | nil => rfl
  | cons d results ih =>
    rw [List.countP_cons, List.countP_cons, List.countP_cons, List.length_cons, ← ih]
    unfold LoadDecision.isPrimary LoadDecision.isFallback
    cases d.isRouted <;> cases d.usedFallback <;> simp <;> omega

theorem Counts.cons {r : LoadDecision × DecisionCounters} {results : List LoadDecision}
    {c' : DecisionCounters} (h : Selects m s kind c r) (hrest : Counts r.2 results c') :
    Counts c (r.1 :: results) c' := by
  have hdecisions := hrest.decisions
  have hfallback := hrest.fallback
  have hunrouted := hrest.unrouted
  rw [countP_kinds] at hdecisions
  cases h with
  | primary name hleast =>
    constructor
    case decisions =>
      rw [countP_kinds]
      exact hdecisions.trans (add_ofNat_succ c.decisions rfl)
    case fallback => exact hfallback
    case unrouted => exact hunrouted
  | fallback name capability hnone hcapability hleast =>
    constructor
    case decisions =>
      rw [countP_kinds]
      exact hdecisions.trans (add_ofNat_succ c.decisions rfl)
    case fallback =>
      rw [List.countP_cons_of_pos rfl]
      exact hfallback.trans (add_ofNat_succ c.fallbackDecisions rfl)
    case unrouted => exact hunrouted
  | unrouted hnone hcapability =>
    constructor
    case decisions =>
      rw [countP_kinds]
      exact hdecisions.trans (add_ofNat_succ c.decisions rfl)
    case fallback => exact hfallback
    case unrouted =>
      rw [List.countP_cons_of_pos rfl]
      exact hunrouted.trans (add_ofNat_succ c.unroutedDecisions rfl)

theorem counts_selectAll (c : DecisionCounters) (requests : List Request) :
    Counts c (selectAll c requests).1 (selectAll c requests).2 := by
  induction requests generalizing c with
  | nil => exact .nil c
  | cons r requests ih =>
    exact Counts.cons (selects r.manager r.shared r.kind c) (ih _)

/-- `select` is least loaded and deterministic, and its counters count what it returns. -/
structure SelectCorrect : Prop where
  leastLoaded : ∀ m s kind c, LeastLoaded m s kind (select m s kind c).1
  /-- Whatever happens before and after the registrations. -/
  registration : ∀ before ds ds' after s kind c, List.Perm ds ds' →
    (ds.map BackendDescriptor.name).Nodup →
    select (run BackendManager.step .new (before ++ ds.map .register ++ after)) s kind c =
      select (run BackendManager.step .new (before ++ ds'.map .register ++ after)) s kind c
  counters : ∀ requests,
    Counts .new (selectAll .new requests).1 (selectAll .new requests).2

/-- The main result on `select`. -/
theorem select_correct : SelectCorrect where
  leastLoaded := fun m s kind c => (selects m s kind c).leastLoaded
  registration := by
    intro before ds ds' after s kind c hperm hnames
    rw [run_append, run_append, BackendManager.run_register_perm _ hperm hnames, run_append,
      run_append]
  counters := fun requests => counts_selectAll .new requests

end LoadBalancer

end NetworkEngine
