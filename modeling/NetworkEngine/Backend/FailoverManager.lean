import Mathlib.Data.String.Basic
import NetworkEngine.Backend.Manager
import NetworkEngine.Lib.Ranking
import NetworkEngine.Lib.Transition

/-!
# FailoverManager — failover candidates and their order

`backend_manager::failover`: the registered candidates in their order of preference, the active
selection, the mode of the coordinator and an index of the declared capabilities.  Whatever is
registered and removed, selection only depends on the candidates that are there.
-/

namespace NetworkEngine

open Rust Transition Ranking

/-! ## 1. Candidates -/

inductive FailoverState where
  | disabled
  | ready
  | active
  | degraded
  | failed
  deriving DecidableEq, Repr

def FailoverState.canActivate : FailoverState → Bool
  | ready | degraded => true
  | _ => false

structure FailoverBackend where
  name : String
  priority : UInt32
  capabilities : List BackendCapability
  deriving DecidableEq, Repr

namespace FailoverBackend

def supports (b : FailoverBackend) (capability : BackendCapability) : Bool :=
  b.capabilities.contains capability

/-- The comparison that `select`, `candidates` and `sort_by_priority` each write out. -/
def preference : FailoverBackend → FailoverBackend → Ordering :=
  compareLex (compareOn priority) (compareOn name)

/-- `left` is not after `right` in the order of (priority, name). -/
def Precedes (left right : FailoverBackend) : Prop :=
  left.priority < right.priority ∨ (left.priority = right.priority ∧ left.name ≤ right.name)

theorem precedes_iff {left right : FailoverBackend} :
    Precedes left right ↔ AtMost preference left right := by
  unfold AtMost preference compareLex compareOn Precedes
  rw [Ordering.isLE_then_iff_or, Std.compare_eq_lt, Std.compare_eq_iff_eq,
    Std.LawfulBCmp.isLE_iff_le]

instance : Std.TransCmp preference := inferInstanceAs (Std.TransCmp (compareLex _ _))

theorem preference_eq {left right : FailoverBackend} (h : preference left right = .eq) :
    left.name = right.name :=
  Std.compare_eq_iff_eq.mp (compareLex_eq_eq.mp h).2

end FailoverBackend

open FailoverBackend

inductive FailoverError where
  | capabilityUnavailable
  | noBackendAvailable
  | invalidBackend
  | invalidState
  | alreadyActive
  deriving DecidableEq, Repr

/-! ## 2. The manager -/

structure FailoverManager where
  backends : List FailoverBackend
  activeBackend : Option String
  state : FailoverState
  capabilityIndex : Table String (List BackendCapability)
  deriving DecidableEq

namespace FailoverManager

def new : FailoverManager := ⟨[], none, .ready, ∅⟩

def register (backend : FailoverBackend) : Op FailoverManager FailoverError Unit :=
  atomically fun m =>
    if backend.name.toList.all BackendManager.isWhitespace then .error .invalidBackend
    else if m.backends.any (·.name = backend.name) then .error .invalidBackend
    else .ok ((), { m with
      backends := sortBy preference (m.backends ++ [backend])
      capabilityIndex := m.capabilityIndex.insert backend.name backend.capabilities
      state := if m.state = .failed then .ready else m.state })

def unregister (name : String) : Op FailoverManager FailoverError Unit :=
  atomically fun m =>
    match m.backends.findIdx? (·.name = name) with
    | none => .error .invalidBackend
    | some position =>
      let m := if m.activeBackend = some name then { m with activeBackend := none, state := .ready }
        else m
      .ok ((), { m with
        backends := m.backends.eraseIdx position
        capabilityIndex := m.capabilityIndex.erase name })

def select (m : FailoverManager) (capability : BackendCapability) :
    Except FailoverError FailoverBackend :=
  match minBy preference (m.backends.filter (·.supports capability)) with
  | none => .error .capabilityUnavailable
  | some backend => .ok backend

def activateBest (capability : BackendCapability) : Op FailoverManager FailoverError String :=
  atomically fun m =>
    if ¬ m.state.canActivate then .error .invalidState
    else
      match minBy preference (m.backends.filter (·.supports capability)) with
      | none => .error .capabilityUnavailable
      | some selected =>
        if m.activeBackend = some selected.name then .error .alreadyActive
        else .ok (selected.name, { m with activeBackend := some selected.name, state := .active })

def deactivate (m : FailoverManager) : FailoverManager :=
  { m with activeBackend := none, state := if m.state = .disabled then .disabled else .ready }

def markDegraded (m : FailoverManager) : FailoverManager :=
  { m with state := if m.state = .disabled then .disabled else .degraded }

def markFailed (m : FailoverManager) : FailoverManager :=
  { m with state := .failed, activeBackend := none }

def markReady (m : FailoverManager) : FailoverManager :=
  { m with state := if m.state = .disabled then .disabled else .ready }

def disable (m : FailoverManager) : FailoverManager :=
  { m with state := .disabled, activeBackend := none }

def clear (_ : FailoverManager) : FailoverManager := ⟨[], none, .ready, ∅⟩

/-- The candidates for a capability, in order. -/
def candidates (m : FailoverManager) (capability : BackendCapability) : List FailoverBackend :=
  sortBy preference (m.backends.filter (·.supports capability))

/-! ## 3. Calls -/

inductive Call where
  | register (backend : FailoverBackend)
  | unregister (name : String)
  | activateBest (capability : BackendCapability)
  | deactivate
  | markDegraded
  | markFailed
  | markReady
  | disable
  | clear
  deriving DecidableEq, Repr

/-- A call, with the name that `activate_best` returns. -/
def perform : Call → Op FailoverManager FailoverError (Option String)
  | .register backend => do
    register backend
    return none
  | .unregister name => do
    unregister name
    return none
  | .activateBest capability => some <$> activateBest capability
  | .deactivate => do
    modifyState deactivate
    return none
  | .markDegraded => do
    modifyState markDegraded
    return none
  | .markFailed => do
    modifyState markFailed
    return none
  | .markReady => do
    modifyState markReady
    return none
  | .disable => do
    modifyState disable
    return none
  | .clear => do
    modifyState clear
    return none

def step (m : FailoverManager) (call : Call) : FailoverManager := (exec (perform call) m).2

/-! ## 4. The invariant -/

structure Sound (m : FailoverManager) : Prop where
  names_nodup : (m.backends.map (·.name)).Nodup
  sorted : m.backends.Pairwise Precedes
  active_registered : ∀ name, m.activeBackend = some name → name ∈ m.backends.map (·.name)
  active_some : m.state = .active → m.activeBackend ≠ none
  inactive : m.state = .disabled ∨ m.state = .failed → m.activeBackend = none
  index : ∀ name capabilities, m.capabilityIndex.lookup name = some capabilities ↔
    ∃ b ∈ m.backends, b.name = name ∧ b.capabilities = capabilities

variable {m m' : FailoverManager} {capability : BackendCapability} {name : String}

theorem Sound.new : Sound new where
  names_nodup := List.nodup_nil
  sorted := List.Pairwise.nil
  active_registered := by simp [FailoverManager.new]
  active_some := by simp [FailoverManager.new]
  inactive := by simp [FailoverManager.new]
  index := by simp [FailoverManager.new]

theorem Sound.preferred (h : Sound m) : Sorted preference m.backends :=
  h.sorted.imp precedes_iff.mp

/-- A change of the selection and the mode. -/
theorem Sound.withSelection (h : Sound m) {active : Option String} {state : FailoverState}
    (hregistered : ∀ name, active = some name → name ∈ m.backends.map (·.name))
    (hactive : state = .active → active ≠ none)
    (hinactive : state = .disabled ∨ state = .failed → active = none) :
    Sound { m with activeBackend := active, state } where
  names_nodup := h.names_nodup
  sorted := h.sorted
  active_registered := hregistered
  active_some := hactive
  inactive := hinactive
  index := h.index

/-- Dropping the selection is sound in every mode but `Active`. -/
theorem Sound.withoutSelection (h : Sound m) {state : FailoverState} (hstate : state ≠ .active) :
    Sound { m with activeBackend := none, state } :=
  h.withSelection (fun name hname => absurd hname (Option.some_ne_none name).symm)
    (fun hactive => absurd hactive hstate) (fun _ => rfl)

/-- Registered backends are told apart by their names. -/
theorem Sound.eq_of_name (h : Sound m) {b b' : FailoverBackend} (hb : b ∈ m.backends)
    (hb' : b' ∈ m.backends) (hname : b.name = b'.name) : b = b' :=
  List.inj_on_of_nodup_map h.names_nodup hb hb' hname

theorem Sound.registered (h : Sound m) {backend : FailoverBackend}
    (hnew : ∀ b ∈ m.backends, b.name ≠ backend.name) :
    Sound { m with
      backends := sortBy preference (m.backends ++ [backend])
      capabilityIndex := m.capabilityIndex.insert backend.name backend.capabilities
      state := if m.state = .failed then .ready else m.state } where
  names_nodup := by
    rw [(sortBy_perm.map _).nodup_iff, List.map_append, List.nodup_append]
    refine ⟨h.names_nodup, List.nodup_singleton _, ?_⟩
    intro name hname other hother heq
    rcases List.mem_map.mp hname with ⟨b, hb, rfl⟩
    rw [List.map_singleton, List.mem_singleton] at hother
    exact hnew b hb (heq.trans hother)
  sorted := sorted_sortBy.imp precedes_iff.mpr
  active_registered name hname := by
    have hbefore := h.active_registered name hname
    rw [(sortBy_perm.map _).mem_iff, List.map_append]
    exact List.mem_append_left _ hbefore
  active_some hactive := by
    apply h.active_some
    dsimp only at hactive
    split at hactive
    · cases hactive
    · exact hactive
  inactive hstate := by
    apply h.inactive
    dsimp only at hstate
    split at hstate
    · exact .inr ‹_›
    · exact hstate
  index name capabilities := by
    have hmem (b : FailoverBackend) : b ∈ sortBy preference (m.backends ++ [backend]) ↔
        b ∈ m.backends ∨ b = backend := by
      rw [sortBy_perm.mem_iff, List.mem_append, List.mem_singleton]
    rw [Table.lookup_insert]
    by_cases hname : name = backend.name
    · rw [if_pos hname, Option.some_inj]
      constructor
      · intro heq
        exact ⟨backend, (hmem backend).mpr (.inr rfl), hname.symm, heq⟩
      · intro hfound
        rcases hfound with ⟨b, hb, hbname, hcapabilities⟩
        rcases (hmem b).mp hb with hold | rfl
        · exact absurd (hbname.trans hname) (hnew b hold)
        · exact hcapabilities
    · rw [if_neg hname, h.index]
      constructor
      · intro hfound
        rcases hfound with ⟨b, hb, hrest⟩
        exact ⟨b, (hmem b).mpr (.inl hb), hrest⟩
      · intro hfound
        rcases hfound with ⟨b, hb, hbname, hcapabilities⟩
        rcases (hmem b).mp hb with hold | rfl
        · exact ⟨b, hold, hbname, hcapabilities⟩
        · exact absurd hbname.symm hname

/-- Removal at the position of a name leaves exactly the other backends. -/
theorem Sound.mem_eraseIdx (h : Sound m) {position : Nat}
    (hposition : m.backends.findIdx? (·.name = name) = some position) (b : FailoverBackend) :
    b ∈ m.backends.eraseIdx position ↔ b ∈ m.backends ∧ b.name ≠ name := by
  rcases List.findIdx?_eq_some_iff_getElem.mp hposition with ⟨hlt, hfound, -⟩
  have hname : m.backends[position].name = name := by simpa using hfound
  rw [List.mem_eraseIdx_iff_getElem]
  constructor
  · intro hb
    rcases hb with ⟨i, hi, hne, rfl⟩
    refine ⟨List.getElem_mem hi, fun heq => hne ?_⟩
    have hi' : i < (m.backends.map (·.name)).length := by simpa using hi
    have hlt' : position < (m.backends.map (·.name)).length := by simpa using hlt
    have hsame : (m.backends.map (·.name))[i] = (m.backends.map (·.name))[position] := by
      rw [List.getElem_map, List.getElem_map, heq, hname]
    exact (h.names_nodup.getElem_inj_iff).mp hsame
  · intro hb
    rcases List.getElem_of_mem hb.1 with ⟨i, hi, hget⟩
    refine ⟨i, hi, fun heq => hb.2 ?_, hget⟩
    subst heq
    rw [← hget, hname]

theorem Sound.removed (h : Sound m) {position : Nat}
    (hposition : m.backends.findIdx? (·.name = name) = some position)
    (hactive : m.activeBackend ≠ some name) :
    Sound { m with
      backends := m.backends.eraseIdx position
      capabilityIndex := m.capabilityIndex.erase name } where
  names_nodup := h.names_nodup.sublist ((List.eraseIdx_sublist ..).map _)
  sorted := h.sorted.sublist (List.eraseIdx_sublist ..)
  active_registered other hother := by
    rcases List.mem_map.mp (h.active_registered other hother) with ⟨b, hb, rfl⟩
    -- What is selected is not what is removed.
    have hne : b.name ≠ name := fun heq => hactive (heq ▸ hother)
    exact List.mem_map_of_mem ((h.mem_eraseIdx hposition b).mpr ⟨hb, hne⟩)
  active_some := h.active_some
  inactive := h.inactive
  index other capabilities := by
    dsimp only
    rw [Table.lookup_erase]
    constructor
    · intro hfound
      split at hfound
      · cases hfound
      · rcases (h.index other capabilities).mp hfound with ⟨b, hb, hother, hcapabilities⟩
        have hne : b.name ≠ name := by rwa [hother]
        exact ⟨b, (h.mem_eraseIdx hposition b).mpr ⟨hb, hne⟩, hother, hcapabilities⟩
    · intro hfound
      rcases hfound with ⟨b, hb, hother, hcapabilities⟩
      have hkept := (h.mem_eraseIdx hposition b).mp hb
      rw [if_neg (hother ▸ hkept.2)]
      exact (h.index other capabilities).mpr ⟨b, hkept.1, hother, hcapabilities⟩

/-- A registration leaves the manager as it was, or adds a backend of a new name. -/
theorem register_cases {P : FailoverManager → Prop} (backend : FailoverBackend) (hsame : P m)
    (hadded : (∀ b ∈ m.backends, b.name ≠ backend.name) → P { m with
      backends := sortBy preference (m.backends ++ [backend])
      capabilityIndex := m.capabilityIndex.insert backend.name backend.capabilities
      state := if m.state = .failed then .ready else m.state }) :
    P (exec (FailoverManager.register backend) m).2 := by
  unfold FailoverManager.register
  rw [exec_atomically]
  by_cases hblank : backend.name.toList.all BackendManager.isWhitespace = true
  · rw [if_pos hblank]
    exact hsame
  · rw [if_neg hblank]
    by_cases htaken : m.backends.any (·.name = backend.name) = true
    · rw [if_pos htaken]
      exact hsame
    · rw [if_neg htaken]
      apply hadded
      intro b hb hname
      exact htaken (List.any_eq_true.mpr ⟨b, hb, decide_eq_true hname⟩)

theorem Sound.register (h : Sound m) (backend : FailoverBackend) :
    Sound (exec (FailoverManager.register backend) m).2 := by
  apply register_cases backend h
  exact fun hnew => h.registered hnew

theorem Sound.unregister (h : Sound m) (name : String) :
    Sound (exec (FailoverManager.unregister name) m).2 := by
  unfold FailoverManager.unregister
  rw [exec_atomically]
  cases hposition : m.backends.findIdx? (·.name = name) with
  | none => exact h
  | some position =>
    dsimp only
    by_cases hactive : m.activeBackend = some name
    · rw [if_pos hactive]
      have hready : Sound { m with activeBackend := none, state := .ready } :=
        h.withoutSelection nofun
      exact hready.removed hposition (Option.some_ne_none name).symm
    · rw [if_neg hactive]
      exact h.removed hposition hactive

/-- What `min_by` returns is registered. -/
theorem Sound.minBy_mem (h : Sound m) {selected : FailoverBackend}
    (hselected : minBy preference (m.backends.filter (·.supports capability)) = some selected) :
    selected ∈ m.backends ∧ selected.supports capability = true := by
  rw [(h.preferred.filter _).minBy_eq] at hselected
  exact List.mem_filter.mp (List.mem_of_head? hselected)

theorem Sound.activateBest (h : Sound m) (capability : BackendCapability) :
    Sound (exec (FailoverManager.activateBest capability) m).2 := by
  unfold FailoverManager.activateBest
  rw [exec_atomically]
  by_cases hstate : ¬ m.state.canActivate = true
  · rw [if_pos hstate]
    exact h
  · rw [if_neg hstate]
    cases hselected : minBy preference (m.backends.filter (·.supports capability)) with
    | none => exact h
    | some selected =>
      dsimp only
      by_cases hsame : m.activeBackend = some selected.name
      · rw [if_pos hsame]
        exact h
      · rw [if_neg hsame]
        apply h.withSelection
        · intro name hname
          obtain rfl := Option.some.inj hname
          exact List.mem_map_of_mem (h.minBy_mem hselected).1
        · exact fun _ => Option.some_ne_none _
        · intro hinactive
          exact absurd hinactive (not_or.mpr ⟨nofun, nofun⟩)

/-- A change of the mode that keeps the selection; `Disabled` stays. -/
theorem Sound.marked (h : Sound m) {state : FailoverState} (hready : state ≠ .active)
    (hdisabled : state ≠ .disabled) (hfailed : state ≠ .failed) :
    Sound { m with state := if m.state = .disabled then .disabled else state } := by
  apply h.withSelection h.active_registered
  · intro hactive
    split_ifs at hactive
    exact absurd hactive hready
  · intro hstate
    apply h.inactive
    split_ifs at hstate with hbefore
    · exact .inl hbefore
    · exact absurd hstate (not_or.mpr ⟨hdisabled, hfailed⟩)

theorem Sound.step (h : Sound m) (call : Call) : Sound (m.step call) := by
  cases call with
  | register backend =>
    rw [FailoverManager.step, perform, exec_bind_pure_snd]
    exact h.register backend
  | unregister name =>
    rw [FailoverManager.step, perform, exec_bind_pure_snd]
    exact h.unregister name
  | activateBest capability =>
    rw [FailoverManager.step, perform, ← bind_pure_comp, exec_bind_pure_snd]
    exact h.activateBest capability
  | deactivate =>
    apply h.withoutSelection
    split_ifs
    · exact nofun
    · exact nofun
  | markDegraded => exact h.marked nofun nofun nofun
  | markFailed => exact h.withoutSelection nofun
  | markReady => exact h.marked nofun nofun nofun
  | disable => exact h.withoutSelection nofun
  | clear => exact Sound.new

/-! ## 5. Selection -/

/-- `select` returns the head of the candidates, the least that supports the capability. -/
structure SelectsLeast (m : FailoverManager) : Prop where
  head : ∀ capability, (m.select capability).toOption = (m.candidates capability).head?
  least : ∀ capability b, m.select capability = .ok b →
    b ∈ m.backends ∧ b.supports capability = true ∧
      ∀ b' ∈ m.backends, b'.supports capability = true → Precedes b b'
  none : ∀ capability e, m.select capability = .error e →
    ∀ b ∈ m.backends, b.supports capability = false

theorem Sound.select_eq (h : Sound m) (capability : BackendCapability) :
    m.select capability =
      match m.backends.find? (·.supports capability) with
      | .none => .error .capabilityUnavailable
      | some b => .ok b := by
  unfold select
  rw [(h.preferred.filter _).minBy_eq, List.head?_filter]

theorem Sound.selectsLeast (h : Sound m) : SelectsLeast m where
  head capability := by
    rw [h.select_eq, candidates, (h.preferred.filter _).sortBy_eq, List.head?_filter]
    cases m.backends.find? (·.supports capability) <;> rfl
  least capability b hselected := by
    rw [h.select_eq] at hselected
    cases hfound : m.backends.find? (·.supports capability) with
    | none =>
      rw [hfound] at hselected
      cases hselected
    | some first =>
      rw [hfound] at hselected
      obtain rfl : first = b := Except.ok.inj hselected
      have hcapable : first.supports capability = true :=
        List.find?_some (p := fun b : FailoverBackend => b.supports capability) hfound
      refine ⟨List.mem_of_find?_eq_some hfound, hcapable, fun b' hb' hcapable' => ?_⟩
      rw [← List.head?_filter] at hfound
      have hmem : b' ∈ m.backends.filter (·.supports capability) :=
        List.mem_filter.mpr ⟨hb', hcapable'⟩
      exact precedes_iff.mpr ((h.preferred.filter _).head_atMost hfound hmem)
  none capability e hrefused := by
    rw [h.select_eq] at hrefused
    cases hfound : m.backends.find? (·.supports capability) with
    | none => exact fun b hb => Bool.eq_false_of_not_eq_true (List.find?_eq_none.mp hfound b hb)
    | some first =>
      rw [hfound] at hrefused
      cases hrefused

/-- Sound managers with the same candidates list them in the same order. -/
theorem Sound.backends_eq (h : Sound m) (h' : Sound m')
    (hsame : ∀ b, b ∈ m.backends ↔ b ∈ m'.backends) : m.backends = m'.backends := by
  have hnodup : m.backends.Nodup := .of_map _ h.names_nodup
  have hnodup' : m'.backends.Nodup := .of_map _ h'.names_nodup
  apply h.preferred.eq_of_perm h'.preferred
  · exact fun b hb b' hb' hties => h.eq_of_name hb hb' (preference_eq hties)
  · exact (List.perm_ext_iff_of_nodup hnodup hnodup').mpr hsame

/-- A refused call leaves the manager as it is. -/
theorem step_of_error {call : Call} {e : FailoverError} (h : (exec (perform call) m).1 = .error e) :
    m.step call = m := by
  -- The three calls that can fail are one section each.
  have hsection {α : Type} {f : FailoverManager → Except FailoverError (α × FailoverManager)}
      {g : α → Option String} (h : (exec (atomically f >>= fun a => pure (g a)) m).1 = .error e) :
      (exec (atomically f >>= fun a => pure (g a)) m).2 = m := by
    rw [exec_bind_pure_snd]
    rw [exec_bind] at h
    cases hf : exec (atomically f) m with
    | mk r m' =>
      cases r with
      | error e' =>
        have hsame := exec_atomically_unchanged (s := m) (congrArg Prod.fst hf)
        rwa [hf] at hsame
      | ok a =>
        rw [hf] at h
        cases h
  cases call with
  | register backend => exact hsection h
  | unregister name => exact hsection h
  | activateBest capability =>
    rw [perform, ← bind_pure_comp] at h
    rw [step, perform, ← bind_pure_comp]
    exact hsection h
  | deactivate | markDegraded | markFailed | markReady | disable | clear => cases h

theorem sound_run (calls : List Call) : Sound (run step new calls) :=
  run_inv (fun _ call h => h.step call) Sound.new calls

/-- In every run from `new` the manager stays sound and selects the least candidate, two runs that
end with the same candidates select alike, and a refused call changes nothing. -/
theorem failover_manager_run (calls : List Call) :
    Always step Sound new calls ∧ Always step SelectsLeast new calls ∧
      (∀ others, (∀ b, b ∈ (run step new calls).backends ↔ b ∈ (run step new others).backends) →
        ∀ capability, (run step new calls).select capability =
          (run step new others).select capability) ∧
      Along step (fun m call => ∀ e, (exec (perform call) m).1 = .error e → m.step call = m)
        new calls := by
  refine ⟨fun before _ _ => sound_run before, fun before _ _ => (sound_run before).selectsLeast,
    fun others hsame capability => ?_, fun before call _ _ e herror => step_of_error herror⟩
  unfold select
  rw [(sound_run calls).backends_eq (sound_run others) hsame]

/-! ## 6. A disabled coordinator -/

/-- Nothing is selected, and nothing can be. -/
structure Off (m : FailoverManager) : Prop where
  state : m.state = .disabled
  inactive : m.activeBackend = none

/-- The manager is disabled throughout, and no candidate is activated. -/
def StaysDisabled (m : FailoverManager) (calls : List Call) : Prop :=
  Always step (fun m => m.state = .disabled) m calls ∧
    Along step (fun m call => ∀ capability, call = .activateBest capability →
      ∃ e, (exec (activateBest capability) m).1 = .error e) m calls

theorem off_disable (m : FailoverManager) : Off m.disable := ⟨rfl, rfl⟩

theorem Off.activateBest (h : Off m) (capability : BackendCapability) :
    exec (FailoverManager.activateBest capability) m = (.error .invalidState, m) := by
  have hrefused : ¬ m.state.canActivate = true := by
    rw [h.state]
    decide
  unfold FailoverManager.activateBest
  rw [exec_atomically, if_pos hrefused]

theorem Off.register (h : Off m) (backend : FailoverBackend) :
    Off (exec (FailoverManager.register backend) m).2 := by
  apply register_cases backend h
  intro _
  -- Only `Failed` becomes `Ready`.
  have hstate : m.state ≠ .failed := by
    rw [h.state]
    decide
  exact ⟨(if_neg hstate).trans h.state, h.inactive⟩

theorem Off.unregister (h : Off m) (name : String) :
    Off (exec (FailoverManager.unregister name) m).2 := by
  unfold FailoverManager.unregister
  rw [exec_atomically]
  cases m.backends.findIdx? (·.name = name) with
  | none => exact h
  | some position =>
    have hother : m.activeBackend ≠ some name := by
      rw [h.inactive]
      exact (Option.some_ne_none name).symm
    dsimp only
    rw [if_neg hother]
    exact ⟨h.state, h.inactive⟩

theorem Off.step (h : Off m) {call : Call} (hclear : call ≠ .clear) (hfailed : call ≠ .markFailed) :
    Off (m.step call) := by
  cases call with
  | register backend =>
    rw [FailoverManager.step, perform, exec_bind_pure_snd]
    exact h.register backend
  | unregister name =>
    rw [FailoverManager.step, perform, exec_bind_pure_snd]
    exact h.unregister name
  | activateBest capability =>
    rw [FailoverManager.step, perform, ← bind_pure_comp, exec_bind_pure_snd, h.activateBest]
    exact h
  | deactivate => exact ⟨if_pos h.state, rfl⟩
  | markDegraded => exact ⟨if_pos h.state, h.inactive⟩
  | markFailed => exact absurd rfl hfailed
  | markReady => exact ⟨if_pos h.state, h.inactive⟩
  | disable => exact off_disable m
  | clear => exact absurd rfl hclear

/-- As long as it is not cleared, a disabled manager stays disabled exactly when it is never marked
failed: `mark_failed` is the only other call that does not ask for `Disabled`. -/
theorem stays_disabled_iff (m : FailoverManager) (calls : List Call) (hclear : .clear ∉ calls) :
    StaysDisabled m.disable calls ↔ .markFailed ∉ calls := by
  constructor
  · intro h hfailed
    obtain ⟨before, after, hsplit⟩ := List.append_of_mem hfailed
    have hstate := h.1 (before ++ [.markFailed]) after (by rw [hsplit, List.append_assoc]; rfl)
    rw [run_append] at hstate
    cases hstate
  · intro hfailed
    have hsteps : Along step (fun _ call => call ≠ .clear ∧ call ≠ .markFailed) m.disable calls := by
      intro before call after hsplit
      have hmem : call ∈ calls := hsplit ▸ List.mem_append_right before List.mem_cons_self
      exact ⟨fun heq => hclear (heq ▸ hmem), fun heq => hfailed (heq ▸ hmem)⟩
    have hoff : Always step Off m.disable calls :=
      always_of_along (fun _ _ h hcall => h.step hcall.1 hcall.2) (off_disable m) hsteps
    constructor
    · exact fun before after hsplit => (hoff before after hsplit).state
    · intro before call after hsplit capability _
      have hbefore := hoff before (call :: after) hsplit
      exact ⟨.invalidState, congrArg Prod.fst (hbefore.activateBest capability)⟩

theorem stays_disabled_iff_npcap :
    let calls : List Call := [.register ⟨"npcap", 1, [.capture]⟩, .activateBest .capture]
    StaysDisabled new.disable calls ↔ .markFailed ∉ calls :=
  stays_disabled_iff new _ (by decide)

/-- A backend registers after the failover was disabled and marked failed, and is activated. -/
theorem disabled_manager_activates :
    let calls : List Call :=
      [.markFailed, .register ⟨"npcap", 1, [.capture]⟩, .activateBest .capture]
    Call.clear ∉ calls ∧ ¬ StaysDisabled new.disable calls ∧
      (exec (activateBest .capture) (run step new.disable (calls.take 2))).1 = .ok "npcap" := by
  intro calls
  have hactivated : (exec (activateBest .capture) (run step new.disable (calls.take 2))).1 =
      .ok "npcap" := by decide
  refine ⟨by decide, fun h => ?_, hactivated⟩
  obtain ⟨e, he⟩ := h.2 (calls.take 2) (.activateBest .capture) [] rfl .capture rfl
  rw [hactivated] at he
  cases he

end FailoverManager

end NetworkEngine
