import NetworkEngine.Engine.Failover

/-!
# Instances — do manager lifecycles and native instances agree?

Runs of `start_backend`, `stop_backend` and `restart_backend` on the built-in backends after a
successful initialization.  `initialize` starts the IP Helper instance itself and leaves the
lifecycle of `iphelper` at `Stopped`; the first start of `iphelper` finds the instance running and
ends `Failed`, as does every later one.
-/

namespace NetworkEngine

open Rust Transition

namespace EngineRuntime

namespace Instances

/-! ## 1. Calls and what is asked of them -/

inductive Call where
  | startBackend (n : NativeOutcomes) (kind : BackendKind)
  | stopBackend (n : NativeOutcomes) (kind : BackendKind)
  | restartBackend (nstop nstart : NativeOutcomes) (kind : BackendKind)

def step (e : EngineRuntime) : Call → EngineRuntime
  | .startBackend n kind => (exec (EngineRuntime.startBackend n kind.name) e).2
  | .stopBackend n kind => (exec (EngineRuntime.stopBackend n kind.name) e).2
  | .restartBackend nstop nstart kind =>
    (exec (EngineRuntime.restartBackend nstop nstart kind.name) e).2

/-- The call asks for a start of `kind`. -/
def Call.Starts (kind : BackendKind) : Call → Prop
  | .startBackend _ other | .restartBackend _ _ other => other = kind
  | .stopBackend _ _ => False

instance (kind : BackendKind) : DecidablePred (Call.Starts kind)
  | .startBackend _ _ | .restartBackend _ _ _ => inferInstanceAs (Decidable (_ = _))
  | .stopBackend _ _ => inferInstanceAs (Decidable False)

/-- Unless the manager calls `kind` failed, it runs `kind` exactly when the native instance runs. -/
def Agrees (e : EngineRuntime) (kind : BackendKind) : Prop :=
  ∃ l, e.backendManager.lifecycleOf kind.name = some l ∧
    (l ≠ .failed → (l = .running ∨ l = .degraded ↔ NativeUp e kind))

/-- A call returned in the middle of a transition of `kind`. -/
def InTransition (e : EngineRuntime) (kind : BackendKind) : Prop :=
  e.backendManager.lifecycleOf kind.name = some .starting ∨
    e.backendManager.lifecycleOf kind.name = some .stopping

/-- The engine with its native slots empty. -/
def withoutInstances (e : EngineRuntime) : EngineRuntime :=
  { e with
    npcapBackend := none
    windivertBackend := none
    wfpBackend := none
    iphelperBackend := none
    etwBackend := none }

/-- The native open of a start succeeds for a new instance. -/
def OpensNew (n : NativeOutcomes) (e : EngineRuntime) (kind : BackendKind) : Prop :=
  (exec (startNative n kind) (withoutInstances e)).1 = .ok ()

/-- A start of a backend that may be started succeeds when its native open would. -/
def StartsWhenOpening (n : NativeOutcomes) (e : EngineRuntime) (kind : BackendKind) : Prop :=
  ∀ l, e.backendManager.lifecycleOf kind.name = some l →
    l = .stopped ∨ l = .disabled ∨ l = .failed → OpensNew n e kind →
      (exec (EngineRuntime.startBackend n kind.name) e).1 = .ok ()

/-! ## 2. One state -/

variable {e : EngineRuntime} {n : NativeOutcomes} {kind : BackendKind} {l : BackendLifecycle}

theorem opensNew_iff : OpensNew n e kind ↔ n.starts kind = true := by
  have hdown : NativeDown (withoutInstances e) kind := by
    cases kind <;> exact fun b hb => absurd hb (Option.some_ne_none b).symm
  have hstart : Triple (NativeDown · kind) (startNative n kind) _ _ := startNative_triple
  specialize hstart _ hdown
  unfold OpensNew
  rcases hexec : exec (startNative n kind) (withoutInstances e) with ⟨error | _, e'⟩
  · rw [hexec] at hstart
    exact iff_of_false nofun hstart.2
  · rw [hexec] at hstart
    exact iff_of_true rfl hstart.2

theorem lifecycleOf_of_managed (h : Managed e.backendManager kind l) :
    e.backendManager.lifecycleOf kind.name = some l := by
  rcases h with ⟨b, hb, -, hl, -⟩
  rw [BackendManager.lifecycleOf, hb, ← hl]
  rfl

theorem not_inTransition (h : Settled e) (kind : BackendKind) : ¬ InTransition e kind := by
  intro htransition
  have hnot (l : BackendLifecycle) (hmanaged : Managed e.backendManager kind l)
      (hstarting : l ≠ .starting) (hstopping : l ≠ .stopping) : False := by
    rw [InTransition, lifecycleOf_of_managed hmanaged] at htransition
    rcases htransition with hl | hl
    · exact hstarting (Option.some.inj hl)
    · exact hstopping (Option.some.inj hl)
  rcases h.backends kind with ⟨hruns, -⟩ | hrests
  · exact hnot _ hruns.managed (by decide) (by decide)
  · rcases hrests.managed with hmanaged | hmanaged
    · exact hnot _ hmanaged (by decide) (by decide)
    · exact hnot _ hmanaged (by decide) (by decide)

theorem agrees_of_ne (h : Settled e) (hkind : kind ≠ .ipHelper) : Agrees e kind := by
  rcases h.backends kind with ⟨hruns, -⟩ | hrests
  · refine ⟨_, lifecycleOf_of_managed hruns.managed, fun _ => ?_⟩
    exact iff_of_true (.inl rfl) hruns.slot
  · have hdown : NativeDown e kind := by
      have hslot := hrests.slot
      rw [decide_eq_false hkind] at hslot
      exact hslot
    rcases hrests.amid with ⟨l, -, hstop, hmanaged, -⟩
    refine ⟨l, lifecycleOf_of_managed hmanaged, fun _ => ?_⟩
    refine iff_of_false (fun hruns => ?_) (hdown.not_nativeUp)
    rcases hruns with rfl | rfl
    · cases hstop
    · cases hstop

/-- The IP Helper instance is up, whatever the manager says of it. -/
theorem agrees_iphelper_iff (h : Settled e) (hmanaged : Managed e.backendManager .ipHelper l) :
    Agrees e .ipHelper ↔ l = .failed := by
  have hl := lifecycleOf_of_managed hmanaged
  constructor
  · intro hagrees
    by_contra hfailed
    rcases hagrees with ⟨l', hl', hiff⟩
    obtain rfl := Option.some.inj (hl.symm.trans hl')
    rcases h.backends .ipHelper with ⟨-, hne⟩ | hrests
    · exact hne rfl
    · have hup : NativeUp e .ipHelper := hrests.slot
      exact hrests.not_operational (hmanaged.operational_iff.mpr ((hiff hfailed).mpr hup))
  · intro hfailed
    exact ⟨l, hl, fun hne => absurd hfailed hne⟩

/-- A start of a backend that is not running returns what its native calls decide, but for IP
Helper. -/
theorem startsWhenOpening_iff (h : Settled e) :
    StartsWhenOpening n e kind ↔ kind ≠ .ipHelper ∨ n.starts kind = false := by
  constructor
  · intro hstarts
    by_cases hkind : kind = .ipHelper
    · subst hkind
      right
      rcases h.backends .ipHelper with ⟨-, hne⟩ | hrests
      · exact absurd rfl hne
      rcases hrests.amid with ⟨l, hstart, -, hmanaged, -⟩
      have hstartable : l = .stopped ∨ l = .disabled ∨ l = .failed := by
        revert hstart
        cases l <;> decide
      by_contra hopens
      rw [Bool.not_eq_false] at hopens
      have hok := hstarts l (lifecycleOf_of_managed hmanaged) hstartable (opensNew_iff.mpr hopens)
      have hrefused := startBackend_rests_iphelper (n := n) h.toServing hrests e rfl
      rcases hexec : exec (EngineRuntime.startBackend n BackendKind.ipHelper.name) e with
        ⟨error | _, e'⟩
      · rw [hexec] at hok
        cases hok
      · rw [hexec] at hrefused
        exact hrefused
    · exact .inl hkind
  · intro hcondition l hl hstartable hopens
    rw [opensNew_iff] at hopens
    rcases hcondition with hkind | hfails
    · rcases h.backends kind with ⟨hruns, -⟩ | hrests
      · rw [lifecycleOf_of_managed hruns.managed, Option.some.injEq] at hl
        subst hl
        rcases hstartable with hl | hl | hl <;> cases hl
      · have hstart := startBackend_rests (n := n) h.toServing hrests hkind e rfl
        rcases hexec : exec (EngineRuntime.startBackend n kind.name) e with ⟨error | _, e'⟩
        · rw [hexec] at hstart
          exact absurd hopens hstart.2
        · rfl
    · rw [hfails] at hopens
      cases hopens

/-! ## 3. Runs -/

section Runs

variable {name : String} {other : BackendKind} {b : ManagedBackend}

/-- A change to one backend leaves the entries of the others alone. -/
theorem lookup_of_sameBut {kind' : BackendKind} {e e' : EngineRuntime} (hkind : kind ≠ other)
    (hname : kind.name = kind'.name) (hsame : SameBut kind' e e')
    (h : e.backendManager.backends.lookup other.name = some b) :
    e'.backendManager.backends.lookup other.name = some b := by
  obtain rfl := BackendKind.name_injective hname
  rw [hsame.lookup other.name (BackendKind.name_injective.ne hkind.symm)]
  exact h

theorem startBackend_keeps_lookup (n : NativeOutcomes) (hkind : kind ≠ other) :
    Keeps (fun e => Settled e ∧ e.backendManager.backends.lookup other.name = some b)
      (EngineRuntime.startBackend n kind.name) := by
  apply startBackend_keeps_but
  intro kind' e e' hname hsame h
  exact lookup_of_sameBut hkind hname hsame h

theorem stopBackend_keeps_lookup (n : NativeOutcomes) (hkind : kind ≠ other) :
    Keeps (fun e => Settled e ∧ e.backendManager.backends.lookup other.name = some b)
      (EngineRuntime.stopBackend n kind.name) := by
  apply stopBackend_keeps_but
  intro kind' e e' hname hsame h
  exact lookup_of_sameBut hkind hname hsame h

/-- The restart of a backend that rests is a start. -/
theorem restartBackend_rests {nstop nstart : NativeOutcomes} (h : Serving e) (hrests : Rests e kind) :
    exec (EngineRuntime.restartBackend nstop nstart kind.name) e =
      exec (EngineRuntime.startBackend nstart kind.name) e := by
  rcases hrests.managed with hmanaged | hmanaged
  all_goals
    rcases hmanaged.runtimeState with ⟨runtime, hruntime, hl⟩
    rw [EngineRuntime.restartBackend, exec_bind_ok h.requireRunning, exec_bind_ok (exec_getState e),
      hruntime, exec_bind_ok (exec_ofResult e _), hl]

theorem settled_step (e : EngineRuntime) (call : Call) (h : Settled e) : Settled (step e call) := by
  cases call with
  | startBackend n kind => exact h.startBackend n kind.name
  | stopBackend n kind => exact h.stopBackend n kind.name
  | restartBackend nstop nstart kind =>
    exact (restartBackend_keeps (stopBackend_keeps_settled nstop kind.name)
      (startBackend_keeps_settled nstart kind.name)).run h

theorem Settled.rests_iphelper (h : Settled e) : Rests e .ipHelper :=
  (h.backends .ipHelper).resolve_left fun hruns => hruns.2 rfl

/-- A start of IP Helper ends failed, whatever its native call would answer. -/
theorem startBackend_iphelper (h : Settled e) (n : NativeOutcomes) :
    Managed (exec (EngineRuntime.startBackend n BackendKind.ipHelper.name) e).2.backendManager
      .ipHelper .failed := by
  have hstart := startBackend_rests_iphelper (n := n) h.toServing (Settled.rests_iphelper h) e rfl
  rcases hexec : exec (EngineRuntime.startBackend n BackendKind.ipHelper.name) e with ⟨error | _, e'⟩
  · rw [hexec] at hstart
    exact hstart.managed
  · rw [hexec] at hstart
    exact hstart.elim

/-- What one call does to the lifecycle of IP Helper. -/
theorem step_iphelper (h : Settled e) (call : Call)
    (hmanaged : Managed e.backendManager .ipHelper l) :
    Managed (step e call).backendManager .ipHelper
      (if call.Starts .ipHelper then .failed else l) := by
  rcases hmanaged with ⟨b, hb, hrest⟩
  cases call with
  | startBackend n kind =>
    by_cases hkind : kind = .ipHelper
    · subst hkind
      exact startBackend_iphelper h n
    · rw [if_neg (show ¬ Call.Starts .ipHelper (.startBackend n kind) from hkind)]
      exact ⟨b, ((startBackend_keeps_lookup n hkind).run ⟨h, hb⟩).2, hrest⟩
  | stopBackend n kind =>
    rw [if_neg (show ¬ Call.Starts .ipHelper (.stopBackend n kind) from id)]
    by_cases hkind : kind = .ipHelper
    · subst hkind
      rcases stopBackend_rests (n := n) h.toServing (Settled.rests_iphelper h) with ⟨error, hexec⟩
      rw [step, hexec]
      exact ⟨b, hb, hrest⟩
    · exact ⟨b, ((stopBackend_keeps_lookup n hkind).run ⟨h, hb⟩).2, hrest⟩
  | restartBackend nstop nstart kind =>
    by_cases hkind : kind = .ipHelper
    · subst hkind
      rw [step, restartBackend_rests h.toServing (Settled.rests_iphelper h)]
      exact startBackend_iphelper h nstart
    · rw [if_neg (show ¬ Call.Starts .ipHelper (.restartBackend nstop nstart kind) from hkind)]
      have hkeeps := restartBackend_keeps (stopBackend_keeps_lookup (b := b) nstop hkind)
        (startBackend_keeps_lookup nstart hkind)
      exact ⟨b, (hkeeps.run ⟨h, hb⟩).2, hrest⟩

/-- IP Helper rests at `Stopped` until the first call that starts it, and at `Failed` from then on. -/
theorem run_iphelper (h : Settled e) (hmanaged : Managed e.backendManager .ipHelper .stopped)
    (calls : List Call) :
    Settled (run step e calls) ∧ Managed (run step e calls).backendManager .ipHelper
      (if ∃ call ∈ calls, call.Starts .ipHelper then .failed else .stopped) := by
  induction calls using List.reverseRecOn with
  | nil =>
    rw [if_neg fun hex => List.not_mem_nil hex.choose_spec.1]
    exact ⟨h, hmanaged⟩
  | append_singleton calls call ih =>
    rw [run_append]
    refine ⟨settled_step _ call ih.1, ?_⟩
    have hstep := step_iphelper ih.1 call ih.2
    by_cases hlast : call.Starts .ipHelper
    · rw [if_pos hlast] at hstep
      rw [if_pos ⟨call, List.mem_append_right _ List.mem_cons_self, hlast⟩]
      exact hstep
    · rw [if_neg hlast] at hstep
      simp only [List.mem_append, List.mem_singleton, or_and_right, exists_or, exists_eq_left,
        hlast, or_false]
      exact hstep

/-- In every state of a session: the manager and the instance of a backend agree, but for IP Helper
before its first start; no call leaves a transition behind; and a start succeeds when its native
open would, but for IP Helper. -/
theorem instances_agree_iff (c : EngineConfig) (n₀ : NativeOutcomes) (sync : EngineResult Unit)
    (e₀ : EngineRuntime) (h : initializeRuntime c n₀ sync = .ok e₀) (calls : List Call)
    (kind : BackendKind) :
    (Agrees (run step e₀ calls) kind ↔
        kind ≠ .ipHelper ∨ ∃ call ∈ calls, call.Starts .ipHelper) ∧
      ¬ InTransition (run step e₀ calls) kind ∧
      ∀ n, StartsWhenOpening n (run step e₀ calls) kind ↔
        kind ≠ .ipHelper ∨ n.starts kind = false := by
  rw [eq_initialEngine h]
  have hstopped : Managed (initialEngine c).backendManager .ipHelper .stopped :=
    ⟨_, builtinManager_lookup .ipHelper, rfl, rfl, nofun⟩
  rcases run_iphelper (settled_initial c) hstopped calls with ⟨hsettled, hiphelper⟩
  refine ⟨?_, not_inTransition hsettled kind, fun n => startsWhenOpening_iff hsettled⟩
  by_cases hkind : kind = .ipHelper
  · subst hkind
    rw [agrees_iphelper_iff hsettled hiphelper]
    by_cases hstarted : ∃ call ∈ calls, call.Starts .ipHelper
    · rw [if_pos hstarted]
      exact iff_of_true rfl (.inr hstarted)
    · rw [if_neg hstarted]
      exact iff_of_false (by decide) fun hor => hor.elim (fun hne => hne rfl) hstarted
  · exact iff_of_true (agrees_of_ne hsettled hkind) (.inl hkind)

/-- With every native call succeeding: Npcap keeps in step through a start, and so does IP Helper
once it has failed to start. -/
theorem instances_agree_started :
    ∃ e₀, initializeRuntime smallConfig allSucceed (.ok ()) = .ok e₀ ∧
      Agrees (run step e₀ [.startBackend allSucceed .npcap]) .npcap ∧
      Agrees (run step e₀ [.startBackend allSucceed .ipHelper]) .ipHelper := by
  have h := initializeRuntime_ok (c := smallConfig) (n := allSucceed) rfl rfl
  refine ⟨_, h, ?_, ?_⟩
  · exact (instances_agree_iff _ _ _ _ h _ _).1.mpr (.inl (by decide))
  · exact (instances_agree_iff _ _ _ _ h _ _).1.mpr (.inr ⟨_, List.mem_cons_self, rfl⟩)

/-- Right after initialization the manager calls IP Helper stopped while its instance runs, and a
start of it fails although its native call succeeds. -/
theorem iphelper_runs_stopped :
    ∃ e₀, initializeRuntime smallConfig allSucceed (.ok ()) = .ok e₀ ∧
      e₀.backendManager.lifecycleOf "iphelper" = some .stopped ∧ NativeUp e₀ .ipHelper ∧
      ¬ Agrees e₀ .ipHelper ∧ ¬ StartsWhenOpening allSucceed e₀ .ipHelper := by
  have h := initializeRuntime_ok (c := smallConfig) (n := allSucceed) rfl rfl
  have hsettled := settled_initial smallConfig
  have hstopped : Managed (initialEngine smallConfig).backendManager .ipHelper .stopped :=
    ⟨_, builtinManager_lookup .ipHelper, rfl, rfl, nofun⟩
  refine ⟨_, h, lifecycleOf_of_managed hstopped, (Settled.rests_iphelper hsettled).slot, ?_, ?_⟩
  · rw [agrees_iphelper_iff hsettled hstopped]
    decide
  · rw [startsWhenOpening_iff hsettled]
    decide

end Runs

end Instances

end EngineRuntime

end NetworkEngine
