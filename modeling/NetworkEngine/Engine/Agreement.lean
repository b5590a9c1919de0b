import NetworkEngine.Engine.Packets

/-!
# Agreement — manager lifecycles and native instances

What one start or stop of a built-in backend does to the pair of the manager's lifecycle and the
native instance in its slot.  Each native backend is a machine with instances that are up or down;
between two calls the manager calls a backend running when its instance is up.  IP Helper is the
exception: its instance is up from initialization on, and the manager never runs it.
-/

namespace NetworkEngine

open Rust

/-! ## 1. Machines in slots -/

/-- Instances are down when new; `start` takes one up and `stop` takes it down, each when its
native calls succeed.  An instance that fails to start or to stop is down. -/
structure Machine {β : Type} (up down : β → Prop) (new : β) (start stop : Op β EngineError Unit)
    (startOk stopOk : Prop) : Prop where
  new : down new
  start : Triple down start (fun _ b => up b ∧ startOk) (fun _ b => down b ∧ ¬ startOk)
  stop : Triple up stop (fun _ b => down b ∧ stopOk) (fun _ b => down b ∧ ¬ stopOk)

namespace EngineRuntime

section Slots

variable {β : Type} {up down : β → Prop} {new : β} {start stop : Op β EngineError Unit}
  {startOk stopOk : Prop}

/-- The slot holds an instance that is up. -/
def SlotUp (up : β → Prop) (slot : Option β) : Prop := ∃ b, slot = some b ∧ up b

/-- The slot is empty, or holds an instance that is down. -/
def SlotDown (down : β → Prop) (slot : Option β) : Prop := ∀ b, slot = some b → down b

theorem startSlot_triple (h : Machine up down new start stop startOk stopOk) :
    Triple (SlotDown down) (startSlot new start) (fun _ s => SlotUp up s ∧ startOk)
      (fun _ s => SlotDown down s ∧ ¬ startOk) := by
  intro slot hslot
  have hdown : down (slot.getD new) := by
    cases slot with
    | none => exact h.new
    | some b => exact hslot b rfl
  have hrun := h.start _ hdown
  -- The instance goes back to its slot whether or not it started.
  rw [show exec (startSlot new start) slot =
    ((exec start (slot.getD new)).1, some (exec start (slot.getD new)).2) from rfl]
  rcases hexec : exec start (slot.getD new) with ⟨_ | _, b⟩
  · rw [hexec] at hrun
    refine ⟨fun b' hb' => ?_, hrun.2⟩
    rw [← Option.some.inj hb']
    exact hrun.1
  · rw [hexec] at hrun
    exact ⟨⟨b, rfl, hrun.1⟩, hrun.2⟩

theorem stopSlot_triple (missing : String) (h : Machine up down new start stop startOk stopOk) :
    Triple (SlotUp up) (stopSlot missing stop) (fun _ s => SlotDown down s ∧ stopOk)
      (fun _ s => SlotDown down s ∧ ¬ stopOk) := by
  intro slot hslot
  rcases hslot with ⟨b, rfl, hup⟩
  have hrun := h.stop b hup
  rw [show exec (stopSlot missing stop) (some b) = ((exec stop b).1, some (exec stop b).2) from rfl]
  rcases hexec : exec stop b with ⟨_ | _, b'⟩
  all_goals
    rw [hexec] at hrun
    refine ⟨fun b'' hb'' => ?_, hrun.2⟩
    rw [← Option.some.inj hb'']
    exact hrun.1

end Slots

/-! ## 2. The native backends as machines -/

end EngineRuntime

/-- The native calls of a start of `kind` succeed. -/
def NativeOutcomes.starts (n : NativeOutcomes) : BackendKind → Bool
  | .npcap => true
  | .winDivert => n.windivertOpen.isSome
  | .wfp => n.wfpOpen.isOk && n.wfpAddSublayer.isOk
  | .ipHelper => n.iphelperRefresh
  | .etw => n.etwRegister.isSome

/-- The native calls of a stop of `kind` succeed. -/
def NativeOutcomes.stops (n : NativeOutcomes) : BackendKind → Bool
  | .npcap | .ipHelper | .etw => true
  | .winDivert => n.windivertClose
  | .wfp => n.wfpRemoveSublayer.isOk && n.wfpClose.isOk

def NpcapBackend.Up (b : NpcapBackend) : Prop := b.state = .running
def NpcapBackend.Down (b : NpcapBackend) : Prop := b.state = .stopped

def WinDivertBackend.Up (b : WinDivertBackend) : Prop := ∃ handle, b = ⟨.open, some handle⟩
def WinDivertBackend.Down (b : WinDivertBackend) : Prop := b.state = .closed ∨ b.state = .failed

def WfpEngine.Up (b : WfpEngine) : Prop := ∃ handle, b = ⟨.open, some handle, true⟩
def WfpEngine.Down (b : WfpEngine) : Prop := b.state = .closed ∨ b.state = .failed

def IpHelperBackend.Up (b : IpHelperBackend) : Prop := b.running = true
def IpHelperBackend.Down (b : IpHelperBackend) : Prop := b.running = false

def EtwBackend.Up (b : EtwBackend) : Prop := b.running = true ∧ b.providerRunning = true
def EtwBackend.Down (b : EtwBackend) : Prop := b.running = false ∧ b.providerRunning = false

namespace EngineRuntime

variable (n : NativeOutcomes)

theorem npcap_machine :
    Machine NpcapBackend.Up NpcapBackend.Down .new
      (mapErr (startError "Npcap" ·.debug) NpcapBackend.start)
      (mapErr (stopError "Npcap" ·.debug) NpcapBackend.stop)
      (n.starts .npcap = true) (n.stops .npcap = true) where
  new := rfl
  start b hb := by
    rcases b with ⟨state⟩
    cases (show state = .stopped from hb)
    exact ⟨rfl, rfl⟩
  stop b hb := by
    rcases b with ⟨state⟩
    cases (show state = .running from hb)
    exact ⟨rfl, rfl⟩

theorem windivert_machine :
    Machine WinDivertBackend.Up WinDivertBackend.Down .new
      (mapErr (startError "WinDivert" ·.debug) (WinDivertBackend.start n.windivertOpen))
      (mapErr (stopError "WinDivert" ·.debug) (WinDivertBackend.stop n.windivertClose))
      (n.starts .winDivert = true) (n.stops .winDivert = true) where
  new := .inl rfl
  start b hb := by
    have hopen : b.state.canOpen = true := by
      rcases hb with h | h <;> rw [h] <;> rfl
    rw [exec_mapErr, NativeOutcomes.starts]
    unfold WinDivertBackend.start
    rw [exec_bind_ok (exec_getState b), if_pos hopen]
    cases n.windivertOpen with
    | none => exact ⟨.inr rfl, nofun⟩
    | some handle => exact ⟨⟨handle, rfl⟩, rfl⟩
  stop b hb := by
    rcases hb with ⟨handle, rfl⟩
    rw [NativeOutcomes.stops]
    cases n.windivertClose with
    | false => exact ⟨.inr rfl, nofun⟩
    | true => exact ⟨.inl rfl, rfl⟩

theorem wfp_machine :
    Machine WfpEngine.Up WfpEngine.Down .new (WfpEngine.openEngine n.wfpOpen n.wfpAddSublayer)
      (WfpEngine.close n.wfpRemoveSublayer n.wfpClose)
      (n.starts .wfp = true) (n.stops .wfp = true) where
  new := .inl rfl
  start b hb := by
    have hopen : b.state.canOpen = true := by
      rcases hb with h | h <;> rw [h] <;> rfl
    unfold WfpEngine.openEngine
    rw [exec_bind_ok (exec_getState b), if_pos hopen, NativeOutcomes.starts]
    cases n.wfpOpen with
    | error err => exact ⟨.inr rfl, nofun⟩
    | ok handle =>
      cases n.wfpAddSublayer with
      | error err => exact ⟨.inr rfl, nofun⟩
      | ok _ => exact ⟨⟨handle, rfl⟩, rfl⟩
  stop b hb := by
    rcases hb with ⟨handle, rfl⟩
    rw [WfpEngine.close, exec_bind_ok (exec_getState _), NativeOutcomes.stops]
    cases n.wfpRemoveSublayer with
    | error err => exact ⟨.inr rfl, nofun⟩
    | ok _ =>
      cases n.wfpClose with
      | error err => exact ⟨.inr rfl, nofun⟩
      | ok _ => exact ⟨.inl rfl, rfl⟩

theorem iphelper_machine :
    Machine IpHelperBackend.Up IpHelperBackend.Down .new
      (mapErr (startError "IP Helper" ·.debug) (IpHelperBackend.start n.iphelperRefresh))
      (mapErr (stopError "IP Helper" ·.debug) IpHelperBackend.stop)
      (n.starts .ipHelper = true) (n.stops .ipHelper = true) where
  new := rfl
  start b hb := by
    rcases b with ⟨running⟩
    cases (show running = false from hb)
    rw [NativeOutcomes.starts]
    cases n.iphelperRefresh with
    | false => exact ⟨rfl, nofun⟩
    | true => exact ⟨rfl, rfl⟩
  stop b hb := by
    rcases b with ⟨running⟩
    cases (show running = true from hb)
    exact ⟨rfl, rfl⟩

theorem etw_machine :
    Machine EtwBackend.Up EtwBackend.Down .new
      (mapErr (startError "ETW" ·.debug) (EtwBackend.start n.etwRegister))
      (mapErr (stopError "ETW" ·.debug) EtwBackend.stop)
      (n.starts .etw = true) (n.stops .etw = true) where
  new := ⟨rfl, rfl⟩
  start b hb := by
    rcases b with ⟨running, providerRunning, handle⟩
    cases (show running = false from hb.1)
    cases (show providerRunning = false from hb.2)
    rw [NativeOutcomes.starts]
    cases n.etwRegister with
    -- A provider that could not be registered leaves both flags as a stop does.
    | none => exact ⟨⟨rfl, rfl⟩, nofun⟩
    | some handle => exact ⟨⟨rfl, rfl⟩, rfl⟩
  stop b hb := by
    rcases b with ⟨running, providerRunning, handle⟩
    cases (show running = true from hb.1)
    cases (show providerRunning = true from hb.2)
    exact ⟨⟨rfl, rfl⟩, rfl⟩

/-! ## 3. Native starts and stops -/

/-- The native instance of `kind` is up. -/
def NativeUp (e : EngineRuntime) : BackendKind → Prop
  | .npcap => SlotUp NpcapBackend.Up e.npcapBackend
  | .winDivert => SlotUp WinDivertBackend.Up e.windivertBackend
  | .wfp => SlotUp WfpEngine.Up e.wfpBackend
  | .ipHelper => SlotUp IpHelperBackend.Up e.iphelperBackend
  | .etw => SlotUp EtwBackend.Up e.etwBackend

/-- There is no native instance of `kind`, or it is down. -/
def NativeDown (e : EngineRuntime) : BackendKind → Prop
  | .npcap => SlotDown NpcapBackend.Down e.npcapBackend
  | .winDivert => SlotDown WinDivertBackend.Down e.windivertBackend
  | .wfp => SlotDown WfpEngine.Down e.wfpBackend
  | .ipHelper => SlotDown IpHelperBackend.Down e.iphelperBackend
  | .etw => SlotDown EtwBackend.Down e.etwBackend

variable {n} {kind : BackendKind}

/-- An instance is not both up and down. -/
theorem NativeDown.not_nativeUp {e : EngineRuntime} (h : NativeDown e kind) : ¬ NativeUp e kind := by
  intro hup
  cases kind with
  | npcap | ipHelper =>
    rcases hup with ⟨b, hb, hrunning⟩
    cases (h b hb).symm.trans hrunning
  | winDivert | wfp =>
    rcases hup with ⟨b, hb, handle, rfl⟩
    rcases h _ hb with hclosed | hfailed
    · cases hclosed
    · cases hfailed
  | etw =>
    rcases hup with ⟨b, hb, hrunning⟩
    cases (h b hb).1.symm.trans hrunning.1

theorem startNative_triple :
    Triple (NativeDown · kind) (startNative n kind) (fun _ e => NativeUp e kind ∧ n.starts kind = true)
      (fun _ e => NativeDown e kind ∧ ¬ n.starts kind = true) := by
  cases kind with
  | npcap =>
    rw [startNative]
    exact (startSlot_triple (npcap_machine n)).zoom fun _ _ => rfl
  | winDivert =>
    rw [startNative]
    exact (startSlot_triple (windivert_machine n)).zoom fun _ _ => rfl
  | wfp =>
    rw [startNative]
    exact (startSlot_triple (wfp_machine n)).zoom fun _ _ => rfl
  | ipHelper =>
    rw [startNative]
    exact (startSlot_triple (iphelper_machine n)).zoom fun _ _ => rfl
  | etw =>
    rw [startNative]
    exact (startSlot_triple (etw_machine n)).zoom fun _ _ => rfl

theorem stopNative_triple :
    Triple (NativeUp · kind) (stopNative n kind) (fun _ e => NativeDown e kind ∧ n.stops kind = true)
      (fun _ e => NativeDown e kind ∧ ¬ n.stops kind = true) := by
  cases kind with
  | npcap =>
    rw [stopNative]
    exact (stopSlot_triple _ (npcap_machine n)).zoom fun _ _ => rfl
  | winDivert =>
    rw [stopNative]
    exact (stopSlot_triple _ (windivert_machine n)).zoom fun _ _ => rfl
  | wfp =>
    rw [stopNative]
    exact (stopSlot_triple _ (wfp_machine n)).zoom fun _ _ => rfl
  | ipHelper =>
    rw [stopNative]
    exact (stopSlot_triple _ (iphelper_machine n)).zoom fun _ _ => rfl
  | etw =>
    rw [stopNative]
    exact (stopSlot_triple _ (etw_machine n)).zoom fun _ _ => rfl

/-! ## 4. In the middle of a start or a stop -/

/-- The backend of `kind` is registered under its own descriptor, at `lifecycle`. -/
def Managed (m : BackendManager) (kind : BackendKind) (lifecycle : BackendLifecycle) : Prop :=
  ∃ b, m.backends.lookup kind.name = some b ∧ b.runtime.descriptor = kind.descriptor ∧
    b.runtime.lifecycle = lifecycle ∧ (lifecycle = .running → b.health.health = .healthy)

/-- The native instance of `kind` is up, or it is down. -/
def Native (e : EngineRuntime) (kind : BackendKind) : Bool → Prop
  | true => NativeUp e kind
  | false => NativeDown e kind

/-- `e'` is `e` up to the backend of `kind`, the routes and the counters. -/
structure SameBut (kind : BackendKind) (e e' : EngineRuntime) : Prop where
  state : e'.state = e.state
  initialized : e'.initialized = e.initialized
  gateway : e'.gateway = e.gateway
  action : e'.windivertAction = e.windivertAction
  lookup : ∀ name ≠ kind.name,
    e'.backendManager.backends.lookup name = e.backendManager.backends.lookup name
  native : ∀ other ≠ kind, ∀ up, Native e other up → Native e' other up

theorem SameBut.refl (kind : BackendKind) (e : EngineRuntime) : SameBut kind e e :=
  ⟨rfl, rfl, rfl, rfl, fun _ _ => rfl, fun _ _ _ h => h⟩

theorem SameBut.trans {e₁ e₂ e₃ : EngineRuntime} (h : SameBut kind e₁ e₂) (h' : SameBut kind e₂ e₃) :
    SameBut kind e₁ e₃ where
  state := h'.state.trans h.state
  initialized := h'.initialized.trans h.initialized
  gateway := h'.gateway.trans h.gateway
  action := h'.action.trans h.action
  lookup name hname := (h'.lookup name hname).trans (h.lookup name hname)
  native other hother up hup := h'.native other hother up (h.native other hother up hup)

/-- The engine `e` with the backend of `kind` at `lifecycle`, its instance up or down, and `route`
applied to the active routes. -/
structure Amid (e : EngineRuntime) (kind : BackendKind) (lifecycle : BackendLifecycle) (up : Bool)
    (route : Option String → Option String) (e' : EngineRuntime) : Prop
    extends SameBut kind e e' where
  managed : Managed e'.backendManager kind lifecycle
  slot : Native e' kind up
  capture : e'.activeCaptureBackend = route e.activeCaptureBackend
  reinjection : e'.activeReinjectionBackend = route e.activeReinjectionBackend

/-- The native instances do not depend on the manager or the counters. -/
theorem native_congr {e e' : EngineRuntime} (hnpcap : e'.npcapBackend = e.npcapBackend)
    (hwindivert : e'.windivertBackend = e.windivertBackend) (hwfp : e'.wfpBackend = e.wfpBackend)
    (hiphelper : e'.iphelperBackend = e.iphelperBackend) (hetw : e'.etwBackend = e.etwBackend)
    (up : Bool) : Native e' kind up = Native e kind up := by
  -- Ten cases, each about one slot.
  cases up <;> cases kind <;> simp only [Native, NativeUp, NativeDown, *]

section Steps

variable {e : EngineRuntime} {l l' : BackendLifecycle} {up : Bool}
  {route : Option String → Option String}
  {epost : EngineError → EngineRuntime → Prop}

/-- A step of the manager that moves the backend of `kind`. -/
theorem amid_onBackend {α : Type} {f : ManagedBackend → EngineResult (α × ManagedBackend)}
    (hf : ∀ b, b.runtime.lifecycle = l → (l = .running → b.health.health = .healthy) →
      ∃ a b', f b = .ok (a, b') ∧ b'.runtime.descriptor = b.runtime.descriptor ∧
        b'.runtime.lifecycle = l' ∧ (l' = .running → b'.health.health = .healthy)) :
    Triple (Amid e kind l up route) (onManager (BackendManager.onBackend kind.name f))
      (fun _ => Amid e kind l' up route) epost := by
  intro e' h
  rcases h.managed with ⟨b, hb, hdescriptor, hl, hhealth⟩
  rcases hf b hl hhealth with ⟨a, b', hstep, hkeep, hl', hhealth'⟩
  rw [onManager, exec_zoom, BackendManager.onBackend_ok hb hstep]
  -- One entry of the manager changes; the native slots are other fields of the engine.
  have hframe : SameBut kind e' { e' with
      backendManager := ⟨e'.backendManager.backends.insert kind.name b'⟩ } := by
    refine ⟨rfl, rfl, rfl, rfl, fun name hname => ?_, fun other _ up' hup => ?_⟩
    · exact (Table.lookup_insert ..).trans (if_neg hname)
    · rw [native_congr rfl rfl rfl rfl rfl]
      exact hup
  refine ⟨h.toSameBut.trans hframe, ⟨b', ?_, hkeep.trans hdescriptor, hl', hhealth'⟩, ?_, h.capture,
    h.reinjection⟩
  · exact (Table.lookup_insert ..).trans (if_pos rfl)
  · rw [native_congr rfl rfl rfl rfl rfl]
    exact h.slot

theorem amid_setLifecycle (hmatrix : l.canTransitionTo l' = true) :
    Triple (Amid e kind l up route) (onManager (BackendManager.setLifecycle kind.name l'))
      (fun _ => Amid e kind l' up route) epost := by
  apply amid_onBackend
  intro b hl _
  refine ⟨(), ⟨{ b.runtime with lifecycle := l' }, BackendManager.forcedHealth l' b.health⟩, ?_, rfl,
    rfl, ?_⟩
  · rw [BackendManager.transitionTo, BackendRuntimeState.transition, hl, if_pos hmatrix]
    rfl
  -- A change to `Running` forces the health, so the last clause of `Managed` is kept.
  · rintro rfl
    rfl

theorem amid_managerStart (hstart : l.canStart = true) :
    Triple (Amid e kind l up route) (onManager (BackendManager.start kind.name))
      (fun _ => Amid e kind .starting up route) epost := by
  apply amid_onBackend
  intro b hl _
  have hmatrix : b.runtime.lifecycle.canTransitionTo .starting = true := by
    rw [hl]
    revert hstart
    cases l <;> decide
  refine ⟨(), { b with runtime := { b.runtime with lifecycle := .starting } }, ?_, rfl, rfl, nofun⟩
  rw [hl, if_pos hstart, BackendRuntimeState.transition, if_pos hmatrix]
  rfl

theorem amid_managerStop :
    Triple (Amid e kind .running up route) (onManager (BackendManager.stop kind.name))
      (fun _ => Amid e kind .stopping up route) epost := by
  apply amid_onBackend
  intro b hl _
  refine ⟨(), { b with runtime := { b.runtime with lifecycle := .stopping } }, ?_, rfl, rfl, nofun⟩
  rw [hl, BackendRuntimeState.transition, hl]
  rfl

theorem amid_recordSuccess :
    Triple (Amid e kind .running up route) (onManager (BackendManager.recordSuccess kind.name))
      (fun _ => Amid e kind .running up route) epost := by
  apply amid_onBackend
  intro b hl hhealth
  -- One more success does not take a healthy backend anywhere.
  have hrecorded : b.health.recordSuccess.health = .healthy := by
    rw [HealthMonitor.recordSuccess, hhealth rfl]
  refine ⟨_, _, rfl, ?_, ?_, fun _ => hrecorded⟩
  · dsimp only
    split <;> rfl
  · dsimp only
    rw [hl]
    simp only [reduceCtorEq, and_false, if_false, hl]

/-- The operation changes nothing but the native slot of `kind`. -/
def OnlySlot (kind : BackendKind) (x : EngineOp Unit) : Prop :=
  ∀ e, SameBut kind e (exec x e).2 ∧ (exec x e).2.backendManager = e.backendManager ∧
    (exec x e).2.activeCaptureBackend = e.activeCaptureBackend ∧
    (exec x e).2.activeReinjectionBackend = e.activeReinjectionBackend

theorem native_onlySlot (n : NativeOutcomes) (kind : BackendKind) :
    OnlySlot kind (startNative n kind) ∧ OnlySlot kind (stopNative n kind) := by
  constructor
  all_goals
    intro e
    cases kind
  all_goals
    -- The call zooms into one slot, so each other slot reads back as it was.
    refine ⟨⟨rfl, rfl, rfl, rfl, fun _ _ => rfl, fun other hother up hup => ?_⟩, rfl, rfl, rfl⟩
    cases other
    all_goals first
      | exact absurd rfl hother
      | cases up <;> exact hup

/-- A native call on the slot of `kind`. -/
theorem amid_native {x : EngineOp Unit} {up₁ up₂ : Bool} {p q : Prop}
    (hx : Triple (Native · kind up) x (fun _ e => Native e kind up₁ ∧ p)
      (fun _ e => Native e kind up₂ ∧ q))
    (hslot : OnlySlot kind x) :
    Triple (Amid e kind l up route) x (fun _ e' => Amid e kind l up₁ route e' ∧ p)
      (fun _ e' => Amid e kind l up₂ route e' ∧ q) := by
  intro e' h
  have hrun := hx e' h.slot
  rcases hslot e' with ⟨hsame, hmanager, hcapture, hreinjection⟩
  have hamid {up'} (hup : Native (exec x e').2 kind up') : Amid e kind l up' route (exec x e').2 :=
    ⟨h.toSameBut.trans hsame, hmanager ▸ h.managed, hup, hcapture.trans h.capture,
      hreinjection.trans h.reinjection⟩
  rcases hexec : exec x e' with ⟨_ | _, e''⟩
  all_goals
    rw [hexec] at hrun hamid
    exact ⟨hamid hrun.1, hrun.2⟩

theorem onKind_name (f : BackendKind → EngineOp Unit) (kind : BackendKind) :
    onKind f kind.name = f kind := by
  rw [onKind, BackendKind.fromName_eq_some.mpr rfl]

theorem amid_startNative :
    Triple (Amid e kind l false route) (onKind (startNative n) kind.name)
      (fun _ e' => Amid e kind l true route e' ∧ n.starts kind = true)
      (fun _ e' => Amid e kind l false route e' ∧ ¬ n.starts kind = true) := by
  rw [onKind_name]
  exact amid_native startNative_triple (native_onlySlot n kind).1

/-- An IP Helper instance that is up refuses a second start. -/
theorem amid_startNative_iphelper :
    Triple (Amid e .ipHelper l true route) (onKind (startNative n) BackendKind.ipHelper.name)
      (fun _ _ => False) (fun _ => Amid e .ipHelper l true route) := by
  have hrefused : Triple (Native · .ipHelper true) (startNative n .ipHelper)
      (fun _ e => Native e .ipHelper true ∧ False) (fun _ e => Native e .ipHelper true ∧ True) := by
    -- `start` answers `AlreadyRunning` and leaves the instance as it is.
    intro e' h
    rcases h with ⟨b, hslot, hup⟩
    rcases b with ⟨running⟩
    cases (show running = true from hup)
    simp only [startNative, onIphelper, exec_zoom, hslot]
    exact ⟨⟨⟨true⟩, rfl, rfl⟩, trivial⟩
  rw [onKind_name]
  have hamid : Triple (Amid e .ipHelper l true route) (startNative n .ipHelper)
      (fun _ e' => Amid e .ipHelper l true route e' ∧ False)
      (fun _ e' => Amid e .ipHelper l true route e' ∧ True) :=
    amid_native hrefused (native_onlySlot n .ipHelper).1
  exact (hamid.post_mono fun _ _ h => h.2).error_mono fun _ _ h => h.1

theorem amid_stopNative :
    Triple (Amid e kind l true route) (onKind (stopNative n) kind.name)
      (fun _ e' => Amid e kind l false route e' ∧ n.stops kind = true)
      (fun _ e' => Amid e kind l false route e' ∧ ¬ n.stops kind = true) := by
  rw [onKind_name]
  exact amid_native stopNative_triple (native_onlySlot n kind).2

/-- Both functions end a native failure at `Failed`. -/
theorem amid_backendFailed (hmatrix : l.canTransitionTo .failed = true) (error : EngineError) :
    Triple (Amid e kind l up route) (backendFailed kind.name error) (fun _ _ => False)
      (fun _ => Amid e kind .failed up route) := by
  -- The source discards the result of this transition; here it cannot fail.
  have hfailed : Triple (Amid e kind l up route)
      (attempt (onManager (BackendManager.setLifecycle kind.name .failed)) :
        EngineOp (EngineResult Unit))
      (fun _ => Amid e kind .failed up route) (fun _ => Amid e kind .failed up route) := by
    have hset : Triple (Amid e kind l up route)
        (onManager (BackendManager.setLifecycle kind.name .failed))
        (fun _ => Amid e kind .failed up route) (fun _ => Amid e kind .failed up route) :=
      amid_setLifecycle hmatrix
    apply hset.attempt.post_mono
    intro r e' hr
    cases r <;> exact hr
  have hcount : Triple (Amid e kind .failed up route) (onStatistics (·.recordBackendFailure))
      (fun _ => Amid e kind .failed up route)
      (fun (_ : EngineError) => Amid e kind .failed up route) := by
    apply Triple.modifyState
    intro e' h
    exact ⟨⟨h.state, h.initialized, h.gateway, h.action, h.lookup, h.native⟩, h.managed, h.slot,
      h.capture, h.reinjection⟩
  exact hfailed.bind fun _ => hcount.bind fun _ => Triple.throw fun _ h => h

/-- The tail of `start_backend` when the native call succeeded. -/
theorem amid_commit :
    Triple (Amid e kind .starting up route)
      (do onManager (BackendManager.markRunning kind.name)
          let _ : EngineResult BackendHealth ←
            attempt (onManager (BackendManager.recordSuccess kind.name)))
      (fun _ => Amid e kind .running up route) (fun _ _ => False) := by
  have hrecord : Triple (Amid e kind .running up route)
      (onManager (BackendManager.recordSuccess kind.name))
      (fun _ => Amid e kind .running up route) (fun _ => Amid e kind .running up route) :=
    amid_recordSuccess
  -- The transition is in the matrix, and the recorded success is attempted only.
  refine Triple.bind (amid_setLifecycle rfl) fun _ => hrecord.attempt.bind fun r => ?_
  apply Triple.pure
  intro e' hr
  cases r <;> exact hr

/-- What a clean stop of `name` does to an active route. -/
def clearRoute (name : String) (active : Option String) : Option String :=
  if active = some name then none else active

def clearRoutes (name : String) (e : EngineRuntime) : EngineRuntime :=
  { e with
    activeCaptureBackend := clearRoute name e.activeCaptureBackend
    activeReinjectionBackend := clearRoute name e.activeReinjectionBackend }

/-- The tail of `stop_backend` when the native call succeeded. -/
theorem amid_release :
    Triple (Amid e kind .stopping up id)
      (do onManager (BackendManager.markStopped kind.name)
          let e ← getState
          if e.activeCaptureBackend = some kind.name then setActiveCaptureBackend none
          if e.activeReinjectionBackend = some kind.name then setActiveReinjectionBackend none)
      (fun _ => Amid e kind .stopped up (clearRoute kind.name)) (fun _ _ => False) := by
  refine Triple.bind (amid_setLifecycle rfl) fun _ => Triple.getState_bind fun s hs => ?_
  have hcleared : Amid e kind .stopped up (clearRoute kind.name) (s.clearRoutes kind.name) :=
    ⟨⟨hs.state, hs.initialized, hs.gateway, hs.action, hs.lookup, hs.native⟩, hs.managed, hs.slot,
      congrArg (clearRoute kind.name) hs.capture, congrArg (clearRoute kind.name) hs.reinjection⟩
  -- Both tests read the state of before: the two routes are cleared independently.
  refine Triple.of_exec (?_ : _ = (.ok (), s.clearRoutes kind.name)) hcleared
  unfold clearRoutes clearRoute
  split_ifs <;> rfl

end Steps

/-! ## 5. The two functions -/

/-- The engine serves calls. -/
structure Serving (e : EngineRuntime) : Prop where
  state : e.state = ⟨true, false, .running⟩
  initialized : e.initialized = true

theorem Serving.requireRunning {e : EngineRuntime} (h : Serving e) :
    exec requireRunning e = (.ok (), e) := by
  rw [EngineRuntime.requireRunning, exec_bind_ok (exec_getState e), isInitialized, h.initialized,
    h.state]
  rfl

/-- The manager runs the backend of `kind`, and its instance is up. -/
structure Runs (e : EngineRuntime) (kind : BackendKind) : Prop where
  managed : Managed e.backendManager kind .running
  slot : Native e kind true

/-- The manager does not run the backend of `kind`, whose instance is down, or up for IP Helper. -/
structure Rests (e : EngineRuntime) (kind : BackendKind) : Prop where
  managed : Managed e.backendManager kind .stopped ∨ Managed e.backendManager kind .failed
  slot : Native e kind (decide (kind = .ipHelper))

section Functions

variable {e : EngineRuntime}

theorem Amid.refl {l : BackendLifecycle} {up : Bool} (hmanaged : Managed e.backendManager kind l)
    (hslot : Native e kind up) : Amid e kind l up id e :=
  ⟨.refl kind e, hmanaged, hslot, rfl, rfl⟩

theorem Rests.amid (h : Rests e kind) :
    ∃ l : BackendLifecycle, l.canStart = true ∧ l.canStop = false ∧
      Managed e.backendManager kind l ∧ Amid e kind l (decide (kind = .ipHelper)) id e := by
  rcases h.managed with hmanaged | hmanaged
  · exact ⟨_, rfl, rfl, hmanaged, .refl hmanaged h.slot⟩
  · exact ⟨_, rfl, rfl, hmanaged, .refl hmanaged h.slot⟩

/-- A start that gets past the manager: it ends running when its native calls succeed, and failed
otherwise. -/
theorem startBackend_rests (hserving : Serving e) (h : Rests e kind) (hkind : kind ≠ .ipHelper) :
    Triple (· = e) (startBackend n kind.name)
      (fun _ e' => Amid e kind .running true id e' ∧ n.starts kind = true)
      (fun _ e' => Amid e kind .failed false id e' ∧ ¬ n.starts kind = true) := by
  rcases h.amid with ⟨l, hstart, -, -, hamid⟩
  rw [decide_eq_false hkind] at hamid
  intro e₀ h₀
  rw [h₀, startBackend, exec_bind_ok hserving.requireRunning]
  refine Triple.bind (amid_managerStart hstart) (fun _ => ?_) _ hamid
  refine Triple.bind amid_startNative.attempt fun r => ?_
  -- The native result decides which tail runs; the frame carries it into the postcondition.
  cases r with
  | error error =>
    exact (amid_backendFailed rfl error).frame.post_mono fun _ _ h => h.1.elim
  | ok _ =>
    exact amid_commit.frame.error_mono fun _ _ h => h.1.elim

/-- The IP Helper instance is up, so that a start ends failed. -/
theorem startBackend_rests_iphelper (hserving : Serving e) (h : Rests e .ipHelper) :
    Triple (· = e) (startBackend n BackendKind.ipHelper.name) (fun _ _ => False)
      (fun _ => Amid e .ipHelper .failed true id) := by
  rcases h.amid with ⟨l, hstart, -, -, hamid⟩
  intro e₀ h₀
  rw [h₀, startBackend, exec_bind_ok hserving.requireRunning]
  refine Triple.bind (amid_managerStart hstart) (fun _ => ?_) _ hamid
  refine Triple.bind amid_startNative_iphelper.attempt fun r => ?_
  cases r with
  | error error => exact amid_backendFailed rfl error
  | ok _ => exact Triple.unreachable

/-- A stop that gets past the manager: the routes are cleared when the native calls succeed, and
only then. -/
theorem stopBackend_runs (hserving : Serving e) (h : Runs e kind) :
    Triple (· = e) (stopBackend n kind.name)
      (fun _ e' => Amid e kind .stopped false (clearRoute kind.name) e' ∧ n.stops kind = true)
      (fun _ e' => Amid e kind .failed false id e' ∧ ¬ n.stops kind = true) := by
  intro e₀ h₀
  rw [h₀, stopBackend, exec_bind_ok hserving.requireRunning]
  refine Triple.bind amid_managerStop (fun _ => ?_) _ (.refl h.managed h.slot)
  refine Triple.bind amid_stopNative.attempt fun r => ?_
  cases r with
  | error error => exact (amid_backendFailed rfl error).frame.post_mono fun _ _ h => h.1.elim
  | ok _ => exact amid_release.frame.error_mono fun _ _ h => h.1.elim

/-- What the manager refuses changes nothing. -/
theorem startBackend_refused {name : String} {error : EngineError} (hserving : Serving e)
    (h : exec (BackendManager.start name) e.backendManager = (.error error, e.backendManager)) :
    exec (startBackend n name) e = (.error error, e) := by
  rw [startBackend, exec_bind_ok hserving.requireRunning]
  apply exec_bind_error
  rw [onManager, exec_zoom, h]

theorem stopBackend_refused {name : String} {error : EngineError} (hserving : Serving e)
    (h : exec (BackendManager.stop name) e.backendManager = (.error error, e.backendManager)) :
    exec (stopBackend n name) e = (.error error, e) := by
  rw [stopBackend, exec_bind_ok hserving.requireRunning]
  apply exec_bind_error
  rw [onManager, exec_zoom, h]

theorem startBackend_runs (hserving : Serving e) (h : Runs e kind) :
    ∃ error, exec (startBackend n kind.name) e = (.error error, e) := by
  rcases h.managed with ⟨b, hb, -, hl, -⟩
  refine ⟨.code .backendAlreadyRunning,
    startBackend_refused hserving (BackendManager.onBackend_error hb ?_)⟩
  rw [hl]
  rfl

theorem stopBackend_rests (hserving : Serving e) (h : Rests e kind) :
    ∃ error, exec (stopBackend n kind.name) e = (.error error, e) := by
  rcases h.amid with ⟨l, -, hstop, ⟨b, hb, -, hl, -⟩, -⟩
  have hlifecycle : e.backendManager.lifecycleOf kind.name = some l := by
    rw [BackendManager.lifecycleOf, hb, ← hl]
    rfl
  rcases BackendManager.stop_refused hlifecycle hstop with ⟨error, hrefused⟩
  exact ⟨error, stopBackend_refused hserving hrefused⟩

end Functions

/-! ## 6. Between two calls -/

/-- The engine between two calls of its backend operations. -/
structure Settled (e : EngineRuntime) : Prop extends Serving e where
  known : ∀ name b, e.backendManager.backends.lookup name = some b → ∃ kind, name = BackendKind.name kind
  backends : ∀ kind, Runs e kind ∧ kind ≠ .ipHelper ∨ Rests e kind
  capture : ∀ name, e.activeCaptureBackend = some name →
    ∃ kind, name = BackendKind.name kind ∧ .capture ∈ kind.descriptor.capabilities
  reinjection : ∀ name, e.activeReinjectionBackend = some name →
    ∃ kind, name = BackendKind.name kind ∧ .reinjection ∈ kind.descriptor.capabilities
  action : ∀ b, e.windivertAction = some b → b.Up

section Settled

variable {e e' : EngineRuntime} {l : BackendLifecycle} {up : Bool}
  {route : Option String → Option String} {name : String}

/-- What moved one backend leaves a settled engine settled when that backend is. -/
theorem Settled.of_amid (h : Settled e) (hamid : Amid e kind l up route e')
    (hroute : ∀ active name, route active = some name → active = some name)
    (hkind : Runs e' kind ∧ kind ≠ .ipHelper ∨ Rests e' kind) : Settled e' where
  state := hamid.state.trans h.state
  initialized := hamid.initialized.trans h.initialized
  known name b hb := by
    by_cases hname : name = kind.name
    · exact ⟨kind, hname⟩
    · rw [hamid.lookup name hname] at hb
      exact h.known name b hb
  backends other := by
    by_cases hother : other = kind
    · rw [hother]
      exact hkind
    -- The other backends keep their entry and their slot.
    · have hlookup := hamid.lookup other.name (BackendKind.name_injective.ne hother)
      have hmanaged {l'} (hm : Managed e.backendManager other l') :
          Managed e'.backendManager other l' := by
        unfold Managed
        rw [hlookup]
        exact hm
      rcases h.backends other with ⟨hruns, hne⟩ | hrests
      · exact .inl ⟨⟨hmanaged hruns.managed, hamid.native other hother _ hruns.slot⟩, hne⟩
      · exact .inr ⟨hrests.managed.imp hmanaged hmanaged, hamid.native other hother _ hrests.slot⟩
  capture name hname := h.capture name (hroute _ name (hamid.capture ▸ hname))
  reinjection name hname := h.reinjection name (hroute _ name (hamid.reinjection ▸ hname))
  action b hb := h.action b (hamid.action ▸ hb)

/-- What leaves the core alone leaves a settled engine settled when the routes and the action handle
are. -/
theorem Settled.of_core (h : Settled e) (hcore : e'.core = e.core)
    (hcapture : ∀ name, e'.activeCaptureBackend = some name →
      ∃ kind, name = BackendKind.name kind ∧ .capture ∈ kind.descriptor.capabilities)
    (hreinjection : ∀ name, e'.activeReinjectionBackend = some name →
      ∃ kind, name = BackendKind.name kind ∧ .reinjection ∈ kind.descriptor.capabilities)
    (haction : ∀ b, e'.windivertAction = some b → b.Up) : Settled e' := by
  simp only [core, Prod.mk.injEq] at hcore
  rcases hcore with ⟨hstate, hinitialized, hmanager, hnpcap, hwindivert, hwfp, hiphelper, hetw⟩
  have hnative (kind : BackendKind) (up : Bool) : Native e' kind up = Native e kind up :=
    native_congr hnpcap hwindivert hwfp hiphelper hetw up
  refine ⟨⟨hstate.trans h.state, hinitialized.trans h.initialized⟩, ?_, fun kind => ?_, hcapture,
    hreinjection, haction⟩
  · rw [hmanager]
    exact h.known
  · rcases h.backends kind with ⟨hruns, hkind⟩ | hrests
    · exact .inl ⟨⟨hmanager ▸ hruns.managed, hnative kind _ ▸ hruns.slot⟩, hkind⟩
    · exact .inr ⟨hmanager ▸ hrests.managed, hnative kind _ ▸ hrests.slot⟩

theorem clearRoute_eq_some {active : Option String} {other : String}
    (h : clearRoute name active = some other) : active = some other ∧ other ≠ name := by
  unfold clearRoute at h
  split at h
  · cases h
  · rename_i hne
    exact ⟨h, fun heq => hne (heq ▸ h)⟩

theorem Settled.managed (h : Settled e) (kind : BackendKind) :
    ∃ l, Managed e.backendManager kind l := by
  rcases h.backends kind with ⟨hruns, -⟩ | ⟨hmanaged | hmanaged, -⟩
  · exact ⟨_, hruns.managed⟩
  · exact ⟨_, hmanaged⟩
  · exact ⟨_, hmanaged⟩

theorem Settled.lookup_unknown (h : Settled e) (hname : ¬ ∃ kind, name = BackendKind.name kind) :
    e.backendManager.backends.lookup name = none := by
  rw [Option.eq_none_iff_forall_not_mem]
  exact fun b hb => hname (h.known name b hb)

/-- Everything `start_backend` can do to a settled engine. -/
theorem Settled.startBackend_cases (h : Settled e) (n : NativeOutcomes) (name : String) :
    (∃ error, exec (startBackend n name) e = (.error error, e)) ∨
    ∃ kind e', name = BackendKind.name kind ∧ Rests e kind ∧
      (exec (startBackend n name) e = (.ok (), e') ∧ kind ≠ .ipHelper ∧
          Amid e kind .running true id e' ∨
        ∃ error, exec (startBackend n name) e = (.error error, e') ∧
          Amid e kind .failed (decide (kind = .ipHelper)) id e') := by
  -- The manager's answer comes first: unknown and running backends are refused unchanged.
  by_cases hknown : ∃ kind, name = BackendKind.name kind
  · rcases hknown with ⟨kind, rfl⟩
    rcases h.backends kind with ⟨hruns, -⟩ | hrests
    · exact .inl (startBackend_runs h.toServing hruns)
    · right
      by_cases hkind : kind = .ipHelper
      · subst hkind
        have hstart := startBackend_rests_iphelper (n := n) h.toServing hrests e rfl
        rcases hexec : exec (startBackend n BackendKind.ipHelper.name) e with ⟨error | _, e'⟩
        · rw [hexec] at hstart
          exact ⟨.ipHelper, e', rfl, hrests, .inr ⟨error, rfl, hstart⟩⟩
        · rw [hexec] at hstart
          exact hstart.elim
      · have hstart := startBackend_rests (n := n) h.toServing hrests hkind e rfl
        rcases hexec : exec (startBackend n kind.name) e with ⟨error | _, e'⟩
        · rw [hexec] at hstart
          refine ⟨kind, e', rfl, hrests, .inr ⟨error, rfl, ?_⟩⟩
          rw [decide_eq_false hkind]
          exact hstart.1
        · rw [hexec] at hstart
          exact ⟨kind, e', rfl, hrests, .inl ⟨rfl, hkind, hstart.1⟩⟩
  · have hnone := h.lookup_unknown hknown
    exact .inl ⟨_, startBackend_refused h.toServing (BackendManager.onBackend_unknown _ hnone)⟩

/-- Everything `stop_backend` can do to a settled engine. -/
theorem Settled.stopBackend_cases (h : Settled e) (n : NativeOutcomes) (name : String) :
    (∃ error, exec (stopBackend n name) e = (.error error, e) ∧
      ∀ kind, name = BackendKind.name kind → Rests e kind) ∨
    ∃ kind e', name = BackendKind.name kind ∧ Runs e kind ∧ kind ≠ .ipHelper ∧
      (exec (stopBackend n name) e = (.ok (), e') ∧ n.stops kind = true ∧
          Amid e kind .stopped false (clearRoute name) e' ∨
        ∃ error, exec (stopBackend n name) e = (.error error, e') ∧ ¬ n.stops kind = true ∧
          Amid e kind .failed false id e') := by
  -- Only a running backend gets past the manager, and IP Helper never runs.
  by_cases hknown : ∃ kind, name = BackendKind.name kind
  · rcases hknown with ⟨kind, rfl⟩
    rcases h.backends kind with ⟨hruns, hkind⟩ | hrests
    · right
      have hstop := stopBackend_runs (n := n) h.toServing hruns e rfl
      rcases hexec : exec (stopBackend n kind.name) e with ⟨error | _, e'⟩
      · rw [hexec] at hstop
        exact ⟨kind, e', rfl, hruns, hkind, .inr ⟨error, rfl, hstop.2, hstop.1⟩⟩
      · rw [hexec] at hstop
        exact ⟨kind, e', rfl, hruns, hkind, .inl ⟨rfl, hstop.2, hstop.1⟩⟩
    · left
      rcases stopBackend_rests (n := n) h.toServing hrests with ⟨error, hexec⟩
      refine ⟨error, hexec, fun other hother => ?_⟩
      rw [← BackendKind.name_injective hother]
      exact hrests
  · left
    have hnone := h.lookup_unknown hknown
    refine ⟨_, stopBackend_refused h.toServing (BackendManager.onBackend_unknown _ hnone), ?_⟩
    exact fun kind hkind => absurd ⟨kind, hkind⟩ hknown

theorem Settled.startBackend (h : Settled e) (n : NativeOutcomes) (name : String) :
    Settled (exec (EngineRuntime.startBackend n name) e).2 := by
  rcases h.startBackend_cases n name with ⟨error, hexec⟩ |
    ⟨kind, e', -, -, ⟨hexec, hkind, hamid⟩ | ⟨error, hexec, hamid⟩⟩
  · rw [hexec]
    exact h
  · rw [hexec]
    exact h.of_amid hamid (fun _ _ h => h) (.inl ⟨⟨hamid.managed, hamid.slot⟩, hkind⟩)
  · rw [hexec]
    exact h.of_amid hamid (fun _ _ h => h) (.inr ⟨.inr hamid.managed, hamid.slot⟩)

theorem Settled.stopBackend (h : Settled e) (n : NativeOutcomes) (name : String) :
    Settled (exec (EngineRuntime.stopBackend n name) e).2 := by
  rcases h.stopBackend_cases n name with ⟨error, hexec, -⟩ |
    ⟨kind, e', -, -, hkind, ⟨hexec, -, hamid⟩ | ⟨error, hexec, -, hamid⟩⟩
  all_goals rw [hexec]
  · exact h
  -- A cleared route names nothing; a route to another backend stays what it was.
  · apply h.of_amid hamid fun _ _ h => (clearRoute_eq_some h).1
    exact .inr ⟨.inl hamid.managed, by rw [decide_eq_false hkind]; exact hamid.slot⟩
  · apply h.of_amid hamid fun _ _ h => h
    exact .inr ⟨.inr hamid.managed, by rw [decide_eq_false hkind]; exact hamid.slot⟩

/-- What no change to the named backend touches, a start of it keeps. -/
theorem startBackend_keeps_but {P : EngineRuntime → Prop} (n : NativeOutcomes) (name : String)
    (hP : ∀ kind e e', name = BackendKind.name kind → SameBut kind e e' → P e → P e') :
    Keeps (fun e => Settled e ∧ P e) (EngineRuntime.startBackend n name) := by
  apply Keeps.of_run
  intro e h
  refine ⟨h.1.startBackend n name, ?_⟩
  rcases h.1.startBackend_cases n name with ⟨error, hexec⟩ |
    ⟨kind, e', hname, -, ⟨hexec, -, hamid⟩ | ⟨error, hexec, hamid⟩⟩
  · rw [hexec]
    exact h.2
  all_goals
    rw [hexec]
    exact hP kind e e' hname hamid.toSameBut h.2

theorem stopBackend_keeps_but {P : EngineRuntime → Prop} (n : NativeOutcomes) (name : String)
    (hP : ∀ kind e e', name = BackendKind.name kind → SameBut kind e e' → P e → P e') :
    Keeps (fun e => Settled e ∧ P e) (EngineRuntime.stopBackend n name) := by
  apply Keeps.of_run
  intro e h
  refine ⟨h.1.stopBackend n name, ?_⟩
  rcases h.1.stopBackend_cases n name with ⟨error, hexec, -⟩ |
    ⟨kind, e', hname, -, -, ⟨hexec, -, hamid⟩ | ⟨error, hexec, -, hamid⟩⟩
  · rw [hexec]
    exact h.2
  all_goals
    rw [hexec]
    exact hP kind e e' hname hamid.toSameBut h.2

theorem builtinManager_lookup (kind : BackendKind) :
    builtinManager.backends.lookup kind.name = some (.new kind.descriptor) := by
  -- The five registrations do not overwrite one another.
  cases kind <;> decide +kernel

theorem builtinManager_known {name : String} {b : ManagedBackend}
    (h : builtinManager.backends.lookup name = some b) : ∃ kind, name = BackendKind.name kind := by
  have hmem : name ∈ builtinManager.names := by
    rw [BackendManager.names, Finset.mem_sort, Finmap.mem_keys]
    exact Finmap.mem_of_lookup_eq_some h
  rw [builtinManager_names] at hmem
  simp only [List.mem_cons, List.not_mem_nil, or_false] at hmem
  rcases hmem with rfl | rfl | rfl | rfl | rfl
  · exact ⟨.etw, rfl⟩
  · exact ⟨.ipHelper, rfl⟩
  · exact ⟨.npcap, rfl⟩
  · exact ⟨.wfp, rfl⟩
  · exact ⟨.winDivert, rfl⟩

/-- A new engine is settled: nothing runs but the IP Helper instance. -/
theorem settled_initial (c : EngineConfig) : Settled (initialEngine c) where
  state := rfl
  initialized := rfl
  known _ _ hb := builtinManager_known hb
  backends kind := by
    refine .inr ⟨.inl ⟨_, builtinManager_lookup kind, rfl, rfl, nofun⟩, ?_⟩
    cases kind with
    | ipHelper => exact ⟨⟨true⟩, rfl, rfl⟩
    | npcap | winDivert | wfp | etw =>
      intro b hb
      cases hb
  -- The routes are selected at initialization, before any backend is started.
  capture name hname := by
    cases hname
    exact ⟨.npcap, rfl, by decide⟩
  reinjection name hname := by
    cases hname
    exact ⟨.winDivert, rfl, by decide⟩
  action b hb := by cases hb

end Settled

end EngineRuntime

end NetworkEngine
