import NetworkEngine.Ffi.Protocol

/-!
# Sessions — handles across `network_shutdown` and `network_init`

The handle table outlives the engine.  The actions of several clients are interleaved at their
locks with the shutdown and the start of sessions, and every handle is traced to the session whose
`packet_read` gave it out.
-/

namespace NetworkEngine

open Rust Transition

namespace Ffi

/-! ## 1. Actions in parts -/

/-- The terminal actions.  `packet_modify` refuses an empty buffer before it touches the table. -/
inductive Action where
  | release
  | drop
  | pass
  | modify (data : Bytes) (hdata : ¬ data.isEmpty = true)
  | reinject

namespace Action

/-- What the action does under the engine lock, with the entry out of the table. -/
def work (n : ReinjectOutcomes) : Action → PacketObservation → FfiOp Unit
  | release, o => releaseWork id o
  | drop, o => releaseWork (·.recordDropRequested) o
  | pass, o | reinject, o => reinjectWork n o.packet.rawBytes (·.recordForwarded) o
  | modify data _, o =>
    reinjectWork n data (fun statistics => statistics.recordForwarded.recordModification) o

/-- The action gives up before the engine lock: it would send a packet that has no context. -/
def refuses (o : PacketObservation) : Action → Bool
  | release | drop => false
  | pass | modify .. | reinject => (observationContextForWindivert o).isNone

/-- The action as one call. -/
def toCall (n : ReinjectOutcomes) (h : UInt64) : Action → PacketCall
  | release => .release h
  | drop => .drop h
  | pass => .pass n h
  | modify data _ => .modify n (some data) h
  | reinject => .reinject n h

theorem work_refused {a : Action} {o : PacketObservation} (h : a.refuses o = true)
    (n : ReinjectOutcomes) (ffi : FfiState) :
    ∃ ffi', exec (a.work n o) ffi = (.error .actionFailed, ffi') := by
  have hreinject (data : Bytes) (f : EngineStatistics → EngineStatistics)
      (hnone : (observationContextForWindivert o).isNone = true) :
      ∃ ffi', exec (reinjectWork n data f o) ffi = (.error .actionFailed, ffi') := by
    rw [reinjectWork, Option.isNone_iff_eq_none.mp hnone]
    exact ⟨_, rfl⟩
  cases a with
  | release | drop => exact absurd h Bool.false_ne_true
  | pass | reinject | modify => exact hreinject _ _ h

theorem perform_toCall (hash : IdentityInput → UInt64) (n : ReinjectOutcomes) (h : UInt64)
    (a : Action) : perform hash (a.toCall n h) = terminalAction (a.work n) h := by
  cases a with
  | release | drop | pass | reinject => rfl
  | modify data hdata => exact if_neg hdata

end Action

/-! ## 2. The process -/

abbrev ThreadId := Nat

/-- Where a thread is between two locks. -/
inductive Phase where
  | idle
  /-- The entry is out of the table, and the engine lock not taken.  `session` is the session that
  gave the handle out. -/
  | taken (a : Action) (h : UInt64) (o : PacketObservation) (session : Nat)
  /-- The work has failed. -/
  | restoring (h : UInt64) (o : PacketObservation) (session : Nat)
  /-- `network_shutdown` has dropped the engine. -/
  | clearing

/-- The statics and the threads.  `session` counts the successful calls of `network_init`, and
`issuedIn` traces a handle to the session that gave it out. -/
structure Process where
  ffi : FfiState
  /-- The thread that holds the lock of `GLOBAL_ENGINE` between two turns. -/
  lock : Option ThreadId
  phase : ThreadId → Phase
  session : Nat
  issuedIn : UInt64 → Nat

inductive Event where
  | take (c : ThreadId) (a : Action) (h : UInt64)
  | work (c : ThreadId) (n : ReinjectOutcomes)
  | restore (c : ThreadId)
  | shutdown (c : ThreadId) (n : NativeOutcomes)
  | clear (c : ThreadId)
  | init (prepared : Option String) (config : Option NeInitConfig) (n : NativeOutcomes)
      (sync : EngineResult Unit)
  | startBackend (n : NativeOutcomes) (name : String)
  | stopBackend (n : NativeOutcomes) (name : String)
  /-- A read or an injection, which hold the engine lock throughout, or a captured packet. -/
  | call (call : PacketCall)

namespace Process

def setPhase (s : Process) (c : ThreadId) (phase : Phase) : Process :=
  { s with phase := Function.update s.phase c phase }

def take (s : Process) (c : ThreadId) (a : Action) (h : UInt64) : Process :=
  match s.phase c with
  | .idle =>
    match exec (takePacketHandle h) s.ffi with
    | (.ok o, ffi) => { s with ffi }.setPhase c (.taken a h o (s.issuedIn h))
    | (.error _, ffi) => { s with ffi }
  | _ => s

/-- The guard of the engine lock lives to the end of the call, so that a failed action restores its
entry under it. -/
def work (s : Process) (c : ThreadId) (n : ReinjectOutcomes) : Process :=
  match s.phase c with
  | .taken a h o session =>
    if a.refuses o then
      { s with ffi := (exec (a.work n o) s.ffi).2 }.setPhase c (.restoring h o session)
    else if s.lock.isSome then s
    else
      match exec (a.work n o) s.ffi with
      | (.ok _, ffi) => { s with ffi }.setPhase c .idle
      | (.error _, ffi) => { s with ffi, lock := some c }.setPhase c (.restoring h o session)
  | _ => s

def restore (s : Process) (c : ThreadId) : Process :=
  match s.phase c with
  | .restoring h o session =>
    { s with
      ffi := (exec (restorePacketHandle h o) s.ffi).2
      lock := if s.lock = some c then none else s.lock
      issuedIn := Function.update s.issuedIn h session }.setPhase c .idle
  | _ => s

def shutdown (s : Process) (c : ThreadId) (n : NativeOutcomes) : Process :=
  match s.phase c, s.lock with
  | .idle, none =>
    match exec (shutdownEngine n) s.ffi with
    | (.ok _, ffi) => { s with ffi, lock := some c }.setPhase c .clearing
    | (.error _, ffi) => { s with ffi }
  | _, _ => s

def clear (s : Process) (c : ThreadId) : Process :=
  match s.phase c with
  | .clearing => { s with ffi := (exec clearHandles s.ffi).2, lock := none }.setPhase c .idle
  | _ => s

def init (s : Process) (prepared : Option String) (config : Option NeInitConfig)
    (n : NativeOutcomes) (sync : EngineResult Unit) : Process :=
  if s.lock.isSome then s
  else
    match exec (networkInit prepared config n sync) s.ffi with
    | (.ok _, ffi) => { s with ffi, session := s.session + 1 }
    | (.error _, ffi) => { s with ffi }

/-- A call of the engine under its lock. -/
def onEngine (s : Process) (x : EngineOp Unit) : Process :=
  if s.lock.isSome then s else { s with ffi := (exec (Ffi.onEngine x) s.ffi).2 }

/-- The capture worker has the bus without the engine lock. -/
def call (hash : IdentityInput → UInt64) (s : Process) (call : PacketCall) : Process :=
  match call with
  | .captured .. => { s with ffi := packetStep hash s.ffi call }
  | .inject .. => if s.lock.isSome then s else { s with ffi := packetStep hash s.ffi call }
  | .read .. =>
    if s.lock.isSome then s
    else
      { s with
        ffi := packetStep hash s.ffi call
        issuedIn := (issued hash s.ffi call).elim s.issuedIn
          fun h => Function.update s.issuedIn h s.session }
  | .release _ | .drop _ | .pass .. | .modify .. | .reinject .. => s

def step (hash : IdentityInput → UInt64) (s : Process) : Event → Process
  | .take c a h => s.take c a h
  | .work c n => s.work c n
  | .restore c => s.restore c
  | .shutdown c n => s.shutdown c n
  | .clear c => s.clear c
  | .init prepared config n sync => s.init prepared config n sync
  | .startBackend n name => s.onEngine (EngineRuntime.startBackend n name)
  | .stopBackend n name => s.onEngine (EngineRuntime.stopBackend n name)
  | .call call => s.call hash call

/-- The process before the first `network_init`. -/
def start : Process := ⟨⟨none, ∅, 1, 1, "OK"⟩, none, fun _ => .idle, 0, fun _ => 0⟩

end Process

/-! ## 3. What the calls leave alone -/

/-- The table is the same, and there is an engine in both or in neither. -/
def Unmoved (ffi ffi' : FfiState) : Prop :=
  ffi'.packetHandles = ffi.packetHandles ∧ (ffi'.engine = none ↔ ffi.engine = none)

theorem Unmoved.refl (ffi : FfiState) : Unmoved ffi ffi := ⟨rfl, Iff.rfl⟩

theorem onEngine_unmoved {α : Type} (x : EngineOp α) (ffi : FfiState) :
    Keeps (Unmoved ffi) (onEngine x) := by
  refine Keeps.of_run fun s hs => ?_
  show Unmoved ffi (onEngine x s).2
  unfold onEngine
  split
  · exact hs
  · rename_i e he
    refine ⟨hs.1, iff_of_false nofun fun hnone => ?_⟩
    rw [hs.2.mpr hnone] at he
    nomatch he

theorem framed_unmoved (ffi : FfiState) : Framed (Unmoved ffi) where
  message _ _ hs := hs
  engine x _ := onEngine_unmoved x ffi

theorem Action.work_keeps {inv : FfiState → Prop} (hinv : Framed inv) (n : ReinjectOutcomes)
    (a : Action) (o : PacketObservation) : Keeps inv (a.work n o) := by
  cases a with
  | release | drop => exact hinv.releaseWork _ o
  | pass | modify | reinject => exact hinv.reinjectWork n _ _ o

-- A shutdown that succeeds leaves the table to be cleared.
theorem shutdownEngine_triple (n : NativeOutcomes) (ffi : FfiState) :
    Triple (Unmoved ffi) (shutdownEngine n)
      (fun _ ffi' => ffi'.packetHandles = ffi.packetHandles ∧ ffi'.engine = none)
      (fun _ => Unmoved ffi) := by
  have hframed := framed_unmoved ffi
  refine Triple.bind hframed.requireEngine fun _ => ?_
  refine Triple.bind (hframed.callEngine (onEngine_unmoved _ ffi)) fun _ => ?_
  exact Triple.modifyState fun ffi' hffi => ⟨hffi.1, rfl⟩

-- A session begins where there is no engine.
theorem networkInit_triple {inv : FfiState → Prop}
    (hmessage : ∀ s lastError, inv s → inv { s with lastError }) (prepared : Option String)
    (config : Option NeInitConfig) (n : NativeOutcomes) (sync : EngineResult Unit) :
    Triple inv (networkInit prepared config n sync)
      (fun _ ffi' => ∃ ffi c, inv ffi ∧ ffi.engine = none ∧
        ffi' = { ffi with engine := some (EngineRuntime.initialEngine c), lastError := "OK" })
      (fun _ => inv) := by
  have hprepared : Keeps inv (prepared.elim (pure ()) setLastError : FfiOp Unit) := by
    cases prepared with
    | none => exact Keeps.pure
    | some reason => exact setLastError_keeps hmessage reason
  refine Triple.bind hprepared fun _ => ?_
  cases config with
  | none => exact fail_triple hmessage
  | some config =>
    refine Triple.getState_bind fun ffi hffi => ?_
    have hfail {α : Type} {code : NeCode} {message : String} {post : α → FfiState → Prop} :
        Triple (· = ffi) (fail code message : FfiOp α) post (fun _ => inv) :=
      Triple.pre_mono (fail_triple hmessage) fun _ heq => heq ▸ hffi
    split
    · exact hfail
    rename_i hnone
    split
    · exact hfail
    split
    · exact hfail
    · rename_i e hinit
      intro ffi' heq
      subst heq
      refine ⟨ffi', config.toEngineConfig, hffi, by simpa using hnone, ?_⟩
      rw [← EngineRuntime.eq_initialEngine hinit]

-- A read gives out a handle for an entry that it adds, or leaves the table as it was.
theorem read_moves (hash : IdentityInput → UInt64) (env : ProcessingEnv) (descriptorNotNull : Bool)
    (ffi : FfiState) :
    (∃ h o, issued hash ffi (.read env descriptorNotNull) = some h ∧ ffi.engine ≠ none ∧
      (packetStep hash ffi (.read env descriptorNotNull)).packetHandles =
        ffi.packetHandles.insert h o ∧
      (packetStep hash ffi (.read env descriptorNotNull)).engine ≠ none) ∨
    issued hash ffi (.read env descriptorNotNull) = none ∧
      Unmoved ffi (packetStep hash ffi (.read env descriptorNotNull)) := by
  have hstep : packetStep hash ffi (.read env descriptorNotNull) =
      (exec (packetRead hash env descriptorNotNull) ffi).2 := exec_bind_pure_snd ffi _ _
  rw [hstep]
  show (∃ h o, (exec (packetRead hash env descriptorNotNull) ffi).1.toOption.map _ = some h ∧ _) ∨
    (exec (packetRead hash env descriptorNotNull) ffi).1.toOption.map _ = none ∧ _
  cases hengine : ffi.engine with
  | none =>
    -- There is nothing to read from.
    right
    cases descriptorNotNull with
    | false => exact ⟨rfl, rfl, Iff.rfl⟩
    | true =>
      have hrequire : exec requireEngine ffi = (.error .notInitialized,
          { ffi with lastError := "engine is not initialized" }) := by
        rw [requireEngine, exec_bind_ok (exec_getState ffi), if_pos (by rw [hengine]; rfl)]
        rfl
      have hexec : exec (packetRead hash env true) ffi = (.error .notInitialized,
          { ffi with lastError := "engine is not initialized" }) := exec_bind_error hrequire
      rw [hexec]
      exact ⟨rfl, rfl, Iff.rfl⟩
  | some e =>
    have hrun := packetRead_triple hash env descriptorNotNull e.packetBus ffi
      ⟨rfl, e, hengine, rfl⟩
    rcases hexec : exec (packetRead hash env descriptorNotNull) ffi with ⟨code | d, ffi'⟩
    · rw [hexec] at hrun
      obtain ⟨hhandles, e', he', -⟩ := hrun
      right
      refine ⟨rfl, hhandles, iff_of_false ?_ ?_⟩
      · rw [he']
        exact Option.some_ne_none e'
      · rw [hengine]
        exact Option.some_ne_none e
    · rw [hexec] at hrun
      obtain ⟨-, -, o, hhandles, e', he', -⟩ := hrun
      left
      refine ⟨d.packetHandle, o, rfl, Option.some_ne_none e, hhandles, ?_⟩
      rw [he']
      exact Option.some_ne_none e'

/-! ## 4. Every handle belongs to the running session -/

/-- The session of the handle that the thread works on. -/
def Phase.session : Phase → Option Nat
  | taken _ _ _ session | restoring _ _ session => some session
  | idle | clearing => none

namespace Process

/-- Between two turns the handles, in the table and in flight, are of the running session; only a
shutdown that has yet to clear the table leaves the handles of a session that has ended. -/
structure Inv (s : Process) : Prop where
  table : ∀ h o, s.ffi.packetHandles.lookup h = some o → s.issuedIn h = s.session ∧
    (s.ffi.engine = none → ∃ c, s.phase c = .clearing)
  flight : ∀ c session, (s.phase c).session = some session →
    session = s.session ∧ s.ffi.engine ≠ none
  clearing : ∀ c, s.phase c = .clearing → s.lock = some c

/-- The turn is no shutdown that ends a session with an action in flight, and no action that begins
while a shutdown has yet to clear the table. -/
def Calm (s : Process) : Event → Prop
  | .take .. => ∀ c, s.phase c ≠ .clearing
  | .shutdown _ n => (exec (shutdownEngine n) s.ffi).1 = .ok () → ∀ c, (s.phase c).session = none
  | _ => True

variable {s : Process}

@[simp] theorem setPhase_phase (s : Process) (c c' : ThreadId) (phase : Phase) :
    (s.setPhase c phase).phase c' = if c' = c then phase else s.phase c' :=
  Function.update_apply ..

theorem Inv.withTable (h : s.Inv) {ffi : FfiState} {issuedIn : UInt64 → Nat}
    (hengine : ffi.engine = none ↔ s.ffi.engine = none)
    (htable : ∀ handle o, ffi.packetHandles.lookup handle = some o →
      issuedIn handle = s.session ∧ (s.ffi.engine = none → ∃ c, s.phase c = .clearing)) :
    ({ s with ffi, issuedIn } : Process).Inv := by
  constructor
  -- The table: the new one keeps what the hypothesis says of it.
  · intro handle o hlookup
    obtain ⟨hsession, hclearing⟩ := htable handle o hlookup
    exact ⟨hsession, fun hnone => hclearing (hengine.mp hnone)⟩
  · intro c session hflight
    obtain ⟨hsession, hsome⟩ := h.flight c session hflight
    exact ⟨hsession, fun hnone => hsome (hengine.mp hnone)⟩
  · exact h.clearing

theorem Inv.unmoved (h : s.Inv) {ffi : FfiState} (hffi : Unmoved s.ffi ffi) :
    ({ s with ffi } : Process).Inv := by
  apply h.withTable hffi.2
  intro handle o hlookup
  rw [hffi.1] at hlookup
  exact h.table handle o hlookup

-- An entry comes into the table while a session runs.
theorem Inv.insert (h : s.Inv) {ffi : FfiState} {handle : UInt64} {o : PacketObservation}
    (hengine : s.ffi.engine ≠ none) (hengine' : ffi.engine ≠ none)
    (htable : ffi.packetHandles = s.ffi.packetHandles.insert handle o) :
    ({ s with ffi, issuedIn := Function.update s.issuedIn handle s.session } : Process).Inv := by
  apply h.withTable (iff_of_false hengine' hengine)
  intro handle' o' hlookup
  rw [htable, Table.lookup_insert] at hlookup
  refine ⟨?_, fun hnone => absurd hnone hengine⟩
  rw [Function.update_apply]
  split
  · rfl
  · rename_i hne
    rw [if_neg hne] at hlookup
    exact (h.table handle' o' hlookup).1

theorem Inv.withLock (h : s.Inv) {lock : Option ThreadId}
    (hlock : ∀ c, s.phase c = .clearing → lock = some c) : ({ s with lock } : Process).Inv :=
  ⟨h.table, h.flight, hlock⟩

theorem Inv.setPhase (h : s.Inv) {c : ThreadId} {phase : Phase} (hold : s.phase c ≠ .clearing)
    (hnew : phase ≠ .clearing)
    (hflight : ∀ session, phase.session = some session →
      session = s.session ∧ s.ffi.engine ≠ none) : (s.setPhase c phase).Inv := by
  constructor
  · intro handle o hlookup
    obtain ⟨hsession, hclearing⟩ := h.table handle o hlookup
    refine ⟨hsession, fun hnone => ?_⟩
    obtain ⟨c', hc'⟩ := hclearing hnone
    refine ⟨c', ?_⟩
    rw [setPhase_phase, if_neg, hc']
    rintro rfl
    exact hold hc'
  · intro c' session hsession
    rw [setPhase_phase] at hsession
    split at hsession
    · exact hflight session hsession
    · exact h.flight c' session hsession
  · intro c' hc'
    rw [setPhase_phase] at hc'
    split at hc'
    · exact absurd hc' hnew
    · exact h.clearing c' hc'

/-! ### The actions -/

theorem Inv.take (h : s.Inv) (hcalm : ∀ c, s.phase c ≠ .clearing) (c : ThreadId) (a : Action)
    (handle : UInt64) : (s.take c a handle).Inv := by
  unfold Process.take
  split
  · rename_i hidle
    obtain ⟨o, hlookup, hexec⟩ | ⟨message, hexec⟩ := takePacketHandle_cases s.ffi handle
    · simp only [hexec]
      -- Without its entry the table holds nothing new.
      have herase : ({ s with ffi := { s.ffi with
          packetHandles := s.ffi.packetHandles.erase handle } } : Process).Inv := by
        refine h.withTable ?_ fun handle' o' hlookup' => ?_
        · exact Iff.rfl
        rw [Table.lookup_erase] at hlookup'
        split at hlookup'
        · nomatch hlookup'
        · exact h.table handle' o' hlookup'
      refine herase.setPhase (hcalm c) (fun hphase => nomatch hphase) ?_
      -- The entry was in the table, so that its session runs.
      rintro _ ⟨⟩
      obtain ⟨hsession, hclearing⟩ := h.table handle o hlookup
      refine ⟨hsession, fun hnone => ?_⟩
      obtain ⟨c', hc'⟩ := hclearing hnone
      exact hcalm c' hc'
    · simp only [hexec]
      exact h.unmoved ⟨rfl, Iff.rfl⟩
  · exact h

theorem Inv.work (h : s.Inv) (c : ThreadId) (n : ReinjectOutcomes) : (s.work c n).Inv := by
  unfold Process.work
  split
  · rename_i a handle o session hphase
    have hunmoved : Unmoved s.ffi (exec (a.work n o) s.ffi).2 :=
      (a.work_keeps (framed_unmoved s.ffi) n o).run (Unmoved.refl s.ffi)
    obtain ⟨hsession, hengine⟩ := h.flight c session (by rw [hphase]; rfl)
    have hold : s.phase c ≠ .clearing := by rw [hphase]; nofun
    -- A refused action never asks for the lock; the others wait while it is held.
    split
    · refine (h.unmoved hunmoved).setPhase hold nofun ?_
      rintro _ ⟨⟩
      exact ⟨hsession, fun hnone => hengine (hunmoved.2.mp hnone)⟩
    split
    · exact h
    · rename_i hfree
      -- The lock was free, so that no shutdown has yet to clear the table.
      have hnone (c' : ThreadId) : s.phase c' ≠ .clearing := by
        intro hc'
        rw [h.clearing c' hc'] at hfree
        exact hfree rfl
      -- Success ends the action here, a failure keeps the lock until the entry is back.
      split
      · rename_i ffi hexec
        rw [hexec] at hunmoved
        exact (h.unmoved hunmoved).setPhase hold nofun nofun
      · rename_i code ffi hexec
        rw [hexec] at hunmoved
        refine ((h.unmoved hunmoved).withLock fun c' hc' => absurd hc' (hnone c')).setPhase hold
          nofun ?_
        rintro _ ⟨⟩
        exact ⟨hsession, fun hnone => hengine (hunmoved.2.mp hnone)⟩
  · exact h

theorem Inv.restore (h : s.Inv) (c : ThreadId) : (s.restore c).Inv := by
  unfold Process.restore
  split
  · rename_i handle o session hphase
    obtain ⟨r, message, hexec⟩ := restorePacketHandle_exec s.ffi handle o
    obtain ⟨rfl, hengine⟩ := h.flight c session (by rw [hphase]; rfl)
    have hold : s.phase c ≠ .clearing := by rw [hphase]; nofun
    have hinsert : ({ s with
        ffi := (exec (restorePacketHandle handle o) s.ffi).2
        issuedIn := Function.update s.issuedIn handle s.session } : Process).Inv := by
      rw [hexec]
      exact h.insert hengine hengine rfl
    refine (hinsert.withLock fun c' hc' => ?_).setPhase hold (fun hphase => nomatch hphase) nofun
    -- Whoever has yet to clear the table holds the lock.
    have hlock := h.clearing c' hc'
    rw [if_neg, hlock]
    intro heq
    rw [hlock] at heq
    obtain rfl := Option.some.inj heq
    exact hold hc'
  · exact h

/-! ### Sessions -/

theorem Inv.shutdown (h : s.Inv) (c : ThreadId) (n : NativeOutcomes)
    (hcalm : (exec (shutdownEngine n) s.ffi).1 = .ok () → ∀ c, (s.phase c).session = none) :
    (s.shutdown c n).Inv := by
  unfold Process.shutdown
  split
  · rename_i hidle hfree
    have hrun := shutdownEngine_triple n s.ffi s.ffi (Unmoved.refl s.ffi)
    split
    · rename_i ffi hexec
      rw [hexec] at hrun hcalm
      obtain ⟨hhandles, hnone⟩ := hrun
      constructor
      -- The table is not cleared yet, which is what `clearing` stands for.
      · intro handle o hlookup
        replace hlookup : ffi.packetHandles.lookup handle = some o := hlookup
        rw [hhandles] at hlookup
        refine ⟨(h.table handle o hlookup).1, fun _ => ⟨c, ?_⟩⟩
        rw [setPhase_phase, if_pos rfl]
      -- By assumption no action is in flight when the session ends.
      · intro c' session hflight
        rw [setPhase_phase] at hflight
        split at hflight
        · nomatch hflight
        · rw [hcalm rfl c'] at hflight
          nomatch hflight
      · intro c' hc'
        rw [setPhase_phase] at hc'
        split at hc'
        · rename_i heq
          rw [heq]
          rfl
        · -- Another thread would hold the lock, which was free.
          have hlock := h.clearing c' hc'
          rw [hfree] at hlock
          nomatch hlock
    · rename_i code ffi hexec
      rw [hexec] at hrun
      exact h.unmoved hrun
  · exact h

theorem Inv.clear (h : s.Inv) (c : ThreadId) : (s.clear c).Inv := by
  unfold Process.clear
  split
  · rename_i hphase
    constructor
    · intro handle o hlookup
      rw [show (Process.setPhase _ c .idle).ffi.packetHandles = ∅ from rfl,
        Finmap.lookup_empty] at hlookup
      nomatch hlookup
    · intro c' session hflight
      rw [setPhase_phase] at hflight
      split at hflight
      · nomatch hflight
      · exact h.flight c' session hflight
    -- Two threads cannot both hold the lock, so no other has yet to clear the table.
    · intro c' hc'
      rw [setPhase_phase] at hc'
      split at hc'
      · nomatch hc'
      · rename_i hne
        have hlock := (h.clearing c' hc').symm.trans (h.clearing c hphase)
        exact absurd (Option.some.inj hlock) hne
  · exact h

theorem Inv.init (h : s.Inv) (prepared : Option String) (config : Option NeInitConfig)
    (n : NativeOutcomes) (sync : EngineResult Unit) : (s.init prepared config n sync).Inv := by
  unfold Process.init
  split
  · exact h
  · rename_i hfree
    have hrun := networkInit_triple (framed_unmoved s.ffi).message prepared config n sync s.ffi
      (Unmoved.refl s.ffi)
    split
    · rename_i ffi hexec
      rw [hexec] at hrun
      obtain ⟨ffi₁, config, ⟨hhandles, hengine⟩, hnone, rfl⟩ := hrun
      have hnone := hengine.mp hnone
      -- No shutdown is under way, so that the last session has left nothing.
      have hclearing (c : ThreadId) (hc : s.phase c = .clearing) : False := by
        rw [h.clearing c hc] at hfree
        exact hfree rfl
      constructor
      · intro handle o hlookup
        replace hlookup : ffi₁.packetHandles.lookup handle = some o := hlookup
        rw [hhandles] at hlookup
        obtain ⟨c, hc⟩ := (h.table handle o hlookup).2 hnone
        exact (hclearing c hc).elim
      -- An action in flight has an engine, and there was none.
      · intro c session hflight
        exact absurd hnone (h.flight c session hflight).2
      · intro c hc
        exact (hclearing c hc).elim
    · rename_i code ffi hexec
      rw [hexec] at hrun
      exact h.unmoved hrun

/-! ### Calls -/

theorem Inv.onEngine (h : s.Inv) (x : EngineOp Unit) : (s.onEngine x).Inv := by
  unfold Process.onEngine
  split
  · exact h
  · exact h.unmoved ((onEngine_unmoved x s.ffi).run (Unmoved.refl s.ffi))

theorem Inv.call (h : s.Inv) (hash : IdentityInput → UInt64) (call : PacketCall) :
    (s.call hash call).Inv := by
  have hframed := framed_unmoved s.ffi
  cases call with
  | release | drop | pass | modify | reinject => exact h
  | captured id packet captured ingested =>
    have hunmoved := onEngine_unmoved (EngineRuntime.capturePacket id packet captured ingested) s.ffi
    exact h.unmoved (hunmoved.run (Unmoved.refl s.ffi))
  | inject clock args =>
    show Process.Inv (if s.lock.isSome then s else _)
    split
    · exact h
    · refine h.unmoved (Keeps.run ?_ (Unmoved.refl s.ffi))
      exact hframed.packetInject (fun _ _ hffi => hffi) clock args
  | read env descriptorNotNull =>
    show Process.Inv (if s.lock.isSome then s else _)
    split
    · exact h
    · obtain ⟨handle, o, hissued, hengine, htable, hengine'⟩ | ⟨hissued, hunmoved⟩ :=
        read_moves hash env descriptorNotNull s.ffi
      · rw [hissued]
        exact h.insert hengine hengine' htable
      · rw [hissued]
        exact h.unmoved hunmoved

theorem Inv.step (h : s.Inv) (hash : IdentityInput → UInt64) (event : Event)
    (hcalm : s.Calm event) : (s.step hash event).Inv := by
  cases event with
  | take c a handle => exact h.take hcalm c a handle
  | work c n => exact h.work c n
  | restore c => exact h.restore c
  | shutdown c n => exact h.shutdown c n hcalm
  | clear c => exact h.clear c
  | init prepared config n sync => exact h.init prepared config n sync
  | startBackend n name | stopBackend n name => exact h.onEngine _
  | call call => exact h.call hash call

/-! ## 5. No session ends -/

/-- There is no engine, or one that does not shut down. -/
def EngineHeld (ffi : FfiState) : Prop :=
  ∀ e, ffi.engine = some e → EngineRuntime.IphelperHeld e

theorem onEngine_held {α : Type} {x : EngineOp α} (hx : Keeps EngineRuntime.IphelperHeld x) :
    Keeps EngineHeld (Ffi.onEngine x) := by
  refine Keeps.of_run fun ffi hffi => ?_
  show EngineHeld (Ffi.onEngine x ffi).2
  unfold Ffi.onEngine
  split
  · exact hffi
  · rename_i e he
    rintro _ ⟨⟩
    exact hx.run (hffi e he)

theorem framed_held : TableFramed EngineHeld where
  message _ _ hffi := hffi
  table _ _ _ hffi := hffi
  engine _ hx := onEngine_held
    (Keeps.of_run fun e he => EngineRuntime.held_of_core e _ ((hx e.core).run rfl) he)

-- `network_shutdown` never gets past the engine.
theorem shutdownEngine_held (n : NativeOutcomes) :
    Triple EngineHeld (shutdownEngine n) (fun _ _ => False) (fun _ => EngineHeld) := by
  have hrequire : Triple EngineHeld requireEngine
      (fun _ ffi => EngineHeld ffi ∧ ffi.engine ≠ none) (fun _ => EngineHeld) := by
    refine Triple.getState_bind fun ffi hffi => ?_
    split
    · exact Triple.pre_mono framed_held.fail fun _ heq => heq ▸ hffi
    · rename_i hsome
      refine Triple.pure ?_
      rintro _ rfl
      exact ⟨hffi, by simpa using hsome⟩
  have hshutdown : Triple (fun ffi => EngineHeld ffi ∧ ffi.engine ≠ none)
      (Ffi.onEngine (EngineRuntime.shutdown n)) (fun _ _ => False) (fun _ => EngineHeld) := by
    rintro ffi ⟨hheld, hsome⟩
    obtain ⟨e, he⟩ := Option.ne_none_iff_exists'.mp hsome
    have hrun := EngineRuntime.shutdown_held n e (hheld e he)
    rw [onEngine_some _ he]
    match hexec : exec (EngineRuntime.shutdown n) e with
    | (.ok _, e') =>
      rw [hexec] at hrun
      exact hrun.elim
    | (.error error, e') =>
      rw [hexec] at hrun
      rintro _ ⟨⟩
      exact hrun
  have hcall : Triple (fun ffi => EngineHeld ffi ∧ ffi.engine ≠ none)
      (callEngine (EngineRuntime.shutdown n)) (fun _ _ => False) (fun _ => EngineHeld) := by
    refine hshutdown.attempt.bind fun r => ?_
    cases r with
    | ok _ => exact Triple.unreachable
    | error error => exact framed_held.fail
  exact hrequire.bind fun _ => hcall.bind fun _ => Triple.unreachable

/-- No shutdown has ended a session, and none will. -/
structure Held (s : Process) : Prop where
  engine : EngineHeld s.ffi
  phase : ∀ c, s.phase c ≠ .clearing

theorem Held.calm (h : s.Held) (event : Event) : s.Calm event := by
  cases event with
  | take => exact h.phase
  | shutdown c n =>
    intro hok
    exact ((shutdownEngine_held n).of_ok h.engine (Prod.ext hok rfl)).elim
  | work | restore | clear | init | startBackend | stopBackend | call => trivial

theorem Held.next {s' : Process} (h : s.Held) (hphase : s'.phase = s.phase)
    (hffi : EngineHeld s'.ffi) : s'.Held :=
  ⟨hffi, by rw [hphase]; exact h.phase⟩

theorem Held.advance {s' : Process} (h : s.Held) {c : ThreadId} {phase : Phase}
    (hnew : phase ≠ .clearing) (hphase : s'.phase = s.phase) (hffi : EngineHeld s'.ffi) :
    (s'.setPhase c phase).Held := by
  refine ⟨hffi, fun c' => ?_⟩
  rw [setPhase_phase]
  split
  · exact hnew
  · rw [hphase]
    exact h.phase c'

theorem Held.call (h : s.Held) (hash : IdentityInput → UInt64) (call : PacketCall) :
    (s.call hash call).Held := by
  cases call with
  | release | drop | pass | modify | reinject => exact h
  | captured id packet captured ingested =>
    exact h.next rfl ((framed_held.engine _ (EngineRuntime.publishCounted_core _)).run h.engine)
  | inject clock args =>
    show Process.Held (if s.lock.isSome then s else _)
    split
    · exact h
    · have hinject := framed_held.packetInject (fun _ _ hffi => hffi) clock args
      exact h.next rfl (hinject.run h.engine)
  | read env descriptorNotNull =>
    show Process.Held (if s.lock.isSome then s else _)
    split
    · exact h
    · exact h.next rfl ((framed_held.perform hash rfl).run h.engine)

theorem Held.take (h : s.Held) (c : ThreadId) (a : Action) (handle : UInt64) :
    (s.take c a handle).Held := by
  have hrun := (framed_held.takePacketHandle handle).run h.engine
  unfold Process.take
  split
  · split
    · rename_i hexec
      rw [hexec] at hrun
      exact h.advance (fun hnew => nomatch hnew) (by rfl) hrun
    · rename_i hexec
      rw [hexec] at hrun
      exact h.next rfl hrun
  · exact h

theorem Held.work (h : s.Held) (c : ThreadId) (n : ReinjectOutcomes) : (s.work c n).Held := by
  unfold Process.work
  split
  · rename_i a handle o session hphase
    have hrun := (a.work_keeps framed_held.toFramed n o).run h.engine
    split
    · exact h.advance (fun hnew => nomatch hnew) (by rfl) hrun
    split
    · exact h
    split
    · rename_i hexec
      rw [hexec] at hrun
      exact h.advance (fun hnew => nomatch hnew) (by rfl) hrun
    · rename_i hexec
      rw [hexec] at hrun
      exact h.advance (fun hnew => nomatch hnew) (by rfl) hrun
  · exact h

theorem Held.shutdown (h : s.Held) (c : ThreadId) (n : NativeOutcomes) :
    (s.shutdown c n).Held := by
  have hrun := shutdownEngine_held n s.ffi h.engine
  unfold Process.shutdown
  split
  · split
    · rename_i hexec
      rw [hexec] at hrun
      exact hrun.elim
    · rename_i hexec
      rw [hexec] at hrun
      exact h.next rfl hrun
  · exact h

theorem Held.init (h : s.Held) (prepared : Option String) (config : Option NeInitConfig)
    (n : NativeOutcomes) (sync : EngineResult Unit) : (s.init prepared config n sync).Held := by
  have hrun := networkInit_triple framed_held.message prepared config n sync s.ffi h.engine
  unfold Process.init
  split
  · exact h
  split
  · rename_i hexec
    rw [hexec] at hrun
    obtain ⟨ffi₁, c, -, -, rfl⟩ := hrun
    refine ⟨?_, h.phase⟩
    rintro _ ⟨⟩
    exact EngineRuntime.held_initial c
  · rename_i hexec
    rw [hexec] at hrun
    exact h.next rfl hrun

theorem Held.onEngine (h : s.Held) {x : EngineOp Unit} (hx : Keeps EngineRuntime.IphelperHeld x) :
    (s.onEngine x).Held := by
  unfold Process.onEngine
  split
  · exact h
  · exact h.next rfl ((onEngine_held hx).run h.engine)

theorem Held.step (h : s.Held) (hash : IdentityInput → UInt64) (event : Event) :
    (s.step hash event).Held := by
  cases event with
  | take c a handle => exact h.take c a handle
  | work c n => exact h.work c n
  | restore c =>
    show (s.restore c).Held
    unfold Process.restore
    split
    · exact h.advance (fun hnew => nomatch hnew) (by rfl)
        ((framed_held.restorePacketHandle _ _).run h.engine)
    · exact h
  | shutdown c n => exact h.shutdown c n
  | clear c =>
    show (s.clear c).Held
    unfold Process.clear
    split
    · exact absurd ‹_› (h.phase c)
    · exact h
  | init prepared config n sync => exact h.init prepared config n sync
  | startBackend n name => exact h.onEngine (EngineRuntime.startBackend_keeps_held n name)
  | stopBackend n name => exact h.onEngine (EngineRuntime.stopBackend_keeps_held n name)
  | call call => exact h.call hash call

/-! ## 6. Every run -/

/-- The work on a handle meets no engine but that of the session that gave the handle out. -/
def InOwnSession (s : Process) (event : Event) : Prop :=
  ∀ c n a h o session, event = .work c n → s.phase c = .taken a h o session →
    s.ffi.engine ≠ none → session = s.session

/-- With no call under way, the handles of a session that has ended are refused. -/
def RejectsEarlier (s : Process) : Prop :=
  (∀ c, s.phase c = .idle) → ∀ h, s.ffi.engine = none ∨ s.issuedIn h ≠ s.session →
    (exec (takePacketHandle h) s.ffi).1 = .error .invalidHandle

theorem Inv.inOwnSession (h : s.Inv) (event : Event) : s.InOwnSession event := by
  intro c n a handle o session _ hphase _
  exact (h.flight c session (by rw [hphase]; rfl)).1

theorem Inv.rejectsEarlier (h : s.Inv) : s.RejectsEarlier := by
  intro hidle handle hended
  obtain ⟨o, hlookup, -⟩ | ⟨message, hexec⟩ := takePacketHandle_cases s.ffi handle
  · obtain ⟨hsession, hclearing⟩ := h.table handle o hlookup
    rcases hended with hnone | hother
    · obtain ⟨c, hc⟩ := hclearing hnone
      rw [hidle c] at hc
      nomatch hc
    · exact absurd hsession hother
  · rw [hexec]

theorem start_inv : start.Inv := by
  constructor
  · intro h o hlookup
    rw [show start.ffi.packetHandles = ∅ from rfl, Finmap.lookup_empty] at hlookup
    nomatch hlookup
  · intro c session hflight
    nomatch (show none = some session from hflight)
  · intro c hc
    nomatch (show Phase.idle = .clearing from hc)

theorem start_held : start.Held := by
  constructor
  · intro e he
    nomatch (show none = some e from he)
  · intro c hc
    nomatch (show Phase.idle = .clearing from hc)

section Runs

variable (hash : IdentityInput → UInt64) (events : List Event)

-- The argument does not rest on the engine: no shutdown may overlap an action, whatever it does.
theorem sessions_of_calm (hcalm : Along (step hash) Calm start events) :
    Along (step hash) InOwnSession start events ∧ Always (step hash) RejectsEarlier start events := by
  have hinv (before after : List Event) (hsplit : events = before ++ after) :
      (run (step hash) start before).Inv := by
    refine run_inv_of_along (fun s event h hevent => h.step hash event hevent) start_inv
      (fun b event a hbefore => ?_)
    apply hcalm b event (a ++ after)
    rw [hsplit, hbefore, List.append_assoc, List.cons_append]
  constructor
  · intro before event after hsplit
    exact (hinv before (event :: after) hsplit).inOwnSession event
  · intro before after hsplit
    exact (hinv before after hsplit).rejectsEarlier

/-- In every interleaving of the actions with `network_shutdown` and `network_init`, no handle acts
on a session other than its own, and no handle outlives its session. -/
theorem stale_handles_never_act :
    Along (step hash) InOwnSession start events ∧ Always (step hash) RejectsEarlier start events := by
  apply sessions_of_calm
  intro before event after _
  have hheld : (run (step hash) start before).Held :=
    run_inv (fun s event h => h.step hash event) start_held before
  exact hheld.calm event

end Runs

-- The rest of an action, with the lock free and nothing in between.
theorem work_restore {c : ThreadId} {a : Action} {h : UInt64} {o : PacketObservation} {session : Nat}
    (n : ReinjectOutcomes) (hphase : s.phase c = .taken a h o session) (hfree : s.lock = none) :
    ((s.work c n).restore c).ffi = (exec (orRestore h o (a.work n o)) s.ffi).2 := by
  rw [orRestore, exec_bind_ok (exec_attempt _ _)]
  unfold Process.work
  simp only [hphase, hfree]
  rcases hexec : exec (a.work n o) s.ffi with ⟨code | ⟨⟩, ffi⟩
  · obtain ⟨r, message, hrestore⟩ := restorePacketHandle_exec ffi h o
    have hlast : (exec (restorePacketHandle h o >>= fun _ => throw code : FfiOp Unit) ffi).2 =
        (exec (restorePacketHandle h o) ffi).2 := by
      rw [exec_bind, hrestore]
      cases r <;> rfl
    show _ = (exec (restorePacketHandle h o >>= fun _ => throw code : FfiOp Unit) ffi).2
    rw [hlast]
    -- The entry goes back with the lock or without it.
    cases a.refuses o with
    | false | true =>
      simp only [Option.isSome_none, Bool.false_eq_true, if_false, if_true]
      unfold Process.restore
      simp only [setPhase_phase, if_pos]
      rfl
  · have haccepts : a.refuses o = false := by
      cases hrefuses : a.refuses o with
      | false => rfl
      | true =>
        obtain ⟨ffi', herror⟩ := Action.work_refused hrefuses n s.ffi
        rw [herror] at hexec
        cases hexec
    simp only [haccepts, Option.isSome_none, Bool.false_eq_true, if_false]
    unfold Process.restore
    simp only [setPhase_phase, if_pos]
    rfl

-- An action that nothing comes in between of is the call.
theorem run_alone (hash : IdentityInput → UInt64) (s : Process) {c : ThreadId} (a : Action)
    (h : UInt64) (n : ReinjectOutcomes) (hidle : s.phase c = .idle) (hfree : s.lock = none) :
    (run (step hash) s [.take c a h, .work c n, .restore c]).ffi =
      packetStep hash s.ffi (a.toCall n h) := by
  show (((s.take c a h).work c n).restore c).ffi = _
  rw [packetStep, Action.perform_toCall, terminalAction]
  obtain ⟨o, -, htake⟩ | ⟨message, htake⟩ := takePacketHandle_cases s.ffi h
  · have hs : s.take c a h = Process.setPhase { s with
        ffi := { s.ffi with packetHandles := s.ffi.packetHandles.erase h } } c
        (.taken a h o (s.issuedIn h)) := by
      unfold Process.take
      simp only [hidle, htake]
    rw [hs, exec_bind_ok htake]
    exact work_restore n (by rw [setPhase_phase, if_pos rfl]) hfree
  · have hs : s.take c a h = { s with ffi := { s.ffi with lastError := message } } := by
      unfold Process.take
      simp only [hidle, htake]
    rw [hs, exec_bind_error htake]
    unfold Process.work
    simp only [hidle]
    unfold Process.restore
    simp only [hidle]

end Process

end Ffi

end NetworkEngine
