import NetworkEngine.Core.Policy
import NetworkEngine.Engine.State
import NetworkEngine.Lib.Transition

/-!
# StateConcurrent — one engine state, many threads

`network_core::engine_state`, interleaved at its atomic accesses and lock sections.  `init`,
`begin_shutdown` and `shutdown` store the two flags under the lifecycle lock; `mark_failed` stores
them before it takes the lock, and `set_gateway_policy` checks the lifecycle in one section and
writes the policy in another.  A poisoned mutex is left out: no section panics.
-/

namespace NetworkEngine

open Rust Transition

namespace EngineState.Concurrent

/-! ## 1. Threads and turns -/

abbrev ThreadId := Nat

/-- Where a thread stands inside the lifecycle lock. -/
inductive Held where
  -- `init`, with `Initializing` stored
  | initRequest
  | initFlag
  | initRunning
  -- `begin_shutdown`, with `ShuttingDown` stored
  | beginRequest
  -- `shutdown`, with `ShuttingDown` stored
  | stopRequest
  | stopFlag
  | stopPolicy
  | stopStopped
  -- `shutdown` of a failed engine
  | failedFlag
  | failedRequest
  | failedStopped
  deriving DecidableEq, Repr

/-- Where a thread stands outside the lifecycle lock. -/
inductive Phase where
  /-- In no call, with the result of the last one. -/
  | idle (last : Option (EngineResult Unit))
  /-- `mark_failed` after its store of `initialized`. -/
  | markRequest
  /-- `mark_failed` after both stores. -/
  | markLock
  /-- `set_gateway_policy` has found `initialized`. -/
  | policyCheck (policy : GatewayPolicy)
  /-- `set_gateway_policy` has passed `require_running`. -/
  | policyWrite (policy : GatewayPolicy)
  deriving DecidableEq, Repr

@[grind] def Phase.isIdle : Phase → Bool
  | .idle _ => true
  | .markRequest | .markLock | .policyCheck _ | .policyWrite _ => false

/-- `mark_failed` has stored `initialized = false` and not yet taken the lock. -/
@[grind] def Phase.marks : Phase → Bool
  | .markRequest | .markLock => true
  | .idle _ | .policyCheck _ | .policyWrite _ => false

/-- `set_gateway_policy` is about to write. -/
@[grind] def Phase.writes : Phase → Bool
  | .policyWrite _ => true
  | .idle _ | .markRequest | .markLock | .policyCheck _ => false

theorem Phase.marks_of_isIdle {q : Phase} (h : q.isIdle = true) : q.marks = false := by
  cases q <;> first | rfl | nomatch h

structure Sys where
  state : EngineState
  gatewayPolicy : Option GatewayPolicy
  /-- The thread inside the lifecycle lock and what it does next there. -/
  lock : Option (ThreadId × Held)
  /-- The threads outside the lock; the one inside stays `idle` here. -/
  phase : ThreadId → Phase

/-- A thread starts a call or goes on with the one it is in. -/
inductive Turn where
  | init
  | beginShutdown
  | shutdown
  | markFailed
  | setGatewayPolicy (policy : GatewayPolicy)
  | clearGatewayPolicy
  | proceed
  deriving DecidableEq, Repr

namespace Sys

def new : Sys := ⟨.new, none, none, fun _ => .idle none⟩

def goto (s : Sys) (t : ThreadId) (p : Phase) : Sys :=
  { s with phase := Function.update s.phase t p }

/-- A call returns `r`. -/
def finish (s : Sys) (t : ThreadId) (r : EngineResult Unit) : Sys := s.goto t (.idle (some r))

def hold (s : Sys) (t : ThreadId) (p : Held) : Sys := { s with lock := some (t, p) }

/-- The lock is given back and the call returns `Ok`. -/
def release (s : Sys) (t : ThreadId) : Sys := { s with lock := none }.finish t (.ok ())

def storeInitialized (s : Sys) (value : Bool) : Sys :=
  { s with state := { s.state with initialized := value } }

def storeRequested (s : Sys) (value : Bool) : Sys :=
  { s with state := { s.state with shutdownRequested := value } }

def storeLifecycle (s : Sys) (lifecycle : EngineLifecycle) : Sys :=
  { s with state := { s.state with lifecycle } }

def storePolicy (s : Sys) (policy : Option GatewayPolicy) : Sys :=
  { s with gatewayPolicy := policy }

/-- A thread that finds the lifecycle lock taken waits. -/
def locked (s next : Sys) : Sys := if s.lock = none then next else s

/-- The first step of a call. -/
def start (s : Sys) (t : ThreadId) : Turn → Sys
  | .init =>
    s.locked <| match s.state.lifecycle with
      | .running => s.finish t (.error .alreadyInitialized)
      | .initializing | .shuttingDown => s.finish t (.error .invalidStateTransition)
      | .failed =>
        s.finish t (.error (.withMessage .invalidStateTransition "engine is in failed state"))
      | .uninitialized | .stopped => (s.storeLifecycle .initializing).hold t .initRequest
  | .beginShutdown =>
    s.locked <| match s.state.lifecycle with
      | .running => (s.storeLifecycle .shuttingDown).hold t .beginRequest
      | .uninitialized | .stopped => s.finish t (.error .alreadyShutdown)
      | .initializing | .shuttingDown => s.finish t (.error .invalidStateTransition)
      | .failed =>
        s.finish t (.error (.withMessage .invalidStateTransition "cannot shutdown failed engine"))
  | .shutdown =>
    s.locked <| match s.state.lifecycle with
      | .uninitialized | .stopped => s.finish t (.error .alreadyShutdown)
      | .initializing => s.finish t (.error .invalidStateTransition)
      | .running => (s.storeLifecycle .shuttingDown).hold t .stopRequest
      | .shuttingDown => s.hold t .stopRequest
      | .failed => s.hold t .failedFlag
  | .markFailed => (s.storeInitialized false).goto t .markRequest
  | .setGatewayPolicy policy =>
    if s.state.initialized then s.goto t (.policyCheck policy)
    else s.finish t (.error .notInitialized)
  | .clearGatewayPolicy => (s.storePolicy none).finish t (.ok ())
  | .proceed => s

/-- The next step of the thread inside the lock. -/
def inside (s : Sys) (t : ThreadId) : Held → Sys
  | .initRequest => (s.storeRequested false).hold t .initFlag
  | .initFlag => (s.storeInitialized true).hold t .initRunning
  | .initRunning => (s.storeLifecycle .running).release t
  | .beginRequest => (s.storeRequested true).release t
  | .stopRequest => (s.storeRequested true).hold t .stopFlag
  | .stopFlag => (s.storeInitialized false).hold t .stopPolicy
  | .stopPolicy => (s.storePolicy none).hold t .stopStopped
  | .stopStopped => (s.storeLifecycle .stopped).release t
  -- The branch of a failed engine has no counterpart of `stopPolicy`.
  | .failedFlag => (s.storeInitialized false).hold t .failedRequest
  | .failedRequest => (s.storeRequested true).hold t .failedStopped
  | .failedStopped => (s.storeLifecycle .stopped).release t

/-- The next step of a thread outside the lock. -/
def outside (s : Sys) (t : ThreadId) : Phase → Sys
  | .idle _ => s
  | .markRequest => (s.storeRequested true).goto t .markLock
  | .markLock => s.locked ((s.storeLifecycle .failed).finish t (.ok ()))
  | .policyCheck policy =>
    s.locked <| match s.state.lifecycle with
      | .running => s.goto t (.policyWrite policy)
      | .shuttingDown => s.finish t (.error .shutdownInProgress)
      | .stopped | .uninitialized => s.finish t (.error .notInitialized)
      | .initializing => s.finish t (.error .invalidStateTransition)
      | .failed => s.finish t (.error (.withMessage .internalError "engine is in failed state"))
  | .policyWrite policy => (s.storePolicy (some policy)).finish t (.ok ())

/-- The step a thread inside the lock makes next, if it is the one inside. -/
def heldBy (s : Sys) (t : ThreadId) : Option Held :=
  s.lock.bind fun holder => if holder.1 = t then some holder.2 else none

/-- A thread inside a call can only go on with it. -/
def step (s : Sys) (input : ThreadId × Turn) : Sys :=
  match s.heldBy input.1 with
  | some p => if input.2 = .proceed then s.inside input.1 p else s
  | none =>
    match s.phase input.1 with
    | .idle _ => s.start input.1 input.2
    | p => if input.2 = .proceed then s.outside input.1 p else s

/-- No call is in flight. -/
def Quiescent (s : Sys) : Prop := s.lock = none ∧ ∀ t, (s.phase t).isIdle = true

/-- Some `mark_failed` is between its first store and its lock section. -/
def Marking (s : Sys) : Prop := ∃ t, (s.phase t).marks = true

/-- What the thread inside the lock does next. -/
@[grind] def holding (s : Sys) : Option Held := s.lock.map Prod.snd

/-! ## 2. What the updates touch -/

variable {s : Sys} {t : ThreadId} {p : Held} {q : Phase}

@[simp, grind =] theorem goto_state : (s.goto t q).state = s.state := rfl

@[simp, grind =] theorem goto_lock : (s.goto t q).lock = s.lock := rfl

@[simp, grind =] theorem goto_gatewayPolicy : (s.goto t q).gatewayPolicy = s.gatewayPolicy := rfl

@[grind =] theorem goto_phase (u : ThreadId) :
    (s.goto t q).phase u = if u = t then q else s.phase u := by
  rw [goto]
  exact Function.update_apply ..

@[simp, grind =] theorem hold_state : (s.hold t p).state = s.state := rfl

@[simp, grind =] theorem hold_lock : (s.hold t p).lock = some (t, p) := rfl

@[simp, grind =] theorem hold_gatewayPolicy : (s.hold t p).gatewayPolicy = s.gatewayPolicy := rfl

@[simp, grind =] theorem hold_phase (u : ThreadId) : (s.hold t p).phase u = s.phase u := rfl

@[simp, grind =] theorem release_state : (s.release t).state = s.state := rfl

@[simp, grind =] theorem release_lock : (s.release t).lock = none := rfl

@[simp, grind =] theorem release_gatewayPolicy :
    (s.release t).gatewayPolicy = s.gatewayPolicy := rfl

@[grind =] theorem release_phase (u : ThreadId) :
    (s.release t).phase u = if u = t then .idle (some (.ok ())) else s.phase u :=
  goto_phase u

section Stores

variable (value : Bool) (lifecycle : EngineLifecycle) (policy : Option GatewayPolicy)

@[simp, grind =] theorem storeInitialized_state :
    (s.storeInitialized value).state = { s.state with initialized := value } := rfl

@[simp, grind =] theorem storeInitialized_lock : (s.storeInitialized value).lock = s.lock := rfl

@[simp, grind =] theorem storeInitialized_gatewayPolicy :
    (s.storeInitialized value).gatewayPolicy = s.gatewayPolicy := rfl

@[simp, grind =] theorem storeInitialized_phase (u : ThreadId) :
    (s.storeInitialized value).phase u = s.phase u := rfl

@[simp, grind =] theorem storeRequested_state :
    (s.storeRequested value).state = { s.state with shutdownRequested := value } := rfl

@[simp, grind =] theorem storeRequested_lock : (s.storeRequested value).lock = s.lock := rfl

@[simp, grind =] theorem storeRequested_gatewayPolicy :
    (s.storeRequested value).gatewayPolicy = s.gatewayPolicy := rfl

@[simp, grind =] theorem storeRequested_phase (u : ThreadId) :
    (s.storeRequested value).phase u = s.phase u := rfl

@[simp, grind =] theorem storeLifecycle_state :
    (s.storeLifecycle lifecycle).state = { s.state with lifecycle } := rfl

@[simp, grind =] theorem storeLifecycle_lock : (s.storeLifecycle lifecycle).lock = s.lock := rfl

@[simp, grind =] theorem storeLifecycle_gatewayPolicy :
    (s.storeLifecycle lifecycle).gatewayPolicy = s.gatewayPolicy := rfl

@[simp, grind =] theorem storeLifecycle_phase (u : ThreadId) :
    (s.storeLifecycle lifecycle).phase u = s.phase u := rfl

@[simp, grind =] theorem storePolicy_state : (s.storePolicy policy).state = s.state := rfl

@[simp, grind =] theorem storePolicy_lock : (s.storePolicy policy).lock = s.lock := rfl

@[simp, grind =] theorem storePolicy_gatewayPolicy :
    (s.storePolicy policy).gatewayPolicy = policy := rfl

@[simp, grind =] theorem storePolicy_phase (u : ThreadId) :
    (s.storePolicy policy).phase u = s.phase u := rfl

@[grind =] theorem marking_storeInitialized :
    (s.storeInitialized value).Marking ↔ s.Marking := Iff.rfl

@[grind =] theorem marking_storeRequested : (s.storeRequested value).Marking ↔ s.Marking := Iff.rfl

@[grind =] theorem marking_storeLifecycle :
    (s.storeLifecycle lifecycle).Marking ↔ s.Marking := Iff.rfl

end Stores

@[grind =] theorem marking_hold : (s.hold t p).Marking ↔ s.Marking := Iff.rfl

@[grind →] theorem Marking.of_markRequest (h : s.phase t = .markRequest) : s.Marking :=
  ⟨t, by rw [h]; rfl⟩

@[grind →] theorem Marking.of_markLock (h : s.phase t = .markLock) : s.Marking :=
  ⟨t, by rw [h]; rfl⟩

theorem Marking.goto (h : q.marks = true) : (s.goto t q).Marking :=
  ⟨t, by rw [goto_phase, if_pos rfl, h]⟩

/-- A thread that is outside `mark_failed` before and after. -/
@[grind =] theorem marking_goto (hfrom : (s.phase t).marks = false) (hto : q.marks = false) :
    (s.goto t q).Marking ↔ s.Marking := by
  apply exists_congr
  intro u
  rw [goto_phase]
  split
  · rename_i heq
    rw [heq, hfrom, hto]
  · rfl

@[grind =] theorem marking_release (h : (s.phase t).marks = false) :
    (s.release t).Marking ↔ s.Marking :=
  marking_goto h rfl

theorem lock_ne (hfree : s.heldBy t = none) (p : Held) : s.lock ≠ some (t, p) := by
  intro hlock
  simp [heldBy, hlock] at hfree

theorem lock_of_heldBy (h : s.heldBy t = some p) : s.lock = some (t, p) := by
  obtain ⟨⟨u, p'⟩, hlock, hsome⟩ := Option.bind_eq_some_iff.mp h
  split at hsome
  · rename_i heq
    rw [hlock, ← Option.some.inj hsome]
    exact congrArg (fun u => some (u, p')) heq
  · nomatch hsome

/-! ## 3. Threads that take no turn -/

theorem inside_phase {u : ThreadId} (hne : u ≠ t) : (s.inside t p).phase u = s.phase u := by
  cases p <;> simp [Sys.inside, release_phase, hne]

theorem outside_phase {u : ThreadId} (hne : u ≠ t) : (s.outside t q).phase u = s.phase u := by
  cases q <;> grind [Sys.outside, locked, finish]

theorem start_phase {u : ThreadId} (hne : u ≠ t) (turn : Turn) :
    (s.start t turn).phase u = s.phase u := by
  cases turn <;> grind [Sys.start, locked, finish]

theorem step_phase {u : ThreadId} {input : ThreadId × Turn} (hne : u ≠ input.1) :
    (s.step input).phase u = s.phase u := by
  unfold Sys.step
  split
  · split
    · exact inside_phase hne
    · rfl
  · split
    · exact start_phase hne _
    · split
      · exact outside_phase hne
      · rfl

/-- A thread of which a run knows nothing stays where it is. -/
theorem run_phase {u : ThreadId} (inputs : List (ThreadId × Turn)) (h : u ∉ inputs.map Prod.fst) :
    (run step s inputs).phase u = s.phase u := by
  induction inputs generalizing s with
  | nil => rfl
  | cons input inputs ih =>
    rw [List.map_cons, List.mem_cons, not_or] at h
    rw [run_cons, ih h.2, step_phase h.1]

/-- Only the threads of a run can be inside a call at its end. -/
theorem quiescent_of_threads (inputs : List (ThreadId × Turn))
    (hlock : (run step .new inputs).lock = none)
    (h : ∀ t ∈ inputs.map Prod.fst, ((run step .new inputs).phase t).isIdle = true) :
    (run step .new inputs).Quiescent := by
  refine ⟨hlock, fun t => ?_⟩
  by_cases ht : t ∈ inputs.map Prod.fst
  · exact h t ht
  · rw [run_phase inputs ht]
    rfl

/-! ## 4. The flags and the lifecycle -/

/-- The flags say what the lifecycle says. -/
structure FlagsAgree (state : EngineState) : Prop where
  running : state.lifecycle = .running ↔
    state.initialized = true ∧ state.shutdownRequested = false
  shuttingDown : state.lifecycle = .shuttingDown → state.shutdownRequested = true
  ended : state.lifecycle = .failed ∨ state.lifecycle = .stopped →
    state.initialized = false ∧ state.shutdownRequested = true
  initializing : state.lifecycle ≠ .initializing

/-- An `init` stores `initialized` only while no `mark_failed` is between its first store and its
lock section. -/
def Unmarked (s : Sys) (input : ThreadId × Turn) : Prop :=
  input.2 = .proceed → s.heldBy input.1 = some .initFlag → ¬ s.Marking

/-- What the thread inside the lock can rely on. -/
@[grind] def Knows (s : Sys) : Held → Prop
  | .initRequest => s.state.lifecycle = .initializing ∧ s.state.initialized = false
  | .initFlag => s.state.lifecycle = .initializing ∧ s.state.initialized = false ∧
      (s.Marking ∨ s.state.shutdownRequested = false)
  | .initRunning => s.state.lifecycle = .initializing ∧
      (s.Marking ∨ s.state.initialized = true ∧ s.state.shutdownRequested = false)
  | .beginRequest | .stopRequest => s.state.lifecycle = .shuttingDown
  | .stopFlag => s.state.lifecycle = .shuttingDown ∧ s.state.shutdownRequested = true
  | .stopPolicy | .stopStopped => s.state.lifecycle = .shuttingDown ∧
      s.state.shutdownRequested = true ∧ s.state.initialized = false
  | .failedFlag | .failedRequest | .failedStopped => s.state.lifecycle = .failed

theorem Knows.congr {s' : Sys} (h : s.Knows p) (hstate : s'.state = s.state)
    (hmarking : s'.Marking ↔ s.Marking) : s'.Knows p := by
  cases p <;> simp only [Knows, hstate, hmarking] at h ⊢ <;> exact h

/-- A store of `mark_failed` while another thread is inside the lock. -/
theorem Knows.mark {s' : Sys} (h : s.Knows p)
    (hlifecycle : s'.state.lifecycle = s.state.lifecycle)
    (hinitialized : s.state.initialized = false → s'.state.initialized = false)
    (hrequested : s.state.shutdownRequested = true → s'.state.shutdownRequested = true)
    (hmarking : s'.Marking) : s'.Knows p := by
  cases p <;> grind

/-- The flags in every state of a run.  A disagreement needs a thread that is still to act: the one
inside the lock, or a `mark_failed` before its section. -/
structure Inv (s : Sys) : Prop where
  idle : ∀ t p, s.lock = some (t, p) → (s.phase t).isIdle = true
  held : ∀ t p, s.lock = some (t, p) → s.Knows p
  marking : s.Marking → s.state.initialized = false
  marked : ∀ t, s.phase t = .markLock →
    s.state.shutdownRequested = true ∨ s.holding = some .initFlag
  uninitialized : s.state.lifecycle = .uninitialized → s.state.initialized = false
  ended : s.state.lifecycle = .failed ∨ s.state.lifecycle = .stopped →
    s.state.initialized = false ∧ s.state.shutdownRequested = true
  initializing : s.state.lifecycle = .initializing → s.lock ≠ none
  shuttingDown : s.lock = none → s.state.lifecycle = .shuttingDown →
    s.state.shutdownRequested = true
  running : s.lock = none → s.state.lifecycle = .running →
    s.Marking ∨ s.state.initialized = true ∧ s.state.shutdownRequested = false

theorem Inv.new : Sys.new.Inv := by
  constructor <;> simp [Sys.new, EngineState.new, Marking, Phase.marks]

theorem Inv.inside (h : s.Inv) (hlock : s.lock = some (t, p))
    (hunmarked : p = .initFlag → ¬ s.Marking) : (s.inside t p).Inv := by
  have hknows := h.held t p hlock
  have hidle := Phase.marks_of_isIdle (h.idle t p hlock)
  -- No other thread is inside, so the new state is what this one stores.
  cases p <;> simp only [Sys.inside] <;> constructor <;> grind [Inv]

/-- A step of a thread outside the lock and outside `mark_failed`. -/
theorem Inv.goto (h : s.Inv) (hfree : s.heldBy t = none) (hfrom : (s.phase t).marks = false)
    (hto : q.marks = false) : (s.goto t q).Inv := by
  have hmarking := marking_goto hfrom hto
  have hne := lock_ne hfree
  constructor
  case held => exact fun u p hlock => (h.held u p hlock).congr rfl hmarking
  all_goals grind [Inv]

theorem Inv.storePolicy (h : s.Inv) (policy : Option GatewayPolicy) :
    (s.storePolicy policy).Inv :=
  { h with held := fun u p hlock => (h.held u p hlock).congr rfl Iff.rfl }

theorem Inv.markFailed (h : s.Inv) (hfree : s.heldBy t = none) :
    ((s.storeInitialized false).goto t .markRequest).Inv := by
  have hmarking : ((s.storeInitialized false).goto t .markRequest).Marking := .goto rfl
  have hne := lock_ne hfree
  constructor
  case held => exact fun u p hlock => (h.held u p hlock).mark rfl (fun _ => rfl) id hmarking
  all_goals grind [Inv]

theorem Inv.outside (h : s.Inv) (hfree : s.heldBy t = none) :
    (s.outside t (s.phase t)).Inv := by
  have hne := lock_ne hfree
  cases hphase : s.phase t with
  | idle last => exact h
  | markRequest =>
    have hmarking : ((s.storeRequested true).goto t .markLock).Marking := .goto rfl
    simp only [Sys.outside]
    constructor
    case held => exact fun u p hlock => (h.held u p hlock).mark rfl id (fun _ => rfl) hmarking
    all_goals grind [Inv]
  | markLock =>
    simp only [Sys.outside, locked]
    split
    -- The lock is free, so no `init` has withdrawn the request.
    · constructor <;> grind [Inv, finish]
    · exact h
  | policyCheck policy =>
    have hgoto {q : Phase} (hto : q.marks = false) : (s.goto t q).Inv :=
      h.goto hfree (by rw [hphase]; rfl) hto
    simp only [Sys.outside, locked]
    split
    · split <;> exact hgoto rfl
    · exact h
  | policyWrite policy =>
    exact (h.storePolicy _).goto hfree (by rw [storePolicy_phase, hphase]; rfl) rfl

theorem Inv.start (h : s.Inv) (hfree : s.heldBy t = none) {last : Option (EngineResult Unit)}
    (hidle : s.phase t = .idle last) (turn : Turn) : (s.start t turn).Inv := by
  have hgoto {q : Phase} (hto : q.marks = false) : (s.goto t q).Inv :=
    h.goto hfree (by rw [hidle]; rfl) hto
  -- A refused call only returns.
  cases turn with
  | init =>
    simp only [Sys.start, locked]
    split
    · cases hlifecycle : s.state.lifecycle with
      | running | initializing | shuttingDown | failed => exact hgoto rfl
      | uninitialized | stopped => constructor <;> grind [Inv]
    · exact h
  | beginShutdown =>
    simp only [Sys.start, locked]
    split
    · cases hlifecycle : s.state.lifecycle with
      | uninitialized | stopped | initializing | shuttingDown | failed => exact hgoto rfl
      | running => constructor <;> grind [Inv]
    · exact h
  | shutdown =>
    simp only [Sys.start, locked]
    split
    · cases hlifecycle : s.state.lifecycle with
      | uninitialized | stopped | initializing => exact hgoto rfl
      | running | shuttingDown | failed => constructor <;> grind [Inv]
    · exact h
  | markFailed => exact h.markFailed hfree
  | setGatewayPolicy policy =>
    simp only [Sys.start]
    split <;> exact hgoto rfl
  | clearGatewayPolicy =>
    exact (h.storePolicy none).goto hfree (by rw [storePolicy_phase, hidle]; rfl) rfl
  | proceed => exact h

theorem Inv.step {input : ThreadId × Turn} (h : s.Inv) (hunmarked : s.Unmarked input) :
    (s.step input).Inv := by
  unfold Sys.step
  split
  · rename_i p hheld
    split
    · rename_i hturn
      refine h.inside (lock_of_heldBy hheld) ?_
      rintro rfl
      exact hunmarked hturn hheld
    · exact h
  · rename_i hfree
    split
    · rename_i last hidle
      exact h.start hfree hidle input.2
    · split
      · exact h.outside hfree
      · exact h

/-- At rest no thread is left to act. -/
theorem Inv.flagsAgree (h : s.Inv) (hquiescent : s.Quiescent) : FlagsAgree s.state := by
  obtain ⟨hlock, hidle⟩ := hquiescent
  have hunmarked : ¬ s.Marking := by
    rintro ⟨t, hmarks⟩
    rw [Phase.marks_of_isIdle (hidle t)] at hmarks
    nomatch hmarks
  have hinitializing : s.state.lifecycle ≠ .initializing := fun heq => h.initializing heq hlock
  refine ⟨⟨fun hrunning => (h.running hlock hrunning).resolve_left hunmarked, fun hflags => ?_⟩,
    h.shuttingDown hlock, h.ended, hinitializing⟩
  -- In every other state of the lifecycle one of the flags is another.
  cases hlifecycle : s.state.lifecycle <;> grind [Inv]

/-- In every run in which `init` stores `initialized` outside the window of every `mark_failed`, the
flags agree with the lifecycle whenever no call is in flight, and once the engine has failed the
request is seen in every state, calls in flight or not. -/
theorem flags_agree (inputs : List (ThreadId × Turn)) (h : Along step Unmarked .new inputs) :
    Always step (fun s => (s.Quiescent → FlagsAgree s.state) ∧
      (s.state.lifecycle = .failed → s.state.shutdownRequested = true)) .new inputs := by
  intro before after hsplit
  have hstep (s : Sys) (input : ThreadId × Turn) (hs : s.Inv) (hu : s.Unmarked input) :
      (s.step input).Inv := hs.step hu
  have hinv := always_of_along hstep .new h before after hsplit
  exact ⟨hinv.flagsAgree, fun hfailed => (hinv.ended (.inl hfailed)).2⟩

/-- An `init` and then a `mark_failed` of another thread. -/
theorem flags_agree_failed :
    let inputs : List (ThreadId × Turn) := [(0, .init), (0, .proceed), (0, .proceed), (0, .proceed),
      (1, .markFailed), (1, .proceed), (1, .proceed)]
    Along step Unmarked .new inputs ∧ (run step .new inputs).state.lifecycle = .failed ∧
      FlagsAgree (run step .new inputs).state := by
  intro inputs
  -- The third step is the store; nobody is inside `mark_failed` then.
  have hstore : ¬ (run step .new [(0, .init), (0, .proceed)]).Marking := by
    rintro ⟨t, hmarks⟩
    nomatch hmarks
  have hmet : Along step Unmarked .new inputs := by
    simp only [inputs, along_cons]
    refine ⟨nofun, ?_, fun _ _ => hstore, ?_, nofun, ?_, ?_, along_nil⟩
    all_goals exact fun _ h => absurd h (by decide)
  have hquiescent : (run step .new inputs).Quiescent :=
    quiescent_of_threads inputs (by decide) (by decide)
  exact ⟨hmet, by decide, (flags_agree inputs hmet _ [] (List.append_nil _).symm).1 hquiescent⟩

/-- `mark_failed` of a running engine is overtaken, after its stores, by a `shutdown` and an `init`
of another thread: the lifecycle becomes `Failed` with both flags of a running engine. -/
theorem flags_of_late_mark :
    let inputs : List (ThreadId × Turn) := [(1, .init), (1, .proceed), (1, .proceed), (1, .proceed),
      (0, .markFailed), (0, .proceed),
      (1, .shutdown), (1, .proceed), (1, .proceed), (1, .proceed), (1, .proceed),
      (1, .init), (1, .proceed), (1, .proceed), (1, .proceed), (0, .proceed)]
    (run step .new inputs).Quiescent ∧ (run step .new inputs).state = ⟨true, false, .failed⟩ ∧
      ¬ FlagsAgree (run step .new inputs).state := by
  intro inputs
  have hstate : (run step .new inputs).state = ⟨true, false, .failed⟩ := by decide
  refine ⟨quiescent_of_threads inputs (by decide) (by decide), hstate, fun hagree => ?_⟩
  rw [hstate] at hagree
  exact absurd (hagree.ended (.inl rfl)).1 (by decide)

/-! ## 5. The policy and the shutdown -/

/-- A `set_gateway_policy` writes the policy. -/
def Writes (s : Sys) (input : ThreadId × Turn) : Prop :=
  input.2 = .proceed ∧ (s.phase input.1).writes = true

instance (s : Sys) (input : ThreadId × Turn) : Decidable (s.Writes input) :=
  inferInstanceAs (Decidable (_ ∧ _))

/-- The two ways to a stopped engine with a policy are not taken: a failed engine is stopped only
when it has no policy, and no `set_gateway_policy` writes after the lifecycle has become `Stopped`
or after a `shutdown` has cleared the policy and is about to store `Stopped`. -/
structure Guarded (s : Sys) (input : ThreadId × Turn) : Prop where
  failed : input.2 = .proceed → s.heldBy input.1 = some .failedStopped → s.gatewayPolicy = none
  write : s.Writes input → s.state.lifecycle ≠ .stopped ∧ s.holding ≠ some .stopStopped

theorem guarded_iff (s : Sys) (input : ThreadId × Turn) :
    s.Guarded input ↔
      (input.2 = .proceed → s.heldBy input.1 = some .failedStopped → s.gatewayPolicy = none) ∧
        (s.Writes input → s.state.lifecycle ≠ .stopped ∧ s.holding ≠ some .stopStopped) :=
  ⟨fun h => ⟨h.failed, h.write⟩, fun h => ⟨h.1, h.2⟩⟩

instance (s : Sys) (input : ThreadId × Turn) : Decidable (s.Guarded input) :=
  decidable_of_iff _ (guarded_iff s input).symm

/-- No policy once a `shutdown` has cleared it, nor in a stopped engine. -/
structure PolicyInv (s : Sys) : Prop where
  stopped : s.state.lifecycle = .stopped → s.gatewayPolicy = none
  cleared : s.holding = some .stopStopped → s.gatewayPolicy = none

theorem PolicyInv.new : Sys.new.PolicyInv := ⟨nofun, nofun⟩

theorem PolicyInv.inside (h : s.PolicyInv) (hlock : s.lock = some (t, p))
    (hfailed : p = .failedStopped → s.gatewayPolicy = none) : (s.inside t p).PolicyInv := by
  cases p <;> simp only [Sys.inside] <;> constructor <;> grind [PolicyInv]

theorem PolicyInv.goto (h : s.PolicyInv) : (s.goto t q).PolicyInv := ⟨h.stopped, h.cleared⟩

theorem PolicyInv.outside (h : s.PolicyInv)
    (hwrite : q.writes = true →
      s.state.lifecycle ≠ .stopped ∧ s.holding ≠ some .stopStopped) :
    (s.outside t q).PolicyInv := by
  cases q with
  | idle last => exact h
  | markRequest => exact ⟨h.stopped, h.cleared⟩
  | markLock =>
    simp only [Sys.outside, locked]
    split
    · exact ⟨nofun, h.cleared⟩
    · exact h
  | policyCheck policy =>
    simp only [Sys.outside, locked]
    split
    · split <;> exact h.goto
    · exact h
  | policyWrite policy =>
    have hguard := hwrite rfl
    exact ⟨fun hstopped => absurd hstopped hguard.1, fun hcleared => absurd hcleared hguard.2⟩

theorem PolicyInv.start (h : s.PolicyInv) (turn : Turn) : (s.start t turn).PolicyInv := by
  cases turn with
  | init | beginShutdown | shutdown =>
    simp only [Sys.start, locked]
    split
    · split
      all_goals first | exact h.goto | constructor <;> grind [PolicyInv]
    · exact h
  | markFailed => exact ⟨h.stopped, h.cleared⟩
  | setGatewayPolicy policy =>
    simp only [Sys.start]
    split <;> exact h.goto
  | clearGatewayPolicy => exact ⟨fun _ => rfl, fun _ => rfl⟩
  | proceed => exact h

theorem PolicyInv.step {input : ThreadId × Turn} (h : s.PolicyInv) (hguarded : s.Guarded input) :
    (s.step input).PolicyInv := by
  unfold Sys.step
  split
  · rename_i p hheld
    split
    · rename_i hturn
      refine h.inside (lock_of_heldBy hheld) ?_
      rintro rfl
      exact hguarded.failed hturn hheld
    · exact h
  · split
    · exact h.start input.2
    · split
      · rename_i hturn
        exact h.outside fun hwrites => hguarded.write ⟨hturn, hwrites⟩
      · exact h

/-- Nothing but a `set_gateway_policy` makes a policy. -/
theorem step_gatewayPolicy {input : ThreadId × Turn} (h : s.gatewayPolicy = none)
    (hwrite : ¬ s.Writes input) : (s.step input).gatewayPolicy = none := by
  unfold Sys.step
  split
  · split
    · rename_i p _ _
      cases p <;> simp only [Sys.inside] <;> grind
    · exact h
  · split
    · cases input.2 <;> grind [Sys.start, locked, finish]
    · split
      · rename_i hturn
        cases hphase : s.phase input.1 with
        | policyWrite policy => exact absurd ⟨hturn, by rw [hphase]; rfl⟩ hwrite
        | idle last => exact h
        | markRequest => exact h
        | markLock => grind [Sys.outside, locked, finish]
        | policyCheck policy => grind [Sys.outside, locked, finish]
      · exact h

/-- In every run of guarded steps a stopped engine at rest has no policy, and from there on, also
through an `init`, it has none until a `set_gateway_policy` writes one. -/
theorem no_policy_after_shutdown (inputs : List (ThreadId × Turn))
    (h : Along step Guarded .new inputs) :
    Always step (fun s => s.Quiescent → s.state.lifecycle = .stopped → s.gatewayPolicy = none)
        .new inputs ∧
      ∀ before after, inputs = before ++ after → (run step .new before).Quiescent →
        (run step .new before).state.lifecycle = .stopped →
        Along step (fun s input => ¬ s.Writes input) (run step .new before) after →
        (run step .new inputs).gatewayPolicy = none := by
  have hstep (s : Sys) (input : ThreadId × Turn) (hs : s.PolicyInv) (hg : s.Guarded input) :
      (s.step input).PolicyInv := hs.step hg
  have hinv := always_of_along hstep .new h
  refine ⟨fun before after hsplit _ => (hinv before after hsplit).stopped, ?_⟩
  intro before after hsplit _ hstopped hnowrite
  have hnone := (hinv before after hsplit).stopped hstopped
  have hkeep (s : Sys) (input : ThreadId × Turn) (hs : s.gatewayPolicy = none)
      (hw : ¬ s.Writes input) : (s.step input).gatewayPolicy = none := step_gatewayPolicy hs hw
  rw [hsplit, run_append]
  exact run_inv_of_along hkeep hnone hnowrite

/-- A session with a policy, its shutdown, and the next session. -/
theorem no_policy_after_shutdown_twice :
    let session : List (ThreadId × Turn) := [(0, .init), (0, .proceed), (0, .proceed), (0, .proceed),
      (0, .setGatewayPolicy {}), (0, .proceed), (0, .proceed)]
    let shutdown : List (ThreadId × Turn) :=
      [(0, .shutdown), (0, .proceed), (0, .proceed), (0, .proceed), (0, .proceed)]
    let again : List (ThreadId × Turn) := [(0, .init), (0, .proceed), (0, .proceed), (0, .proceed)]
    (run step .new session).gatewayPolicy = some {} ∧
      Along step Guarded .new (session ++ shutdown ++ again) ∧
      (run step .new (session ++ shutdown ++ again)).gatewayPolicy = none := by
  intro session shutdown again
  have hguarded : Along step Guarded .new (session ++ shutdown ++ again) := by decide +kernel
  have hquiescent : (run step .new (session ++ shutdown)).Quiescent :=
    quiescent_of_threads _ (by decide +kernel) (by decide +kernel)
  refine ⟨by decide +kernel, hguarded, ?_⟩
  exact (no_policy_after_shutdown _ hguarded).2 _ again rfl hquiescent (by decide +kernel)
    (by decide +kernel)

/-- The failed branch of `shutdown` does not clear the policy: it is in force in the stopped engine,
and again in the session of the next `init`. -/
theorem policy_survives_failure :
    let inputs : List (ThreadId × Turn) := [(0, .init), (0, .proceed), (0, .proceed), (0, .proceed),
      (0, .setGatewayPolicy {}), (0, .proceed), (0, .proceed),
      (0, .markFailed), (0, .proceed), (0, .proceed),
      (0, .shutdown), (0, .proceed), (0, .proceed), (0, .proceed)]
    let again : List (ThreadId × Turn) := [(0, .init), (0, .proceed), (0, .proceed), (0, .proceed)]
    (run step .new inputs).Quiescent ∧ (run step .new inputs).state.lifecycle = .stopped ∧
      (run step .new inputs).gatewayPolicy = some {} ∧
      (run step .new (inputs ++ again)).state.lifecycle = .running ∧
      (run step .new (inputs ++ again)).gatewayPolicy = some {} := by
  intro inputs again
  exact ⟨quiescent_of_threads inputs (by decide) (by decide), by decide, by decide, by decide,
    by decide⟩

/-! ## 6. Calls that nobody interrupts -/

/-- The calls that are whole operations of `EngineState`. -/
def whole : Turn → Option (Op EngineState EngineError Unit)
  | .init => some EngineState.init
  | .beginShutdown => some EngineState.beginShutdown
  | .shutdown => some EngineState.shutdown
  | .markFailed | .setGatewayPolicy _ | .clearGatewayPolicy | .proceed => none

theorem step_start {last : Option (EngineResult Unit)} (hlock : s.lock = none)
    (hidle : s.phase t = .idle last) (turn : Turn) : s.step (t, turn) = s.start t turn := by
  simp [step, heldBy, hlock, hidle]

/-- A call whose steps follow each other does what the whole operation does. -/
theorem run_uninterrupted {turn : Turn} {op : Op EngineState EngineError Unit}
    {last : Option (EngineResult Unit)} (hwhole : whole turn = some op) (hlock : s.lock = none)
    (hidle : s.phase t = .idle last) :
    let s' := run step s ((t, turn) :: List.replicate 4 (t, .proceed))
    s'.state = (exec op s.state).2 ∧ s'.lock = none ∧
      s'.phase t = .idle (some (exec op s.state).1) := by
  obtain ⟨⟨initialized, requested, lifecycle⟩, policy, lock, phase⟩ := s
  obtain rfl : lock = none := hlock
  simp only [run_cons, step_start rfl hidle, List.replicate]
  cases turn with
  | init =>
    obtain rfl := Option.some.inj hwhole
    cases lifecycle <;> simp [EngineState.init, exec_atomically, step, heldBy, Sys.start, locked,
      finish, hold, Sys.goto, Sys.inside, storeLifecycle, storeRequested, storeInitialized, release]
  | beginShutdown =>
    obtain rfl := Option.some.inj hwhole
    cases lifecycle <;> simp [EngineState.beginShutdown, exec_atomically, step, heldBy, Sys.start,
      locked, finish, hold, Sys.goto, Sys.inside, storeLifecycle, storeRequested, release]
  | shutdown =>
    obtain rfl := Option.some.inj hwhole
    cases lifecycle <;> simp [EngineState.shutdown, exec_atomically, step, heldBy, Sys.start,
      locked, finish, hold, Sys.goto, Sys.inside, storeLifecycle, storeRequested, storeInitialized,
      storePolicy, release]
  | markFailed | setGatewayPolicy _ | clearGatewayPolicy | proceed => nomatch hwhole

end Sys

end EngineState.Concurrent

end NetworkEngine
