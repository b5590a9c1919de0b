import NetworkEngine.Engine.Completion
import NetworkEngine.Ffi.Custody
import NetworkEngine.Lib.Transition

/-!
# Protocol — the packet calls of a session

The host injects, reads and acts on packets in any order, and every native call may fail.  All that
a call can do to the handle table and to the bus is listed once, in `Effect`; the properties of
whole sessions are read off that list.
-/

namespace NetworkEngine

open Rust Transition

namespace Ffi

variable {handles : HandleTable} {bus : PacketBus} {o : PacketObservation} {h : UInt64}

/-! ## 1. Calls -/

/-- The calls of a session, with what each takes from its environment, and the packets that the
capture worker receives in between. -/
inductive PacketCall where
  | inject (clock : InjectClock) (args : InjectArgs)
  | captured (id : ObservationId) (packet : InterceptedPacket) (captured ingested : Timestamp)
  | read (env : ProcessingEnv) (descriptorNotNull : Bool)
  | release (handle : UInt64)
  | drop (handle : UInt64)
  | pass (n : ReinjectOutcomes) (handle : UInt64)
  | modify (n : ReinjectOutcomes) (modified : Option Bytes) (handle : UInt64)
  | reinject (n : ReinjectOutcomes) (handle : UInt64)

namespace PacketCall

/-- The handle of a terminal action. -/
def onHandle : PacketCall → Option UInt64
  | .release h | .drop h | .pass _ h | .modify _ _ h | .reinject _ h => some h
  | .inject .. | .captured .. | .read .. => none

/-- The call may put an observation on the bus. -/
def publishes : PacketCall → Bool
  | .inject .. | .captured .. => true
  | .read .. | .release _ | .drop _ | .pass .. | .modify .. | .reinject .. => false

/-- What an action on `o` sends in its place. -/
def sends (o : PacketObservation) : PacketCall → Option (ReinjectOutcomes × Bytes)
  | .pass n _ | .reinject n _ => some (n, o.packet.rawBytes)
  | .modify n modified _ => modified.map fun data => (n, data)
  | .inject .. | .captured .. | .read .. | .release _ | .drop _ => none

end PacketCall

section Session

variable (hash : IdentityInput → UInt64)

def perform : PacketCall → FfiOp Unit
  | .inject clock args => packetInject clock args
  | .captured id packet captured ingested => do
    let _ : EngineResult Unit ←
      attempt (onEngine (EngineRuntime.capturePacket id packet captured ingested))
  | .read env descriptorNotNull => do
    let _ ← packetRead hash env descriptorNotNull
  | .release h => packetRelease h
  | .drop h => packetDrop h
  | .pass n h => packetPass n h
  | .modify n modified h => packetModify n modified h
  | .reinject n h => packetReinject n h

def packetStep (s : FfiState) (call : PacketCall) : FfiState := (exec (perform hash call) s).2

/-- The call returns `NE_OK`. -/
def Succeeds (s : FfiState) (call : PacketCall) : Prop :=
  returnValue (exec (perform hash call) s).1 = 0

/-- The handle that a read gives out. -/
def issued (s : FfiState) : PacketCall → Option UInt64
  | .read env descriptorNotNull =>
    (exec (packetRead hash env descriptorNotNull) s).1.toOption.map (·.packetHandle)
  | _ => none

/-- The id of the observation that the bus takes in. -/
def accepted (s : FfiState) : PacketCall → Option ObservationId
  | .inject clock args =>
    (exec (packetInject clock args) s).1.toOption.map fun _ => s.nextInjected
  | .captured id packet captured ingested =>
    (exec (onEngine (EngineRuntime.capturePacket id packet captured ingested)) s).1.toOption.map
      fun _ => id
  | _ => none

/-- The call sends an observation with the id out, in its own words or in others. -/
def Reinjects (s : FfiState) (call : PacketCall) (id : ObservationId) : Prop :=
  ∃ h o n data context e, call.onHandle = some h ∧ s.packetHandles.lookup h = some o ∧
    o.observationId = id ∧ call.sends o = some (n, data) ∧
    observationContextForWindivert o = some context ∧ s.engine = some e ∧
    (exec (EngineRuntime.windivertReinject n data context) e).1 = .ok ()

/-! ## 2. What a call does -/

/-- All that a call can do to the table and to the bus. -/
inductive Effect (s : FfiState) (call : PacketCall) (bus : PacketBus) :
    HandleTable → PacketBus → Prop where
  | acted {h : UInt64} {o : PacketObservation} (hcall : call.onHandle = some h)
      (hok : Succeeds hash s call) (hlookup : s.packetHandles.lookup h = some o) :
      Effect s call bus (s.packetHandles.erase h) (bus.dropRecord o.observationId)
  | refused {h : UInt64} (hcall : call.onHandle = some h) (hfailed : ¬ Succeeds hash s call) :
      Effect s call bus s.packetHandles bus
  | issued {h : UInt64} {o : PacketObservation} {b : PacketBus} (hcall : call.onHandle = none)
      (hissued : issued hash s call = some h) (hzero : h ≠ 0)
      (hnew : s.packetHandles.lookup h = none) (hread : IsRead bus o b) :
      Effect s call bus (s.packetHandles.insert h o) (b.setOwner o.observationId .host)
  | published {id : ObservationId} {b : PacketBus} (hcall : call.onHandle = none)
      (haccepted : accepted s call = some id) (hpublished : Published bus id b) :
      Effect s call bus s.packetHandles b
  | quiet {b : PacketBus} (hcall : call.onHandle = none) (hquiet : Quiet bus b) :
      Effect s call bus s.packetHandles b

variable {hash} {s : FfiState} {call : PacketCall}

/-- From `s`, the call leads to `s'` with one of its effects. -/
def Leads (hash : IdentityInput → UInt64) (s : FfiState) (call : PacketCall) (bus : PacketBus)
    (s' : FfiState) : Prop :=
  ∃ e', s'.engine = some e' ∧ Effect hash s call bus s'.packetHandles e'.packetBus

theorem Leads.of_where {s' : FfiState} {P : PacketBus → Prop} (hs' : Where handles P s')
    (hP : ∀ b, P b → Effect hash s call bus handles b) : Leads hash s call bus s' := by
  obtain ⟨rfl, e', he', hbus⟩ := hs'
  exact ⟨e', he', hP _ hbus⟩

/-- A call whose work is a terminal action. -/
theorem leads_of_action {work : PacketObservation → FfiOp Unit} (hwork : Terminal work)
    (hperform : perform hash call = terminalAction work h) (hcall : call.onHandle = some h)
    (howned : Owned s.packetHandles bus) (hs : Where s.packetHandles (· = bus) s) :
    Leads hash s call bus (packetStep hash s call) := by
  have hrun := terminalAction_triple hwork howned h s hs
  rw [packetStep]
  -- The code that the call returns decides between the two ends of the action.
  match hexec : exec (perform hash call) s with
  | (.ok _, s') =>
    have hok : Succeeds hash s call := by rw [Succeeds, hexec]; rfl
    rw [← hperform, hexec] at hrun
    obtain ⟨o, hlookup, hs'⟩ := hrun
    refine Leads.of_where hs' ?_
    rintro _ rfl
    exact .acted hcall hok hlookup
  | (.error code, s') =>
    have hfailed : ¬ Succeeds hash s call := by
      rw [Succeeds, hexec, returnValue_eq_zero]
      exact nofun
    rw [← hperform, hexec] at hrun
    refine Leads.of_where hrun ?_
    rintro _ rfl
    exact .refused hcall hfailed

/-- A call that publishes one observation, or leaves the bus as it is. -/
theorem leads_of_publication {ε : Type} {x : Op FfiState ε Unit} {id : ObservationId}
    {pre : FfiState → Prop} (hcall : call.onHandle = none)
    (hstep : packetStep hash s call = (exec x s).2)
    (haccepted : accepted s call = (exec x s).1.toOption.map fun _ => id)
    (hx : Triple pre x (fun _ => Where s.packetHandles (Published bus id))
      (fun _ => Where s.packetHandles (· = bus))) (hs : pre s) :
    Leads hash s call bus (packetStep hash s call) := by
  have hrun := hx s hs
  rw [hstep]
  rcases hexec : exec x s with ⟨code | _, s'⟩
  · rw [hexec] at hrun
    refine Leads.of_where hrun ?_
    rintro _ rfl
    exact .quiet hcall (Quiet.refl _)
  · rw [hexec] at hrun haccepted
    exact Leads.of_where hrun fun b hb => .published hcall haccepted hb

/-- A session between two calls: there is an engine, and the handles are its records in `Host`. -/
structure Session (s : FfiState) (e : EngineRuntime) : Prop where
  engine : s.engine = some e
  owned : Owned s.packetHandles e.packetBus

/-- One call, as seen from the table and from the bus. -/
theorem packetStep_leads (hash : IdentityInput → UInt64) {e : EngineRuntime} (hs : Session s e)
    (call : PacketCall) :
    Leads hash s call e.packetBus (packetStep hash s call) := by
  have hwhere : Where s.packetHandles (· = e.packetBus) s := ⟨rfl, e, hs.engine, rfl⟩
  cases call with
  | release h => exact leads_of_action (releaseWork_terminal _) rfl rfl hs.owned hwhere
  | drop h => exact leads_of_action (releaseWork_terminal _) rfl rfl hs.owned hwhere
  | pass n h => exact leads_of_action (reinjectWork_terminal n _ _) rfl rfl hs.owned hwhere
  | reinject n h => exact leads_of_action (reinjectWork_terminal n _ _) rfl rfl hs.owned hwhere
  | modify n modified h =>
    -- A null pointer and an empty buffer are refused before the table is touched.
    have hinvalid (hperform : perform hash (.modify n modified h) =
        fail .invalidArgument "invalid modified packet input") :
        Leads hash s (.modify n modified h) e.packetBus
          (packetStep hash s (.modify n modified h)) := by
      rw [packetStep, hperform]
      refine Leads.of_where (P := (· = e.packetBus)) hwhere ?_
      rintro _ rfl
      refine .refused rfl ?_
      rw [Succeeds, hperform]
      exact nofun
    cases modified with
    | none => exact hinvalid rfl
    | some data =>
      by_cases hempty : data.isEmpty = true
      · exact hinvalid (if_pos hempty)
      · exact leads_of_action (reinjectWork_terminal n (fun _ => data) _) (if_neg hempty) rfl
          hs.owned hwhere
  | inject clock args =>
    exact leads_of_publication rfl rfl rfl (packetInject_triple clock args s.nextInjected e.packetBus)
      ⟨hwhere, rfl⟩
  | captured id packet captured ingested =>
    exact leads_of_publication
      (x := onEngine (EngineRuntime.capturePacket id packet captured ingested)) rfl rfl rfl
      (capturePacket_triple id packet captured ingested e.packetBus) hwhere
  | read env descriptorNotNull =>
    -- A read gives a handle out, or puts the observation back where the host does not see it.
    have hrun := packetRead_triple hash env descriptorNotNull e.packetBus s hwhere
    have hstep : packetStep hash s (.read env descriptorNotNull) =
        (exec (packetRead hash env descriptorNotNull) s).2 := exec_bind_pure_snd s _ _
    rw [hstep]
    match hexec : exec (packetRead hash env descriptorNotNull) s with
    | (.ok d, s') =>
      rw [hexec] at hrun
      obtain ⟨hzero, hnew, o, hs'⟩ := hrun
      refine Leads.of_where hs' ?_
      rintro _ ⟨b, hb, rfl⟩
      refine .issued rfl ?_ hzero hnew hb
      show (exec (packetRead hash env descriptorNotNull) s).1.toOption.map _ = _
      rw [hexec]
      rfl
    | (.error code, s') =>
      rw [hexec] at hrun
      exact Leads.of_where hrun fun b hb => .quiet rfl hb

/-! ## 3. What a session keeps -/

theorem Session.step (hash : IdentityInput → UInt64) {e : EngineRuntime} (hs : Session s e)
    (call : PacketCall) : ∃ e', Session (packetStep hash s call) e' := by
  obtain ⟨e', he', heffect⟩ := packetStep_leads hash hs call
  refine ⟨e', he', ?_⟩
  -- The step is known by its effect; what state it came from does not matter any more.
  generalize (packetStep hash s call).packetHandles = handles' at heffect
  generalize e'.packetBus = bus' at heffect
  cases heffect with
  | acted _ _ hlookup => exact hs.owned.release hlookup
  | refused => exact hs.owned
  | issued _ _ hzero hnew hread =>
    exact (hs.owned.quiet hread.1).issue hzero hnew hread.2
  | published _ _ hpublished => exact hpublished.owned hs.owned
  | quiet _ hquiet => exact hs.owned.quiet hquiet

/-- An action that does not return `NE_OK` leaves every handle and every record as it was. -/
def FailureLeaves (hash : IdentityInput → UInt64) (s : FfiState) (call : PacketCall) : Prop :=
  call.onHandle ≠ none → ¬ Succeeds hash s call →
    (packetStep hash s call).packetHandles = s.packetHandles ∧
    (packetStep hash s call).engine.map (·.packetBus) = s.engine.map (·.packetBus)

theorem Session.failureLeaves {e : EngineRuntime} (hs : Session s e) (call : PacketCall) :
    FailureLeaves hash s call := by
  intro haction hfailed
  obtain ⟨e', he', heffect⟩ := packetStep_leads hash hs call
  rw [he', hs.engine]
  generalize (packetStep hash s call).packetHandles = handles' at heffect
  show handles' = _ ∧ some e'.packetBus = some e.packetBus
  generalize e'.packetBus = bus' at heffect
  cases heffect with
  | acted _ hok => exact absurd hok hfailed
  | refused => exact ⟨rfl, rfl⟩
  | issued hcall | published hcall | quiet hcall => exact absurd hcall haction

/-- After a successful action its handle is gone. -/
theorem Session.acted {e : EngineRuntime} (hs : Session s e) (hcall : call.onHandle = some h)
    (hok : Succeeds hash s call) :
    ∃ o e', s.packetHandles.lookup h = some o ∧
      (packetStep hash s call).packetHandles = s.packetHandles.erase h ∧
      (packetStep hash s call).engine = some e' ∧
      e'.packetBus = e.packetBus.dropRecord o.observationId := by
  obtain ⟨e', he', heffect⟩ := packetStep_leads hash hs call
  generalize hhandles : (packetStep hash s call).packetHandles = handles' at heffect
  generalize hbus : e'.packetBus = bus' at heffect
  cases heffect with
  | acted hcall' _ hlookup =>
    -- A call has one handle.
    obtain rfl := Option.some.inj (hcall.symm.trans hcall')
    exact ⟨_, e', hlookup, rfl, he', hbus⟩
  | refused _ hfailed => exact absurd hok hfailed
  | issued hcall' | published hcall' | quiet hcall' =>
    rw [hcall] at hcall'
    nomatch hcall'

/-- A handle that is not in the table stays out of it until a read gives it out. -/
theorem Session.lookup_none {e : EngineRuntime} (hs : Session s e)
    (hnone : s.packetHandles.lookup h = none) (hissued : ¬ issued hash s call = some h) :
    (packetStep hash s call).packetHandles.lookup h = none := by
  obtain ⟨e', he', heffect⟩ := packetStep_leads hash hs call
  generalize (packetStep hash s call).packetHandles = handles' at heffect ⊢
  generalize e'.packetBus = bus' at heffect
  cases heffect with
  | acted =>
    rw [Table.lookup_erase]
    split
    · rfl
    · exact hnone
  | issued _ hissued' =>
    rw [Table.lookup_insert, if_neg, hnone]
    rintro rfl
    exact hissued hissued'
  | refused | published | quiet => exact hnone

/-- An id without a record gets one only from an accepted observation. -/
theorem Session.ownerOf_none (hash : IdentityInput → UInt64) {e : EngineRuntime}
    {id : ObservationId} (hs : Session s e)
    (hnone : e.packetBus.ownerOf id = none) (haccepted : ¬ accepted s call = some id) :
    ∃ e', (packetStep hash s call).engine = some e' ∧ e'.packetBus.ownerOf id = none := by
  obtain ⟨e', he', heffect⟩ := packetStep_leads hash hs call
  refine ⟨e', he', ?_⟩
  generalize (packetStep hash s call).packetHandles = handles' at heffect
  generalize e'.packetBus = bus' at heffect
  cases heffect with
  | acted =>
    rw [PacketBus.ownerOf_dropRecord]
    split
    · rfl
    · exact hnone
  | refused => exact hnone
  | issued _ _ _ _ hread =>
    have hfresh := hread.1.fresh id hnone
    rw [PacketBus.ownerOf_setOwner, if_neg, hfresh]
    rintro rfl
    -- What is read has a record, in `Processing`.
    rw [hread.2] at hfresh
    nomatch hfresh
  | published _ haccepted' hpublished =>
    rw [hpublished.2.2 id, hnone]
    rintro rfl
    exact haccepted haccepted'
  | quiet _ hquiet => exact hquiet.fresh id hnone

/-! ### Reinjection -/

/-- Once the driver has sent the packet, nothing stands between the action and its success. -/
theorem reinjectWork_triple {e : EngineRuntime} {n : ReinjectOutcomes} {data context : Bytes}
    (f : EngineStatistics → EngineStatistics) (he : s.engine = some e)
    (hhost : e.packetBus.ownerOf o.observationId = some .host)
    (hcontext : observationContextForWindivert o = some context)
    (hsent : (exec (EngineRuntime.windivertReinject n data context) e).1 = .ok ()) :
    Triple (· = s) (reinjectWork n data f o) (fun _ _ => True) (fun _ _ => False) := by
  have hrequire : Triple (· = s) requireEngine (fun _ => (· = s))
      (fun (_ : NeCode) (_ : FfiState) => False) := by
    rintro _ rfl
    rw [requireEngine, exec_bind_ok (exec_getState _), he]
    rfl
  have hreinject : Triple (· = s) (callEngine (EngineRuntime.windivertReinject n data context))
      (fun _ => Where s.packetHandles (· = e.packetBus)) (fun _ _ => False) := by
    rintro s rfl
    obtain ⟨action, haction⟩ :=
      (EngineRuntime.windivertReinject_keeps n data context e).run ⟨e.windivertAction, rfl⟩
    have hengine : exec (onEngine (EngineRuntime.windivertReinject n data context)) s =
        (.ok (), { s with engine := some { e with windivertAction := action } }) := by
      rw [onEngine_some _ he, hsent, haction]
    rw [callEngine, exec_bind_ok (exec_attempt _ _), hengine]
    exact ⟨rfl, _, rfl, rfl⟩
  rw [reinjectWork, hcontext]
  refine hrequire.bind fun _ => hreinject.bind fun _ => ?_
  refine (releaseHostObservation_where hhost).bind fun _ => (count_where f).bind fun _ => ?_
  exact Triple.post_mono setLastError_where fun _ _ _ => trivial

theorem windivertReinject_nonempty {e : EngineRuntime} {n : ReinjectOutcomes} {data context : Bytes}
    (hsent : (exec (EngineRuntime.windivertReinject n data context) e).1 = .ok ()) :
    ¬ data.isEmpty = true := by
  intro hempty
  rw [EngineRuntime.windivertReinject, exec_bind] at hsent
  match hrunning : exec EngineRuntime.requireRunning e with
  | (.ok _, e') =>
    rw [hrunning] at hsent
    dsimp only at hsent
    rw [exec_bind_ok (exec_getState e'), if_pos hempty] at hsent
    nomatch hsent
  | (.error _, e') =>
    rw [hrunning] at hsent
    nomatch hsent

/-- A call that sends a packet out succeeds. -/
theorem Session.reinjects_succeeds (hash : IdentityInput → UInt64) {e : EngineRuntime}
    {id : ObservationId} (hs : Session s e) (h : Reinjects s call id) : Succeeds hash s call := by
  obtain ⟨h, o, n, data, context, e', hcall, hlookup, rfl, hsends, hcontext, he', hsent⟩ := h
  obtain rfl := Option.some.inj (hs.engine.symm.trans he')
  have hzero : h ≠ 0 := by
    rintro rfl
    rw [hs.owned.nonzero] at hlookup
    nomatch hlookup
  -- The action is a `terminalAction` around the work that sends the data.
  have hact (work : PacketObservation → FfiOp Unit) (f : EngineStatistics → EngineStatistics)
      (hwork : work o = reinjectWork n data f o)
      (hperform : perform hash call = terminalAction work h) : Succeeds hash s call := by
    have hdone := reinjectWork_triple (s := { s with packetHandles := s.packetHandles.erase h }) f
      hs.engine (hs.owned.host h o hlookup) hcontext hsent _ rfl
    rw [Succeeds, returnValue_eq_zero, hperform, terminalAction,
      exec_bind_ok (takePacketHandle_some hzero hlookup), orRestore,
      exec_bind_ok (exec_attempt _ _), hwork]
    rcases hexec : exec (reinjectWork n data f o)
      { s with packetHandles := s.packetHandles.erase h } with ⟨code | ⟨⟩, s'⟩
    · rw [hexec] at hdone
      exact hdone.elim
    · exact ⟨(), rfl⟩
  cases call with
  | inject | captured | read | release | drop => cases hsends
  | pass n' h' | reinject n' h' =>
    -- Both send the observation's own bytes.
    obtain ⟨rfl, rfl⟩ := Prod.mk.inj (Option.some.inj hsends)
    obtain rfl := Option.some.inj hcall
    exact hact (fun o => reinjectWork n' o.packet.rawBytes (·.recordForwarded) o)
      (·.recordForwarded) rfl rfl
  | modify n' modified h' =>
    obtain ⟨data', hmodified, hpair⟩ := Option.map_eq_some_iff.mp hsends
    obtain ⟨rfl, rfl⟩ := Prod.mk.inj hpair
    obtain rfl := Option.some.inj hcall
    subst hmodified
    exact hact (reinjectWork n' data' fun statistics => statistics.recordForwarded.recordModification)
      (fun statistics => statistics.recordForwarded.recordModification) rfl
      -- What the driver has sent was not empty.
      (if_neg (windivertReinject_nonempty hsent))

/-! ## 4. Frames -/

section Messages

variable {inv : FfiState → Prop} (hmessage : ∀ s lastError, inv s → inv { s with lastError })

include hmessage

theorem setLastError_keeps (message : String) : Keeps inv (setLastError message) :=
  Keeps.modifyState fun s hs => hmessage s message hs

theorem fail_triple {α : Type} {code : NeCode} {message : String} {post : α → FfiState → Prop} :
    Triple inv (fail code message : FfiOp α) post (fun _ => inv) :=
  Triple.bind (setLastError_keeps hmessage message) fun _ => Triple.throw fun _ hs => hs

end Messages

/-- An invariant that survives texts, and the operations of the engine that leave its core alone. -/
structure Framed (inv : FfiState → Prop) : Prop where
  message : ∀ s lastError, inv s → inv { s with lastError }
  engine : ∀ {α : Type} (x : EngineOp α), EngineRuntime.KeepsCore x → Keeps inv (onEngine x)

/-- It does not look at the handles. -/
structure TableFramed (inv : FfiState → Prop) : Prop extends Framed inv where
  table : ∀ s packetHandles handleCounter, inv s → inv { s with packetHandles, handleCounter }

namespace Framed

variable {inv : FfiState → Prop} {α : Type}

theorem setLastError (hinv : Framed inv) {message : String} :
    Keeps inv (Ffi.setLastError message) := setLastError_keeps hinv.message message

theorem fail (hinv : Framed inv) {code : NeCode} {message : String} {post : α → FfiState → Prop} :
    Triple inv (Ffi.fail code message : FfiOp α) post (fun _ => inv) := fail_triple hinv.message

theorem callEngine (hinv : Framed inv) {x : EngineOp α} (hx : Keeps inv (onEngine x)) :
    Keeps inv (Ffi.callEngine x) := by
  refine hx.attempt.bind fun r => ?_
  cases r with
  | ok a => exact Keeps.pure
  | error error => exact hinv.fail

theorem callCore (hinv : Framed inv) {x : EngineOp α} (hx : EngineRuntime.KeepsCore x) :
    Keeps inv (Ffi.callEngine x) := hinv.callEngine (hinv.engine x hx)

theorem requireEngine (hinv : Framed inv) : Keeps inv Ffi.requireEngine :=
  Keeps.getState.bind fun _ => Keeps.ite hinv.fail Keeps.pure

theorem release (hinv : Framed inv) (o : PacketObservation) (f : EngineStatistics → EngineStatistics) :
    Keeps inv (do releaseHostObservation o; count f; Ffi.setLastError "OK") :=
  (hinv.callCore (EngineRuntime.onBus_core _)).bind fun _ =>
    (hinv.callCore (EngineRuntime.onStatistics_core f)).bind fun _ => hinv.setLastError

theorem releaseWork (hinv : Framed inv) (f : EngineStatistics → EngineStatistics)
    (o : PacketObservation) : Keeps inv (Ffi.releaseWork f o) :=
  hinv.requireEngine.bind fun _ => hinv.release o f

theorem reinjectWork (hinv : Framed inv) (n : ReinjectOutcomes) (data : Bytes)
    (f : EngineStatistics → EngineStatistics) (o : PacketObservation) :
    Keeps inv (Ffi.reinjectWork n data f o) := by
  unfold Ffi.reinjectWork
  split
  · exact hinv.fail
  · refine hinv.requireEngine.bind fun _ => ?_
    refine (hinv.callCore (EngineRuntime.windivertReinject_core n data _)).bind fun _ => ?_
    exact hinv.release o f

theorem injectPublish (hinv : Framed inv) (clock : InjectClock) (o : PacketObservation) :
    Keeps inv (Ffi.injectPublish clock o) := by
  refine hinv.requireEngine.bind fun _ => ?_
  refine (hinv.callCore (EngineRuntime.ingestObservation_core clock.ingested o)).bind fun _ => ?_
  exact hinv.setLastError

-- An injection also draws an id.
theorem packetInject (hinv : Framed inv) (hnext : ∀ s nextInjected, inv s → inv { s with nextInjected })
    (clock : InjectClock) (args : InjectArgs) : Keeps inv (Ffi.packetInject clock args) := by
  have hdraw : Keeps inv nextInjectedObservationId :=
    Keeps.getState.bind fun _ => Keeps.bind (Keeps.modifyState fun s hs => hnext s _ hs) fun _ =>
      Keeps.pure
  have hobservation : Keeps inv (injectObservation clock args) := by
    unfold injectObservation
    split
    · exact hinv.fail
    apply Keeps.ite hinv.fail
    split
    · exact hinv.fail
    · exact hinv.fail
    · exact hdraw.bind fun _ => Keeps.pure
  exact hobservation.bind fun o => hinv.injectPublish clock o

end Framed

namespace TableFramed

variable {inv : FfiState → Prop} {α : Type}

theorem onTable (hinv : TableFramed inv) (f : HandleTable → HandleTable) :
    Keeps inv (modifyState fun s => { s with packetHandles := f s.packetHandles } : FfiOp Unit) :=
  Keeps.modifyState fun s hs => hinv.table s _ _ hs

theorem counter (hinv : TableFramed inv) (handleCounter : UInt64) :
    Keeps inv (modifyState fun s => { s with handleCounter } : FfiOp Unit) :=
  Keeps.modifyState fun s hs => hinv.table s _ _ hs

theorem takePacketHandle (hinv : TableFramed inv) (h : UInt64) :
    Keeps inv (Ffi.takePacketHandle h) := by
  apply Keeps.ite hinv.fail
  refine Keeps.getState.bind fun _ => ?_
  split
  · exact hinv.fail
  · exact (hinv.onTable _).bind fun _ => Keeps.pure

theorem restorePacketHandle (hinv : TableFramed inv) (h : UInt64) (o : PacketObservation) :
    Keeps inv (Ffi.restorePacketHandle h o) :=
  Keeps.getState.bind fun _ => (hinv.onTable _).bind fun _ => Keeps.ite hinv.fail Keeps.pure

theorem terminalAction (hinv : TableFramed inv) {work : PacketObservation → FfiOp Unit}
    (hwork : ∀ o, Keeps inv (work o)) (h : UInt64) : Keeps inv (Ffi.terminalAction work h) := by
  refine (hinv.takePacketHandle h).bind fun o => (hwork o).attempt.bind fun r => ?_
  cases r with
  | ok _ => exact Keeps.pure
  | error code => exact (hinv.restorePacketHandle h o).bind fun _ => Keeps.throw

theorem requeue (hinv : TableFramed inv) (o : PacketObservation) : Keeps inv (Ffi.requeue o) :=
  (hinv.engine _ (EngineRuntime.onBus_core _)).attempt.bind fun _ => Keeps.pure

theorem issueHandle (hinv : TableFramed inv) (o : PacketObservation) :
    Keeps inv (Ffi.issueHandle o) := by
  have hnext : Keeps inv nextHandle :=
    Keeps.getState.bind fun _ => (hinv.counter _).bind fun _ =>
      Keeps.ite Keeps.pure ((hinv.counter _).bind fun _ => Keeps.pure)
  refine hnext.bind fun h => Keeps.getState.bind fun s => ?_
  apply Keeps.ite ((hinv.requeue o).bind fun _ => hinv.fail)
  refine (hinv.onTable _).bind fun _ => ?_
  refine (hinv.engine _ (EngineRuntime.onBus_core _)).attempt.bind fun r => ?_
  cases r with
  | ok _ => exact hinv.setLastError.bind fun _ => Keeps.pure
  | error error =>
    exact (hinv.onTable _).bind fun _ => (hinv.requeue o).bind fun _ => hinv.fail

theorem packetRead (hinv : TableFramed inv) (hash : IdentityInput → UInt64) (env : ProcessingEnv)
    (descriptorNotNull : Bool) : Keeps inv (Ffi.packetRead hash env descriptorNotNull) := by
  apply Keeps.ite hinv.fail
  refine hinv.requireEngine.bind fun _ => ?_
  refine (hinv.callCore (EngineRuntime.onBus_core _)).bind fun r => ?_
  cases r with
  | none => exact hinv.fail
  | some o =>
    refine (hinv.engine _ (EngineRuntime.processObservation_core hash env o)).attempt.bind
      fun r => ?_
    cases r with
    | error error => exact (hinv.requeue o).bind fun _ => hinv.fail
    | ok _ => exact Keeps.ite ((hinv.requeue o).bind fun _ => hinv.fail) (hinv.issueHandle o)

/-- Reads and actions keep the invariant. -/
theorem perform (hinv : TableFramed inv) (hash : IdentityInput → UInt64) {call : PacketCall}
    (hcall : call.publishes = false) : Keeps inv (Ffi.perform hash call) := by
  cases call with
  | inject | captured => nomatch hcall
  | read env descriptorNotNull =>
    exact (hinv.packetRead hash env descriptorNotNull).bind fun _ => Keeps.pure
  | release h | drop h => exact hinv.terminalAction (hinv.releaseWork _) h
  | pass n h | reinject n h =>
    exact hinv.terminalAction (fun o => hinv.reinjectWork n _ _ o) h
  | modify n modified h =>
    cases modified with
    | none => exact hinv.fail
    | some data =>
      exact Keeps.ite hinv.fail (hinv.terminalAction (fun o => hinv.reinjectWork n _ _ o) h)

end TableFramed

/-! ## 5. Whole sessions -/

/-- The packet-handle protocol, for every sequence of calls on one engine session: between two
calls the handles are the records in `Host`, one for one; of two successful actions on a handle the
second follows a read that gave the handle out again; an action that fails leaves handles and
records as they were; and of two reinjections of an observation id the second is that of another
observation, accepted in between. -/
theorem packet_handle_protocol (hash : IdentityInput → UInt64) (c : EngineConfig)
    (n : NativeOutcomes) (sync : EngineResult Unit) (e₀ : EngineRuntime)
    (hinit : EngineRuntime.initializeRuntime c n sync = .ok e₀) (handleCounter nextInjected : UInt64)
    (lastError : String) (calls : List PacketCall) :
    Always (packetStep hash) (fun s => ∃ e, Session s e)
        ⟨some e₀, ∅, handleCounter, nextInjected, lastError⟩ calls ∧
      (∀ h, Once (packetStep hash) (fun s call => call.onHandle = some h ∧ Succeeds hash s call)
        (fun s call => issued hash s call = some h)
        ⟨some e₀, ∅, handleCounter, nextInjected, lastError⟩ calls) ∧
      Along (packetStep hash) (FailureLeaves hash)
        ⟨some e₀, ∅, handleCounter, nextInjected, lastError⟩ calls ∧
      ∀ id, Once (packetStep hash) (fun s call => Reinjects s call id)
        (fun s call => accepted s call = some id)
        ⟨some e₀, ∅, handleCounter, nextInjected, lastError⟩ calls := by
  obtain ⟨capacity, hbus⟩ := (EngineRuntime.fresh_of_init hinit).bus
  have hstart : ∃ e, Session ⟨some e₀, ∅, handleCounter, nextInjected, lastError⟩ e :=
    ⟨e₀, rfl, by rw [hbus]; exact Owned.empty capacity⟩
  have hstep (s : FfiState) (call : PacketCall) (hs : ∃ e, Session s e) :
      ∃ e, Session (packetStep hash s call) e := by
    obtain ⟨e, hs⟩ := hs
    exact hs.step hash call
  refine ⟨fun before _ _ => run_inv hstep hstart before, fun h => ?_, ?_, fun id => ?_⟩
  -- Off: the handle is not in the table.
  · refine once_of_off (fun s => s.packetHandles.lookup h = none) hstep ?_ ?_ ?_ hstart calls
    · rintro s call ⟨e, hs⟩ ⟨hcall, hok⟩
      obtain ⟨o, e', -, hhandles, -⟩ := hs.acted hcall hok
      rw [hhandles]
      exact Finmap.lookup_erase h _
    · rintro s call ⟨e, hs⟩ hnone hissued
      exact hs.lookup_none hnone hissued
    · rintro s call ⟨e, hs⟩ hnone ⟨hcall, hok⟩
      obtain ⟨o, e', hlookup, -⟩ := hs.acted hcall hok
      rw [hnone] at hlookup
      nomatch hlookup
  · intro before call after _
    obtain ⟨e, hs⟩ := run_inv hstep hstart before
    exact hs.failureLeaves call
  -- Off: the id has no record.
  · refine once_of_off (fun s => ∃ e, s.engine = some e ∧ e.packetBus.ownerOf id = none)
      hstep ?_ ?_ ?_ hstart calls
    · rintro s call ⟨e, hs⟩ hreinjects
      have hok := hs.reinjects_succeeds hash hreinjects
      obtain ⟨h, o, n, data, context, -, hcall, hlookup, rfl, -⟩ := hreinjects
      obtain ⟨o', e', hlookup', -, he', hdrop⟩ := hs.acted hcall hok
      obtain rfl := Option.some.inj (hlookup.symm.trans hlookup')
      refine ⟨e', he', ?_⟩
      rw [hdrop, PacketBus.ownerOf_dropRecord, if_pos rfl]
    · rintro s call ⟨e, hs⟩ ⟨e', he', hnone⟩ haccepted
      obtain rfl := Option.some.inj (hs.engine.symm.trans he')
      exact hs.ownerOf_none hash hnone haccepted
    · rintro s call ⟨e, hs⟩ ⟨e', he', hnone⟩ hreinjects
      obtain rfl := Option.some.inj (hs.engine.symm.trans he')
      -- The handle's record would be in `Host`.
      obtain ⟨h, o, n, data, context, -, -, hlookup, rfl, -⟩ := hreinjects
      rw [hs.owned.host h o hlookup] at hnone
      nomatch hnone

def oneByte : Bytes := ⟨[0x45], by decide⟩

/-- A packet that is captured, and read as handle 1. -/
def captureAndRead : List PacketCall :=
  [.captured 1 (.fromNative oneByte ⟨.replicate 8 0, 0, 0, .replicate 64 0⟩) ⟨1⟩ ⟨1⟩,
    .read ⟨⟨0, 0⟩, fun _ => .ok⟩ true]

/-- In a session that captures, reads and passes one packet, a second pass of it would follow a
read that gives the handle out again. -/
theorem packet_handle_protocol_pass :
    EngineRuntime.initializeRuntime EngineRuntime.smallConfig EngineRuntime.allSucceed (.ok ()) =
        .ok (EngineRuntime.initialEngine EngineRuntime.smallConfig) ∧
      Succeeds (fun _ => 0) (run (packetStep fun _ => 0)
        ⟨some (EngineRuntime.initialEngine EngineRuntime.smallConfig), ∅, 1, 1, ""⟩ captureAndRead)
        (.pass ⟨some 1, true, some 1⟩ 1) ∧
      Once (packetStep fun _ => 0)
        (fun s call => call.onHandle = some 1 ∧ Succeeds (fun _ => 0) s call)
        (fun s call => issued (fun _ => 0) s call = some 1)
        ⟨some (EngineRuntime.initialEngine EngineRuntime.smallConfig), ∅, 1, 1, ""⟩
        (captureAndRead ++ [.pass ⟨some 1, true, some 1⟩ 1, .pass ⟨some 1, true, some 1⟩ 1]) := by
  have hinit := EngineRuntime.initializeRuntime_ok (c := EngineRuntime.smallConfig)
    (n := EngineRuntime.allSucceed) rfl rfl
  refine ⟨hinit, ?_, (packet_handle_protocol _ _ _ _ _ hinit 1 1 "" _).2.1 1⟩
  unfold Succeeds
  decide +kernel

end Session

end Ffi

end NetworkEngine
