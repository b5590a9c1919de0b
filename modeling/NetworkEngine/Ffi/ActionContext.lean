import NetworkEngine.Capture.WinDivert
import NetworkEngine.Engine.NativeSend
import NetworkEngine.Engine.QueueContents
import NetworkEngine.Ffi.Sessions

/-!
# ActionContext — the WinDivert address on its way back

The capture worker serializes the address of a packet into its observation, and the action of the
host that sends the packet reads it back.  In between the observation lies in the queue, in the
handle table or in the hands of a call, and a call that fails puts it back.  Nothing on the way
makes an observation with a context, and nothing writes to one.
-/

namespace NetworkEngine

open Rust Transition

variable {P : PacketObservation → Prop} {o : PacketObservation}

namespace Ffi

/-! ## 1. The native calls of an action -/

section Traced

variable (helper : ChecksumHelper)

/-- `onEngine`, with the native calls. -/
def onEngineTraced {α : Type} (x : Op (Logged EngineRuntime NativeCall) EngineError α) :
    Op (Logged FfiState NativeCall) EngineError α := fun t =>
  match t.1.engine with
  | none => (.error .notInitialized, t)
  | some e =>
    let r := exec x (e, t.2)
    (r.1, { t.1 with engine := some r.2.1 }, r.2.2)

def callEngineTraced {α : Type} (x : Op (Logged EngineRuntime NativeCall) EngineError α) :
    Op (Logged FfiState NativeCall) NeCode α := do
  match ← attempt (onEngineTraced x) with
  | .ok a => return a
  | .error (error : EngineError) => onObject (errorToC error)

def reinjectWorkTraced (n : ReinjectOutcomes) (data : Bytes)
    (f : EngineStatistics → EngineStatistics) (observation : PacketObservation) :
    Op (Logged FfiState NativeCall) NeCode Unit :=
  match observationContextForWindivert observation with
  | none => onObject (fail .actionFailed "packet has no native WinDivert action context")
  | some context => do
    onObject requireEngine
    callEngineTraced (EngineRuntime.windivertReinjectTraced helper n data context)
    onObject (releaseHostObservation observation)
    onObject (count f)
    onObject (setLastError "OK")

namespace Action

def workTraced (n : ReinjectOutcomes) :
    Action → PacketObservation → Op (Logged FfiState NativeCall) NeCode Unit
  | release, o => onObject (releaseWork id o)
  | drop, o => onObject (releaseWork (·.recordDropRequested) o)
  | pass, o | reinject, o => reinjectWorkTraced helper n o.packet.rawBytes (·.recordForwarded) o
  | modify data _, o =>
    reinjectWorkTraced helper n data
      (fun statistics => statistics.recordForwarded.recordModification) o

/-- What the action sends. -/
def payload (o : PacketObservation) : Action → Option Bytes
  | release | drop => none
  | pass | reinject => some o.packet.rawBytes
  | modify data _ => some data

end Action

theorem onEngineTraced_erases {α : Type} {x : Op (Logged EngineRuntime NativeCall) EngineError α}
    {y : EngineOp α} (h : Erases x y) : Erases (onEngineTraced x) (onEngine y) := by
  intro t
  show ((onEngineTraced x t).1, (onEngineTraced x t).2.1) = onEngine y t.1
  unfold onEngineTraced onEngine
  cases t.1.engine with
  | none => rfl
  | some e =>
    simp only
    rw [← h (e, t.2)]

theorem callEngineTraced_erases {α : Type} {x : Op (Logged EngineRuntime NativeCall) EngineError α}
    {y : EngineOp α} (h : Erases x y) : Erases (callEngineTraced x) (callEngine y) := by
  apply (onEngineTraced_erases h).attempt.bind
  intro r
  cases r with
  | ok a => exact .pure a
  | error error => exact .onObject _

theorem reinjectWorkTraced_erases (n : ReinjectOutcomes) (data : Bytes)
    (f : EngineStatistics → EngineStatistics) (o : PacketObservation) :
    Erases (reinjectWorkTraced helper n data f o) (reinjectWork n data f o) := by
  unfold reinjectWorkTraced reinjectWork
  cases observationContextForWindivert o with
  | none => exact .onObject _
  | some context =>
    apply Erases.bind (.onObject _)
    intro _
    apply (callEngineTraced_erases
      (EngineRuntime.windivertReinjectTraced_erases helper n data context)).bind
    intro _
    apply Erases.bind (.onObject _)
    intro _
    apply Erases.bind (.onObject _)
    intro _
    exact .onObject _

/-- Without its native calls, the traced work is the work. -/
theorem Action.workTraced_erases (n : ReinjectOutcomes) (a : Action) (o : PacketObservation) :
    Erases (a.workTraced helper n o) (a.work n o) := by
  cases a with
  | release | drop => exact .onObject _
  | pass | reinject | modify => exact reinjectWorkTraced_erases helper n _ _ o

/-! ### What is handed over -/

variable {helper} {Q : NativeCall → Prop}

theorem onEngineTraced_writes {α : Type} {x : Op (Logged EngineRuntime NativeCall) EngineError α}
    (h : Writes Q x) : Writes Q (onEngineTraced x) := by
  apply Keeps.of_run
  intro t ht
  show ∀ call ∈ (onEngineTraced x t).2.2, Q call
  unfold onEngineTraced
  cases t.1.engine with
  | none => exact ht
  | some e => exact h.run (s := (e, t.2)) ht

theorem callEngineTraced_writes {α : Type} {x : Op (Logged EngineRuntime NativeCall) EngineError α}
    (h : Writes Q x) : Writes Q (callEngineTraced x) := by
  apply (onEngineTraced_writes h).attempt.bind
  intro r
  cases r with
  | ok a => exact Keeps.pure
  | error error =>
    show Writes Q (onObject (errorToC error))
    exact .onObject _

theorem reinjectWorkTraced_writes {n : ReinjectOutcomes} {data : Bytes}
    {f : EngineStatistics → EngineStatistics}
    (h : ∀ context, observationContextForWindivert o = some context →
      Writes Q (EngineRuntime.windivertReinjectTraced helper n data context)) :
    Writes Q (reinjectWorkTraced helper n data f o) := by
  unfold reinjectWorkTraced
  split
  · exact Writes.onObject _
  · rename_i context hcontext
    apply Keeps.bind (Writes.onObject _)
    intro _
    apply Keeps.bind (callEngineTraced_writes (h context hcontext))
    intro _
    apply Keeps.bind (Writes.onObject _)
    intro _
    exact Keeps.bind (Writes.onObject _) fun _ => Writes.onObject _

/-- The native calls of an action are those of its reinjection. -/
theorem Action.workTraced_writes {n : ReinjectOutcomes} {a : Action}
    (h : ∀ data context, a.payload o = some data → observationContextForWindivert o = some context →
      Writes Q (EngineRuntime.windivertReinjectTraced helper n data context)) :
    Writes Q (a.workTraced helper n o) := by
  cases a with
  | release | drop => exact Writes.onObject _
  | pass | reinject | modify => exact reinjectWorkTraced_writes fun context => h _ context rfl

/-- The native calls of the work on an entry. -/
def Action.nativeCalls (helper : ChecksumHelper) (n : ReinjectOutcomes) (a : Action)
    (o : PacketObservation) (s : FfiState) : List NativeCall :=
  (exec (a.workTraced helper n o) (s, [])).2.2

theorem Action.of_mem_nativeCalls {n : ReinjectOutcomes} {a : Action} {s : FfiState}
    {call : NativeCall} (hcall : call ∈ a.nativeCalls helper n o s)
    (h : ∀ data context, a.payload o = some data → observationContextForWindivert o = some context →
      Writes Q (EngineRuntime.windivertReinjectTraced helper n data context)) : Q call :=
  (Action.workTraced_writes h).run (s := (s, [])) (fun _ hmem => nomatch hmem) call hcall

/-- Without a context nothing is sent, and nothing is sent in place of a packet that is given up. -/
theorem Action.nativeCalls_context {n : ReinjectOutcomes} {a : Action} {s : FfiState}
    {call : NativeCall} (hcall : call ∈ a.nativeCalls helper n o s) :
    ∃ data context, a.payload o = some data ∧ observationContextForWindivert o = some context := by
  by_contra hnone
  push Not at hnone
  refine Action.of_mem_nativeCalls (Q := fun _ => False) hcall ?_
  intro data context hdata hcontext
  exact absurd hcontext (hnone data context hdata)

end Traced

/-! ## 2. What the statics hold -/

/-- Every observation that is queued, or behind a handle, satisfies `P`. -/
structure Holds (P : PacketObservation → Prop) (s : FfiState) : Prop where
  table : ∀ h o, s.packetHandles.lookup h = some o → P o
  queue : ∀ e, s.engine = some e → e.Carries P

section Holds

variable {α : Type} {s : FfiState} {h : UInt64}

theorem Holds.insert (hs : Holds P s) (ho : P o) (h : UInt64) :
    Holds P { s with packetHandles := s.packetHandles.insert h o } where
  table h' o' hlookup := by
    rw [Table.lookup_insert] at hlookup
    split at hlookup
    · exact Option.some.inj hlookup ▸ ho
    · exact hs.table h' o' hlookup
  queue := hs.queue

theorem Holds.erase (hs : Holds P s) (h : UInt64) :
    Holds P { s with packetHandles := s.packetHandles.erase h } where
  table h' o' hlookup := by
    rw [Table.lookup_erase] at hlookup
    split at hlookup
    · nomatch hlookup
    · exact hs.table h' o' hlookup
  queue := hs.queue

theorem onEngine_holds {post : α → Prop} {x : EngineOp α}
    (hx : Triple (EngineRuntime.Carries P) x (fun a e => e.Carries P ∧ post a)
      (fun _ => EngineRuntime.Carries P)) :
    Triple (Holds P) (onEngine x) (fun a s => Holds P s ∧ post a) (fun _ => Holds P) := by
  intro s hs
  cases he : s.engine with
  | none =>
    have hexec : exec (onEngine x) s = (.error .notInitialized, s) := by
      show onEngine x s = _
      rw [onEngine, he]
    rw [hexec]
    exact hs
  | some e =>
    have hrun := hx e (hs.queue e he)
    rw [onEngine_some x he]
    rcases hexec : exec x e with ⟨error | a, e'⟩
    · rw [hexec] at hrun
      exact ⟨hs.table, fun _ hsome => Option.some.inj hsome ▸ hrun⟩
    · rw [hexec] at hrun
      exact ⟨⟨hs.table, fun _ hsome => Option.some.inj hsome ▸ hrun.1⟩, hrun.2⟩

theorem onEngine_keeps_holds {x : EngineOp α} (hx : Keeps (EngineRuntime.Carries P) x) :
    Keeps (Holds P) (onEngine x) := by
  have hx' : Triple (EngineRuntime.Carries P) x (fun _ e => e.Carries P ∧ True)
      (fun _ => EngineRuntime.Carries P) := hx.post_mono fun _ _ he => ⟨he, trivial⟩
  exact (onEngine_holds hx').post_mono fun _ _ hs => hs.1

theorem message_holds (s : FfiState) (lastError : String) (hs : Holds P s) :
    Holds P { s with lastError } :=
  ⟨hs.table, hs.queue⟩

theorem fail_holds {code : NeCode} {message : String} {post : α → FfiState → Prop} :
    Triple (Holds P) (fail code message : FfiOp α) post (fun _ => Holds P) :=
  fail_triple message_holds

theorem callEngine_holds {post : α → Prop} {x : EngineOp α}
    (hx : Triple (EngineRuntime.Carries P) x (fun a e => e.Carries P ∧ post a)
      (fun _ => EngineRuntime.Carries P)) :
    Triple (Holds P) (callEngine x) (fun a s => Holds P s ∧ post a) (fun _ => Holds P) := by
  apply (onEngine_holds hx).attempt.bind
  intro r
  cases r with
  | ok a => exact Triple.pure fun _ hs => hs
  | error error => exact fail_holds

theorem callEngine_keeps_holds {x : EngineOp α} (hx : Keeps (EngineRuntime.Carries P) x) :
    Keeps (Holds P) (callEngine x) := by
  apply (onEngine_keeps_holds hx).attempt.bind
  intro r
  cases r with
  | ok a => exact Keeps.pure
  | error error => exact fail_holds

theorem requireEngine_holds : Keeps (Holds P) requireEngine :=
  Keeps.getState.bind fun _ => Keeps.ite fail_holds Keeps.pure

/-! ### Actions -/

theorem release_holds (o : PacketObservation) (f : EngineStatistics → EngineStatistics) :
    Keeps (Holds P) (do releaseHostObservation o; count f; setLastError "OK") := by
  apply Keeps.bind (callEngine_keeps_holds
    (EngineRuntime.onBus_carries (PacketBus.releaseFrom_carries _ (by decide))))
  intro _
  apply Keeps.bind (callEngine_keeps_holds (EngineRuntime.onStatistics_carries f))
  intro _
  exact setLastError_keeps message_holds "OK"

theorem reinjectWork_holds (n : ReinjectOutcomes) (data : Bytes)
    (f : EngineStatistics → EngineStatistics) (o : PacketObservation) :
    Keeps (Holds P) (reinjectWork n data f o) := by
  unfold reinjectWork
  split
  · exact fail_holds
  · apply requireEngine_holds.bind
    intro _
    apply (callEngine_keeps_holds (EngineRuntime.windivertReinject_carries n data _)).bind
    intro _
    exact release_holds o f

theorem Action.work_holds (n : ReinjectOutcomes) (a : Action) (o : PacketObservation) :
    Keeps (Holds P) (a.work n o) := by
  cases a with
  | release | drop => exact requireEngine_holds.bind fun _ => release_holds o _
  | pass | reinject | modify => exact reinjectWork_holds n _ _ o

/-! ### Injections and reads -/

/-- An injected packet has no context. -/
theorem packetInject_holds (hinject : ∀ o : PacketObservation, o.nativeContext = none → P o)
    (clock : InjectClock) (args : InjectArgs) : Keeps (Holds P) (packetInject clock args) := by
  have hdraw : Keeps (Holds P) nextInjectedObservationId := by
    apply Keeps.getState.bind
    intro _
    exact Keeps.bind (Keeps.modifyState fun _ hs => ⟨hs.table, hs.queue⟩) fun _ => Keeps.pure
  have hobservation : Triple (Holds P) (injectObservation clock args)
      (fun o s => Holds P s ∧ o.nativeContext = none) (fun _ => Holds P) := by
    unfold injectObservation
    split
    · exact fail_holds
    split
    · exact fail_holds
    split
    · exact fail_holds
    · exact fail_holds
    · exact Triple.bind hdraw fun _ => Triple.pure fun _ hs => ⟨hs, rfl⟩
  apply hobservation.bind
  intro o
  apply Triple.of_fact
  intro hnone
  apply requireEngine_holds.bind
  intro _
  have hingest : Keeps (EngineRuntime.Carries P)
      (EngineRuntime.ingestObservation clock.ingested o) :=
    -- The time of the ingestion is no context.
    EngineRuntime.ingestObservation_carries (hinject _ hnone)
  apply (callEngine_keeps_holds hingest).bind
  intro _
  exact setLastError_keeps message_holds "OK"

theorem requeue_holds (ho : P o) : Keeps (Holds P) (requeue o) :=
  (onEngine_keeps_holds
    (EngineRuntime.onBus_carries (PacketBus.requeueProcessing_carries ho))).attempt.bind
      fun _ => Keeps.pure

theorem issueHandle_holds (ho : P o) : Keeps (Holds P) (issueHandle o) := by
  have hcounter (handleCounter : UInt64) :
      Keeps (Holds P) (modifyState fun s => { s with handleCounter } : FfiOp Unit) :=
    Keeps.modifyState fun _ hs => ⟨hs.table, hs.queue⟩
  have hnext : Keeps (Holds P) nextHandle :=
    Keeps.getState.bind fun _ => (hcounter _).bind fun _ =>
      Keeps.ite Keeps.pure ((hcounter _).bind fun _ => Keeps.pure)
  apply hnext.bind
  intro h
  apply Keeps.getState.bind
  intro s
  apply Keeps.ite ((requeue_holds ho).bind fun _ => fail_holds)
  apply Keeps.bind (Keeps.modifyState fun _ hs => hs.insert ho h)
  intro _
  apply (onEngine_keeps_holds
    (EngineRuntime.onBus_carries (PacketBus.transferToHost_carries _))).attempt.bind
  intro r
  cases r with
  | ok _ => exact (setLastError_keeps message_holds "OK").bind fun _ => Keeps.pure
  | error error =>
    apply Keeps.bind (Keeps.modifyState fun _ hs => hs.erase h)
    intro _
    exact (requeue_holds ho).bind fun _ => fail_holds

theorem packetRead_holds (hash : IdentityInput → UInt64) (env : ProcessingEnv)
    (descriptorNotNull : Bool) : Keeps (Holds P) (packetRead hash env descriptorNotNull) := by
  apply Keeps.ite fail_holds
  apply requireEngine_holds.bind
  intro _
  apply (callEngine_holds (EngineRuntime.onBus_carries PacketBus.tryRead_carries)).bind
  intro r
  cases r with
  | none => exact Triple.pre_mono fail_holds fun _ hs => hs.1
  | some o =>
    apply Triple.of_fact
    intro hread
    have ho := hread o rfl
    apply (onEngine_keeps_holds
      (EngineRuntime.processObservation_carries hash env o)).attempt.bind
    intro r
    cases r with
    | error error => exact (requeue_holds ho).bind fun _ => fail_holds
    | ok _ => exact Keeps.ite ((requeue_holds ho).bind fun _ => fail_holds) (issueHandle_holds ho)

end Holds

/-! ## 3. From the capture to the action -/

/-- The entry in the hands of a thread. -/
def Phase.entry : Phase → Option (UInt64 × PacketObservation)
  | taken _ h o _ | restoring h o _ => some (h, o)
  | idle | clearing => none

namespace Process

/-- The event is a read that gives `h` out for `o`. -/
def Gives (hash : IdentityInput → UInt64) (s : Process) (event : Event) (h : UInt64)
    (o : PacketObservation) : Prop :=
  ∃ env descriptorNotNull, event = .call (.read env descriptorNotNull) ∧ s.lock = none ∧
    issued hash s.ffi (.read env descriptorNotNull) = some h ∧
    (packetStep hash s.ffi (.read env descriptorNotNull)).packetHandles.lookup h = some o

/-- Every observation satisfies `P`, wherever it is, and every handle stands for one that it was
given out for in the sense of `R`. -/
structure Traced (P : PacketObservation → Prop) (R : UInt64 → PacketObservation → Prop)
    (s : Process) : Prop where
  holds : Holds P s.ffi
  table : ∀ h o, s.ffi.packetHandles.lookup h = some o → R h o
  flight : ∀ c h o, (s.phase c).entry = some (h, o) → P o ∧ R h o

/-- What the event brings in is traced too. -/
structure Admits (hash : IdentityInput → UInt64) (P : PacketObservation → Prop)
    (R : UInt64 → PacketObservation → Prop) (s : Process) (event : Event) : Prop where
  injected : ∀ o : PacketObservation, o.nativeContext = none → P o
  captured : ∀ id packet captured ingested,
    event = .call (.captured id packet captured ingested) →
      P (packet.toObservation id captured ingested)
  given : ∀ h o, s.Gives hash event h o → R h o

variable {hash : IdentityInput → UInt64} {R : UInt64 → PacketObservation → Prop} {s s' : Process}
  {event : Event}

theorem Traced.next (h : s.Traced P R) (hphase : s'.phase = s.phase) (hholds : Holds P s'.ffi)
    (htable : ∀ handle o, s'.ffi.packetHandles.lookup handle = some o → R handle o) :
    s'.Traced P R := by
  refine ⟨hholds, htable, ?_⟩
  rw [hphase]
  exact h.flight

/-- The call leaves the table alone. -/
theorem Traced.withFfi (h : s.Traced P R) {ffi : FfiState} (hholds : Holds P ffi)
    (htable : ffi.packetHandles = s.ffi.packetHandles) : ({ s with ffi } : Process).Traced P R := by
  refine h.next rfl hholds ?_
  intro handle o hlookup
  replace hlookup : ffi.packetHandles.lookup handle = some o := hlookup
  rw [htable] at hlookup
  exact h.table handle o hlookup

theorem Traced.setPhase (h : s.Traced P R) (c : ThreadId) {phase : Phase}
    (hentry : ∀ handle o, phase.entry = some (handle, o) → P o ∧ R handle o) :
    (s.setPhase c phase).Traced P R := by
  refine ⟨h.holds, h.table, ?_⟩
  intro c' handle o hflight
  rw [setPhase_phase] at hflight
  split at hflight
  · exact hentry handle o hflight
  · exact h.flight c' handle o hflight

theorem Traced.take (h : s.Traced P R) (c : ThreadId) (a : Action) (handle : UInt64) :
    (s.take c a handle).Traced P R := by
  unfold Process.take
  split
  · obtain ⟨o, hlookup, hexec⟩ | ⟨message, hexec⟩ := takePacketHandle_cases s.ffi handle
    · rw [hexec]
      have htaken : ({ s with ffi := { s.ffi with
          packetHandles := s.ffi.packetHandles.erase handle } } : Process).Traced P R := by
        refine h.next rfl (h.holds.erase handle) ?_
        intro handle' o' hlookup'
        rw [Table.lookup_erase] at hlookup'
        split at hlookup'
        · nomatch hlookup'
        · exact h.table handle' o' hlookup'
      apply htaken.setPhase c
      -- The entry has left the table for the hands of the thread.
      intro handle' o' hentry
      obtain ⟨rfl, rfl⟩ := Prod.mk.inj (Option.some.inj hentry)
      exact ⟨h.holds.table handle o hlookup, h.table handle o hlookup⟩
    · rw [hexec]
      exact h.withFfi (message_holds _ message h.holds) rfl
  · exact h

theorem Traced.work (h : s.Traced P R) (c : ThreadId) (n : ReinjectOutcomes) :
    (s.work c n).Traced P R := by
  unfold Process.work
  split
  · rename_i a handle o session hphase
    have hworked : ({ s with ffi := (exec (a.work n o) s.ffi).2 } : Process).Traced P R := by
      apply h.withFfi ((a.work_holds n o).run h.holds)
      exact ((a.work_keeps (framed_unmoved s.ffi) n o).run (Unmoved.refl s.ffi)).1
    have hentry (handle' : UInt64) (o' : PacketObservation)
        (heq : Phase.entry (.restoring handle o session) = some (handle', o')) :
        P o' ∧ R handle' o' := by
      apply h.flight c
      rw [hphase]
      exact heq
    split
    · exact hworked.setPhase c hentry
    split
    · exact h
    split
    · rename_i hexec
      rw [hexec] at hworked
      exact hworked.setPhase c fun _ _ hnone => nomatch hnone
    · rename_i hexec
      rw [hexec] at hworked
      have hlocked := hworked.setPhase c hentry
      exact ⟨hlocked.holds, hlocked.table, hlocked.flight⟩
  · exact h

theorem Traced.restore (h : s.Traced P R) (c : ThreadId) : (s.restore c).Traced P R := by
  unfold Process.restore
  split
  · rename_i handle o session hphase
    obtain ⟨ho, hgiven⟩ := h.flight c handle o (by rw [hphase]; rfl)
    obtain ⟨r, message, hexec⟩ := restorePacketHandle_exec s.ffi handle o
    rw [hexec]
    refine Traced.setPhase ?_ c fun _ _ hnone => nomatch hnone
    refine h.next rfl (message_holds _ message (h.holds.insert ho handle)) ?_
    intro handle' o' hlookup
    rw [Table.lookup_insert] at hlookup
    split at hlookup
    · rename_i heq
      rw [heq, ← Option.some.inj hlookup]
      exact hgiven
    · exact h.table handle' o' hlookup
  · exact h

theorem shutdownEngine_holds (n : NativeOutcomes) : Keeps (Holds P) (shutdownEngine n) := by
  apply requireEngine_holds.bind
  intro _
  apply (callEngine_keeps_holds EngineRuntime.shutdown_carries).bind
  intro _
  exact Keeps.modifyState fun _ hs => ⟨hs.table, fun _ hsome => nomatch hsome⟩

theorem Traced.shutdown (h : s.Traced P R) (c : ThreadId) (n : NativeOutcomes) :
    (s.shutdown c n).Traced P R := by
  have hrun := shutdownEngine_triple n s.ffi s.ffi (Unmoved.refl s.ffi)
  have hholds := (shutdownEngine_holds n).run h.holds
  unfold Process.shutdown
  split
  · split
    · rename_i ffi hexec
      rw [hexec] at hrun hholds
      have hnext : Process.Traced P R (({ s with ffi } : Process).setPhase c .clearing) :=
        (h.withFfi hholds hrun.1).setPhase c fun _ _ hnone => nomatch hnone
      exact ⟨hnext.holds, hnext.table, hnext.flight⟩
    · rename_i hexec
      rw [hexec] at hrun hholds
      exact h.withFfi hholds hrun.1
  · exact h

theorem Traced.clear (h : s.Traced P R) (c : ThreadId) : (s.clear c).Traced P R := by
  unfold Process.clear
  split
  · have hempty (handle : UInt64) : (∅ : HandleTable).lookup handle = none :=
      Finmap.lookup_empty handle
    refine Traced.setPhase ?_ c fun _ _ hnone => nomatch hnone
    refine h.next rfl ?_ ?_
    · constructor
      · intro handle o hlookup
        exact nomatch (hempty handle).symm.trans hlookup
      · exact h.holds.queue
    · intro handle o hlookup
      exact nomatch (hempty handle).symm.trans hlookup
  · exact h

theorem Traced.init (h : s.Traced P R) (prepared : Option String) (config : Option NeInitConfig)
    (n : NativeOutcomes) (sync : EngineResult Unit) :
    (s.init prepared config n sync).Traced P R := by
  have hmessage (ffi : FfiState) (lastError : String)
      (hffi : Holds P ffi ∧ ffi.packetHandles = s.ffi.packetHandles) :
      Holds P { ffi with lastError } ∧ ffi.packetHandles = s.ffi.packetHandles :=
    ⟨message_holds ffi lastError hffi.1, hffi.2⟩
  have hrun := networkInit_triple hmessage prepared config n sync s.ffi ⟨h.holds, rfl⟩
  unfold Process.init
  split
  · exact h
  split
  · rename_i hexec
    rw [hexec] at hrun
    obtain ⟨ffi₁, config, ⟨hholds, htable⟩, -, rfl⟩ := hrun
    refine h.next rfl ?_ ?_
    · refine ⟨hholds.table, ?_⟩
      rintro _ ⟨⟩
      exact PacketBus.carries_new _
    · intro handle o hlookup
      replace hlookup : ffi₁.packetHandles.lookup handle = some o := hlookup
      rw [htable] at hlookup
      exact h.table handle o hlookup
  · rename_i hexec
    rw [hexec] at hrun
    exact h.withFfi hrun.1 hrun.2

theorem Traced.onEngine (h : s.Traced P R) {x : EngineOp Unit}
    (hx : Keeps (EngineRuntime.Carries P) x) : (s.onEngine x).Traced P R := by
  unfold Process.onEngine
  split
  · exact h
  · exact h.withFfi ((onEngine_keeps_holds hx).run h.holds)
      ((onEngine_unmoved x s.ffi).run (Unmoved.refl s.ffi)).1

theorem Traced.call (h : s.Traced P R) (call : PacketCall)
    (hadmits : Admits hash P R s (.call call)) : (s.call hash call).Traced P R := by
  have hframed := framed_unmoved s.ffi
  cases call with
  | release | drop | pass | modify | reinject => exact h
  | captured id packet captured ingested =>
    have hx : Keeps (EngineRuntime.Carries P)
        (EngineRuntime.capturePacket id packet captured ingested) :=
      EngineRuntime.publishCounted_carries (hadmits.captured id packet captured ingested rfl)
    exact h.withFfi ((onEngine_keeps_holds hx).run h.holds)
      ((onEngine_unmoved _ s.ffi).run (Unmoved.refl s.ffi)).1
  | inject clock args =>
    show Process.Traced P R (if s.lock.isSome then s else _)
    split
    · exact h
    · apply h.withFfi ((packetInject_holds hadmits.injected clock args).run h.holds)
      exact ((hframed.packetInject (fun _ _ hffi => hffi) clock args).run (Unmoved.refl s.ffi)).1
  | read env descriptorNotNull =>
    show Process.Traced P R (if s.lock.isSome then s else _)
    split
    · exact h
    · rename_i hfree
      have hholds : Holds P (packetStep hash s.ffi (.read env descriptorNotNull)) :=
        ((packetRead_holds hash env descriptorNotNull).bind fun _ => Keeps.pure).run h.holds
      refine h.next rfl hholds ?_
      intro handle o hlookup
      replace hlookup : (packetStep hash s.ffi (.read env descriptorNotNull)).packetHandles.lookup
          handle = some o := hlookup
      obtain ⟨handle', o', hissued, -, htable, -⟩ | ⟨-, htable, -⟩ :=
        read_moves hash env descriptorNotNull s.ffi
      · by_cases heq : handle = handle'
        · apply hadmits.given
          exact ⟨env, descriptorNotNull, rfl, by simpa using hfree, heq ▸ hissued, hlookup⟩
        · rw [htable, Table.lookup_insert, if_neg heq] at hlookup
          exact h.table handle o hlookup
      · rw [htable] at hlookup
        exact h.table handle o hlookup

theorem Traced.step (h : s.Traced P R) (hadmits : Admits hash P R s event) :
    (s.step hash event).Traced P R := by
  cases event with
  | take c a handle => exact h.take c a handle
  | work c n => exact h.work c n
  | restore c => exact h.restore c
  | shutdown c n => exact h.shutdown c n
  | clear c => exact h.clear c
  | init prepared config n sync => exact h.init prepared config n sync
  | startBackend n name => exact h.onEngine EngineRuntime.startBackend_carries
  | stopBackend n name => exact h.onEngine EngineRuntime.stopBackend_carries
  | call call => exact h.call call hadmits

/-! ## 4. Every run -/

section Runs

variable (hash : IdentityInput → UInt64) (events : List Event)

/-- An observation of a captured packet, or one without a context. -/
def Origin (events : List Event) (o : PacketObservation) : Prop :=
  o.nativeContext = none ∨ ∃ id packet captured ingested,
    .call (.captured id packet captured ingested) ∈ events ∧
      o = packet.toObservation id captured ingested

/-- A read of the run gave the handle out for the observation. -/
def Given (h : UInt64) (o : PacketObservation) : Prop :=
  ∃ before event after, events = before ++ event :: after ∧
    (run (step hash) start before).Gives hash event h o

theorem start_traced {R : UInt64 → PacketObservation → Prop} : start.Traced P R := by
  have hempty (handle : UInt64) : (∅ : HandleTable).lookup handle = none :=
    Finmap.lookup_empty handle
  constructor
  · constructor
    · intro handle o hlookup
      exact nomatch (hempty handle).symm.trans hlookup
    · exact fun _ he => nomatch he
  · intro handle o hlookup
    exact nomatch (hempty handle).symm.trans hlookup
  · exact fun _ _ _ hentry => nomatch hentry

theorem run_traced :
    (run (step hash) start events).Traced (Origin events) (Given hash events) := by
  apply run_inv_of_along (fun s event h hadmits => h.step hadmits) start_traced
  intro before event after hsplit
  constructor
  · exact fun o hnone => .inl hnone
  · rintro id packet captured ingested rfl
    right
    refine ⟨id, packet, captured, ingested, ?_, rfl⟩
    rw [hsplit]
    exact List.mem_append_right _ List.mem_cons_self
  · intro h o hgives
    exact ⟨before, event, after, hsplit, hgives⟩

/-- What a read gives a handle for was captured before the read. -/
theorem Gives.origin {before : List Event} {event : Event} {h : UInt64} {o : PacketObservation}
    (hgives : (run (step hash) start before).Gives hash event h o) : Origin before o := by
  have htraced := run_traced hash (before ++ [event])
  obtain ⟨env, descriptorNotNull, rfl, hfree, -, hlookup⟩ := hgives
  rw [run_append, run_cons, run_nil] at htraced
  generalize run (step hash) start before = s at hfree hlookup htraced
  have hstep : (s.step hash (.call (.read env descriptorNotNull))).ffi =
      packetStep hash s.ffi (.read env descriptorNotNull) := by
    show (if s.lock.isSome then s else _).ffi = _
    rw [hfree]
    rfl
  rw [← hstep] at hlookup
  obtain hnone | ⟨id, packet, captured, ingested, hmem, ho⟩ := htraced.holds.table h o hlookup
  · exact .inl hnone
  · right
    refine ⟨id, packet, captured, ingested, ?_, ho⟩
    rw [List.mem_append, List.mem_singleton] at hmem
    exact hmem.resolve_right fun heq => nomatch heq

/-- The packet was captured, and then a read gave the handle out for it. -/
def Received (packet : InterceptedPacket) (h : UInt64) (o : PacketObservation) : Prop :=
  ∃ before event after id captured ingested, events = before ++ event :: after ∧
    .call (.captured id packet captured ingested) ∈ before ∧
    o = packet.toObservation id captured ingested ∧
    (run (step hash) start before).Gives hash event h o

theorem Given.received {h : UInt64} {o : PacketObservation} (hgiven : Given hash events h o) :
    o.nativeContext = none ∨ ∃ packet, Received hash events packet h o := by
  obtain ⟨before, event, after, hsplit, hgives⟩ := hgiven
  obtain hnone | ⟨id, packet, captured, ingested, hmem, ho⟩ := hgives.origin
  · exact .inl hnone
  · exact .inr ⟨packet, before, event, after, id, captured, ingested, hsplit, hmem, ho, hgives⟩

variable (helper : ChecksumHelper) (c : ThreadId) (n : ReinjectOutcomes)

/-- The native calls that the thread makes when it works. -/
def nativeCalls (s : Process) : List NativeCall :=
  match s.phase c with
  | .taken a _ o _ =>
    if !a.refuses o && s.lock.isSome then [] else a.nativeCalls helper n o s.ffi
  | _ => []

/-- Every native call of the run is made with the address that the packet was captured with. -/
theorem nativeCalls_hands {call : NativeCall}
    (hcall : call ∈ (run (step hash) start events).nativeCalls helper c n) :
    ∃ a h o session packet data, (run (step hash) start events).phase c = .taken a h o session ∧
      Received hash events packet h o ∧ a.payload o = some data ∧
      WinDivertBackend.Hands helper data packet.address call := by
  have htraced := run_traced hash events
  generalize run (step hash) start events = s at hcall htraced
  unfold nativeCalls at hcall
  split at hcall
  · rename_i a h o session hphase
    have hgiven := (htraced.flight c h o (by rw [hphase]; rfl)).2
    split at hcall
    · exact absurd hcall List.not_mem_nil
    obtain ⟨data, context, hdata, hcontext⟩ := Action.nativeCalls_context hcall
    obtain hnone | ⟨packet, hreceived⟩ := hgiven.received
    · rw [observationContextForWindivert, hnone] at hcontext
      nomatch hcontext
    · refine ⟨a, h, o, session, packet, data, hphase, hreceived, hdata, ?_⟩
      apply Action.of_mem_nativeCalls hcall
      intro data' context' hdata' hcontext'
      obtain rfl := Option.some.inj (hdata.symm.trans hdata')
      obtain ⟨-, -, -, id, captured, ingested, -, -, rfl, -⟩ := hreceived
      -- The context is what the capture has spelled.
      obtain rfl := Option.some.inj hcontext'
      exact EngineRuntime.windivertReinjectTraced_writes helper n data
        (WinDivertAddress.fromBytes_toBytes packet.address)
  · exact absurd hcall List.not_mem_nil

/-- The codec is a bijection between the addresses and the strings of their length.  Every native
call of an action that sends is made for a packet that was captured and then read, with the address
that it was captured with or with what the checksum helper makes of that address; a helper that
only sets the checksum flags leaves the rest of the address to the send as it was captured. -/
theorem action_context_survives :
    (∀ bytes : Bytes, bytes.len = WinDivertAddress.serializedLen →
      ∃ a, WinDivertAddress.fromBytes bytes = some a ∧ a.toBytes = bytes) ∧
    (∀ a : WinDivertAddress, WinDivertAddress.fromBytes a.toBytes = some a) ∧
    (∀ bytes : Bytes, bytes.len ≠ WinDivertAddress.serializedLen →
      WinDivertAddress.fromBytes bytes = none) ∧
    ∀ hash events helper c n call,
      call ∈ (run (step hash) start events).nativeCalls helper c n →
      ∃ a h o session packet data,
        (run (step hash) start events).phase c = .taken a h o session ∧
        Received hash events packet h o ∧ a.payload o = some data ∧
        WinDivertBackend.Hands helper data packet.address call ∧
        ((∀ data address, WinDivertAddress.SameButChecksums address (helper data address).2) →
          WinDivertAddress.SameButChecksums packet.address call.address) := by
  refine ⟨?_, WinDivertAddress.fromBytes_toBytes, ?_, ?_⟩
  · intro bytes hlen
    cases hbytes : WinDivertAddress.fromBytes bytes with
    | none => exact absurd hlen (WinDivertAddress.fromBytes_eq_none.mp hbytes)
    | some a => exact ⟨a, rfl, WinDivertAddress.toBytes_fromBytes hbytes⟩
  · intro bytes
    exact WinDivertAddress.fromBytes_eq_none.mpr
  · intro hash events helper c n call hcall
    obtain ⟨a, h, o, session, packet, data, hphase, hreceived, hdata, hhands⟩ :=
      nativeCalls_hands hash events helper c n hcall
    refine ⟨a, h, o, session, packet, data, hphase, hreceived, hdata, hhands, fun hhelper => ?_⟩
    cases hhands with
    | inl hcall => exact hcall ▸ .refl packet.address
    | inr hcall => exact hcall ▸ hhelper data packet.address

end Runs

/-- An IPv4 header with its checksum. -/
def loopbackHeader : Bytes :=
  ⟨[0x45, 0, 0, 20, 0, 0, 0, 0, 0x40, 0x3b, 0x7c, 0xad, 127, 0, 0, 1, 127, 0, 0, 1], by decide⟩

/-- An outbound packet whose checksums the network card was to compute. -/
def offloaded : InterceptedPacket :=
  .fromNative loopbackHeader ⟨.replicate 8 0, 0x20000, 0, .replicate 64 0⟩

/-- The packet is captured, read as handle 1, and taken out to be passed. -/
def captureAndTake : List Event :=
  [.init none (some ⟨16, 16, 2048, 16⟩) EngineRuntime.allSucceed (.ok ()),
    .call (.captured 1 offloaded ⟨1⟩ ⟨1⟩), .call (.read ⟨⟨0, 0⟩, fun _ => .ok⟩ true),
    .take 0 .pass 1]

/-- The checksum helper sets the flag of the checksum that it has computed. -/
def setsIpChecksum : ChecksumHelper := fun data address =>
  (data, { address with flagsRaw := address.flagsRaw ||| 0x200000 })

theorem networkInit_ok {ffi : FfiState} {config : NeInitConfig} {n : NativeOutcomes}
    {sync : EngineResult Unit} {e : EngineRuntime} (hnone : ffi.engine = none)
    (hvalid : config.isValid = true)
    (hinit : EngineRuntime.initializeRuntime config.toEngineConfig n sync = .ok e) :
    exec (networkInit none (some config) n sync) ffi =
      (.ok (), { ffi with engine := some e, lastError := "OK" }) := by
  unfold networkInit
  simp only [Option.elim_none, exec_bind, exec_pure, exec_getState]
  rw [if_neg (by rw [hnone]; decide), if_neg (by rw [hvalid]; decide), hinit]
  rfl

/-- The address that is sent is not one that was received. -/
theorem sent_with_checksum_flag :
    ¬ ∀ hash events helper c n data address,
      .send data address ∈ (run (step hash) start events).nativeCalls helper c n →
      ∃ id packet captured ingested,
        .call (.captured id packet captured ingested) ∈ events ∧ address = packet.address := by
  intro hclaim
  have hinit := EngineRuntime.initializeRuntime_ok (c := EngineRuntime.smallConfig)
    (n := EngineRuntime.allSucceed) rfl rfl
  have hstart : start.step (fun _ => 0)
      (.init none (some ⟨16, 16, 2048, 16⟩) EngineRuntime.allSucceed (.ok ())) =
      ⟨⟨some (EngineRuntime.initialEngine EngineRuntime.smallConfig), ∅, 1, 1, "OK"⟩, none,
        fun _ => .idle, 1, fun _ => 0⟩ := by
    have hexec : exec (networkInit none (some ⟨16, 16, 2048, 16⟩) EngineRuntime.allSucceed (.ok ()))
        start.ffi = (.ok (), _) := networkInit_ok rfl rfl hinit
    show start.init _ _ _ _ = _
    unfold Process.init
    rw [hexec]
    rfl
  have hsent : .send loopbackHeader { offloaded.address with flagsRaw := 0x220000 } ∈
      (run (step fun _ => 0) start captureAndTake).nativeCalls setsIpChecksum 0
        ⟨some 1, true, some 20⟩ := by
    rw [captureAndTake, run_cons, hstart]
    decide +kernel
  obtain ⟨id, packet, captured, ingested, hmem, haddress⟩ := hclaim _ _ _ _ _ _ _ hsent
  -- One packet was captured, and its flag is not set.
  simp only [captureAndTake, List.mem_cons, List.not_mem_nil, or_false, reduceCtorEq, false_or,
    Event.call.injEq, PacketCall.captured.injEq] at hmem
  obtain ⟨-, rfl, -⟩ := hmem
  exact absurd haddress (by decide)

end Process

end Ffi

end NetworkEngine
