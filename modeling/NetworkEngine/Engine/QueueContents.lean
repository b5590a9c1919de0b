import NetworkEngine.Engine.Packets
import NetworkEngine.Engine.Shutdown

/-!
# QueueContents — what the queue of the bus carries

A property of the queued observations that every producer puts in is a property of every
observation that is read.  The operations of the engine are listed by what they put in the queue:
an ingestion one observation, a requeue the one that was read, and everything else none.
-/

namespace NetworkEngine

open Rust

variable {P : PacketObservation → Prop} {o : PacketObservation}

/-! ## 1. The bus -/

namespace PacketBus

/-- Every queued observation satisfies `P`. -/
def Carries (P : PacketObservation → Prop) (bus : PacketBus) : Prop := ∀ o ∈ bus.queue.items, P o

variable {bus : PacketBus}

theorem carries_new (capacity : Nat) : Carries P (.new capacity) :=
  fun _ hmem => absurd hmem List.not_mem_nil

theorem Carries.enqueue (h : Carries P bus) (ho : P o) :
    Carries P (bus.setItems (bus.queue.items ++ [o])) := by
  intro o' hmem
  rw [setItems_items, List.mem_append, List.mem_singleton] at hmem
  cases hmem with
  | inl hmem => exact h o' hmem
  | inr heq => exact heq ▸ ho

theorem Carries.dequeue (h : Carries P bus) {rest : List PacketObservation}
    (hitems : bus.queue.items = o :: rest) : P o ∧ Carries P (bus.setItems rest) := by
  unfold Carries at h
  rw [hitems] at h
  exact List.forall_mem_cons.mp h

theorem publish_carries (ho : P o) : Keeps (Carries P) (publishEngineOwned o) := by
  apply Keeps.of_run
  intro bus hbus
  by_cases haccepted : bus.ownerOf o.observationId = none ∧ bus.queue.Accepts
  · rw [← publish, publish_ok haccepted.1 haccepted.2]
    exact hbus.enqueue ho
  · obtain ⟨error, hexec⟩ := publish_error haccepted
    rw [← publish, hexec]
    exact hbus

/-- What is read was queued. -/
theorem tryRead_carries :
    Triple (Carries P) tryRead (fun r bus => Carries P bus ∧ ∀ o, r = some o → P o)
      (fun _ => Carries P) := by
  intro bus hbus
  cases hitems : bus.queue.items with
  | nil =>
    rw [tryRead_nil hitems]
    exact ⟨hbus, fun _ hsome => nomatch hsome⟩
  | cons o rest =>
    have hhead := hbus.dequeue hitems
    by_cases howner : bus.ownerOf o.observationId = some .bus
    · rw [tryRead_cons hitems howner]
      exact ⟨hhead.2, fun _ hsome => Option.some.inj hsome ▸ hhead.1⟩
    · obtain ⟨error, hexec⟩ := tryRead_lost hitems howner
      rw [hexec]
      exact hhead.2

theorem requeueProcessing_carries (ho : P o) : Keeps (Carries P) (requeueProcessing o) := by
  apply Keeps.of_run
  intro bus hbus
  by_cases howner : bus.ownerOf o.observationId = some .processing
  · by_cases hroom : bus.queue.Accepts
    · rw [requeueProcessing_ok howner hroom]
      exact hbus.enqueue ho
    · obtain ⟨error, hexec⟩ := requeueProcessing_stuck howner hroom
      rw [hexec]
      exact hbus
  · obtain ⟨error, hexec⟩ := requeueProcessing_error howner
    rw [hexec]
    exact hbus

theorem transferToHost_carries (id : ObservationId) : Keeps (Carries P) (transferToHost id) := by
  apply Keeps.of_run
  intro bus hbus
  by_cases howner : bus.ownerOf id = some .processing
  · rw [transferToHost, transfer_ok rfl howner]
    exact hbus
  · obtain ⟨error, hexec⟩ := transfer_error howner .host
    rw [transferToHost, hexec]
    exact hbus

theorem releaseFrom_carries (id : ObservationId) {owner : Owner} (hactive : owner ≠ .released) :
    Keeps (Carries P) (releaseFrom id owner) := by
  apply Keeps.of_run
  intro bus hbus
  exact releaseFrom_cases hactive hbus fun _ => hbus

end PacketBus

/-! ## 2. The engine -/

namespace EngineRuntime

open PacketBus

def Carries (P : PacketObservation → Prop) (e : EngineRuntime) : Prop := e.packetBus.Carries P

theorem onBus_carries {ε α : Type} {x : Op PacketBus ε α} {post : α → PacketBus → Prop}
    {epost : ε → PacketBus → Prop} (hx : Triple (PacketBus.Carries P) x post epost) :
    Triple (Carries P) (onBus x) (fun a e => post a e.packetBus)
      (fun error e => epost error e.packetBus) :=
  Triple.zoom (fun _ _ => rfl) hx

/-- What leaves the bus alone leaves the queue alone. -/
theorem keeps_carries {ε α : Type} {x : Op EngineRuntime ε α}
    (h : ∀ e, (exec x e).2.packetBus = e.packetBus) : Keeps (Carries P) x := by
  apply Keeps.of_run
  intro e he
  unfold Carries
  rw [h e]
  exact he

theorem onStatistics_carries {ε : Type} (f : EngineStatistics → EngineStatistics) :
    Keeps (Carries P) (onStatistics f : Op EngineRuntime ε Unit) := keeps_carries fun _ => rfl

/-! ### Packets -/

theorem publishCounted_carries (ho : P o) : Keeps (Carries P) (publishCounted o) := by
  apply (onBus_carries (publish_carries ho)).attempt.bind
  intro published
  have hcounted : Keeps (Carries P) (do
      onStatistics (countPublished o.packetLength published)
      ofResult published : EngineOp Unit) :=
    (onStatistics_carries _).bind fun _ => Keeps.ofResult
  cases published <;> exact hcounted

/-- Only the time of the ingestion is set. -/
theorem ingestObservation_carries {now : Timestamp}
    (ho : P { o with ingestionTimestamp := now }) :
    Keeps (Carries P) (ingestObservation now o) := by
  apply requireRunning_keeps.bind
  intro _
  apply Keeps.ite Keeps.throw
  apply Keeps.ite Keeps.throw
  exact publishCounted_carries ho

theorem processObservation_carries (hash : IdentityInput → UInt64) (env : ProcessingEnv)
    (o : PacketObservation) : Keeps (Carries P) (processObservation hash env o) :=
  requireRunning_keeps.bind fun _ => keeps_carries fun _ => rfl

theorem windivertReinject_carries (n : ReinjectOutcomes) (data context : Bytes) :
    Keeps (Carries P) (windivertReinject n data context) := by
  apply keeps_carries
  intro e
  obtain ⟨action, heq⟩ := (windivertReinject_keeps n data context e).run ⟨e.windivertAction, rfl⟩
  rw [heq]

/-! ### Backends -/

section Backends

variable {n : NativeOutcomes} {name : String}

theorem native_carries (kind : BackendKind) :
    Keeps (Carries P) (startNative n kind) ∧ Keeps (Carries P) (stopNative n kind) ∧
      Keeps (Carries P) (takeNative n kind) := by
  cases kind <;>
    exact ⟨keeps_carries fun _ => rfl, keeps_carries fun _ => rfl, keeps_carries fun _ => rfl⟩

theorem startBackend_carries : Keeps (Carries P) (startBackend n name) :=
  startBackend_keeps (fun _ => keeps_carries fun _ => rfl) (fun _ _ he => he)
    (onKind_keeps fun kind _ => (native_carries kind).1)

theorem stopBackend_carries : Keeps (Carries P) (stopBackend n name) :=
  stopBackend_keeps (fun _ => keeps_carries fun _ => rfl) (fun _ _ he => he)
    (onKind_keeps fun kind _ => (native_carries kind).2.1) (fun _ he _ => he) fun _ he => he

/-! ### The teardown -/

theorem drainBus_carries (fuel : Nat) : Keeps (Carries P) (drainBus fuel) := by
  induction fuel with
  | zero => exact Keeps.pure
  | succ fuel ih =>
    have hread : Keeps (Carries P) (onBus tryRead) :=
      (onBus_carries tryRead_carries).post_mono fun _ _ h => h.1
    apply hread.attempt.bind
    intro r
    match r with
    | .error _ => exact Keeps.pure
    | .ok none => exact Keeps.pure
    | .ok (some o) =>
      have hrelease : Keeps (Carries P) (onBus (releaseProcessing o.observationId)) :=
        onBus_carries (releaseFrom_carries _ (by decide))
      apply hrelease.attempt.bind
      intro released
      cases released with
      | ok _ => exact ih
      | error _ => exact (onStatistics_carries _).bind fun _ => ih

theorem closeBus_carries : Keeps (Carries P) closeBus := by
  have hclose : Keeps (Carries P) (onBus (modifyState PacketBus.close) : EngineOp Unit) :=
    onBus_carries (Keeps.modifyState fun _ h => h)
  exact hclose.bind fun _ => Keeps.getState.bind fun e => drainBus_carries _

theorem release_carries : Keeps (Carries P) (release n) := by
  apply release_keeps _ closeBus_carries
  · intro name
    exact stopOne_keeps (onKind_keeps fun kind _ => (native_carries kind).2.2)
      (fun _ => keeps_carries fun _ => rfl) fun _ _ he => he
  · intro e e' _ hbus he
    unfold Carries
    rw [hbus]
    exact he

theorem shutdown_carries : Keeps (Carries P) (shutdown n) := by
  apply Keeps.getState.bind
  intro e
  apply Keeps.ite _ Keeps.throw
  apply Keeps.bind (keeps_carries fun _ => rfl)
  intro _
  apply Keeps.bind (keeps_carries fun _ => rfl)
  intro _
  apply Keeps.bind (keeps_carries fun _ => rfl)
  intro _
  apply release_carries.bind
  intro _
  apply Keeps.bind (Keeps.getState.bind fun e => Keeps.ite Keeps.throw Keeps.pure)
  intro _
  apply Keeps.bind (keeps_carries fun _ => rfl)
  intro _
  exact keeps_carries fun _ => rfl

end Backends

end EngineRuntime

end NetworkEngine
