import NetworkEngine.Bus.PacketBus
import NetworkEngine.Lib.Transition

/-!
# Sequential — whole operations of the bus, one after another

The queue and the ownership map are two structures that nine operations update in several steps.
`Corresponds` says when they agree; each operation keeps it, with one exception: a requeue that
the queue refuses leaves its record in `Engine`.  The runs that avoid this are exactly the runs on
which the correspondence holds throughout.
-/

namespace NetworkEngine

open Rust Transition

namespace PacketBus

/-! ## 1. The correspondence -/

def queuedIds (bus : PacketBus) : List ObservationId := bus.queue.items.map (·.observationId)

@[simp, grind =] theorem queuedIds_setOwner (bus : PacketBus) (id : ObservationId)
    (owner : Owner) : (bus.setOwner id owner).queuedIds = bus.queuedIds := rfl

@[simp, grind =] theorem queuedIds_push (bus : PacketBus) (o : PacketObservation) :
    (bus.setItems (bus.queue.items ++ [o])).queuedIds = bus.queuedIds ++ [o.observationId] := by
  simp only [queuedIds, setItems_items, List.map_append, List.map_cons, List.map_nil]

/-- The queued ids are distinct, they are the ids of the records in `Bus`, and every other record
is in `Processing` or `Host`. -/
structure Corresponds (bus : PacketBus) : Prop where
  nodup : bus.queuedIds.Nodup
  queued_iff : ∀ id, id ∈ bus.queuedIds ↔ bus.ownerOf id = some .bus
  others : ∀ id owner, bus.ownerOf id = some owner →
    owner = .bus ∨ owner = .processing ∨ owner = .host

variable {bus : PacketBus} {id : ObservationId} {o : PacketObservation}

theorem Corresponds.new (capacity : Nat) : (PacketBus.new capacity).Corresponds where
  nodup := List.nodup_nil
  queued_iff id := by simp [queuedIds, PacketBus.new, ObservationQueue.new, ownerOf]
  others id owner h := by simp [PacketBus.new, ownerOf] at h

/-- An observation joins the queue and its record goes to `Bus`. -/
theorem Corresponds.push (h : bus.Corresponds) (hout : bus.ownerOf o.observationId ≠ some .bus) :
    ((bus.setItems (bus.queue.items ++ [o])).setOwner o.observationId .bus).Corresponds := by
  have hids : ((bus.setItems (bus.queue.items ++ [o])).setOwner o.observationId .bus).queuedIds =
      bus.queuedIds ++ [o.observationId] := by
    rw [queuedIds_setOwner, queuedIds_push]
  -- An id with a record outside `Bus` is not queued.
  have hnew : o.observationId ∉ bus.queuedIds := fun hin => hout ((h.queued_iff _).mp hin)
  constructor
  · rw [hids, List.nodup_append]
    refine ⟨h.nodup, List.nodup_singleton _, ?_⟩
    rintro a ha b hb rfl
    exact hnew (List.mem_singleton.mp hb ▸ ha)
  · intro id
    rw [hids, List.mem_append, List.mem_singleton, ownerOf_setOwner, ownerOf_setItems,
      h.queued_iff]
    by_cases heq : id = o.observationId
    · simp only [heq, or_true, if_true]
    · simp only [heq, or_false, if_false]
  · intro id owner howner
    rw [ownerOf_setOwner, ownerOf_setItems] at howner
    split at howner
    · exact .inl (Option.some.inj howner).symm
    · exact h.others id owner howner

/-- The head leaves the queue and its record goes to `Processing`. -/
theorem Corresponds.pop (h : bus.Corresponds) {rest : List PacketObservation}
    (hitems : bus.queue.items = o :: rest) :
    ((bus.setItems rest).setOwner o.observationId .processing).Corresponds := by
  have hids : bus.queuedIds = o.observationId :: rest.map (·.observationId) := by
    rw [queuedIds, hitems, List.map_cons]
  have hnodup := h.nodup
  rw [hids, List.nodup_cons] at hnodup
  constructor
  · exact hnodup.2
  · intro id
    have hqueued := h.queued_iff id
    rw [hids, List.mem_cons] at hqueued
    rw [ownerOf_setOwner, ownerOf_setItems]
    show id ∈ rest.map (·.observationId) ↔ _
    -- The ids are distinct, so the head's id is not in the rest.
    by_cases heq : id = o.observationId
    · rw [if_pos heq, heq]
      exact iff_of_false hnodup.1 (by simp)
    · rw [if_neg heq, ← hqueued, or_iff_right heq]
  · intro id owner howner
    rw [ownerOf_setOwner, ownerOf_setItems] at howner
    split at howner
    · exact .inr (.inl (Option.some.inj howner).symm)
    · exact h.others id owner howner

/-- A record outside `Bus` goes to `Processing` or `Host`. -/
theorem Corresponds.move (h : bus.Corresponds) (hout : bus.ownerOf id ≠ some .bus)
    {target : Owner} (htarget : target = .processing ∨ target = .host) :
    (bus.setOwner id target).Corresponds := by
  refine ⟨h.nodup, fun id' => ?_, fun id' owner howner => ?_⟩
  · rw [ownerOf_setOwner]
    show id' ∈ bus.queuedIds ↔ _
    split
    · rename_i heq
      -- The moved record was not in `Bus` and does not get there.
      refine iff_of_false (fun hin => hout (heq ▸ (h.queued_iff id').mp hin)) ?_
      obtain rfl | rfl := htarget <;> simp
    · exact h.queued_iff id'
  · rw [ownerOf_setOwner] at howner
    split at howner
    · exact .inr (Option.some.inj howner ▸ htarget)
    · exact h.others id' owner howner

/-- A record outside `Bus` is dropped. -/
theorem Corresponds.drop (h : bus.Corresponds) (hout : bus.ownerOf id ≠ some .bus) :
    (bus.dropRecord id).Corresponds := by
  refine ⟨h.nodup, fun id' => ?_, fun id' owner howner => ?_⟩
  · rw [ownerOf_dropRecord]
    show id' ∈ bus.queuedIds ↔ _
    split
    · rename_i heq
      exact iff_of_false (fun hin => hout (heq ▸ (h.queued_iff id').mp hin)) (by simp)
    · exact h.queued_iff id'
  · rw [ownerOf_dropRecord] at howner
    split at howner
    · nomatch howner
    · exact h.others id' owner howner

theorem Corresponds.clear (bus : PacketBus) : bus.clear.Corresponds where
  nodup := List.nodup_nil
  queued_iff id := by simp [queuedIds, PacketBus.clear, ObservationQueue.clear, ownerOf]
  others id owner h := by simp [PacketBus.clear, ownerOf] at h

theorem Corresponds.head_owner (h : bus.Corresponds) {rest : List PacketObservation}
    (hitems : bus.queue.items = o :: rest) : bus.ownerOf o.observationId = some .bus :=
  (h.queued_iff _).mp (by rw [queuedIds, hitems]; exact List.mem_cons_self)

/-! ## 2. Calls and runs -/

inductive BusCall where
  | publish (observation : PacketObservation)
  | tryRead
  | read
  | tryReadInto (buffer : PacketBuffer)
  | requeueProcessing (observation : PacketObservation)
  | transferToHost (id : ObservationId)
  | releaseProcessing (id : ObservationId)
  | releaseHost (id : ObservationId)
  | close
  | clear
  deriving DecidableEq, Repr

/-- The bus a call leaves.  A caller may requeue any observation, not only one it has read; a
`read` on an empty open queue does not return, and changes nothing. -/
def step (bus : PacketBus) : BusCall → PacketBus
  | .publish o => (exec (publish o) bus).2
  | .tryRead => (exec tryRead bus).2
  | .read => bus.read.elim bus (·.2)
  | .tryReadInto buffer => (exec tryReadInto (bus, buffer)).2.1
  | .requeueProcessing o => (exec (requeueProcessing o) bus).2
  | .transferToHost id => (exec (transferToHost id) bus).2
  | .releaseProcessing id => (exec (releaseProcessing id) bus).2
  | .releaseHost id => (exec (releaseHost id) bus).2
  | .close => bus.close
  | .clear => bus.clear

/-- What every state of a run satisfies, as long as no requeue is refused. -/
structure Inv (bus : PacketBus) : Prop extends Corresponds bus where
  bounded : bus.queue.items.length ≤ bus.queue.capacity

theorem Inv.new (capacity : Nat) : (PacketBus.new capacity).Inv :=
  ⟨.new capacity, Nat.zero_le _⟩

/-- A requeue the call makes finds the queue open and with room: for `requeue_processing` of an
observation in `Processing`, and for `try_read_into` when the head does not fit the buffer (the
read has just made room). -/
def Accepted (bus : PacketBus) : BusCall → Prop
  | .requeueProcessing o =>
    bus.ownerOf o.observationId = some .processing → bus.queue.Accepts
  | .tryReadInto buffer =>
    ∀ o rest, bus.queue.items = o :: rest → buffer.released = false →
      buffer.capacity < o.packet.len → bus.queue.closed = false
  | _ => True

/-- A requeue that returns `Err` leaves the bus as it found it. -/
def RefusalUnchanged (bus : PacketBus) (call : BusCall) : Prop :=
  ∀ o e, call = .requeueProcessing o → (exec (requeueProcessing o) bus).1 = .error e →
    step bus call = bus

/-! ## 3. One call -/

theorem step_requeue_inv (h : bus.Inv)
    (hroom : bus.ownerOf o.observationId = some .processing → bus.queue.Accepts) :
    (exec (requeueProcessing o) bus).2.Inv := by
  -- Without a record in `Processing` the requeue ends at its first section.
  by_cases howner : bus.ownerOf o.observationId = some .processing
  · have haccepts := hroom howner
    rw [requeueProcessing_ok howner haccepts]
    refine ⟨h.push (by rw [howner]; decide), ?_⟩
    simp only [setOwner_queue, setItems_items, setItems_capacity, List.length_append,
      List.length_singleton]
    exact haccepts.2
  · obtain ⟨e, hexec⟩ := requeueProcessing_error howner
    rw [hexec]
    exact h

theorem Inv.pop (h : bus.Inv) {rest : List PacketObservation}
    (hitems : bus.queue.items = o :: rest) :
    ((bus.setItems rest).setOwner o.observationId .processing).Inv := by
  refine ⟨h.toCorresponds.pop hitems, ?_⟩
  have hbounded := h.bounded
  rw [hitems, List.length_cons] at hbounded
  simp only [setOwner_queue, setItems_items, setItems_capacity]
  omega

theorem step_tryRead_inv (h : bus.Inv) : (exec tryRead bus).2.Inv := by
  cases hitems : bus.queue.items with
  | nil =>
    rw [tryRead_nil hitems]
    exact h
  | cons o rest =>
    rw [tryRead_cons hitems (h.head_owner hitems)]
    exact h.pop hitems

theorem step_read_inv (h : bus.Inv) : (bus.read.elim bus (·.2)).Inv := by
  cases hitems : bus.queue.items with
  | nil =>
    rw [read, ObservationQueue.dequeue, hitems]
    by_cases hclosed : bus.queue.closed = true
    · simp only [hclosed, if_true]
      exact h
    · simp only [hclosed]
      exact h
  | cons o rest =>
    rw [read_cons hitems (h.head_owner hitems)]
    exact h.pop hitems

/-- After the read inside `try_read_into` there is room again, so only a closed queue refuses. -/
theorem accepts_of_pop (h : bus.Inv) {rest : List PacketObservation}
    (hitems : bus.queue.items = o :: rest) :
    ((bus.setItems rest).setOwner o.observationId .processing).queue.Accepts ↔
      bus.queue.closed = false := by
  have hbounded := h.bounded
  rw [hitems, List.length_cons] at hbounded
  constructor
  · exact And.left
  · exact fun hopen => ⟨hopen, by simp only [setOwner_queue, setItems_items, setItems_capacity]; omega⟩

theorem step_tryReadInto_inv (h : bus.Inv) {buffer : PacketBuffer}
    (haccepted : Accepted bus (.tryReadInto buffer)) :
    (exec tryReadInto (bus, buffer)).2.1.Inv := by
  refine tryReadInto_cases buffer (fun o rest hitems => h.head_owner hitems) h ?_ ?_
  · intro o rest hlive hitems hlarge
    refine step_requeue_inv (h.pop hitems) fun _ => ?_
    exact (accepts_of_pop h hitems).mpr (haccepted o rest hitems hlive hlarge)
  · intro o rest _ hitems _
    have hpop := h.pop hitems
    -- The read has moved the record out of `Bus` before it is dropped.
    have hprocessing : ((bus.setItems rest).setOwner o.observationId .processing).ownerOf
        o.observationId ≠ some .bus := by
      rw [ownerOf_setOwner, if_pos rfl]
      decide
    have hdrop := hpop.drop hprocessing
    rw [dropRecord_setOwner] at hdrop
    exact ⟨hdrop, hpop.bounded⟩

theorem step_transferToHost_inv (h : bus.Inv) : (exec (transferToHost id) bus).2.Inv := by
  by_cases howner : bus.ownerOf id = some .processing
  · rw [transferToHost, transfer_ok rfl howner]
    exact ⟨h.move (by rw [howner]; decide) (.inr rfl), h.bounded⟩
  · obtain ⟨e, hexec⟩ := transfer_error howner .host
    rw [transferToHost, hexec]
    exact h

theorem step_releaseFrom_inv (h : bus.Inv) {owner : Owner} (hactive : owner ≠ .released)
    (hbus : owner ≠ .bus) : (exec (releaseFrom id owner) bus).2.Inv := by
  apply releaseFrom_cases hactive h
  intro howner
  refine ⟨h.drop ?_, h.bounded⟩
  rw [howner]
  exact fun heq => hbus (Option.some.inj heq)

theorem step_publish_inv (h : bus.Inv) : (exec (publish o) bus).2.Inv := by
  by_cases hok : bus.ownerOf o.observationId = none ∧ bus.queue.Accepts
  · obtain ⟨hfresh, hroom⟩ := hok
    rw [publish_ok hfresh hroom]
    refine ⟨h.push (by rw [hfresh]; decide), ?_⟩
    simp only [setOwner_queue, setItems_items, setItems_capacity, List.length_append,
      List.length_singleton]
    exact hroom.2
  · obtain ⟨e, hexec⟩ := publish_error hok
    rw [hexec]
    exact h

theorem step_inv {call : BusCall} (h : bus.Inv) (haccepted : Accepted bus call) :
    (step bus call).Inv := by
  cases call with
  | publish o => exact step_publish_inv h
  | tryRead => exact step_tryRead_inv h
  | read => exact step_read_inv h
  | tryReadInto buffer => exact step_tryReadInto_inv h haccepted
  | requeueProcessing o => exact step_requeue_inv h haccepted
  | transferToHost id => exact step_transferToHost_inv h
  | releaseProcessing id => exact step_releaseFrom_inv h (by decide) (by decide)
  | releaseHost id => exact step_releaseFrom_inv h (by decide) (by decide)
  -- Closing touches neither the items nor the records.
  | close => exact ⟨⟨h.nodup, h.queued_iff, h.others⟩, h.bounded⟩
  | clear => exact ⟨.clear bus, Nat.zero_le _⟩

theorem refusalUnchanged {call : BusCall} (haccepted : Accepted bus call) :
    RefusalUnchanged bus call := by
  rintro o e rfl hrefused
  by_cases howner : bus.ownerOf o.observationId = some .processing
  · rw [requeueProcessing_ok howner (haccepted howner)] at hrefused
    nomatch hrefused
  · obtain ⟨e', hexec⟩ := requeueProcessing_error howner
    rw [step, hexec]

theorem not_corresponds_engine : ¬ (bus.setOwner id .engine).Corresponds := by
  intro h
  have hothers := h.others id .engine (by rw [ownerOf_setOwner, if_pos rfl])
  simp at hothers

/-- A refused requeue breaks the correspondence at once. -/
theorem not_corresponds_of_not_accepted {call : BusCall} (h : bus.Inv)
    (hrefused : ¬ Accepted bus call) : ¬ (step bus call).Corresponds := by
  cases call with
  | requeueProcessing o =>
    simp only [Accepted, Classical.not_imp] at hrefused
    obtain ⟨howner, hfull⟩ := hrefused
    obtain ⟨e, hexec⟩ := requeueProcessing_stuck howner hfull
    rw [step, hexec]
    exact not_corresponds_engine
  | tryReadInto buffer =>
    simp only [Accepted, not_forall] at hrefused
    obtain ⟨o, rest, hitems, hlive, hlarge, hclosed⟩ := hrefused
    obtain ⟨r, hexec⟩ := tryReadInto_large hlive hitems (h.head_owner hitems) hlarge
    -- There is room after the read, so only a closed queue refuses.
    have hfull := (accepts_of_pop h hitems).not.mpr hclosed
    obtain ⟨e, hstuck⟩ := requeueProcessing_stuck (by rw [ownerOf_setOwner, if_pos rfl]) hfull
    rw [step, hexec, hstuck]
    exact not_corresponds_engine
  | publish | tryRead | read | transferToHost | releaseProcessing | releaseHost | close | clear =>
    exact absurd trivial hrefused

/-! ## 4. Runs -/

/-- Queue and ownership map correspond in every state of a run, and every refused requeue leaves
the bus unchanged, exactly when every requeue of the run finds the queue open and with room. -/
theorem corresponds_run_iff (capacity : Nat) (calls : List BusCall) :
    Always step Corresponds (PacketBus.new capacity) calls ∧
        Along step RefusalUnchanged (PacketBus.new capacity) calls ↔
      Along step Accepted (PacketBus.new capacity) calls := by
  -- Both halves become conditions on single calls, and `along_iff` compares them.
  rw [always_iff, and_assoc, ← along_and, and_iff_right (Corresponds.new capacity)]
  refine (along_iff PacketBus.Inv (fun _ _ => step_inv) (fun bus call h => ?_) (.new capacity) calls).symm
  constructor
  · exact fun haccepted => ⟨(step_inv h haccepted).toCorresponds, refusalUnchanged haccepted⟩
  · rintro ⟨hcorresponds, -⟩
    by_contra hrefused
    exact not_corresponds_of_not_accepted h hrefused hcorresponds

/-- A one-byte observation. -/
def oneByte (id : ObservationId) : PacketObservation :=
  .new id .npcap ⟨0⟩ ⟨0⟩ .inbound "eth0" ⟨⟨[0], by decide⟩⟩

/-- A reader of a bus of capacity one puts its observation back after another publish took the
place: the requeue returns `QueueFull`, and the record, left in `Engine`, can be neither released
nor handed to the host. -/
theorem requeue_full_leaves_engine :
    let start := PacketBus.new 1
    let before : List BusCall := [.publish (oneByte 1), .tryRead, .publish (oneByte 2)]
    let full := run step start before
    let stuck := step full (.requeueProcessing (oneByte 1))
    (exec tryRead (run step start [.publish (oneByte 1)])).1 = .ok (some (oneByte 1)) ∧
      full.ownerOf 1 = some .processing ∧
      (exec (requeueProcessing (oneByte 1)) full).1 = .error .queueFull ∧
      stuck.ownerOf 1 = some .engine ∧
      step stuck (.releaseProcessing 1) = stuck ∧ step stuck (.transferToHost 1) = stuck ∧
      ¬ (Always step Corresponds start (before ++ [.requeueProcessing (oneByte 1)]) ∧
        Along step RefusalUnchanged start (before ++ [.requeueProcessing (oneByte 1)])) := by
  refine ⟨by decide +kernel, by decide +kernel, by decide +kernel, by decide +kernel,
    by decide +kernel, by decide +kernel, ?_⟩
  rintro ⟨hcorresponds, -⟩
  have hlast := hcorresponds _ [] (List.append_nil _).symm
  have hothers := hlast.others 1 .engine (by decide +kernel)
  simp at hothers

end PacketBus

end NetworkEngine
