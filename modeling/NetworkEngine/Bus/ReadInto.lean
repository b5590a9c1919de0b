import NetworkEngine.Bus.Sequential

/-!
# ReadInto — reading into a caller's buffer, all or nothing

`try_read_into` takes the head of the queue before it knows whether the packet fits the buffer, and
puts it back with a requeue when it does not.  Every sequential run, also one in which a requeue was
refused, keeps enough of the correspondence between queue and records to say what the read finds.
-/

namespace NetworkEngine

open Rust Transition

namespace PacketBus

/-! ## 1. What survives a refused requeue -/

/-- The queued ids are distinct and have their records in `Bus`, and the queue is within its
capacity.  Nothing is said about the other records. -/
structure Queued (bus : PacketBus) : Prop where
  nodup : bus.queuedIds.Nodup
  owner : ∀ id ∈ bus.queuedIds, bus.ownerOf id = some .bus
  bounded : bus.queue.items.length ≤ bus.queue.capacity

variable {bus : PacketBus} {id : ObservationId} {o : PacketObservation}

theorem Queued.new (capacity : Nat) : (PacketBus.new capacity).Queued where
  nodup := List.nodup_nil
  owner id hid := by simp [queuedIds, PacketBus.new, ObservationQueue.new] at hid
  bounded := Nat.zero_le _

theorem Queued.notMem (h : bus.Queued) (hout : bus.ownerOf id ≠ some .bus) : id ∉ bus.queuedIds :=
  fun hid => hout (h.owner id hid)

/-- A record outside `Bus` may move anywhere. -/
theorem Queued.setOwner (h : bus.Queued) (hout : bus.ownerOf id ≠ some .bus) (target : Owner) :
    (bus.setOwner id target).Queued := by
  refine ⟨h.nodup, fun id' hid' => ?_, h.bounded⟩
  have hne : id' ≠ id := by
    rintro rfl
    exact h.notMem hout hid'
  rw [ownerOf_setOwner, if_neg hne]
  exact h.owner id' hid'

theorem Queued.dropRecord (h : bus.Queued) (hout : bus.ownerOf id ≠ some .bus) :
    (bus.dropRecord id).Queued := by
  refine ⟨h.nodup, fun id' hid' => ?_, h.bounded⟩
  have hne : id' ≠ id := by
    rintro rfl
    exact h.notMem hout hid'
  rw [ownerOf_dropRecord, if_neg hne]
  exact h.owner id' hid'

/-- An observation whose id is not queued joins a queue with room. -/
theorem Queued.push (h : bus.Queued) (hout : bus.ownerOf o.observationId ≠ some .bus)
    (hroom : bus.queue.Accepts) :
    ((bus.setItems (bus.queue.items ++ [o])).setOwner o.observationId .bus).Queued := by
  have hids : ((bus.setItems (bus.queue.items ++ [o])).setOwner o.observationId .bus).queuedIds =
      bus.queuedIds ++ [o.observationId] := by
    rw [queuedIds_setOwner, queuedIds_push]
  constructor
  · rw [hids, List.nodup_append]
    refine ⟨h.nodup, List.nodup_singleton _, ?_⟩
    rintro a ha b hb rfl
    exact h.notMem hout (List.mem_singleton.mp hb ▸ ha)
  · intro id hid
    rw [hids, List.mem_append, List.mem_singleton] at hid
    rw [ownerOf_setOwner, ownerOf_setItems]
    split
    · rfl
    · rename_i hne
      exact h.owner id (hid.resolve_right hne)
  · simp only [setOwner_queue, setItems_items, setItems_capacity, List.length_append,
      List.length_singleton]
    exact hroom.2

/-- The head leaves the queue, and its record `Bus`. -/
theorem Queued.pop (h : bus.Queued) {rest : List PacketObservation}
    (hitems : bus.queue.items = o :: rest) :
    ((bus.setItems rest).setOwner o.observationId .processing).Queued := by
  have hids : bus.queuedIds = o.observationId :: rest.map (·.observationId) := by
    rw [queuedIds, hitems, List.map_cons]
  have hnodup := h.nodup
  have hbounded := h.bounded
  rw [hids, List.nodup_cons] at hnodup
  rw [hitems, List.length_cons] at hbounded
  refine ⟨hnodup.2, fun id hid => ?_, ?_⟩
  · replace hid : id ∈ rest.map (·.observationId) := hid
    have hne : id ≠ o.observationId := by
      rintro rfl
      exact hnodup.1 hid
    rw [ownerOf_setOwner, if_neg hne, ownerOf_setItems]
    exact h.owner id (by rw [hids]; exact List.mem_cons_of_mem _ hid)
  · simp only [setOwner_queue, setItems_items, setItems_capacity]
    omega

theorem Queued.head_owner (h : bus.Queued) {rest : List PacketObservation}
    (hitems : bus.queue.items = o :: rest) : bus.ownerOf o.observationId = some .bus :=
  h.owner _ (by rw [queuedIds, hitems]; exact List.mem_cons_self)

/-- A requeue keeps the queue in order whether or not it is refused. -/
theorem Queued.requeue (h : bus.Queued) (o : PacketObservation) :
    (exec (requeueProcessing o) bus).2.Queued := by
  by_cases howner : bus.ownerOf o.observationId = some .processing
  · have hout : bus.ownerOf o.observationId ≠ some .bus := by
      rw [howner]
      decide
    by_cases hroom : bus.queue.Accepts
    · rw [requeueProcessing_ok howner hroom]
      exact h.push hout hroom
    · obtain ⟨e, hexec⟩ := requeueProcessing_stuck howner hroom
      rw [hexec]
      exact h.setOwner hout .engine
  · obtain ⟨e, hexec⟩ := requeueProcessing_error howner
    rw [hexec]
    exact h

/-- The read inside `try_read_into` makes room, so that only a closed queue refuses the head. -/
theorem Queued.accepts_pop (h : bus.Queued) {rest : List PacketObservation}
    (hitems : bus.queue.items = o :: rest) :
    ((bus.setItems rest).setOwner o.observationId .processing).queue.Accepts ↔
      bus.queue.closed = false := by
  have hbounded := h.bounded
  rw [hitems, List.length_cons] at hbounded
  constructor
  · exact And.left
  · intro hopen
    refine ⟨hopen, ?_⟩
    simp only [setOwner_queue, setItems_items, setItems_capacity]
    omega

theorem Queued.tryReadInto (h : bus.Queued) (buffer : PacketBuffer) :
    (exec tryReadInto (bus, buffer)).2.1.Queued := by
  refine tryReadInto_cases buffer (fun o rest hitems => h.head_owner hitems) h ?_ ?_
  · exact fun o rest _ hitems _ => (h.pop hitems).requeue o
  · intro o rest _ hitems _
    rw [← dropRecord_setOwner (bus.setItems rest) o.observationId .processing]
    apply (h.pop hitems).dropRecord
    rw [ownerOf_setOwner, if_pos rfl]
    decide

theorem Queued.releaseFrom (h : bus.Queued) {owner : Owner} (hactive : owner ≠ .released)
    (hbus : owner ≠ .bus) : (exec (releaseFrom id owner) bus).2.Queued := by
  apply releaseFrom_cases hactive h
  intro howner
  apply h.dropRecord
  rw [howner]
  exact fun heq => hbus (Option.some.inj heq)

/-- Every call keeps the queue in order, without any condition. -/
theorem Queued.step (h : bus.Queued) (call : BusCall) : (step bus call).Queued := by
  cases call with
  | publish o =>
    show (exec (PacketBus.publish o) bus).2.Queued
    by_cases hok : bus.ownerOf o.observationId = none ∧ bus.queue.Accepts
    · rw [publish_ok hok.1 hok.2]
      exact h.push (by rw [hok.1]; decide) hok.2
    · obtain ⟨e, hexec⟩ := publish_error hok
      rw [hexec]
      exact h
  | tryRead =>
    show (exec PacketBus.tryRead bus).2.Queued
    cases hitems : bus.queue.items with
    | nil =>
      rw [tryRead_nil hitems]
      exact h
    | cons o rest =>
      rw [tryRead_cons hitems (h.head_owner hitems)]
      exact h.pop hitems
  | read =>
    show (bus.read.elim bus (·.2)).Queued
    cases hitems : bus.queue.items with
    | nil =>
      rw [PacketBus.read, ObservationQueue.dequeue, hitems]
      by_cases hclosed : bus.queue.closed = true
      · simp only [hclosed, if_true]
        exact h
      · simp only [hclosed]
        exact h
    | cons o rest =>
      rw [read_cons hitems (h.head_owner hitems)]
      exact h.pop hitems
  | tryReadInto buffer => exact h.tryReadInto buffer
  | requeueProcessing o => exact h.requeue o
  | transferToHost id =>
    show (exec (PacketBus.transferToHost id) bus).2.Queued
    by_cases howner : bus.ownerOf id = some .processing
    · rw [PacketBus.transferToHost, transfer_ok rfl howner]
      exact h.setOwner (by rw [howner]; decide) .host
    · obtain ⟨e, hexec⟩ := transfer_error howner .host
      rw [PacketBus.transferToHost, hexec]
      exact h
  | releaseProcessing id => exact h.releaseFrom (by decide) (by decide)
  | releaseHost id => exact h.releaseFrom (by decide) (by decide)
  -- Closing touches neither the items nor the records.
  | close => exact ⟨h.nodup, h.owner, h.bounded⟩
  | clear =>
    refine ⟨List.nodup_nil, fun id hid => ?_, Nat.zero_le _⟩
    exact absurd hid List.not_mem_nil

/-! ## 2. All or nothing -/

/-- `try_read_into` returned `r` and left `bus'` and `buffer'`. -/
structure AllOrNothing (bus : PacketBus) (buffer : PacketBuffer) (r : EngineResult Bool)
    (bus' : PacketBus) (buffer' : PacketBuffer) : Prop where
  /-- The head is copied out, and gone from the queue and the records. -/
  copied : r = .ok true → ∃ o rest, bus.queue.items = o :: rest ∧
    buffer'.data = o.packet.rawBytes ∧ buffer'.length = o.packet.len ∧
    bus'.queue.items = rest ∧ o.observationId ∉ bus'.queuedIds ∧
    bus'.ownerOf o.observationId = none
  empty : r = .ok false → bus' = bus ∧ buffer' = buffer
  /-- Nothing is lost: at most the order of the queue is another one. -/
  refused : ∀ e, r = .error e → buffer' = buffer ∧
    bus'.queue.items.Perm bus.queue.items ∧ bus'.ownership = bus.ownership

def ReadsAllOrNothing (bus : PacketBus) (buffer : PacketBuffer) : Prop :=
  AllOrNothing bus buffer (exec tryReadInto (bus, buffer)).1 (exec tryReadInto (bus, buffer)).2.1
    (exec tryReadInto (bus, buffer)).2.2

/-- The bus is closed, and the buffer is too small for the head. -/
def StuckHead (bus : PacketBus) (buffer : PacketBuffer) : Prop :=
  bus.queue.closed = true ∧ buffer.released = false ∧
    ∃ o, bus.queue.items.head? = some o ∧ buffer.capacity < o.packet.len

instance (bus : PacketBus) (buffer : PacketBuffer) : Decidable (StuckHead bus buffer) :=
  match h : bus.queue.items.head? with
  | none => isFalse fun hstuck => by
      obtain ⟨-, -, o, ho, -⟩ := hstuck
      rw [h] at ho
      exact absurd ho.symm (Option.some_ne_none o)
  | some o => decidable_of_iff (bus.queue.closed = true ∧ buffer.released = false ∧
      buffer.capacity < o.packet.len) (by simp [StuckHead, h])

/-- Taking the record of the head out of `Bus` and back changes nothing. -/
theorem setOwner_self (howner : bus.ownerOf id = some .bus) :
    (bus.setOwner id .bus).ownership = bus.ownership := by
  obtain ⟨⟨owner⟩, hlookup, howner'⟩ := Option.map_eq_some_iff.mp howner
  obtain rfl : owner = .bus := howner'
  apply Finmap.ext_lookup
  intro id'
  rw [setOwner, Table.lookup_insert]
  split
  · rename_i heq
    rw [heq, hlookup]
  · rfl

/-- A head that does not fit an open bus's reader goes to the end of the queue. -/
theorem Queued.readInto_requeued (h : bus.Queued) {rest : List PacketObservation}
    (hitems : bus.queue.items = o :: rest) (hopen : bus.queue.closed = false) :
    exec (requeueProcessing o) ((bus.setItems rest).setOwner o.observationId .processing) =
      (.ok (), (bus.setItems (rest ++ [o])).setOwner o.observationId .bus) := by
  have howner : ((bus.setItems rest).setOwner o.observationId .processing).ownerOf
      o.observationId = some .processing := by
    rw [ownerOf_setOwner, if_pos rfl]
  rw [requeueProcessing_ok howner ((h.accepts_pop hitems).mpr hopen)]
  exact congrArg (Prod.mk _) (setOwner_setOwner (bus.setItems (rest ++ [o])) _ _)

/-- On a closed bus it is in no place any more. -/
theorem Queued.readInto_lost (h : bus.Queued) {rest : List PacketObservation}
    (hitems : bus.queue.items = o :: rest) (hclosed : bus.queue.closed = true) :
    ∃ e, exec (requeueProcessing o)
        ((bus.setItems rest).setOwner o.observationId .processing) =
      (.error e, (bus.setItems rest).setOwner o.observationId .engine) := by
  have howner : ((bus.setItems rest).setOwner o.observationId .processing).ownerOf
      o.observationId = some .processing := by
    rw [ownerOf_setOwner, if_pos rfl]
  have hrefused : ¬ ((bus.setItems rest).setOwner o.observationId .processing).queue.Accepts := by
    rw [h.accepts_pop hitems, hclosed]
    decide
  obtain ⟨e, hexec⟩ := requeueProcessing_stuck howner hrefused
  exact ⟨e, by rw [hexec, setOwner_setOwner]⟩

theorem Queued.readsAllOrNothing_iff (h : bus.Queued) (buffer : PacketBuffer) :
    ReadsAllOrNothing bus buffer ↔ ¬ StuckHead bus buffer := by
  unfold ReadsAllOrNothing
  by_cases hreleased : buffer.released = true
  · rw [tryReadInto_released hreleased]
    refine iff_of_true ⟨nofun, nofun, fun _ _ => ⟨rfl, .refl _, rfl⟩⟩ fun hstuck => ?_
    rw [hstuck.2.1] at hreleased
    nomatch hreleased
  have hlive := Bool.eq_false_iff.mpr hreleased
  cases hitems : bus.queue.items with
  | nil =>
    rw [tryReadInto_empty hlive hitems]
    refine iff_of_true ⟨nofun, fun _ => ⟨rfl, rfl⟩, nofun⟩ fun hstuck => ?_
    obtain ⟨-, -, o, ho, -⟩ := hstuck
    rw [hitems] at ho
    exact absurd ho.symm (Option.some_ne_none o)
  | cons o rest =>
    have howner := h.head_owner hitems
    by_cases hlarge : buffer.capacity < o.packet.len
    · obtain ⟨e, hexec⟩ := tryReadInto_large hlive hitems howner hlarge
      rw [hexec]
      by_cases hclosed : bus.queue.closed = true
      · -- The head is missing from the queue that the failed call leaves.
        obtain ⟨e', hlost⟩ := h.readInto_lost hitems hclosed
        rw [hlost]
        refine iff_of_false (fun hall => ?_) (not_not.mpr ⟨hclosed, hlive, o, ?_, hlarge⟩)
        · have hlength := (hall.refused e rfl).2.1.length_eq
          rw [hitems] at hlength
          simp only [setOwner_queue, setItems_items, List.length_cons] at hlength
          omega
        · rw [hitems, List.head?_cons]
      · rw [h.readInto_requeued hitems (Bool.eq_false_iff.mpr hclosed)]
        refine iff_of_true ⟨nofun, nofun, fun _ _ => ⟨rfl, ?_, ?_⟩⟩ fun hstuck => hclosed hstuck.1
        · rw [hitems]
          exact List.perm_append_singleton o rest
        · exact setOwner_self howner
    · rw [tryReadInto_fits hlive hitems howner hlarge]
      refine iff_of_true ⟨fun _ => ⟨o, rest, hitems, rfl, rfl, rfl, ?_, ?_⟩, nofun, nofun⟩
        fun hstuck => ?_
      · -- The ids are distinct, so the head's id is not in the rest.
        have hnodup := h.nodup
        rw [queuedIds, hitems, List.map_cons, List.nodup_cons] at hnodup
        exact hnodup.1
      · rw [ownerOf_dropRecord, if_pos rfl]
      · obtain ⟨-, -, o', ho', hlarge'⟩ := hstuck
        rw [hitems, List.head?_cons] at ho'
        exact hlarge (Option.some.inj ho' ▸ hlarge')

/-- In every state that calls from a new bus lead to, the read is all or nothing except when the
bus is closed and the head does not fit the buffer. -/
theorem tryReadInto_all_or_nothing_iff (capacity : Nat) (calls : List BusCall)
    (buffer : PacketBuffer) :
    ReadsAllOrNothing (run step (.new capacity) calls) buffer ↔
      ¬ StuckHead (run step (.new capacity) calls) buffer := by
  have hstep (bus : PacketBus) (call : BusCall) (h : bus.Queued) : (step bus call).Queued :=
    h.step call
  have hqueued := run_inv hstep (.new capacity) calls
  exact hqueued.readsAllOrNothing_iff buffer

/-- One byte is published, the bus is closed, and a buffer without room reads: the packet leaves
the queue and its record stays in `Engine`. -/
theorem tryReadInto_closed_loses :
    let bus := run step (.new 1) [.publish (oneByte 1), .close]
    let buffer := PacketBuffer.new 0
    bus.queuedIds = [1] ∧
      (exec tryReadInto (bus, buffer)).1 = .error .shutdownInProgress ∧
      (step bus (.tryReadInto buffer)).queuedIds = [] ∧
      (step bus (.tryReadInto buffer)).ownerOf 1 = some .engine ∧
      ¬ ReadsAllOrNothing bus buffer := by
  refine ⟨by decide +kernel, by decide +kernel, by decide +kernel, by decide +kernel, ?_⟩
  intro hall
  have hlength := (hall.refused .shutdownInProgress (by decide +kernel)).2.1.length_eq
  revert hlength
  decide +kernel

end PacketBus

end NetworkEngine
