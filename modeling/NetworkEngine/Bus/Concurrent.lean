import NetworkEngine.Bus.Sequential

/-!
# Concurrent — clients of one bus, interleaved at their lock sections

Any number of clients publish, read and requeue on one bus.  A turn of a client is one lock
section: `publish` is a single section, a read dequeues in one and moves the record in a second,
a requeue takes three.  `lost` collects the observations that a read took out of the queue and did
not return.
-/

namespace NetworkEngine

open Rust Transition

namespace PacketBus.Concurrent

/-! ## 1. Clients and turns -/

abbrev ClientId := Nat

/-- Where a client stands between two lock sections. -/
inductive Phase where
  | idle
  /-- A read that has dequeued; `Bus → Processing` is next. -/
  | dequeued (o : PacketObservation)
  /-- A requeue after `Processing → Engine`; the enqueue is next. -/
  | withdrawn (o : PacketObservation)
  /-- A requeue after its enqueue; `Engine → Bus` is next. -/
  | enqueued (o : PacketObservation)
  /-- A requeue the queue refused; the move back to `Processing` is next. -/
  | refused (o : PacketObservation) (e : QueueError)
  deriving DecidableEq, Repr

structure Sys where
  bus : PacketBus
  phase : ClientId → Phase
  /-- Observations that a `publish` accepted. -/
  accepted : List PacketObservation
  /-- Observations that a successful read returned. -/
  returned : List PacketObservation
  /-- Observations of the reads that returned `Err` after they had dequeued. -/
  lost : List PacketObservation

def Sys.new (capacity : Nat) : Sys := ⟨.new capacity, fun _ => .idle, [], [], []⟩

/-- A client starts a call or goes on with the one it is in. -/
inductive Turn where
  | publish (o : PacketObservation)
  | tryRead
  | read
  | requeueProcessing (o : PacketObservation)
  | proceed
  deriving DecidableEq, Repr

namespace Sys

def setPhase (s : Sys) (c : ClientId) (p : Phase) : Sys :=
  { s with phase := Function.update s.phase c p }

/-- A read takes what the queue section gave it. -/
def take (s : Sys) (c : ClientId) : Option PacketObservation × PacketBus → Sys
  | (some o, bus) => { s with bus }.setPhase c (.dequeued o)
  | (none, bus) => { s with bus }

/-- The first section of a call.  Only what a read has returned is requeued. -/
def start (s : Sys) (c : ClientId) : Turn → Sys
  | .publish o =>
    match exec (publish o) s.bus with
    | (.ok (), bus) => { s with bus, accepted := s.accepted ++ [o] }
    | (.error _, bus) => { s with bus }
  | .tryRead =>
    match exec (onQueue ObservationQueue.tryDequeue) s.bus with
    | (.ok r, bus) => s.take c (r, bus)
    | (.error _, bus) => { s with bus }
  | .read =>
    -- An empty open queue keeps the reader waiting: no section, no change.
    match s.bus.queue.dequeue with
    | some (.ok (o, queue)) => s.take c (some o, { s.bus with queue })
    | some (.error _) | none => s
  | .requeueProcessing o =>
    if o ∈ s.returned then
      match exec (transfer o.observationId .processing .engine) s.bus with
      | (.ok (), bus) => { s with bus }.setPhase c (.withdrawn o)
      | (.error _, bus) => { s with bus }
    else s
  | .proceed => s

/-- The next section of the call a client is in. -/
def proceed (s : Sys) (c : ClientId) : Sys :=
  match s.phase c with
  | .idle => s
  | .dequeued o =>
    match exec (transfer o.observationId .bus .processing) s.bus with
    | (.ok (), bus) => { s with bus, returned := s.returned ++ [o] }.setPhase c .idle
    | (.error _, bus) => { s with bus, lost := s.lost ++ [o] }.setPhase c .idle
  | .withdrawn o =>
    match exec (onQueue (ObservationQueue.tryEnqueue o)) s.bus with
    | (.ok (), bus) => { s with bus }.setPhase c (.enqueued o)
    | (.error e, bus) => { s with bus }.setPhase c (.refused o e)
  | .enqueued o =>
    -- The result is the requeue's own; a record that is gone stays gone.
    { s with bus := (exec (transfer o.observationId .engine .bus) s.bus).2 }.setPhase c .idle
  | .refused o _ =>
    { s with bus := (exec (transfer o.observationId .engine .processing) s.bus).2 }.setPhase c .idle

/-- A client inside a call can only go on with it. -/
def step (s : Sys) (input : ClientId × Turn) : Sys :=
  -- A turn that does not fit where the client stands changes nothing.
  match s.phase input.1 with
  | .idle => s.start input.1 input.2
  | _ => if input.2 = .proceed then s.proceed input.1 else s

/-- No client is inside a call. -/
def Quiescent (s : Sys) : Prop := ∀ c, s.phase c = .idle

/-- No read has failed after its dequeue, and at rest every accepted observation is queued with
its record in `Bus` or was returned by a read. -/
structure NoneLost (s : Sys) : Prop where
  lost : s.lost = []
  accounted : s.Quiescent → ∀ o ∈ s.accepted,
    (o ∈ s.bus.queue.items ∧ s.bus.ownerOf o.observationId = some .bus) ∨ o ∈ s.returned

/-- A read that is about to move its record does so outside the window in which a requeue of the
same observation has enqueued it and has not yet moved its record to `Bus`. -/
def Outside (s : Sys) (input : ClientId × Turn) : Prop :=
  input.2 = .proceed → ∀ o, s.phase input.1 = .dequeued o →
    ∀ c o', s.phase c = .enqueued o' → o'.observationId ≠ o.observationId

/-! ## 2. The invariant -/

/-- The record of `id` is in `Bus`, or a requeue is about to move it there. -/
@[grind] def Settling (s : Sys) (id : ObservationId) : Prop :=
  s.bus.ownerOf id = some .bus ∨ ∃ c, ∃ o, s.phase c = .enqueued o ∧ o.observationId = id

/-- A read has dequeued `o` and not yet returned. -/
@[grind] def Reading (s : Sys) (o : PacketObservation) : Prop := ∃ c, s.phase c = .dequeued o

/-- The observation a client is requeueing. -/
@[grind] def requeued : Phase → Option PacketObservation
  | .withdrawn o | .enqueued o | .refused o _ => some o
  | .idle | .dequeued _ => none

structure Inv (s : Sys) : Prop where
  queued_nodup : s.bus.queuedIds.Nodup
  -- What is queued belongs to `Bus`, or is a requeue's that has one section to go.
  queued_settling : ∀ id ∈ s.bus.queuedIds, s.Settling id
  reader_settling : ∀ c o, s.phase c = .dequeued o → s.Settling o.observationId
  reader_out : ∀ c o, s.phase c = .dequeued o → o.observationId ∉ s.bus.queuedIds
  reader_unique : ∀ c o c' o', s.phase c = .dequeued o → s.phase c' = .dequeued o' →
    o.observationId = o'.observationId → c = c'
  requeuer_owner : ∀ c o, requeued (s.phase c) = some o →
    s.bus.ownerOf o.observationId = some .engine
  requeuer_unique : ∀ c o c' o', requeued (s.phase c) = some o → requeued (s.phase c') = some o' →
    o.observationId = o'.observationId → c = c'
  -- Between its first two sections a requeue is the only one that knows the observation.
  withdrawn_out : ∀ c o, s.phase c = .withdrawn o → o.observationId ∉ s.bus.queuedIds
  withdrawn_unread : ∀ c o c' o', s.phase c = .withdrawn o → s.phase c' = .dequeued o' →
    o'.observationId ≠ o.observationId
  accounted : ∀ o ∈ s.accepted, o ∈ s.bus.queue.items ∨ s.Reading o ∨ o ∈ s.returned
  lost : s.lost = []

theorem Inv.new (capacity : Nat) : (Sys.new capacity).Inv where
  queued_nodup := List.nodup_nil
  queued_settling := by simp [Sys.new, queuedIds, PacketBus.new, ObservationQueue.new]
  reader_settling := by simp [Sys.new]
  reader_out := by simp [Sys.new]
  reader_unique := by simp [Sys.new]
  requeuer_owner := by simp [Sys.new, requeued]
  requeuer_unique := by simp [Sys.new, requeued]
  withdrawn_out := by simp [Sys.new]
  withdrawn_unread := by simp [Sys.new]
  accounted := by simp [Sys.new]
  lost := rfl

theorem Inv.noneLost {s : Sys} (h : s.Inv) : s.NoneLost where
  lost := h.lost
  accounted hquiet o ho := by
    obtain hqueued | ⟨c, hc⟩ | hreturned := h.accounted o ho
    · refine .inl ⟨hqueued, ?_⟩
      have hin : o.observationId ∈ s.bus.queuedIds := List.mem_map_of_mem hqueued
      -- At rest nobody is in a window, so a settling record is in `Bus`.
      obtain howner | ⟨c, o', hc, -⟩ := h.queued_settling _ hin
      · exact howner
      · rw [hquiet c] at hc
        nomatch hc
    · rw [hquiet c] at hc
      nomatch hc
    · exact .inr hreturned

/-! ## 3. One section

Each lemma below is one effect a section can have on a state of the invariant.  They differ in
which client moves and which record or queue entry moves with it; what they say about the other
clients is left to `grind`. -/

variable {s : Sys} {c : ClientId} {o : PacketObservation}

@[simp, grind =] theorem setPhase_bus (p : Phase) : (s.setPhase c p).bus = s.bus := rfl

@[simp, grind =] theorem setPhase_accepted (p : Phase) :
    (s.setPhase c p).accepted = s.accepted := rfl

@[simp, grind =] theorem setPhase_returned (p : Phase) :
    (s.setPhase c p).returned = s.returned := rfl

@[simp, grind =] theorem setPhase_lost (p : Phase) : (s.setPhase c p).lost = s.lost := rfl

@[grind =] theorem setPhase_phase (p : Phase) (c' : ClientId) :
    (s.setPhase c p).phase c' = if c' = c then p else s.phase c' := by
  simp only [setPhase, Function.update_apply]

@[simp] theorem setPhase_self (s : Sys) (c : ClientId) (p : Phase) :
    (s.setPhase c p).phase c = p := by
  rw [setPhase_phase, if_pos rfl]

theorem exists_setPhase {p : Phase} (P : Phase → Prop) :
    (∃ c', P ((s.setPhase c p).phase c')) ↔ P p ∨ ∃ c', c' ≠ c ∧ P (s.phase c') := by
  simp only [setPhase_phase]
  constructor
  · rintro ⟨c', h⟩
    split at h
    · exact .inl h
    · exact .inr ⟨c', ‹_›, h⟩
  · rintro (h | ⟨c', hne, h⟩)
    · exact ⟨c, by rwa [if_pos rfl]⟩
    · exact ⟨c', by rwa [if_neg hne]⟩

@[grind =] theorem settling_setPhase (p : Phase) (id : ObservationId) :
    (s.setPhase c p).Settling id ↔ s.bus.ownerOf id = some .bus ∨
      (∃ o, p = .enqueued o ∧ o.observationId = id) ∨
      ∃ c', c' ≠ c ∧ ∃ o, s.phase c' = .enqueued o ∧ o.observationId = id := by
  rw [Settling, setPhase_bus]
  exact or_congr_right (exists_setPhase fun q => ∃ o, q = .enqueued o ∧ o.observationId = id)

@[grind =] theorem reading_setPhase (p : Phase) (o : PacketObservation) :
    (s.setPhase c p).Reading o ↔ p = .dequeued o ∨ ∃ c', c' ≠ c ∧ s.phase c' = .dequeued o :=
  exists_setPhase (· = .dequeued o)

/-- `publish` accepts an observation whose id has no record, and so no client. -/
theorem Inv.publish (h : s.Inv) (hfresh : s.bus.ownerOf o.observationId = none) :
    { s with
      bus := (s.bus.setItems (s.bus.queue.items ++ [o])).setOwner o.observationId .bus
      accepted := s.accepted ++ [o] }.Inv := by
  obtain ⟨h1, h2, h3, h4, h5, h6, h7, h8, h9, h10, h11⟩ := h
  constructor <;> grind

/-- A read takes the head: its id leaves the queue and is the reader's alone. -/
theorem Inv.dequeue (h : s.Inv) {rest : List PacketObservation} (hphase : s.phase c = .idle)
    (hitems : s.bus.queue.items = o :: rest) :
    ({ s with bus := s.bus.setItems rest }.setPhase c (.dequeued o)).Inv := by
  -- `grind` sees the ids of the queue as its head and the rest.
  have hids : s.bus.queuedIds = o.observationId :: rest.map (·.observationId) := by
    rw [queuedIds, hitems, List.map_cons]
  have hrest : (s.bus.setItems rest).queuedIds = rest.map (·.observationId) := rfl
  obtain ⟨h1, h2, h3, h4, h5, h6, h7, h8, h9, h10, h11⟩ := h
  constructor <;> grind

/-- A read outside the window finds its record in `Bus`. -/
theorem Inv.reader_owner (h : s.Inv) (hphase : s.phase c = .dequeued o)
    (houtside : ∀ c' o', s.phase c' = .enqueued o' → o'.observationId ≠ o.observationId) :
    s.bus.ownerOf o.observationId = some .bus := by
  obtain howner | ⟨c', o', hc', hid⟩ := h.reader_settling c o hphase
  · exact howner
  · exact absurd hid (houtside c' o' hc')

/-- A read moves its record to `Processing` and returns. -/
theorem Inv.finish (h : s.Inv) (hphase : s.phase c = .dequeued o)
    (howner : s.bus.ownerOf o.observationId = some .bus) :
    ({ s with
      bus := s.bus.setOwner o.observationId .processing
      returned := s.returned ++ [o] }.setPhase c .idle).Inv := by
  obtain ⟨h1, h2, h3, h4, h5, h6, h7, h8, h9, h10, h11⟩ := h
  constructor <;> grind

/-- A requeue withdraws an observation in `Processing`: no other client can be at it. -/
theorem Inv.withdraw (h : s.Inv) (hphase : s.phase c = .idle)
    (howner : s.bus.ownerOf o.observationId = some .processing) :
    ({ s with bus := s.bus.setOwner o.observationId .engine }.setPhase c (.withdrawn o)).Inv := by
  obtain ⟨h1, h2, h3, h4, h5, h6, h7, h8, h9, h10, h11⟩ := h
  constructor <;> grind

/-- The withdrawn observation joins the queue while its record is still in `Engine`. -/
theorem Inv.enqueue (h : s.Inv) (hphase : s.phase c = .withdrawn o) :
    ({ s with bus := s.bus.setItems (s.bus.queue.items ++ [o]) }.setPhase c (.enqueued o)).Inv := by
  obtain ⟨h1, h2, h3, h4, h5, h6, h7, h8, h9, h10, h11⟩ := h
  constructor <;> grind

/-- A refused requeue, and its return: no record moves. -/
theorem Inv.refuse (h : s.Inv) (hphase : s.phase c = .withdrawn o) (e : QueueError) :
    (s.setPhase c (.refused o e)).Inv := by
  obtain ⟨h1, h2, h3, h4, h5, h6, h7, h8, h9, h10, h11⟩ := h
  constructor <;> grind

theorem Inv.giveUp (h : s.Inv) {e : QueueError} (hphase : s.phase c = .refused o e) :
    (s.setPhase c .idle).Inv := by
  obtain ⟨h1, h2, h3, h4, h5, h6, h7, h8, h9, h10, h11⟩ := h
  constructor <;> grind

/-- A requeue closes its window: the record goes to `Bus`. -/
theorem Inv.settle (h : s.Inv) (hphase : s.phase c = .enqueued o) :
    ({ s with bus := s.bus.setOwner o.observationId .bus }.setPhase c .idle).Inv := by
  obtain ⟨h1, h2, h3, h4, h5, h6, h7, h8, h9, h10, h11⟩ := h
  constructor <;> grind

/-! ## 4. One turn -/

theorem start_inv (h : s.Inv) (hphase : s.phase c = .idle) (turn : Turn) :
    (s.start c turn).Inv := by
  cases turn with
  | publish o =>
    -- `publish` is one section: it happens as a whole or leaves the bus alone.
    by_cases hok : s.bus.ownerOf o.observationId = none ∧ s.bus.queue.Accepts
    · simp only [start, publish_ok hok.1 hok.2]
      exact h.publish hok.1
    · obtain ⟨e, hexec⟩ := publish_error hok
      simp only [start, hexec]
      exact h
  | tryRead =>
    simp only [start, onQueue, exec_zoom, exec_atomically, ObservationQueue.tryDequeue]
    cases hitems : s.bus.queue.items with
    | nil => exact h
    | cons o rest => exact h.dequeue hphase hitems
  | read =>
    simp only [start, ObservationQueue.dequeue]
    cases hitems : s.bus.queue.items with
    | nil =>
      by_cases hclosed : s.bus.queue.closed = true
      · simp only [hclosed, if_true]
        exact h
      · simp only [hclosed]
        exact h
    | cons o rest => exact h.dequeue hphase hitems
  | requeueProcessing o =>
    simp only [start]
    split
    · by_cases howner : s.bus.ownerOf o.observationId = some .processing
      · rw [transfer_ok rfl howner]
        exact h.withdraw hphase howner
      · obtain ⟨e, hexec⟩ := transfer_error howner .engine
        rw [hexec]
        exact h
    · exact h
  | proceed => exact h

theorem proceed_inv (h : s.Inv) (houtside : s.Outside (c, .proceed)) : (s.proceed c).Inv := by
  unfold proceed
  cases hphase : s.phase c with
  | idle => exact h
  | dequeued o =>
    -- Outside every window the reader's record has settled in `Bus`.
    have howner := h.reader_owner hphase (houtside rfl o hphase)
    dsimp only
    rw [transfer_ok rfl howner]
    exact h.finish hphase howner
  | withdrawn o =>
    by_cases hroom : s.bus.queue.Accepts
    · simp only [enqueue_ok hroom]
      exact h.enqueue hphase
    · obtain ⟨e, hexec⟩ := enqueue_error hroom o
      simp only [hexec]
      exact h.refuse hphase e
  | enqueued o =>
    have howner := h.requeuer_owner c o (by rw [hphase]; rfl)
    dsimp only
    rw [transfer_ok rfl howner]
    exact h.settle hphase
  | refused o e =>
    -- The way back to `Processing` is refused, so the record stays in `Engine`.
    obtain ⟨e', hexec⟩ := transfer_engine_processing s.bus o.observationId
    simp only [hexec]
    exact h.giveUp hphase

/-- A client inside a call moves on `proceed` only. -/
theorem step_of_busy {turn : Turn} (hbusy : s.phase c ≠ .idle) :
    s.step (c, turn) = if turn = .proceed then s.proceed c else s := by
  unfold step
  split
  · exact absurd ‹_› hbusy
  · rfl

theorem step_inv (h : s.Inv) {input : ClientId × Turn} (houtside : s.Outside input) :
    (s.step input).Inv := by
  obtain ⟨c, turn⟩ := input
  by_cases hphase : s.phase c = .idle
  · rw [step]
    simp only [hphase]
    exact start_inv h hphase turn
  · rw [step_of_busy hphase]
    split
    · rename_i hturn
      exact proceed_inv h (hturn ▸ houtside)
    · exact h

/-- Inside the window the record is in `Engine`, and the read loses what it dequeued. -/
theorem step_lost (h : s.Inv) {input : ClientId × Turn} (hinside : ¬ s.Outside input) :
    (s.step input).lost ≠ [] := by
  obtain ⟨c, turn⟩ := input
  simp only [Outside, not_forall, not_not] at hinside
  obtain ⟨rfl, o, hphase, c', o', hc', hid⟩ := hinside
  -- The record is still the requeue's, which holds it in `Engine`.
  have howner : s.bus.ownerOf o.observationId ≠ some .bus := by
    rw [← hid, h.requeuer_owner c' o' (by rw [hc']; rfl)]
    decide
  obtain ⟨e, hexec⟩ := transfer_error howner .processing
  rw [step_of_busy (by rw [hphase]; exact Phase.noConfusion), if_pos rfl, proceed, hphase]
  simp only [hexec, setPhase_lost, ne_eq, List.append_eq_nil_iff, List.cons_ne_nil, and_false,
    not_false_eq_true]

/-! ## 5. A client alone

The sections of a call, run without interruption, are the operation of the bus. -/

theorem step_start {turn : Turn} (hphase : s.phase c = .idle) :
    s.step (c, turn) = s.start c turn := by
  rw [step]
  simp only [hphase]

theorem step_proceed {p : Phase} (hphase : s.phase c = p) (hbusy : p ≠ .idle) :
    s.step (c, .proceed) = s.proceed c := by
  rw [step_of_busy (hphase ▸ hbusy), if_pos rfl]

theorem tryRead_alone (hphase : s.phase c = .idle) :
    (run step s [(c, .tryRead), (c, .proceed)]).bus = (exec tryRead s.bus).2 := by
  simp only [run_cons, run_nil]
  rw [step_start hphase]
  simp only [start, onQueue, exec_zoom, exec_atomically, ObservationQueue.tryDequeue]
  rw [tryRead, exec_bind, tryDequeue_exec]
  -- With nothing queued the second turn finds the client idle.
  cases hitems : s.bus.queue.items with
  | nil =>
    simp only [take]
    rw [step_start hphase]
    rfl
  | cons o rest =>
    simp only [take, exec_bind]
    rw [step_proceed (setPhase_self ..) Phase.noConfusion]
    simp only [proceed, setPhase_self]
    show (match exec (transfer o.observationId .bus .processing) (s.bus.setItems rest) with
      | (.ok (), bus) => _
      | (.error _, bus) => _ : Sys).bus = _
    rcases exec (transfer o.observationId .bus .processing) (s.bus.setItems rest)
      with ⟨_ | _, bus'⟩ <;> rfl

theorem requeueProcessing_alone (hphase : s.phase c = .idle) (hreturned : o ∈ s.returned) :
    (run step s [(c, .requeueProcessing o), (c, .proceed), (c, .proceed)]).bus =
      (exec (requeueProcessing o) s.bus).2 := by
  simp only [run_cons, run_nil]
  rw [step_start hphase, requeueProcessing, exec_bind]
  simp only [start, hreturned, if_true]
  -- The three sections one after another, each with its two results.
  rcases exec (transfer o.observationId .processing .engine) s.bus with ⟨e | _, bus⟩
  · have hidle : Sys.step { s with bus } (c, .proceed) = { s with bus } := step_start hphase
    simp only [hidle]
  · simp only [exec_bind, exec_attempt]
    rw [step_proceed (setPhase_self ..) Phase.noConfusion]
    simp only [proceed, setPhase_self, setPhase_bus]
    rcases exec (onQueue (ObservationQueue.tryEnqueue o)) bus with ⟨e | _, bus'⟩
    · simp only [exec_bind, exec_attempt, exec_throw]
      rw [step_proceed (setPhase_self ..) Phase.noConfusion]
      simp only [proceed, setPhase_self, setPhase_bus]
    · dsimp only
      rw [step_proceed (setPhase_self ..) Phase.noConfusion]
      simp only [proceed, setPhase_self, setPhase_bus]

/-! ## 6. Runs -/

/-- Over every schedule of every number of clients: no observation is lost exactly when no read
moves its record while a requeue of the same observation is between its enqueue and its move to
`Bus`. -/
theorem noneLost_run_iff (capacity : Nat) (schedule : List (ClientId × Turn)) :
    Always step NoneLost (Sys.new capacity) schedule ↔
      Along step Outside (Sys.new capacity) schedule := by
  apply always_iff_along Sys.Inv
  · exact fun s h => h.noneLost
  · exact fun s input h houtside => step_inv h houtside
  · exact fun s input h hinside hnone => step_lost h hinside hnone.lost
  · exact .new capacity

/-- Client 0 reads and requeues; client 1 dequeues the observation again and finds its record in
`Engine`.  Its read fails, and when client 0 has moved the record to `Bus`, nothing is queued under
that record. -/
theorem requeue_window_loses :
    let o := oneByte 1
    let schedule : List (ClientId × Turn) :=
      [(0, .publish o), (0, .tryRead), (0, .proceed), (0, .requeueProcessing o), (0, .proceed),
        (1, .tryRead), (1, .proceed), (0, .proceed)]
    let final := run step (Sys.new 4) schedule
    final.accepted = [o] ∧ final.lost = [o] ∧ final.bus.queue.items = [] ∧
      final.bus.ownerOf 1 = some .bus ∧ ¬ Always step NoneLost (Sys.new 4) schedule := by
  refine ⟨by decide +kernel, by decide +kernel, by decide +kernel, by decide +kernel, ?_⟩
  intro hnone
  have hlast := (hnone _ [] (List.append_nil _).symm).lost
  exact absurd hlast (by decide +kernel)

end Sys

end PacketBus.Concurrent

end NetworkEngine
