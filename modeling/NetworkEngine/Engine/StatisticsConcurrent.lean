import NetworkEngine.Bus.Sequential
import NetworkEngine.Capture.WinDivert
import NetworkEngine.Core.Statistics
import NetworkEngine.Flow.Processing
import NetworkEngine.Lib.Threads

/-!
# StatisticsConcurrent — the received and processed counters under interleaving

`ffi::statistics`, with the calls that count: the capture worker and `ingest_observation` publish
an observation and then count it; `packet_read`, `process_one` and the processing worker take it and
count it as processed; `validate_statistics` loads the counters one after another.  Each atomic
update, operation of the bus and load is a step of its own.  The exported functions run under one
lock; it is left out here, since the methods can be called without it.
-/

namespace NetworkEngine

open Rust Transition Threads

/-! ## 1. The snapshot -/

/-- The counters of `UnifiedStatisticsSnapshot` that `validate_statistics` compares. -/
structure UnifiedStatisticsSnapshot where
  packetsReceived : UInt64
  packetsProcessed : UInt64
  bytesReceived : UInt64
  bytesProcessed : UInt64
  deriving DecidableEq, Repr

/-- The checks of `validate_statistics`. -/
def UnifiedStatisticsSnapshot.validate (snapshot : UnifiedStatisticsSnapshot) :
    EngineResult Unit :=
  if snapshot.packetsReceived < snapshot.packetsProcessed ∨
      snapshot.bytesReceived < snapshot.bytesProcessed then
    .error (.withMessage .internalError "processed statistics exceed received statistics")
  else .ok ()

namespace StatisticsConcurrent

/-! ## 2. Calls and their steps -/

/-- A publication: its number, and the observation that was published. -/
structure Ticket where
  number : Nat
  observation : PacketObservation
  deriving DecidableEq, Repr

/-- The bytes that producers and readers count for the observation. -/
def Ticket.bytes (t : Ticket) : UInt64 := UInt64.ofNat t.observation.packetLength

/-- The publications that each counter has counted. -/
structure Traced where
  received : List Ticket
  bytesReceived : List Ticket
  processed : List Ticket
  bytesProcessed : List Ticket
  deriving DecidableEq

/-- The bus and the counters.  The rest traces the publications: `waiting` follows the queue of the
bus, and `verdicts` are the answers of the `validate_statistics` calls. -/
structure Shared where
  bus : PacketBus
  statistics : EngineStatistics
  publications : Nat
  waiting : List Ticket
  traced : Traced
  verdicts : List (EngineResult Unit)

namespace Shared

def new (capacity : Nat) : Shared :=
  ⟨.new capacity, .new, 0, [], ⟨[], [], [], []⟩, []⟩

/-- `total_packets_received.fetch_add(1)`, and the other counters in the same way. -/
def countReceived (s : Shared) (t : Ticket) : Shared :=
  { s with
    statistics.totalPacketsReceived := s.statistics.totalPacketsReceived + 1
    traced.received := s.traced.received ++ [t] }

def countBytesReceived (s : Shared) (t : Ticket) : Shared :=
  { s with
    statistics.totalBytesReceived := s.statistics.totalBytesReceived + t.bytes
    traced.bytesReceived := s.traced.bytesReceived ++ [t] }

def countProcessed (s : Shared) (t : Ticket) : Shared :=
  { s with
    statistics.totalPacketsProcessed := s.statistics.totalPacketsProcessed + 1
    traced.processed := s.traced.processed ++ [t] }

def countBytesProcessed (s : Shared) (t : Ticket) : Shared :=
  { s with
    statistics.totalBytesProcessed := s.statistics.totalBytesProcessed + t.bytes
    traced.bytesProcessed := s.traced.bytesProcessed ++ [t] }

def countError (s : Shared) : Shared := { s with statistics := s.statistics.recordError }

/-- An observation joins the queue under its ticket. -/
def queued (s : Shared) (bus : PacketBus) (t : Ticket) : Shared :=
  { s with bus, waiting := s.waiting ++ [t] }

/-- The head leaves the queue. -/
def dequeued (s : Shared) (bus : PacketBus) : Shared :=
  { s with bus, waiting := s.waiting.tail }

/-- The ticket of the observation at the head of the queue. -/
def headTicket (s : Shared) (o : PacketObservation) : Ticket :=
  s.waiting.headD ⟨s.publications, o⟩

end Shared

/-- What the environment decides in a step. -/
structure Choice where
  /-- What `require_running` finds. -/
  running : Bool
  /-- The answer of the worker pool. -/
  enqueue : EnqueueOutcome
  /-- The next packet handle is not in the table yet. -/
  handleFree : Bool
  deriving DecidableEq, Repr

inductive Producing where
  /-- `ingest_observation` before the bus. -/
  | check (now : Timestamp) (o : PacketObservation)
  | publish (o : PacketObservation)
  | countReceived (t : Ticket)
  | countBytesReceived (t : Ticket)
  | countRefused (error : EngineError)
  deriving DecidableEq, Repr

def produce (choice : Choice) (s : Shared) : Producing → Shared × Option Producing
  | .check now o =>
    if !choice.running then (s, none)
    else if o.packet.isEmpty then (s, none)
    else if o.packetLength ≠ o.packet.len then (s, none)
    else (s, some (.publish { o with ingestionTimestamp := now }))
  | .publish o =>
    match exec (PacketBus.publishEngineOwned o) s.bus with
    | (.ok (), bus) =>
      let t := ⟨s.publications, o⟩
      ({ s.queued bus t with publications := s.publications + 1 }, some (.countReceived t))
    | (.error error, bus) => ({ s with bus }, some (.countRefused error))
  -- The observation is on the bus by now.
  | .countReceived t => (s.countReceived t, some (.countBytesReceived t))
  | .countBytesReceived t => (s.countBytesReceived t, none)
  | .countRefused error =>
    if error.errorCode = .queueFull then
      ({ s with statistics := s.statistics.recordQueueSaturation }, none)
    else (s.countError, none)

/-- `packet_read`, `process_one` or a turn of `processing_worker_loop`. -/
inductive Reader where
  | host
  | processOne
  | worker
  deriving DecidableEq, Repr

inductive Reading where
  /-- `require_running` of `process_one`. -/
  | requireRunning
  | take
  /-- `require_running` of `process_observation`, inside `packet_read`. -/
  | requireProcessing (t : Ticket)
  | parse (t : Ticket)
  | lookUp (t : Ticket) (addresses : List IpAddr)
  | countProcessed (t : Ticket)
  | countBytesProcessed (t : Ticket)
  | release (t : Ticket)
  /-- `packet_read` stores the observation under a handle. -/
  | hand (t : Ticket)
  | requeue (t : Ticket)
  | countError
  deriving DecidableEq, Repr

def consume (choice : Choice) (reader : Reader) (s : Shared) : Reading → Shared × Option Reading
  | .requireRunning => if choice.running then (s, some .take) else (s, none)
  | .take =>
    match exec PacketBus.tryRead s.bus with
    | (.ok (some o), bus) =>
      let t := s.headTicket o
      (s.dequeued bus, some (if reader = .host then .requireProcessing t else .parse t))
    | (.ok none, bus) => ({ s with bus }, none)
    -- The head is out of the queue; the worker counts the error, the others return it.
    | (.error _, bus) => (s.dequeued bus, if reader = .worker then some .countError else none)
  | .requireProcessing t => if choice.running then (s, some (.parse t)) else (s, some (.requeue t))
  | .parse t =>
    match ParsedPacket.parse t.observation with
    | .ok parsed =>
      (s, some (.lookUp t [parsed.sourceIp, parsed.destinationIp].reduceOption))
    | .error _ => (s.countError, some (.countProcessed t))
  | .lookUp t [] => (s, some (.countProcessed t))
  | .lookUp t (_ :: addresses) =>
    ({ s with statistics := choice.enqueue.count s.statistics }, some (.lookUp t addresses))
  | .countProcessed t => (s.countProcessed t, some (.countBytesProcessed t))
  | .countBytesProcessed t =>
    (s.countBytesProcessed t, some (if reader = .host then .hand t else .release t))
  | .release t =>
    match exec (PacketBus.releaseProcessing t.observation.observationId) s.bus with
    | (.ok (), bus) => ({ s with bus }, none)
    | (.error _, bus) => ({ s with bus }, if reader = .worker then some .countError else none)
  | .hand t =>
    -- `c_uint::MAX`
    if 2 ^ 32 - 1 < t.observation.packet.len ∨ !choice.handleFree then (s, some (.requeue t))
    else
      match exec (PacketBus.transferToHost t.observation.observationId) s.bus with
      | (.ok (), bus) => ({ s with bus }, none)
      | (.error _, bus) => ({ s with bus }, some (.requeue t))
  -- The processed packet goes back to the bus and will be processed again.
  | .requeue t =>
    match exec (PacketBus.requeueProcessing t.observation) s.bus with
    | (.ok (), bus) => (s.queued bus t, none)
    | (.error _, bus) => ({ s with bus }, none)
  | .countError => (s.countError, none)

/-- `unified_statistics` inside `validate_statistics`; `seen` has what had been received at the
load. -/
inductive Validating where
  | loadReceived
  | loadProcessed (received : UInt64) (seen : List Ticket)
  | loadBytesReceived (received processed : UInt64)
  | loadBytesProcessed (received processed bytesReceived : UInt64) (seen : List Ticket)
  deriving DecidableEq

def validate (s : Shared) : Validating → Shared × Option Validating
  | .loadReceived =>
    (s, some (.loadProcessed s.statistics.totalPacketsReceived s.traced.received))
  | .loadProcessed received _ =>
    (s, some (.loadBytesReceived received s.statistics.totalPacketsProcessed))
  | .loadBytesReceived received processed =>
    (s, some (.loadBytesProcessed received processed s.statistics.totalBytesReceived
      s.traced.bytesReceived))
  | .loadBytesProcessed received processed bytesReceived _ =>
    let snapshot : UnifiedStatisticsSnapshot :=
      ⟨received, processed, bytesReceived, s.statistics.totalBytesProcessed⟩
    ({ s with verdicts := s.verdicts ++ [snapshot.validate] }, none)

inductive Point where
  | producing (p : Producing)
  | reading (reader : Reader) (p : Reading)
  | validating (p : Validating)
  deriving DecidableEq

inductive Call where
  /-- A packet that the capture worker received, with the id it drew. -/
  | capture (id : ObservationId) (packet : InterceptedPacket) (captured ingested : Timestamp)
  | ingestObservation (now : Timestamp) (o : PacketObservation)
  | packetRead
  | processOne
  | work
  | validateStatistics
  deriving DecidableEq, Repr

def firstPoint : Call → Point
  | .capture id packet captured ingested =>
    .producing (.publish (packet.toObservation id captured ingested))
  | .ingestObservation now o => .producing (.check now o)
  | .packetRead => .reading .host .take
  | .processOne => .reading .processOne .requireRunning
  | .work => .reading .worker .take
  | .validateStatistics => .validating .loadReceived

def proceed (choice : Choice) (point : Point) (s : Shared) : Shared × Option Point :=
  match point with
  | .producing p => ((produce choice s p).1, (produce choice s p).2.map .producing)
  | .reading reader p =>
    ((consume choice reader s p).1, (consume choice reader s p).2.map (.reading reader))
  | .validating p => ((validate s p).1, (validate s p).2.map .validating)

def program : Program Shared Point Call Choice :=
  ⟨fun call s => (s, some (firstPoint call)), proceed⟩

abbrev Engine := Threads.Sys Shared Point

def new (capacity : Nat) : Engine := ⟨.new capacity, []⟩

/-! ## 3. The tickets of the queue -/

variable {s s' : Shared} {t : Ticket} {choice : Choice}

/-- The tickets that wait are those of the queue, in order. -/
def Mirrors (s : Shared) : Prop := s.waiting.map (·.observation) = s.bus.queue.items

/-- The queue has not changed. -/
theorem Mirrors.of_items (h : Mirrors s) (hwaiting : s'.waiting = s.waiting)
    (hitems : s'.bus.queue.items = s.bus.queue.items) : Mirrors s' := by
  unfold Mirrors
  rw [hwaiting, hitems]
  exact h

theorem Mirrors.queued (h : Mirrors s) {bus : PacketBus}
    (hitems : bus.queue.items = s.bus.queue.items ++ [t.observation]) :
    Mirrors (s.queued bus t) := by
  show (s.waiting ++ [t]).map (·.observation) = bus.queue.items
  rw [hitems, List.map_append, h]
  rfl

theorem Mirrors.dequeued (h : Mirrors s) {bus : PacketBus} {o : PacketObservation}
    {rest : List PacketObservation} (hitems : s.bus.queue.items = o :: rest)
    (hrest : bus.queue.items = rest) : Mirrors (s.dequeued bus) := by
  show s.waiting.tail.map (·.observation) = bus.queue.items
  rw [List.map_tail, h, hitems, hrest]
  rfl

/-- A reader takes the ticket of the observation it reads. -/
theorem Mirrors.headTicket (h : Mirrors s) {o : PacketObservation} {rest : List PacketObservation}
    (hitems : s.bus.queue.items = o :: rest) : (s.headTicket o).observation = o := by
  unfold Mirrors at h
  rw [hitems] at h
  unfold Shared.headTicket
  cases hwaiting : s.waiting with
  | nil => rfl
  | cons t waiting =>
    rw [hwaiting, List.map_cons] at h
    exact (List.cons.inj h).1

theorem Mirrors.produce (h : Mirrors s) (p : Producing) :
    Mirrors (StatisticsConcurrent.produce choice s p).1 := by
  cases p with
  | check now o =>
    simp only [StatisticsConcurrent.produce]
    split_ifs <;> exact h
  | publish o =>
    by_cases hroom : s.bus.ownerOf o.observationId = none ∧ s.bus.queue.Accepts
    · have hpublish : exec (PacketBus.publishEngineOwned o) s.bus = _ :=
        PacketBus.publish_ok hroom.1 hroom.2
      simp only [StatisticsConcurrent.produce, hpublish]
      exact (h.queued (t := ⟨s.publications, o⟩) rfl).of_items rfl rfl
    · obtain ⟨error, hrefused⟩ := PacketBus.publish_error hroom
      have hpublish : exec (PacketBus.publishEngineOwned o) s.bus = _ := hrefused
      simp only [StatisticsConcurrent.produce, hpublish]
      exact h
  | countReceived t => exact h
  | countBytesReceived t => exact h
  | countRefused error =>
    simp only [StatisticsConcurrent.produce]
    split_ifs <;> exact h

theorem Mirrors.take (h : Mirrors s) (reader : Reader) :
    Mirrors (consume choice reader s .take).1 := by
  cases hitems : s.bus.queue.items with
  | nil =>
    simp only [consume, PacketBus.tryRead_nil hitems]
    exact h
  | cons o rest =>
    by_cases howner : s.bus.ownerOf o.observationId = some .bus
    · simp only [consume, PacketBus.tryRead_cons hitems howner]
      exact h.dequeued hitems rfl
    · obtain ⟨error, hlost⟩ := PacketBus.tryRead_lost hitems howner
      simp only [consume, hlost]
      exact h.dequeued hitems rfl

theorem Mirrors.requeue (h : Mirrors s) (reader : Reader) (t : Ticket) :
    Mirrors (consume choice reader s (.requeue t)).1 := by
  by_cases howner : s.bus.ownerOf t.observation.observationId = some .processing
  · by_cases hroom : s.bus.queue.Accepts
    · simp only [consume, PacketBus.requeueProcessing_ok howner hroom]
      exact h.queued rfl
    · obtain ⟨error, hstuck⟩ := PacketBus.requeueProcessing_stuck howner hroom
      simp only [consume, hstuck]
      exact h
  · obtain ⟨error, hrefused⟩ := PacketBus.requeueProcessing_error howner
    simp only [consume, hrefused]
    exact h

theorem Mirrors.consume (h : Mirrors s) (reader : Reader) (p : Reading) :
    Mirrors (StatisticsConcurrent.consume choice reader s p).1 := by
  cases p with
  | take => exact h.take reader
  | requeue t => exact h.requeue reader t
  | countProcessed | countBytesProcessed | countError => exact h
  | requireRunning | requireProcessing =>
    simp only [StatisticsConcurrent.consume]
    split_ifs <;> exact h
  | parse t =>
    simp only [StatisticsConcurrent.consume]
    split <;> exact h
  | lookUp t addresses => cases addresses <;> exact h
  | release t =>
    -- Records change hands; the queue stays as it is.
    by_cases howner : s.bus.ownerOf t.observation.observationId = some .processing
    · have hrelease : exec (PacketBus.releaseProcessing t.observation.observationId) s.bus = _ :=
        PacketBus.releaseFrom_ok (by decide) howner
      simp only [StatisticsConcurrent.consume, hrelease]
      exact h
    · obtain ⟨error, hrefused⟩ := PacketBus.releaseFrom_error howner
      have hrelease : exec (PacketBus.releaseProcessing t.observation.observationId) s.bus = _ :=
        hrefused
      simp only [StatisticsConcurrent.consume, hrelease]
      exact h
  | hand t =>
    by_cases howner : s.bus.ownerOf t.observation.observationId = some .processing
    · have hhand : exec (PacketBus.transferToHost t.observation.observationId) s.bus = _ :=
        PacketBus.transfer_ok rfl howner
      simp only [StatisticsConcurrent.consume, hhand]
      split_ifs <;> exact h
    · obtain ⟨error, hrefused⟩ := PacketBus.transfer_error howner .host
      have hhand : exec (PacketBus.transferToHost t.observation.observationId) s.bus = _ := hrefused
      simp only [StatisticsConcurrent.consume, hhand]
      split_ifs <;> exact h

/-- The tickets that wait are those of the queue of the bus. -/
def Mirrored (e : Engine) : Prop := Mirrors e.shared

theorem Mirrored.step {e : Engine} (h : Mirrored e) (turn : Turn Call Choice) :
    Mirrored (program.step e turn) := by
  apply inv_step turn ?_ ?_ h
  · exact fun call _ => h
  · rintro i choice k - -
    cases k with
    | producing p => exact Mirrors.produce h p
    | reading reader p => exact Mirrors.consume h reader p
    | validating p => cases p <;> exact h

/-- The tickets follow the queue of the bus through every run. -/
theorem mirrored_run (capacity : Nat) (turns : List (Turn Call Choice)) :
    Mirrored (run program.step (new capacity) turns) := by
  have hnew : Mirrored (new capacity) := rfl
  exact run_inv (fun e turn (h : Mirrored e) => h.step turn) hnew turns

/-! ## 4. Runs that validate -/

/-- The bytes of some publications. -/
def weight (tickets : List Ticket) : Nat := total (fun t => t.bytes.toNat) tickets

/-- What had been received when a call under way loaded the received packets, until it loads the
processed ones. -/
def Point.packetsSeen : Point → Option (List Ticket)
  | .validating (.loadProcessed _ seen) => some seen
  | _ => none

def Point.bytesSeen : Point → Option (List Ticket)
  | .validating (.loadBytesProcessed _ _ _ seen) => some seen
  | _ => none

/-- The received counters do not wrap. -/
def Unwrapped (s : Engine) (turn : Turn Call Choice) : Prop :=
  match s.point turn with
  | some (.producing (.countReceived _)) =>
    s.shared.statistics.totalPacketsReceived.toNat + 1 < 2 ^ 64
  | some (.producing (.countBytesReceived t)) =>
    s.shared.statistics.totalBytesReceived.toNat + t.bytes.toNat < 2 ^ 64
  | _ => True

/-- What is counted as processed has been counted as received, also when the snapshots under way
loaded the received counter, and has not been counted as processed before. -/
def InOrder (s : Engine) (turn : Turn Call Choice) : Prop :=
  match s.point turn with
  | some (.reading _ (.countProcessed t)) =>
    t ∈ s.shared.traced.received ∧ t ∉ s.shared.traced.processed ∧
      ∀ k ∈ s.calls, ∀ seen ∈ k.packetsSeen, t ∈ seen
  | some (.reading _ (.countBytesProcessed t)) =>
    t ∈ s.shared.traced.bytesReceived ∧ t ∉ s.shared.traced.bytesProcessed ∧
      ∀ k ∈ s.calls, ∀ seen ∈ k.bytesSeen, t ∈ seen
  | _ => True

instance (s : Engine) (turn : Turn Call Choice) : Decidable (Unwrapped s turn) := by
  unfold Unwrapped
  split <;> infer_instance

instance (s : Engine) (turn : Turn Call Choice) : Decidable (InOrder s turn) := by
  unfold InOrder
  split <;> infer_instance

/-- Every `validate_statistics` call so far has returned `Ok`. -/
def Validates (s : Engine) : Prop := ∀ verdict ∈ s.shared.verdicts, verdict = .ok ()

/-! ## 5. The counters and what they have counted -/

/-- The counters against the publications they have counted. -/
structure Counted (s : Shared) : Prop where
  received : s.traced.received.length = s.statistics.totalPacketsReceived.toNat
  bytesReceived : weight s.traced.bytesReceived = s.statistics.totalBytesReceived.toNat
  processed : s.statistics.totalPacketsProcessed.toNat ≤ s.traced.processed.length
  bytesProcessed : s.statistics.totalBytesProcessed.toNat ≤ weight s.traced.bytesProcessed
  processed_nodup : s.traced.processed.Nodup
  bytesProcessed_nodup : s.traced.bytesProcessed.Nodup
  processed_subset : s.traced.processed ⊆ s.traced.received
  bytesProcessed_subset : s.traced.bytesProcessed ⊆ s.traced.bytesReceived
  verdicts : ∀ verdict ∈ s.verdicts, verdict = .ok ()

/-- What a call has loaded covers what it will load. -/
def Loaded (s : Shared) : Point → Prop
  | .validating (.loadProcessed received seen) =>
    seen.length = received.toNat ∧ s.traced.processed ⊆ seen
  | .validating (.loadBytesReceived received processed) => processed ≤ received
  | .validating (.loadBytesProcessed received processed bytesReceived seen) =>
    processed ≤ received ∧ weight seen = bytesReceived.toNat ∧ s.traced.bytesProcessed ⊆ seen
  | _ => True

structure Inv (s : Engine) : Prop where
  counted : Counted s.shared
  loaded : ∀ k ∈ s.calls, Loaded s.shared k

variable {tickets tickets' : List Ticket}

theorem weight_concat (tickets : List Ticket) (t : Ticket) :
    weight (tickets ++ [t]) = weight tickets + t.bytes.toNat :=
  total_append _ tickets (some t)

theorem toNat_add_of_lt {a b : UInt64} (h : a.toNat + b.toNat < 2 ^ 64) :
    (a + b).toNat = a.toNat + b.toNat := by
  rw [UInt64.toNat_add, Nat.mod_eq_of_lt h]

theorem toNat_add_le (a b : UInt64) : (a + b).toNat ≤ a.toNat + b.toNat := by
  rw [UInt64.toNat_add]
  exact Nat.mod_le _ _

theorem concat_subset (hmem : t ∈ tickets') (h : tickets ⊆ tickets') :
    tickets ++ [t] ⊆ tickets' :=
  List.append_subset.mpr ⟨h, List.cons_subset.mpr ⟨hmem, List.nil_subset _⟩⟩

theorem nodup_concat (h : tickets.Nodup) (hnew : t ∉ tickets) : (tickets ++ [t]).Nodup :=
  (List.perm_append_singleton t tickets).nodup_iff.mpr (List.nodup_cons.mpr ⟨hnew, h⟩)

/-! ### Steps that count -/

theorem Counted.countReceived (h : Counted s)
    (hfits : s.statistics.totalPacketsReceived.toNat + 1 < 2 ^ 64) :
    Counted (s.countReceived t) where
  received := by
    have hsum : (s.statistics.totalPacketsReceived + 1).toNat =
        s.statistics.totalPacketsReceived.toNat + 1 := toNat_add_of_lt hfits
    show (s.traced.received ++ [t]).length = (s.statistics.totalPacketsReceived + 1).toNat
    rw [hsum, List.length_append, h.received]
    rfl
  bytesReceived := h.bytesReceived
  processed := h.processed
  bytesProcessed := h.bytesProcessed
  processed_nodup := h.processed_nodup
  bytesProcessed_nodup := h.bytesProcessed_nodup
  processed_subset := List.subset_append_of_subset_left _ h.processed_subset
  bytesProcessed_subset := h.bytesProcessed_subset
  verdicts := h.verdicts

theorem Counted.countBytesReceived (h : Counted s)
    (hfits : s.statistics.totalBytesReceived.toNat + t.bytes.toNat < 2 ^ 64) :
    Counted (s.countBytesReceived t) where
  received := h.received
  bytesReceived := by
    show weight (s.traced.bytesReceived ++ [t]) =
      (s.statistics.totalBytesReceived + t.bytes).toNat
    rw [toNat_add_of_lt hfits, weight_concat, h.bytesReceived]
  processed := h.processed
  bytesProcessed := h.bytesProcessed
  processed_nodup := h.processed_nodup
  bytesProcessed_nodup := h.bytesProcessed_nodup
  processed_subset := h.processed_subset
  bytesProcessed_subset := List.subset_append_of_subset_left _ h.bytesProcessed_subset
  verdicts := h.verdicts

theorem Counted.countProcessed (h : Counted s) (hreceived : t ∈ s.traced.received)
    (hnew : t ∉ s.traced.processed) : Counted (s.countProcessed t) where
  received := h.received
  bytesReceived := h.bytesReceived
  processed := by
    have hsum : (s.statistics.totalPacketsProcessed + 1).toNat ≤
        s.statistics.totalPacketsProcessed.toNat + 1 := toNat_add_le _ 1
    have hprocessed := h.processed
    show (s.statistics.totalPacketsProcessed + 1).toNat ≤ (s.traced.processed ++ [t]).length
    rw [List.length_append, List.length_singleton]
    omega
  bytesProcessed := h.bytesProcessed
  processed_nodup := nodup_concat h.processed_nodup hnew
  bytesProcessed_nodup := h.bytesProcessed_nodup
  processed_subset := concat_subset hreceived h.processed_subset
  bytesProcessed_subset := h.bytesProcessed_subset
  verdicts := h.verdicts

theorem Counted.countBytesProcessed (h : Counted s) (hreceived : t ∈ s.traced.bytesReceived)
    (hnew : t ∉ s.traced.bytesProcessed) : Counted (s.countBytesProcessed t) where
  received := h.received
  bytesReceived := h.bytesReceived
  processed := h.processed
  bytesProcessed := by
    have hsum := toNat_add_le s.statistics.totalBytesProcessed t.bytes
    have hprocessed := h.bytesProcessed
    show (s.statistics.totalBytesProcessed + t.bytes).toNat ≤
      weight (s.traced.bytesProcessed ++ [t])
    rw [weight_concat]
    omega
  processed_nodup := h.processed_nodup
  bytesProcessed_nodup := nodup_concat h.bytesProcessed_nodup hnew
  processed_subset := h.processed_subset
  bytesProcessed_subset := concat_subset hreceived h.bytesProcessed_subset
  verdicts := h.verdicts

/-- A snapshot that was loaded in order passes the checks. -/
theorem validate_eq_ok (snapshot : UnifiedStatisticsSnapshot)
    (hpackets : snapshot.packetsProcessed ≤ snapshot.packetsReceived)
    (hbytes : snapshot.bytesProcessed ≤ snapshot.bytesReceived) : snapshot.validate = .ok () := by
  unfold UnifiedStatisticsSnapshot.validate
  refine if_neg ?_
  rintro (h | h)
  · exact absurd hpackets (UInt64.not_le.mpr h)
  · exact absurd hbytes (UInt64.not_le.mpr h)

/-! ### Steps that do not -/

/-- The step leaves the four counters, what they have counted and the verdicts alone. -/
structure Quiet (s s' : Shared) : Prop where
  received : s'.statistics.totalPacketsReceived = s.statistics.totalPacketsReceived
  bytesReceived : s'.statistics.totalBytesReceived = s.statistics.totalBytesReceived
  processed : s'.statistics.totalPacketsProcessed = s.statistics.totalPacketsProcessed
  bytesProcessed : s'.statistics.totalBytesProcessed = s.statistics.totalBytesProcessed
  traced : s'.traced = s.traced
  verdicts : s'.verdicts = s.verdicts

theorem Quiet.refl (s : Shared) : Quiet s s := ⟨rfl, rfl, rfl, rfl, rfl, rfl⟩

theorem Counted.quiet (h : Counted s) (hquiet : Quiet s s') : Counted s' := by
  constructor
  · rw [hquiet.traced, hquiet.received]
    exact h.received
  · rw [hquiet.traced, hquiet.bytesReceived]
    exact h.bytesReceived
  · rw [hquiet.traced, hquiet.processed]
    exact h.processed
  · rw [hquiet.traced, hquiet.bytesProcessed]
    exact h.bytesProcessed
  · rw [hquiet.traced]
    exact h.processed_nodup
  · rw [hquiet.traced]
    exact h.bytesProcessed_nodup
  · rw [hquiet.traced]
    exact h.processed_subset
  · rw [hquiet.traced]
    exact h.bytesProcessed_subset
  · rw [hquiet.verdicts]
    exact h.verdicts

/-- The step of a producer counts a publication as received, or counts nothing here. -/
theorem produce_cases (choice : Choice) (s : Shared) (p : Producing) :
    Quiet s (produce choice s p).1 ∨
      (∃ t, p = .countReceived t ∧ (produce choice s p).1 = s.countReceived t) ∨
      ∃ t, p = .countBytesReceived t ∧ (produce choice s p).1 = s.countBytesReceived t := by
  cases p with
  | check now o =>
    left
    simp only [produce]
    split_ifs <;> exact .refl s
  | publish o =>
    left
    simp only [produce]
    split <;> exact ⟨rfl, rfl, rfl, rfl, rfl, rfl⟩
  | countReceived t => exact .inr (.inl ⟨t, rfl, rfl⟩)
  | countBytesReceived t => exact .inr (.inr ⟨t, rfl, rfl⟩)
  | countRefused error =>
    left
    simp only [produce]
    split_ifs <;> exact ⟨rfl, rfl, rfl, rfl, rfl, rfl⟩

theorem consume_cases (choice : Choice) (reader : Reader) (s : Shared) (p : Reading) :
    Quiet s (consume choice reader s p).1 ∨
      (∃ t, p = .countProcessed t ∧ (consume choice reader s p).1 = s.countProcessed t) ∨
      ∃ t, p = .countBytesProcessed t ∧
        (consume choice reader s p).1 = s.countBytesProcessed t := by
  cases p with
  | countProcessed t => exact .inr (.inl ⟨t, rfl, rfl⟩)
  | countBytesProcessed t => exact .inr (.inr ⟨t, rfl, rfl⟩)
  | countError => exact .inl ⟨rfl, rfl, rfl, rfl, rfl, rfl⟩
  | requireRunning | requireProcessing =>
    left
    simp only [consume]
    split_ifs <;> exact .refl s
  | lookUp t addresses =>
    left
    cases addresses with
    | nil => exact .refl s
    | cons address addresses =>
      -- The answer of the pool is counted elsewhere.
      simp only [consume]
      cases choice.enqueue <;> exact ⟨rfl, rfl, rfl, rfl, rfl, rfl⟩
  | hand t =>
    left
    simp only [consume]
    split_ifs
    · exact .refl s
    · split <;> exact ⟨rfl, rfl, rfl, rfl, rfl, rfl⟩
  | take | parse | release | requeue =>
    left
    simp only [consume]
    split <;> exact ⟨rfl, rfl, rfl, rfl, rfl, rfl⟩

/-! ## 6. One turn -/

variable {e : Engine} {i : Nat} {k k' : Point}

theorem loaded_congr (hprocessed : s'.traced.processed = s.traced.processed)
    (hbytes : s'.traced.bytesProcessed = s.traced.bytesProcessed) :
    Loaded s' k ↔ Loaded s k := by
  cases k with
  | producing p => exact Iff.rfl
  | reading reader p => exact Iff.rfl
  | validating p => cases p <;> simp only [Loaded, hprocessed, hbytes]

theorem Loaded.countProcessed (h : Loaded s k) (hseen : ∀ seen ∈ k.packetsSeen, t ∈ seen) :
    Loaded (s.countProcessed t) k := by
  cases k with
  | producing p => exact h
  | reading reader p => exact h
  | validating p =>
    cases p with
    | loadProcessed received seen => exact ⟨h.1, concat_subset (hseen seen rfl) h.2⟩
    | loadReceived | loadBytesReceived | loadBytesProcessed => exact h

theorem Loaded.countBytesProcessed (h : Loaded s k) (hseen : ∀ seen ∈ k.bytesSeen, t ∈ seen) :
    Loaded (s.countBytesProcessed t) k := by
  cases k with
  | producing p => exact h
  | reading reader p => exact h
  | validating p =>
    cases p with
    | loadBytesProcessed received processed bytesReceived seen =>
      exact ⟨h.1, h.2.1, concat_subset (hseen seen rfl) h.2.2⟩
    | loadReceived | loadProcessed | loadBytesReceived => exact h

/-- A turn keeps the invariant if its step keeps the counts, what the calls have loaded still covers
what they will load, and so for the point reached. -/
theorem Inv.move (hcounted : Counted s) (hloaded : ∀ k ∈ e.calls, Loaded s k) {o : Option Point}
    (hnext : ∀ k, o = some k → Loaded s k) : Inv ⟨s, Threads.move e.calls i o⟩ where
  counted := hcounted
  loaded k hk := (mem_move hk).elim (hloaded k) (hnext k)

theorem Inv.produce (h : Inv e) {p : Producing} (hk : e.calls[i]? = some (.producing p))
    (hfits : Unwrapped e (.next i choice)) :
    Inv ⟨(StatisticsConcurrent.produce choice e.shared p).1,
      Threads.move e.calls i ((StatisticsConcurrent.produce choice e.shared p).2.map .producing)⟩ := by
  have hnext (s : Shared) (k : Point)
      (hnext : (StatisticsConcurrent.produce choice e.shared p).2.map .producing = some k) :
      Loaded s k := by
    obtain ⟨p', -, rfl⟩ := Option.map_eq_some_iff.mp hnext
    trivial
  unfold Unwrapped at hfits
  rw [show e.point (.next i choice) = some (.producing p) from hk] at hfits
  rcases produce_cases choice e.shared p with hquiet | ⟨t, rfl, hcount⟩ | ⟨t, rfl, hcount⟩
  · refine .move (h.counted.quiet hquiet) (fun k hk => ?_) (hnext _)
    exact (loaded_congr (by rw [hquiet.traced]) (by rw [hquiet.traced])).mpr (h.loaded k hk)
  · rw [hcount]
    refine .move (h.counted.countReceived hfits) (fun k hk => ?_) (hnext _)
    exact (loaded_congr rfl rfl).mpr (h.loaded k hk)
  · rw [hcount]
    refine .move (h.counted.countBytesReceived hfits) (fun k hk => ?_) (hnext _)
    exact (loaded_congr rfl rfl).mpr (h.loaded k hk)

theorem Inv.consume (h : Inv e) {reader : Reader} {p : Reading}
    (hk : e.calls[i]? = some (.reading reader p)) (horder : InOrder e (.next i choice)) :
    Inv ⟨(StatisticsConcurrent.consume choice reader e.shared p).1, Threads.move e.calls i
      ((StatisticsConcurrent.consume choice reader e.shared p).2.map (.reading reader))⟩ := by
  have hnext (s : Shared) (k : Point)
      (hnext : (StatisticsConcurrent.consume choice reader e.shared p).2.map (.reading reader) =
        some k) : Loaded s k := by
    obtain ⟨p', -, rfl⟩ := Option.map_eq_some_iff.mp hnext
    trivial
  unfold InOrder at horder
  rw [show e.point (.next i choice) = some (.reading reader p) from hk] at horder
  rcases consume_cases choice reader e.shared p with hquiet | ⟨t, rfl, hcount⟩ | ⟨t, rfl, hcount⟩
  · refine .move (h.counted.quiet hquiet) (fun k hk => ?_) (hnext _)
    exact (loaded_congr (by rw [hquiet.traced]) (by rw [hquiet.traced])).mpr (h.loaded k hk)
  · obtain ⟨hreceived, hnew, hseen⟩ := horder
    rw [hcount]
    exact .move (h.counted.countProcessed hreceived hnew)
      (fun k hk => (h.loaded k hk).countProcessed (hseen k hk)) (hnext _)
  · obtain ⟨hreceived, hnew, hseen⟩ := horder
    rw [hcount]
    exact .move (h.counted.countBytesProcessed hreceived hnew)
      (fun k hk => (h.loaded k hk).countBytesProcessed (hseen k hk)) (hnext _)

/-- A load finds what the call relies on. -/
theorem Inv.validate (h : Inv e) {p : Validating} (hk : e.calls[i]? = some (.validating p)) :
    Inv ⟨(StatisticsConcurrent.validate e.shared p).1,
      Threads.move e.calls i ((StatisticsConcurrent.validate e.shared p).2.map .validating)⟩ := by
  have hpoint := h.loaded _ (List.mem_of_getElem? hk)
  have hcounted := h.counted
  cases p with
  | loadReceived =>
    refine .move hcounted h.loaded ?_
    rintro _ ⟨⟩
    exact ⟨hcounted.received, hcounted.processed_subset⟩
  | loadProcessed received seen =>
    refine .move hcounted h.loaded ?_
    rintro _ ⟨⟩
    have hlength := (List.subperm_of_subset hcounted.processed_nodup hpoint.2).length_le
    have hprocessed := hcounted.processed
    have hreceived := hpoint.1
    show e.shared.statistics.totalPacketsProcessed ≤ received
    exact UInt64.le_iff_toNat_le.mpr (by omega)
  | loadBytesReceived received processed =>
    refine .move hcounted h.loaded ?_
    rintro _ ⟨⟩
    exact ⟨hpoint, hcounted.bytesReceived, hcounted.bytesProcessed_subset⟩
  | loadBytesProcessed received processed bytesReceived seen =>
    obtain ⟨hpackets, hbytes, hsubset⟩ := hpoint
    have hweight : weight e.shared.traced.bytesProcessed ≤ weight seen :=
      total_le_of_subset _ hcounted.bytesProcessed_nodup hsubset
    have hprocessed := hcounted.bytesProcessed
    have hbytes : e.shared.statistics.totalBytesProcessed ≤ bytesReceived :=
      UInt64.le_iff_toNat_le.mpr (by omega)
    apply Inv.move
    · refine ⟨hcounted.received, hcounted.bytesReceived, hcounted.processed,
        hcounted.bytesProcessed, hcounted.processed_nodup, hcounted.bytesProcessed_nodup,
        hcounted.processed_subset, hcounted.bytesProcessed_subset, ?_⟩
      intro verdict hverdict
      rcases List.mem_append.mp hverdict with hold | hnew
      · exact hcounted.verdicts verdict hold
      · rw [List.mem_singleton.mp hnew]
        exact validate_eq_ok _ hpackets hbytes
    · exact fun k hk => (loaded_congr rfl rfl).mpr (h.loaded k hk)
    · exact fun k hk => nomatch hk

theorem Inv.step (h : Inv e) (turn : Turn Call Choice) (hfits : Unwrapped e turn)
    (horder : InOrder e turn) : Inv (program.step e turn) := by
  apply inv_step turn ?_ ?_ h
  · rintro call rfl
    refine ⟨h.counted, fun k hk => ?_⟩
    rcases mem_start hk with hold | hnew
    · exact h.loaded k hold
    · obtain rfl := Option.some.inj hnew
      cases call <;> trivial
  · rintro i choice k rfl hk
    cases k with
    | producing p => exact h.produce hk hfits
    | reading reader p => exact h.consume hk horder
    | validating p => exact h.validate hk

theorem inv_new (capacity : Nat) : Inv (new capacity) where
  counted := by
    refine ⟨rfl, rfl, Nat.le_refl 0, Nat.le_refl 0, List.nodup_nil, List.nodup_nil,
      List.Subset.refl _, List.Subset.refl _, ?_⟩
    intro verdict hverdict
    cases hverdict
  loaded k hk := by cases hk

/-! ## 7. Whole runs -/

/-- `validate_statistics` returns `Ok` in every run that counts in order. -/
theorem validates_run (capacity : Nat) (turns : List (Turn Call Choice))
    (hfits : Along program.step Unwrapped (new capacity) turns)
    (horder : Along program.step InOrder (new capacity) turns) :
    Always program.step Validates (new capacity) turns := by
  have halong : Along program.step (fun e turn => Unwrapped e turn ∧ InOrder e turn)
      (new capacity) turns := along_and.mpr ⟨hfits, horder⟩
  have hinv : Always program.step Inv (new capacity) turns :=
    always_of_along (fun _ turn h hturn => h.step turn hturn.1 hturn.2) (inv_new capacity) halong
  exact fun before after hsplit => (hinv before after hsplit).counted.verdicts

instance (e : Engine) : Decidable (Validates e) :=
  inferInstanceAs (Decidable (∀ verdict ∈ e.shared.verdicts, verdict = .ok ()))

def goOn (i : Nat) : Turn Call Choice := .next i ⟨true, .ok, true⟩

def onePacket : Call := .capture 1 (.fromNative ⟨[0x46], by decide⟩ zeroAddress) ⟨0⟩ ⟨0⟩

/-- The worker counts a packet before it is processed, and a snapshot is loaded afterwards. -/
theorem validates_run_captured :
    Always program.step Validates (new 4)
      ([.start onePacket, goOn 0, goOn 0, goOn 0, .start .work] ++ List.replicate 5 (goOn 0) ++
        [.start .validateStatistics] ++ List.replicate 4 (goOn 0)) :=
  validates_run 4 _ (by decide +kernel) (by decide +kernel)

/-- The processing worker counts a packet that the capture worker has published and not counted:
the snapshot in between has more processed than received. -/
theorem processed_before_received :
    ¬ Always program.step Validates (new 4)
      ([.start onePacket, goOn 0, .start .work] ++ List.replicate 4 (goOn 1) ++
        [.start .validateStatistics] ++ List.replicate 4 (goOn 2)) := by
  intro h
  have hlast := h _ [] (List.append_nil _).symm
  revert hlast
  decide +kernel

end StatisticsConcurrent

end NetworkEngine
