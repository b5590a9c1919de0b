import NetworkEngine.Engine.StatisticsConcurrent
import NetworkEngine.Ffi.Sessions

/-!
# Diverted — where a diverted packet is

WinDivert takes a packet off the network when it delivers it, and the packet is gone unless someone
sends it again.  The capture worker, the host's reads and actions, `process_one` and the processing
worker are interleaved at the locks of the bus and of the handle table, and every packet is followed
from place to place.  The engine lock is left out, as it only takes interleavings away, and so are
flows and metadata, which no place and no counter depends on.  What one processing adds to the
counters, it adds in one step: they are atomic, and nobody reads them here.
-/

namespace NetworkEngine

open Rust Transition Threads

open StatisticsConcurrent (Reader)

namespace Ffi.Diverted

/-! ## 1. Packets and calls -/

/-- An observation on its way, numbered so that it is told from others of its id. -/
structure Token where
  number : Nat
  observation : PacketObservation
  deriving DecidableEq, Repr

abbrev Token.id (t : Token) : ObservationId := t.observation.observationId

/-- How a packet ends. -/
inductive Fate where
  | reinjected
  /-- By a call of the host on its handle. -/
  | released
  | dropped
  /-- By the bus, and counted. -/
  | refused
  deriving DecidableEq, Repr

/-- The bus, `PACKET_HANDLES` and the counters.  The rest follows the packets: `received` are those
of the capture worker, `waiting` those of the queue, and `made` has whose record an id has. -/
structure Shared where
  bus : PacketBus
  handles : List (UInt64 × Token)
  handleCounter : UInt64
  statistics : EngineStatistics
  next : Nat
  received : List Token
  waiting : List Token
  made : ObservationId → Option Token
  settled : List (Token × Fate)

/-- What the environment decides in a step. -/
structure Choice where
  /-- What `require_running` finds, or what the worker reads of its stop flag. -/
  running : Bool
  /-- The reinjection succeeds. -/
  sent : Bool
  /-- What a processing takes from its environment. -/
  processing : ProcessingEnv

/-- Where a call is, with the packet in its hands. -/
inductive Point where
  | publish (t : Token)
  | countReceived (t : Token)
  | countRefused (t : Token) (error : EngineError)
  -- `try_read`, in its two sections.
  | dequeue (reader : Reader)
  | claim (reader : Reader) (t : Token)
  | process (reader : Reader) (t : Token)
  /-- `packet_read` stores the observation under a handle. -/
  | hand (t : Token)
  /-- `release_processing` of the others. -/
  | release (reader : Reader) (t : Token)
  -- `requeue_processing`, in its three sections.
  | requeueOut (t : Token)
  | requeueIn (t : Token)
  | requeueUndo (t : Token)
  | requeueBack (t : Token)
  -- An action of the host.
  | take (a : Action) (h : UInt64)
  | send (a : Action) (h : UInt64) (t : Token)
  | finish (a : Action) (h : UInt64) (t : Token)
  | releaseHost (a : Action) (h : UInt64) (t : Token)
  | restore (h : UInt64) (t : Token)

inductive Call where
  /-- The worker receives a packet and draws its id. -/
  | capture (id : ObservationId) (packet : InterceptedPacket) (captured ingested : Timestamp)
  /-- `packet_inject` behind its checks. -/
  | inject (o : PacketObservation)
  | packetRead
  | processOne
  | work
  | act (a : Action) (h : UInt64)

namespace Shared

def new (capacity : Nat) (handleCounter : UInt64) : Shared :=
  ⟨.new capacity, [], handleCounter, .new, 0, [], [], fun _ => none, []⟩

def lookup (s : Shared) (h : UInt64) : Option Token := s.handles.lookup h

def without (s : Shared) (h : UInt64) : List (UInt64 × Token) := s.handles.eraseP (·.1 == h)

def settle (s : Shared) (t : Token) (fate : Fate) : Shared :=
  { s with settled := s.settled ++ [(t, fate)] }

end Shared

/-- The action sends a packet before it gives the handle up. -/
def sends : Action → Bool
  | .release | .drop => false
  | .pass | .modify .. | .reinject => true

/-- How an action that releases ends the packet, and what it counts. -/
def releaseFate : Action → Fate
  | .drop => .dropped
  | _ => .released

def releaseCount (statistics : EngineStatistics) : Action → EngineStatistics
  | .drop => statistics.recordDropRequested
  | _ => statistics

def sendCount (statistics : EngineStatistics) : Action → EngineStatistics
  | .modify .. => statistics.recordForwarded.recordModification
  | _ => statistics.recordForwarded

/-- What `process_observation_shared` adds to the counters. -/
def countProcessing (env : ProcessingEnv) (o : PacketObservation) (statistics : EngineStatistics) :
    EngineStatistics :=
  let parsed := (ParsedPacket.parse o).toOption
  let statistics := if parsed.isNone then statistics.recordError else statistics
  (enqueueLookups env parsed statistics).recordPacketProcessed (UInt64.ofNat o.packetLength)

theorem countProcessing_eq (hash : IdentityInput → UInt64) (env : ProcessingEnv)
    (o : PacketObservation) (s : ProcessingShared) :
    (processObservationShared hash env o s).statistics = countProcessing env o s.statistics := rfl

/-- `next_handle`: the handle, and the counter after it. -/
def nextHandle (counter : UInt64) : UInt64 × UInt64 :=
  if counter ≠ 0 then (counter, counter + 1) else (counter + 1, counter + 2)

def start (call : Call) (s : Shared) : Shared × Option Point :=
  match call with
  | .capture id packet captured ingested =>
    let t := ⟨s.next, packet.toObservation id captured ingested⟩
    ({ s with next := s.next + 1, received := s.received ++ [t] }, some (.publish t))
  | .inject o => ({ s with next := s.next + 1 }, some (.publish ⟨s.next, o⟩))
  | .packetRead => (s, some (.dequeue .host))
  | .processOne => (s, some (.dequeue .processOne))
  | .work => (s, some (.dequeue .worker))
  | .act a h => (s, some (.take a h))

/-- The worker counts an error, the other readers return it. -/
def readerError (reader : Reader) (s : Shared) : Shared :=
  if reader = .worker then { s with statistics := s.statistics.recordError } else s

def next (choice : Choice) (point : Point) (s : Shared) : Shared × Option Point :=
  match point with
  | .publish t =>
    match exec (PacketBus.publishEngineOwned t.observation) s.bus with
    | (.ok (), bus) =>
      ({ s with
        bus, waiting := s.waiting ++ [t], made := Function.update s.made t.id (some t) },
        some (.countReceived t))
    | (.error error, bus) => ({ s with bus }, some (.countRefused t error))
  -- The packet is on the bus by now.
  | .countReceived t =>
    let bytes := UInt64.ofNat t.observation.packetLength
    ({ s with statistics := s.statistics.recordPacketReceived bytes }, none)
  | .countRefused t error =>
    let statistics :=
      if error.errorCode = .queueFull then s.statistics.recordQueueSaturation
      else s.statistics.recordError
    ({ s with statistics }.settle t .refused, none)
  | .dequeue reader =>
    -- `packet_read` looks whether the engine runs only when it processes.
    if reader ≠ .host ∧ !choice.running then (s, none)
    else
      match exec (mapErr PacketBus.mapQueueError (PacketBus.onQueue ObservationQueue.tryDequeue))
        s.bus with
      | (.ok (some o), bus) =>
        ({ s with bus, waiting := s.waiting.tail },
          some (.claim reader (s.waiting.headD ⟨s.next, o⟩)))
      | (_, bus) => ({ s with bus }, none)
  | .claim reader t =>
    match exec (PacketBus.transfer t.id .bus .processing) s.bus with
    | (.ok (), bus) => ({ s with bus }, some (.process reader t))
    -- The observation is out of the queue, and goes with the error.
    | (.error _, bus) => (readerError reader { s with bus }, none)
  | .process reader t =>
    let processed :=
      { s with statistics := countProcessing choice.processing t.observation s.statistics }
    if reader ≠ .host then (processed, some (.release reader t))
    else if choice.running then (processed, some (.hand t))
    -- `process_observation` asks again whether the engine runs, before it processes.
    else (s, some (.requeueOut t))
  | .hand t =>
    -- `c_uint::MAX`
    if 2 ^ 32 - 1 < t.observation.packet.len then (s, some (.requeueOut t))
    else
      let h := (nextHandle s.handleCounter).1
      let s := { s with handleCounter := (nextHandle s.handleCounter).2 }
      if (s.lookup h).isSome then (s, some (.requeueOut t))
      else
        match exec (PacketBus.transferToHost t.id) s.bus with
        | (.ok (), bus) => ({ s with bus, handles := (h, t) :: s.handles }, none)
        | (.error _, bus) => ({ s with bus }, some (.requeueOut t))
  | .release reader t =>
    match exec (PacketBus.releaseProcessing t.id) s.bus with
    | (.ok (), bus) => ({ s with bus }, none)
    | (.error _, bus) => (readerError reader { s with bus }, none)
  | .requeueOut t =>
    match exec (PacketBus.transfer t.id .processing .engine) s.bus with
    | (.ok (), bus) => ({ s with bus }, some (.requeueIn t))
    | (.error _, bus) => ({ s with bus }, none)
  | .requeueIn t =>
    match exec (PacketBus.onQueue (ObservationQueue.tryEnqueue t.observation)) s.bus with
    | (.ok (), bus) => ({ s with bus, waiting := s.waiting ++ [t] }, some (.requeueBack t))
    -- The queue has not kept it, and the caller has given it away.
    | (.error _, bus) => ({ s with bus }, some (.requeueUndo t))
  | .requeueUndo t =>
    ({ s with bus := (exec (PacketBus.transfer t.id .engine .processing) s.bus).2 }, none)
  | .requeueBack t =>
    ({ s with bus := (exec (PacketBus.transfer t.id .engine .bus) s.bus).2 }, none)
  | .take a h =>
    match s.lookup h with
    | none => (s, none)
    | some t =>
      ({ s with handles := s.without h },
        some (if a.refuses t.observation then .restore h t
          else if sends a then .send a h t else .releaseHost a h t))
  | .send a h t => if choice.sent then (s, some (.finish a h t)) else (s, some (.restore h t))
  | .finish a h t =>
    match exec (PacketBus.releaseHost t.id) s.bus with
    | (.ok (), bus) =>
      ({ s with bus, statistics := sendCount s.statistics a }.settle t .reinjected, none)
    -- The packet is gone, and its handle is restored nevertheless.
    | (.error _, bus) => ({ s with bus }.settle t .reinjected, some (.restore h t))
  | .releaseHost a h t =>
    match exec (PacketBus.releaseHost t.id) s.bus with
    | (.ok (), bus) =>
      ({ s with bus, statistics := releaseCount s.statistics a }.settle t (releaseFate a), none)
    | (.error _, bus) => ({ s with bus }, some (.restore h t))
  -- An entry that has taken the handle in the meantime is replaced.
  | .restore h t => ({ s with handles := (h, t) :: s.without h }, none)

def program : Program Shared Point Call Choice := ⟨start, next⟩

abbrev Engine := Threads.Sys Shared Point

def new (capacity : Nat) (handleCounter : UInt64) : Engine := ⟨.new capacity handleCounter, []⟩

/-! ## 2. Places -/

/-- The packet a call holds: it is being published, is held by a processing step or by an action
on its handle, or has been sent and its handle not yet given up. -/
def Point.held : Point → Option Token
  | publish t | countRefused t _ | claim _ t | process _ t | hand t | release _ t | requeueOut t
  | requeueIn t | send _ _ t | finish _ _ t | releaseHost _ _ t | restore _ t => some t
  | countReceived _ | dequeue _ | requeueUndo _ | requeueBack _ | take .. => none

def holds (t : Token) (k : Point) : Nat := k.held.toList.count t

/-- How often a packet is queued, behind a handle, or at its end. -/
def Shared.stored (s : Shared) (t : Token) : Nat :=
  s.waiting.count t + (s.handles.map Prod.snd).count t + (s.settled.map Prod.fst).count t

/-- The places of a packet. -/
def places (s : Engine) (t : Token) : Nat := s.shared.stored t + total (holds t) s.calls

/-- Every packet that the capture worker has received is at one place. -/
def Conserved (s : Engine) : Prop := ∀ t ∈ s.shared.received, places s t = 1

/-- The packets that a step drops: a reader finds its record not in `Bus`, a reader other than the
host is done with it, the queue does not take it back, or a restored entry replaces its own. -/
def lost (s : Shared) : Point → List Token
  | .claim _ t => if s.bus.ownerOf t.id = some .bus then [] else [t]
  | .release _ t => [t]
  | .requeueIn t => if s.bus.queue.Accepts then [] else [t]
  | .restore h _ => (s.lookup h).toList
  | _ => []

/-- No packet of the capture worker is dropped. -/
def KeepsReceived (s : Engine) (turn : Threads.Turn Call Choice) : Prop :=
  ∀ k t, s.point turn = some k → t ∈ lost s.shared k → t ∉ s.shared.received

/-! ## 3. Packets and records -/

/-- What is known of the record of a packet that someone has. -/
inductive Stage where
  | onBus
  | processing
  | host
  deriving DecidableEq, Repr

/-- A queued packet may still be on its way back through `Engine`. -/
def Stage.owners : Stage → List Owner
  | onBus => [.bus, .engine]
  | processing => [.processing]
  | host => [.host]

def Point.stage : Point → Option Stage
  | claim .. | requeueIn _ => some .onBus
  | process .. | hand _ | release .. | requeueOut _ => some .processing
  | send .. | finish .. | releaseHost .. | restore .. => some .host
  | publish _ | countReceived _ | countRefused .. | dequeue _ | requeueUndo _ | requeueBack _
  | take .. => none

/-- The record of the packet's id was made for it, and is where the stage has it. -/
def Expects (s : Shared) (t : Token) (stage : Stage) : Prop :=
  s.made t.id = some t ∧ ∃ owner ∈ stage.owners, s.bus.ownerOf t.id = some owner

/-- What a call knows of the packet it holds. -/
def Point.Knows (k : Point) (s : Shared) : Prop :=
  ∀ t stage, k.held = some t → k.stage = some stage → Expects s t stage

/-- What holds between two steps. -/
structure Inv (s : Engine) : Prop where
  /-- The queue of the bus has the packets that wait, in their order. -/
  mirrors : s.shared.waiting.map (·.observation) = s.shared.bus.queue.items
  once : ∀ t, places s t ≤ 1
  drawn : ∀ t, s.shared.next ≤ t.number → places s t = 0
  queued : ∀ t ∈ s.shared.waiting, Expects s.shared t .onBus
  handed : ∀ p ∈ s.shared.handles, Expects s.shared p.2 .host
  calls : ∀ k ∈ s.calls, k.Knows s.shared

variable {s s' : Shared} {choice : Choice} {k : Point} {t : Token}

theorem Expects.processing (h : Expects s t .processing) :
    s.bus.ownerOf t.id = some .processing := by
  obtain ⟨-, owner, howner, heq⟩ := h
  rw [heq, List.mem_singleton.mp howner]

theorem Expects.host (h : Expects s t .host) : s.bus.ownerOf t.id = some .host := by
  obtain ⟨-, owner, howner, heq⟩ := h
  rw [heq, List.mem_singleton.mp howner]

/-- Who dequeues takes the packet of the observation at the head. -/
theorem waiting_of_items (hmirrors : s.waiting.map (·.observation) = s.bus.queue.items)
    {o : PacketObservation} {rest : List PacketObservation}
    (hitems : s.bus.queue.items = o :: rest) :
    ∃ t waiting, s.waiting = t :: waiting ∧ t.observation = o ∧
      waiting.map (·.observation) = rest := by
  rw [hitems] at hmirrors
  obtain ⟨t, waiting, hwaiting, ht, hrest⟩ := List.map_eq_cons_iff.mp hmirrors
  exact ⟨t, waiting, hwaiting, ht, hrest⟩

/-- The entry that leaves the table is the one that was looked up. -/
theorem count_without (s : Shared) (h : UInt64) (t : Token) :
    (s.handles.map Prod.snd).count t =
      ((s.without h).map Prod.snd).count t + (s.lookup h).toList.count t := by
  unfold Shared.without Shared.lookup
  induction s.handles with
  | nil => rfl
  | cons p rest ih =>
    obtain ⟨key, t'⟩ := p
    by_cases hkey : key = h
    · subst hkey
      simp [List.count_cons]
    · have herase : (key == h) = false := beq_eq_false_iff_ne.mpr hkey
      have hlookup : (h == key) = false := beq_eq_false_iff_ne.mpr (Ne.symm hkey)
      simp only [List.eraseP_cons, herase, List.lookup_cons, hlookup, cond_false, List.map_cons,
        List.count_cons, ih]
      omega

/-! ## 4. Where a step moves a packet -/

theorem stored_settle (s : Shared) (t : Token) (fate : Fate) (t' : Token) :
    (s.settle t fate).stored t' = s.stored t' + [t].count t' := by
  simp only [Shared.stored, Shared.settle, List.map_append, List.count_append, List.map_cons,
    List.map_nil]
  omega

theorem readerError_eq (reader : Reader) (s : Shared) :
    ∃ statistics, readerError reader s = { s with statistics } := by
  unfold readerError
  split
  · exact ⟨_, rfl⟩
  · exact ⟨s.statistics, rfl⟩

/-- All that a step can do with packets and records.  `s'` is what it leaves, and `o` where the call
goes on. -/
inductive Effect (s : Shared) : Point → Shared → Option Point → Prop where
  | idle {k : Point} (statistics : EngineStatistics) (hheld : k.held = none)
      (hnone : lost s k = []) : Effect s k { s with statistics } none
  | goOn {k k' : Point} {t : Token} (handleCounter : UInt64) (statistics : EngineStatistics)
      (hheld : k.held = some t) (hheld' : k'.held = some t)
      (hstage : ∀ stage, k'.stage = some stage → k.stage = some stage) (hnone : lost s k = []) :
      Effect s k { s with handleCounter, statistics } (some k')
  | move {k k' : Point} {t : Token} {stage stage' : Stage} {target : Owner}
      (hheld : k.held = some t) (hheld' : k'.held = some t) (hstage : k.stage = some stage)
      (hstage' : k'.stage = some stage') (htarget : target ∈ stage'.owners)
      (hnone : lost s k = []) :
      Effect s k { s with bus := s.bus.setOwner t.id target } (some k')
  | publish {t : Token} (hfresh : s.bus.ownerOf t.id = none) :
      Effect s (.publish t)
        { s with
          bus := (s.bus.setItems (s.bus.queue.items ++ [t.observation])).setOwner t.id .bus
          waiting := s.waiting ++ [t], made := Function.update s.made t.id (some t) }
        (some (.countReceived t))
  | dequeue {reader : Reader} {t : Token} {waiting : List Token}
      (hwaiting : s.waiting = t :: waiting) :
      Effect s (.dequeue reader)
        { s with bus := s.bus.setItems (waiting.map (·.observation)), waiting }
        (some (.claim reader t))
  | requeue {t : Token} (hroom : s.bus.queue.Accepts) :
      Effect s (.requeueIn t)
        { s with
          bus := s.bus.setItems (s.bus.queue.items ++ [t.observation])
          waiting := s.waiting ++ [t] } (some (.requeueBack t))
  | back {t : Token} (howner : s.bus.ownerOf t.id = some .engine) :
      Effect s (.requeueBack t) { s with bus := s.bus.setOwner t.id .bus } none
  | hand {t : Token} (h handleCounter : UInt64) :
      Effect s (.hand t)
        { s with
          handleCounter, bus := s.bus.setOwner t.id .host, handles := (h, t) :: s.handles } none
  | take {a : Action} {h : UInt64} {t : Token} {k' : Point} (hlookup : s.lookup h = some t)
      (hheld' : k'.held = some t) (hstage' : k'.stage = some .host) :
      Effect s (.take a h) { s with handles := s.without h } (some k')
  | restore {h : UInt64} {t : Token} :
      Effect s (.restore h t) { s with handles := (h, t) :: s.without h } none
  | settle {k : Point} {t : Token} {bus : PacketBus} (fate : Fate) (statistics : EngineStatistics)
      (hheld : k.held = some t)
      (hbus : bus = s.bus ∨ k.stage ≠ none ∧ bus = s.bus.dropRecord t.id)
      (hnone : lost s k = []) : Effect s k ({ s with bus, statistics }.settle t fate) none
  | drop {k : Point} {t : Token} {o : Option Point} {bus : PacketBus}
      (statistics : EngineStatistics) (hheld : k.held = some t)
      (hbus : bus = s.bus ∨ k.stage ≠ none ∧ bus = s.bus.dropRecord t.id)
      (ho : ∀ k', o = some k' → k'.held = none) (hlost : lost s k = [t]) :
      Effect s k { s with bus, statistics } o

/-- The step as seen from packets and records. -/
theorem next_effect (choice : Choice)
    (hmirrors : s.waiting.map (·.observation) = s.bus.queue.items) (hknows : k.Knows s) :
    Effect s k (next choice k s).1 (next choice k s).2 := by
  cases k with
  | publish t =>
    by_cases hroom : s.bus.ownerOf t.id = none ∧ s.bus.queue.Accepts
    · have hpublish : exec (PacketBus.publishEngineOwned t.observation) s.bus = _ :=
        PacketBus.publish_ok hroom.1 hroom.2
      simp only [next, hpublish]
      exact .publish hroom.1
    · obtain ⟨error, hrefused⟩ := PacketBus.publish_error hroom
      have hpublish : exec (PacketBus.publishEngineOwned t.observation) s.bus = _ := hrefused
      simp only [next, hpublish]
      exact .goOn _ _ rfl rfl (fun _ hstage => by cases hstage) rfl
  | countReceived t => exact .idle _ rfl rfl
  | countRefused t error => exact .settle .refused _ rfl (.inl rfl) rfl
  | dequeue reader =>
    simp only [next, PacketBus.tryDequeue_exec]
    split
    · exact .idle _ rfl rfl
    · match hitems : s.bus.queue.items with
      | [] => exact .idle _ rfl rfl
      | o :: rest =>
        obtain ⟨t, waiting, hwaiting, -, rfl⟩ := waiting_of_items hmirrors hitems
        simp only [hwaiting, List.tail_cons, List.headD_cons]
        exact .dequeue hwaiting
  | claim reader t =>
    by_cases howner : s.bus.ownerOf t.id = some .bus
    · have hclaim : exec (PacketBus.transfer t.id .bus .processing) s.bus = _ :=
        PacketBus.transfer_ok rfl howner
      simp only [next, hclaim]
      exact .move rfl rfl rfl rfl List.mem_cons_self (if_pos howner)
    · obtain ⟨error, hrefused⟩ := PacketBus.transfer_error howner .processing
      simp only [next, hrefused]
      obtain ⟨statistics, heq⟩ := readerError_eq reader { s with bus := s.bus }
      rw [heq]
      exact .drop _ rfl (.inl rfl) (fun _ ho => by cases ho) (if_neg howner)
  | process reader t =>
    simp only [next]
    split_ifs
    · exact .goOn _ _ rfl rfl (fun _ hstage => hstage) rfl
    · exact .goOn _ _ rfl rfl (fun _ hstage => hstage) rfl
    · exact .goOn _ _ rfl rfl (fun _ hstage => hstage) rfl
  | hand t =>
    have howner := (hknows t .processing rfl rfl).processing
    have hhand : exec (PacketBus.transferToHost t.id) s.bus = _ := PacketBus.transfer_ok rfl howner
    simp only [next, hhand]
    split_ifs
    · exact .goOn _ _ rfl rfl (fun _ hstage => hstage) rfl
    · exact .goOn _ _ rfl rfl (fun _ hstage => hstage) rfl
    · exact .hand _ _
  | release reader t =>
    have howner := (hknows t .processing rfl rfl).processing
    have hrelease : exec (PacketBus.releaseProcessing t.id) s.bus = _ :=
      PacketBus.releaseFrom_ok (by decide) howner
    simp only [next, hrelease]
    exact .drop _ rfl (.inr ⟨by simp [Point.stage], rfl⟩) (fun _ ho => by cases ho) rfl
  | requeueOut t =>
    have howner := (hknows t .processing rfl rfl).processing
    have hout : exec (PacketBus.transfer t.id .processing .engine) s.bus = _ :=
      PacketBus.transfer_ok rfl howner
    simp only [next, hout]
    exact .move rfl rfl rfl rfl (List.mem_cons_of_mem _ List.mem_cons_self) rfl
  | requeueIn t =>
    by_cases hroom : s.bus.queue.Accepts
    · simp only [next, PacketBus.enqueue_ok hroom]
      exact .requeue hroom
    · obtain ⟨error, hfull⟩ := PacketBus.enqueue_error hroom t.observation
      simp only [next, hfull]
      refine .drop _ rfl (.inl rfl) ?_ (if_neg hroom)
      rintro _ ⟨⟩
      rfl
  | requeueUndo t =>
    obtain ⟨error, hundo⟩ := PacketBus.transfer_engine_processing s.bus t.id
    simp only [next, hundo]
    exact .idle _ rfl rfl
  | requeueBack t =>
    by_cases howner : s.bus.ownerOf t.id = some .engine
    · have hback : exec (PacketBus.transfer t.id .engine .bus) s.bus = _ :=
        PacketBus.transfer_ok rfl howner
      simp only [next, hback]
      exact .back howner
    · obtain ⟨error, hrefused⟩ := PacketBus.transfer_error howner .bus
      simp only [next, hrefused]
      exact .idle _ rfl rfl
  | take a h =>
    simp only [next]
    split
    · exact .idle _ rfl rfl
    · rename_i t hlookup
      split_ifs
      · exact .take hlookup rfl rfl
      · exact .take hlookup rfl rfl
      · exact .take hlookup rfl rfl
  | send a h t =>
    simp only [next]
    split
    · exact .goOn _ _ rfl rfl (fun _ hstage => hstage) rfl
    · exact .goOn _ _ rfl rfl (fun _ hstage => hstage) rfl
  | finish a h t =>
    have howner := (hknows t .host rfl rfl).host
    have hrelease : exec (PacketBus.releaseHost t.id) s.bus = _ :=
      PacketBus.releaseFrom_ok (by decide) howner
    simp only [next, hrelease]
    exact .settle .reinjected _ rfl (.inr ⟨by simp [Point.stage], rfl⟩) rfl
  | releaseHost a h t =>
    have howner := (hknows t .host rfl rfl).host
    have hrelease : exec (PacketBus.releaseHost t.id) s.bus = _ :=
      PacketBus.releaseFrom_ok (by decide) howner
    simp only [next, hrelease]
    exact .settle (releaseFate a) _ rfl (.inr ⟨by simp [Point.stage], rfl⟩) rfl
  | restore h t => exact .restore

/-- A step moves packets from place to place, but for those it drops. -/
theorem Effect.balance {o : Option Point} (heffect : Effect s k s' o) (t : Token) :
    s'.stored t + weigh (holds t) o + (lost s k).count t = s.stored t + holds t k := by
  cases heffect with
  | idle statistics hheld hnone =>
    rw [holds, hheld, hnone]
    rfl
  | goOn handleCounter statistics hheld hheld' hstage hnone =>
    rw [hnone, weigh_some, holds, holds, hheld, hheld']
    rfl
  | move hheld hheld' hstage hstage' htarget hnone =>
    rw [hnone, weigh_some, holds, holds, hheld, hheld']
    rfl
  | publish hfresh =>
    simp only [Shared.stored, List.count_append, lost, List.count_nil, weigh_some, holds,
      Point.held, Option.toList_some, Option.toList_none]
    omega
  | dequeue hwaiting =>
    simp only [Shared.stored, hwaiting, List.count_cons, lost, List.count_nil, weigh_some, holds,
      Point.held, Option.toList_some, Option.toList_none]
    omega
  | requeue hroom =>
    simp only [Shared.stored, List.count_append, lost, if_pos hroom, List.count_nil, weigh_some,
      holds, Point.held, Option.toList_some, Option.toList_none]
    omega
  | back howner => rfl
  | hand h handleCounter =>
    simp only [Shared.stored, List.map_cons, List.count_cons, lost, List.count_nil, weigh_none,
      holds, Point.held, Option.toList_some]
    omega
  | @take a h t' k' hlookup hheld' hstage' =>
    have hcount := count_without s h t
    have hgoes : holds t k' = (s.lookup h).toList.count t := by rw [holds, hheld', hlookup]
    have htakes : holds t (.take a h) = 0 := rfl
    simp only [Shared.stored, lost, List.count_nil, weigh_some, hgoes, htakes, hcount]
    omega
  | @restore h t' =>
    have hcount := count_without s h t
    -- The entry that was there goes, and the packet of the action comes.
    simp only [Shared.stored, List.map_cons, List.count_cons, lost, List.count_nil, weigh_none,
      holds, Point.held, Option.toList_some, hcount]
    omega
  | settle fate statistics hheld hbus hnone =>
    rw [hnone, holds, hheld, stored_settle]
    rfl
  | drop statistics hheld hbus ho hlost =>
    have hweigh : weigh (holds t) o = 0 := by
      match o with
      | none => rfl
      | some k' =>
        rw [weigh_some, holds, ho k' rfl]
        rfl
    rw [hlost, hweigh, holds, hheld]
    rfl

/-! ## 5. One turn -/

variable {calls : List Point} {i : Nat} {o : Option Point} {stage : Stage}

/-- A step changes the places of a packet by what it drops. -/
theorem places_step (heffect : Effect s k s' o) (hk : calls[i]? = some k) (t : Token) :
    places ⟨s', move calls i o⟩ t + (lost s k).count t = places ⟨s, calls⟩ t := by
  have hbalance := heffect.balance t
  have hmove := total_move (holds t) hk o
  unfold places
  dsimp only
  omega

theorem count_pos {l : List Token} (h : t ∈ l) : 1 ≤ l.count t := List.one_le_count_iff.mpr h

/-- Nobody else has the packet that a call holds. -/
theorem Inv.not_held (h : Inv ⟨s, calls⟩) (hk : calls[i]? = some k) :
    (∀ t ∈ s.waiting, k.held ≠ some t) ∧ (∀ p ∈ s.handles, k.held ≠ some p.2) ∧
      ∀ j k', j ≠ i → calls[j]? = some k' → ∀ t, k'.held = some t → k.held ≠ some t := by
  have honce (t : Token) (hheld : k.held = some t) :
      s.stored t = 0 ∧ ∀ j k', j ≠ i → calls[j]? = some k' → holds t k' = 0 := by
    have hholds : holds t k = 1 := by
      rw [holds, hheld, Option.toList_some, List.count_singleton_self]
    have hle := h.once t
    have hown := le_total (holds t) hk
    unfold places at hle
    dsimp only at hle
    refine ⟨by omega, fun j k' hj hk' => ?_⟩
    have hboth := add_le_total (holds t) hk hk' hj
    omega
  refine ⟨fun t ht hheld => ?_, fun p hp hheld => ?_, fun j k' hj hk' t ht hheld => ?_⟩
  · have hzero := (honce t hheld).1
    have hpos := count_pos ht
    unfold Shared.stored at hzero
    omega
  · have hzero := (honce p.2 hheld).1
    have hpos := count_pos (List.mem_map_of_mem (f := Prod.snd) hp)
    unfold Shared.stored at hzero
    omega
  · have hzero := (honce t hheld).2 j k' hj hk'
    rw [holds, ht, Option.toList_some, List.count_singleton_self] at hzero
    nomatch hzero

/-- What everybody knows of records is still so: for the others, and for whoever has something
new. -/
theorem Inv.knows (h : Inv ⟨s, calls⟩) (hk : calls[i]? = some k)
    (hkeep : ∀ t stage, k.held ≠ some t → Expects s t stage → Expects s' t stage)
    (hwaiting : ∀ t ∈ s'.waiting, t ∈ s.waiting ∨ Expects s' t .onBus)
    (hhandles : ∀ p ∈ s'.handles, p ∈ s.handles ∨ Expects s' p.2 .host)
    (ho : ∀ k', o = some k' → k'.Knows s') :
    (∀ t ∈ s'.waiting, Expects s' t .onBus) ∧ (∀ p ∈ s'.handles, Expects s' p.2 .host) ∧
      ∀ k' ∈ move calls i o, k'.Knows s' := by
  obtain ⟨hwaits, hhas, hcalls⟩ := h.not_held hk
  refine ⟨fun t ht => ?_, fun p hp => ?_, fun k' hk' => ?_⟩
  · rcases hwaiting t ht with hold | hnew
    · exact hkeep t _ (hwaits t hold) (h.queued t hold)
    · exact hnew
  · rcases hhandles p hp with hold | hnew
    · exact hkeep p.2 _ (hhas p hold) (h.handed p hold)
    · exact hnew
  · rcases mem_move_other hk' with hnew | ⟨j, hj, hold⟩
    · exact ho k' hnew
    · intro t stage hheld hstage
      exact hkeep t stage (hcalls j k' hj hold t hheld)
        (h.calls k' (List.mem_of_getElem? hold) t stage hheld hstage)

theorem Expects.of_eq (h : Expects s t stage) (hmade : s'.made t.id = s.made t.id)
    (howner : s'.bus.ownerOf t.id = s.bus.ownerOf t.id) : Expects s' t stage := by
  unfold Expects
  rw [hmade, howner]
  exact h

/-- The packets that are known of have one id each. -/
theorem Expects.ne_id {t' : Token} {stage stage' : Stage} (h : Expects s t stage)
    (h' : Expects s t' stage') (hne : t ≠ t') : t'.id ≠ t.id := by
  intro hid
  have hmade := h'.1
  rw [hid, h.1] at hmade
  exact hne (Option.some.inj hmade)

/-- When the record of one packet changes, the others keep theirs. -/
theorem Expects.other {t' : Token} {stage' : Stage} (h : Expects s t stage)
    (h' : Expects s t' stage') (hne : t ≠ t')
    (hothers : ∀ id ≠ t.id, s'.bus.ownerOf id = s.bus.ownerOf id) (hmade : s'.made = s.made) :
    Expects s' t' stage' := by
  apply h'.of_eq
  · rw [hmade]
  · exact hothers _ (h.ne_id h' hne)

theorem setOwner_others (bus : PacketBus) (id : ObservationId) (owner : Owner) :
    ∀ id' ≠ id, (bus.setOwner id owner).ownerOf id' = bus.ownerOf id' := by
  intro id' hne
  rw [PacketBus.ownerOf_setOwner, if_neg hne]

theorem dropRecord_others (bus : PacketBus) (id : ObservationId) :
    ∀ id' ≠ id, (bus.dropRecord id).ownerOf id' = bus.ownerOf id' := by
  intro id' hne
  rw [PacketBus.ownerOf_dropRecord, if_neg hne]

/-- Whatever becomes of the record of the packet in hand, the others keep theirs. -/
theorem Point.Knows.others (hknows : k.Knows s) {bus : PacketBus} (hheld : k.held = some t)
    (hbus : bus = s.bus ∨ k.stage ≠ none ∧ bus = s.bus.dropRecord t.id) (hs' : s'.bus = bus)
    (hmade : s'.made = s.made) (t' : Token) (stage' : Stage) (hne : k.held ≠ some t')
    (h' : Expects s t' stage') : Expects s' t' stage' := by
  subst hs'
  rcases hbus with hsame | ⟨hstage, hdropped⟩
  · exact h'.of_eq (by rw [hmade]) (by rw [hsame])
  · obtain ⟨stage, hstage⟩ := Option.ne_none_iff_exists'.mp hstage
    refine (hknows t stage hheld hstage).other h' (fun heq => hne (heq ▸ hheld)) ?_ hmade
    rw [hdropped]
    exact dropRecord_others _ _

theorem items_of_bus {bus : PacketBus}
    (hbus : bus = s.bus ∨ k.stage ≠ none ∧ bus = s.bus.dropRecord t.id) :
    bus.queue.items = s.bus.queue.items := by
  rcases hbus with rfl | ⟨-, rfl⟩
  · rfl
  · rfl

/-- A requeue that completes moves no packet out of the reach of those who have it. -/
theorem Expects.back {t' : Token} {stage' : Stage} (h' : Expects s t' stage')
    (howner : s.bus.ownerOf t.id = some .engine) :
    Expects { s with bus := s.bus.setOwner t.id .bus } t' stage' := by
  by_cases hid : t'.id = t.id
  · obtain ⟨hmade, owner, hmem, howner'⟩ := h'
    rw [hid, howner] at howner'
    obtain rfl := Option.some.inj howner'
    -- A record in `Engine` is one on its way back to the queue.
    have hstage : stage' = .onBus := by
      cases stage' with
      | onBus => rfl
      | processing | host => exact absurd hmem (by decide)
    subst hstage
    refine ⟨hmade, .bus, List.mem_cons_self, ?_⟩
    rw [PacketBus.ownerOf_setOwner, if_pos hid]
  · exact h'.of_eq rfl (setOwner_others _ _ _ _ hid)

theorem mem_of_lookup {h : UInt64} (hlookup : s.lookup h = some t) : ∃ p ∈ s.handles, p.2 = t := by
  have hcount := count_without s h t
  have hpos : 1 ≤ (s.handles.map Prod.snd).count t := by
    rw [hcount, hlookup, Option.toList_some, List.count_singleton_self]
    omega
  exact List.mem_map.mp (List.one_le_count_iff.mp hpos)

theorem Inv.next (h : Inv ⟨s, calls⟩) (choice : Choice) (hk : calls[i]? = some k) :
    Inv ⟨(next choice k s).1, move calls i (next choice k s).2⟩ := by
  have hmirrors : s.waiting.map (·.observation) = s.bus.queue.items := h.mirrors
  have hknows : k.Knows s := h.calls k (List.mem_of_getElem? hk)
  have heffect : Effect s k _ _ := next_effect choice hmirrors hknows
  generalize (Diverted.next choice k s).1 = s' at heffect ⊢
  generalize (Diverted.next choice k s).2 = o at heffect ⊢
  have hplaces := places_step heffect hk
  have honce (t : Token) : places ⟨s', move calls i o⟩ t ≤ 1 := by
    have hold := h.once t
    have hsame := hplaces t
    omega
  have hnext : s'.next = s.next := by cases heffect <;> rfl
  have hdrawn (t : Token) (ht : s'.next ≤ t.number) : places ⟨s', move calls i o⟩ t = 0 := by
    have hold := h.drawn t (hnext ▸ ht)
    have hsame := hplaces t
    omega
  suffices hrest : s'.waiting.map (·.observation) = s'.bus.queue.items ∧
      (∀ t ∈ s'.waiting, Expects s' t .onBus) ∧ (∀ p ∈ s'.handles, Expects s' p.2 .host) ∧
      ∀ k' ∈ move calls i o, k'.Knows s' from
    ⟨hrest.1, honce, hdrawn, hrest.2.1, hrest.2.2.1, hrest.2.2.2⟩
  cases heffect with
  | idle statistics hheld hnone =>
    exact ⟨hmirrors, h.knows hk (fun t stage _ ht => ht) (fun t ht => .inl ht)
      (fun p hp => .inl hp) (fun k' ho => by cases ho)⟩
  | @goOn _ k' t handleCounter statistics hheld hheld' hstage hnone =>
    refine ⟨hmirrors, h.knows hk (fun t stage _ ht => ht) (fun t ht => .inl ht)
      (fun p hp => .inl hp) ?_⟩
    rintro _ ⟨⟩ t' stage ht' hstage'
    exact hknows t' stage (by rw [hheld, ← hheld', ht']) (hstage stage hstage')
  | @move _ k' t stage stage' target hheld hheld' hstage hstage' htarget hnone =>
    have hold := hknows t stage hheld hstage
    refine ⟨hmirrors, h.knows hk (fun t' stage'' hne ht' => ?_) (fun t ht => .inl ht)
      (fun p hp => .inl hp) ?_⟩
    · exact hold.other ht' (fun heq => hne (heq ▸ hheld)) (setOwner_others _ _ _) rfl
    · rintro _ ⟨⟩ t' stage'' ht' hstage''
      obtain rfl := Option.some.inj (hheld'.symm.trans ht')
      obtain rfl := Option.some.inj (hstage'.symm.trans hstage'')
      exact ⟨hold.1, target, htarget, by rw [PacketBus.ownerOf_setOwner, if_pos rfl]⟩
  | @publish t hfresh =>
    refine ⟨?_, h.knows hk (fun t' stage _ ht' => ?_) (fun t' ht' => ?_) (fun p hp => .inl hp) ?_⟩
    · rw [List.map_append, hmirrors]
      rfl
    · -- The id had no record, so it is that of no packet that is known of.
      have hid : t'.id ≠ t.id := by
        intro heq
        obtain ⟨-, owner, -, howner⟩ := ht'
        rw [heq, hfresh] at howner
        nomatch howner
      apply ht'.of_eq
      · exact Function.update_of_ne hid _ _
      · exact setOwner_others _ _ _ _ hid
    · rcases List.mem_append.mp ht' with hold | hnew
      · exact .inl hold
      · obtain rfl := List.mem_singleton.mp hnew
        refine .inr ⟨Function.update_self .., .bus, List.mem_cons_self, ?_⟩
        rw [PacketBus.ownerOf_setOwner, if_pos rfl]
    · rintro _ ⟨⟩ t' stage ⟨⟩
  | @dequeue reader t waiting hwaiting =>
    refine ⟨rfl, h.knows hk (fun t' stage _ ht' => ht') (fun t' ht' => .inl ?_)
      (fun p hp => .inl hp) ?_⟩
    · rw [hwaiting]
      exact List.mem_cons_of_mem _ ht'
    · rintro _ ⟨⟩ _ _ ⟨⟩ ⟨⟩
      have hhead : t ∈ s.waiting := by
        rw [hwaiting]
        exact List.mem_cons_self
      exact h.queued t hhead
  | @requeue t hroom =>
    refine ⟨?_, h.knows hk (fun t' stage _ ht' => ht') (fun t' ht' => ?_) (fun p hp => .inl hp) ?_⟩
    · rw [List.map_append, hmirrors]
      rfl
    · rcases List.mem_append.mp ht' with hold | hnew
      · exact .inl hold
      · obtain rfl := List.mem_singleton.mp hnew
        exact .inr (hknows t' .onBus rfl rfl)
    · rintro _ ⟨⟩ t' stage ⟨⟩
  | @back t howner =>
    exact ⟨hmirrors, h.knows hk (fun t' stage _ ht' => ht'.back howner) (fun t' ht' => .inl ht')
      (fun p hp => .inl hp) (fun k' ho => by cases ho)⟩
  | @hand t handle handleCounter =>
    have hold := hknows t .processing rfl rfl
    refine ⟨hmirrors, h.knows hk (fun t' stage hne ht' => ?_) (fun t' ht' => .inl ht')
      (fun p hp => ?_) (fun k' ho => by cases ho)⟩
    · exact hold.other ht' (fun heq => hne (heq ▸ rfl)) (setOwner_others _ _ _) rfl
    · rcases List.mem_cons.mp hp with rfl | hp
      · exact .inr ⟨hold.1, .host, List.mem_cons_self, by
          rw [PacketBus.ownerOf_setOwner, if_pos rfl]⟩
      · exact .inl hp
  | @take a handle t k' hlookup hheld' hstage' =>
    refine ⟨hmirrors, h.knows hk (fun t' stage _ ht' => ht') (fun t' ht' => .inl ht')
      (fun p hp => .inl (List.mem_of_mem_eraseP hp)) ?_⟩
    rintro _ ⟨⟩ t' stage ht' hstage
    obtain rfl := Option.some.inj (hheld'.symm.trans ht')
    obtain rfl := Option.some.inj (hstage'.symm.trans hstage)
    obtain ⟨p, hp, rfl⟩ := mem_of_lookup hlookup
    exact h.handed p hp
  | @restore handle t =>
    refine ⟨hmirrors, h.knows hk (fun t' stage _ ht' => ht') (fun t' ht' => .inl ht')
      (fun p hp => ?_) (fun k' ho => by cases ho)⟩
    rcases List.mem_cons.mp hp with rfl | hp
    · exact .inr (hknows t .host rfl rfl)
    · exact .inl (List.mem_of_mem_eraseP hp)
  | settle fate statistics hheld hbus hnone =>
    exact ⟨hmirrors.trans (items_of_bus hbus).symm,
      h.knows hk (hknows.others hheld hbus rfl rfl) (fun t' ht' => .inl ht')
        (fun p hp => .inl hp) (fun k' ho => by cases ho)⟩
  | drop statistics hheld hbus ho hlost =>
    refine ⟨hmirrors.trans (items_of_bus hbus).symm,
      h.knows hk (hknows.others hheld hbus rfl rfl) (fun t' ht' => .inl ht')
        (fun p hp => .inl hp) fun k' hk' t' stage ht' => ?_⟩
    rw [ho k' hk'] at ht'
    nomatch ht'

/-! ## 6. Whole sessions -/

/-- What was drawn before is not drawn again. -/
theorem Inv.places_new (h : Inv ⟨s, calls⟩) (o : PacketObservation) :
    places ⟨s, calls⟩ ⟨s.next, o⟩ = 0 := h.drawn _ (Nat.le_refl _)

theorem places_start {received : List Token} (t t' : Token) :
    places ⟨{ s with next := s.next + 1, received }, calls ++ [.publish t]⟩ t' =
      places ⟨s, calls⟩ t' + [t].count t' := by
  have happend := total_append (holds t') calls (some (.publish t))
  have hweigh : weigh (holds t') (some (.publish t)) = [t].count t' := rfl
  unfold places
  show s.stored t' + total (holds t') (calls ++ (some (Point.publish t)).toList) = _
  dsimp only
  omega

theorem Inv.publishing (h : Inv ⟨s, calls⟩) (o : PacketObservation) (received : List Token) :
    Inv ⟨{ s with next := s.next + 1, received }, calls ++ [.publish ⟨s.next, o⟩]⟩ where
  mirrors := h.mirrors
  once t' := by
    rw [places_start]
    by_cases heq : t' = ⟨s.next, o⟩
    · rw [heq, h.places_new, List.count_singleton_self]
    · rw [List.count_eq_zero.mpr (by simpa using heq)]
      exact h.once t'
  drawn t' ht' := by
    have ht' : s.next + 1 ≤ t'.number := ht'
    have hne : t' ≠ ⟨s.next, o⟩ := by
      rintro rfl
      exact absurd ht' (by simp)
    rw [places_start, List.count_eq_zero.mpr (by simpa using hne)]
    exact h.drawn t' (Nat.le_of_succ_le ht')
  queued := h.queued
  handed := h.handed
  calls k hk := by
    rcases List.mem_append.mp hk with hold | hnew
    · exact h.calls k hold
    · obtain rfl := List.mem_singleton.mp hnew
      exact fun _ stage _ hstage => by cases hstage

/-- A call that starts with no packet. -/
theorem places_idle (hheld : k.held = none) (t : Token) :
    places ⟨s, calls ++ [k]⟩ t = places ⟨s, calls⟩ t := by
  have happend := total_append (holds t) calls (some k)
  have hweigh : weigh (holds t) (some k) = 0 := by
    rw [weigh_some, holds, hheld]
    rfl
  unfold places
  show s.stored t + total (holds t) (calls ++ (some k).toList) = _
  dsimp only
  omega

theorem Inv.idle (h : Inv ⟨s, calls⟩) (hheld : k.held = none) : Inv ⟨s, calls ++ [k]⟩ := by
  refine ⟨h.mirrors, fun t => ?_, fun t ht => ?_, h.queued, h.handed, fun k' hk' => ?_⟩
  · rw [places_idle hheld]
    exact h.once t
  · rw [places_idle hheld]
    exact h.drawn t ht
  · rcases List.mem_append.mp hk' with hold | hnew
    · exact h.calls k' hold
    · obtain rfl := List.mem_singleton.mp hnew
      intro t stage ht
      rw [hheld] at ht
      nomatch ht

theorem Inv.start (h : Inv ⟨s, calls⟩) (call : Call) :
    Inv ⟨(start call s).1, calls ++ (start call s).2.toList⟩ := by
  cases call with
  | capture | inject => exact h.publishing _ _
  | packetRead | processOne | work | act => exact h.idle rfl

theorem inv_step {s : Engine} (h : Inv s) (turn : Threads.Turn Call Choice) :
    Inv (program.step s turn) :=
  Threads.inv_step turn (fun call _ => h.start call) (fun _ choice _ _ hk => h.next choice hk) h

theorem Inv.new (capacity : Nat) (handleCounter : UInt64) : Inv (new capacity handleCounter) where
  mirrors := rfl
  once _ := Nat.zero_le 1
  drawn _ _ := rfl
  queued _ ht := absurd ht List.not_mem_nil
  handed _ hp := absurd hp List.not_mem_nil
  calls _ hk := absurd hk List.not_mem_nil

/-- A call that starts drops nothing. -/
theorem Inv.conserved_start (h : Inv ⟨s, calls⟩) (hs : Conserved ⟨s, calls⟩) (call : Call) :
    Conserved ⟨(Diverted.start call s).1, calls ++ (Diverted.start call s).2.toList⟩ := by
  have hpublishing (o : PacketObservation) (received : List Token)
      (hreceived : ∀ t ∈ received, t ∈ s.received ∨ t = ⟨s.next, o⟩) :
      Conserved ⟨{ s with next := s.next + 1, received }, calls ++ [.publish ⟨s.next, o⟩]⟩ := by
    intro t ht
    rw [places_start]
    by_cases heq : t = ⟨s.next, o⟩
    · rw [heq, h.places_new, List.count_singleton_self]
    · rw [List.count_eq_zero.mpr (by simpa using heq)]
      exact hs t ((hreceived t ht).resolve_right heq)
  have hidle (k : Point) (hheld : k.held = none) : Conserved ⟨s, calls ++ [k]⟩ := by
    intro t ht
    rw [places_idle hheld]
    exact hs t ht
  cases call with
  | capture id packet captured ingested =>
    apply hpublishing
    intro t ht
    rcases List.mem_append.mp ht with hold | hnew
    · exact .inl hold
    · exact .inr (List.mem_singleton.mp hnew)
  | inject o => exact hpublishing o s.received fun t ht => .inl ht
  | packetRead | processOne | work | act => exact hidle _ rfl

/-- The step lemma: a step keeps every packet exactly when it drops none of them. -/
theorem Inv.conserved_step_iff {s : Engine} (h : Inv s) (hs : Conserved s)
    (turn : Threads.Turn Call Choice) :
    Conserved (program.step s turn) ↔ KeepsReceived s turn := by
  obtain ⟨s, calls⟩ := s
  cases turn with
  | start call =>
    exact iff_of_true (h.conserved_start hs call) fun k t hk => by cases hk
  | next i choice =>
    cases hk : calls[i]? with
    | none =>
      rw [step_idle (s := ⟨s, calls⟩) hk]
      refine iff_of_true hs fun k t hpoint => ?_
      rw [Sys.point, hk] at hpoint
      nomatch hpoint
    | some k =>
      have hpoint : (⟨s, calls⟩ : Engine).point (Threads.Turn.next i choice : Threads.Turn Call _) =
          some k := hk
      rw [step_next (s := ⟨s, calls⟩) hk]
      have heffect : Effect s k _ _ :=
        next_effect choice h.mirrors (h.calls k (List.mem_of_getElem? hk))
      show Conserved ⟨(Diverted.next choice k s).1, move calls i (Diverted.next choice k s).2⟩ ↔ _
      generalize (Diverted.next choice k s).1 = s' at heffect ⊢
      generalize (Diverted.next choice k s).2 = o at heffect ⊢
      have hplaces := places_step heffect hk
      have hreceived : s'.received = s.received := by cases heffect <;> rfl
      constructor
      · intro hconserved k' t hk' hlost ht
        obtain rfl := Option.some.inj (hpoint.symm.trans hk')
        -- A packet that was at one place, and was dropped, is at none.
        have hbefore := hs t ht
        have hafter : places ⟨s', move calls i o⟩ t = 1 := hconserved t (hreceived ▸ ht)
        have hpos := count_pos hlost
        have hsame := hplaces t
        dsimp only at hpos
        omega
      · intro hkeeps t ht
        have ht : t ∈ s.received := hreceived ▸ ht
        have hbefore := hs t ht
        have hzero : (lost s k).count t = 0 :=
          List.count_eq_zero.mpr fun hlost => hkeeps k t hpoint hlost ht
        have hsame := hplaces t
        omega

/-- In a session every packet that was diverted is at one place at every moment exactly when no
step drops one. -/
theorem conserved_run_iff (capacity : Nat) (handleCounter : UInt64)
    (turns : List (Threads.Turn Call Choice)) :
    Always program.step Conserved (new capacity handleCounter) turns ↔
      Along program.step KeepsReceived (new capacity handleCounter) turns := by
  have hempty : Conserved (new capacity handleCounter) := fun _ ht => absurd ht List.not_mem_nil
  apply always_iff_along fun s => Inv s ∧ Conserved s
  · exact fun s hs => hs.2
  · exact fun s turn hs hkeeps =>
      ⟨inv_step hs.1 turn, (hs.1.conserved_step_iff hs.2 turn).mpr hkeeps⟩
  · exact fun s turn hs => mt (hs.1.conserved_step_iff hs.2 turn).mp
  · exact ⟨Inv.new capacity handleCounter, hempty⟩

/-! ### A packet that nobody decides on -/

/-- The call with the given number takes its next step, with an engine that runs, a driver that sends
and room in the queues of the worker pool. -/
def goOn (i : Nat) : Threads.Turn Call Choice := .next i ⟨true, true, ⟨⟨0, 0⟩, fun _ => .ok⟩⟩

/-- The capture worker receives a packet, publishes and counts it. -/
def captureOne : List (Threads.Turn Call Choice) :=
  [.start (.capture 1 (.fromNative spellingPacket.toBytes zeroAddress) ⟨0⟩ ⟨0⟩), goOn 0, goOn 0]

/-- `capture_process` takes the packet off the bus, processes it and releases it. -/
def processOne : List (Threads.Turn Call Choice) :=
  .start .processOne :: List.replicate 4 (goOn 0)

/-- The packet is at no place, and none of the counters of errors, full queues and drops says so: it
is counted as received and as processed. -/
theorem processed_and_gone :
    ¬ Always program.step Conserved (new 4 1) (captureOne ++ processOne) ∧
      (run program.step (new 4 1) (captureOne ++ processOne)).shared.statistics =
        (EngineStatistics.new.recordPacketReceived 270).recordPacketProcessed 270 := by
  refine ⟨fun halways => ?_, by decide +kernel⟩
  have hend := halways (captureOne ++ processOne) [] (List.append_nil _).symm
  have hgone : ¬ ∀ t ∈ (run program.step (new 4 1) (captureOne ++ processOne)).shared.received,
      places (run program.step (new 4 1) (captureOne ++ processOne)) t = 1 := by
    decide +kernel
  exact hgone hend

end Ffi.Diverted

end NetworkEngine
