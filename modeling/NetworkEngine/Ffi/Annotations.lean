import NetworkEngine.Core.Metadata
import NetworkEngine.Ffi.ObservationIds

/-!
# Annotations — whose metadata an id has

Processing writes the annotations of an observation under its id, at once and again when a worker
has answered its lookups; ids come from two sources, one of which starts over.  Every annotation is
traced to the draw of the observation it was made of, its origin, so that two packets under one id
can be told apart.
-/

namespace NetworkEngine

open Rust Transition

namespace Ffi

/-! ## 1. Publications that are taken in -/

namespace IdSys

variable {s : IdSys} {e : EngineRuntime}

/-- What `ingest_observation` checks before it publishes. -/
def Ingests (e : EngineRuntime) (o : PacketObservation) : Prop :=
  (exec EngineRuntime.requireRunning e).1 = .ok () ∧ o.packet.isEmpty = false ∧
    o.packetLength = o.packet.len

/-- The turn publishes the observation, and the bus takes it in. -/
def Takes (s : IdSys) (turn : Turn) (t : Ticket) (o : PacketObservation) : Prop :=
  s.publication turn = some (t, o) ∧ ∃ e, s.ffi.engine = some e ∧
    e.packetBus.ownerOf o.observationId = none ∧ e.packetBus.queue.Accepts ∧
    -- Only `packet_inject` checks what it publishes.
    ∀ c, turn = .publish c → Ingests e o

theorem publishCounted_eq_ok (o : PacketObservation) (e : EngineRuntime) :
    (exec (EngineRuntime.publishCounted o) e).1 = .ok () ↔
      e.packetBus.ownerOf o.observationId = none ∧ e.packetBus.queue.Accepts := by
  have hresult : (exec (EngineRuntime.publishCounted o) e).1 =
      (exec (PacketBus.publish o) e.packetBus).1 := rfl
  rw [hresult]
  constructor
  · intro hok
    by_contra hrefused
    obtain ⟨error, hexec⟩ := PacketBus.publish_error hrefused
    rw [hexec] at hok
    nomatch hok
  · intro h
    rw [PacketBus.publish_ok h.1 h.2]

theorem ingestObservation_eq_ok (now : Timestamp) (o : PacketObservation) (e : EngineRuntime) :
    (exec (EngineRuntime.ingestObservation now o) e).1 = .ok () ↔
      Ingests e o ∧ e.packetBus.ownerOf o.observationId = none ∧ e.packetBus.queue.Accepts := by
  have hkeeps : Keeps (· = e) EngineRuntime.requireRunning := EngineRuntime.requireRunning_keeps
  have hsame : (exec EngineRuntime.requireRunning e).2 = e := hkeeps.run rfl
  rw [EngineRuntime.ingestObservation, exec_bind, Ingests]
  match hrunning : exec EngineRuntime.requireRunning e with
  | (.error error, e') => exact iff_of_false (by simp) (by simp)
  | (.ok (), e') =>
    rw [hrunning] at hsame
    obtain rfl : e' = e := hsame
    dsimp only
    -- Both checks stand in front of the bus.
    split
    · rename_i hempty
      exact iff_of_false (by simp) fun h => by simp [hempty] at h
    split
    · rename_i hlength
      exact iff_of_false (by simp) fun h => hlength h.1.2.2
    · rename_i hfull hlength
      rw [publishCounted_eq_ok]
      exact (and_iff_right ⟨rfl, Bool.eq_false_iff.mpr hfull, not_not.mp hlength⟩).symm

theorem injectPublish_eq_ok {ffi : FfiState} (he : ffi.engine = some e) (clock : InjectClock)
    (o : PacketObservation) :
    (exec (injectPublish clock o) ffi).1 = .ok () ↔
      Ingests e o ∧ e.packetBus.ownerOf o.observationId = none ∧ e.packetBus.queue.Accepts := by
  rw [← ingestObservation_eq_ok clock.ingested]
  have hrequire : exec requireEngine ffi = (.ok (), ffi) := by
    rw [requireEngine, exec_bind_ok (exec_getState ffi), he]
    rfl
  rw [injectPublish, exec_bind_ok hrequire, callEngine, exec_bind, exec_bind, exec_attempt,
    onEngine_some _ he]
  cases (exec (EngineRuntime.ingestObservation clock.ingested o) e).1 with
  | error error =>
    have hcode : (Except.error (NeCode.ofErrorCode error.errorCode) : Except NeCode Unit) ≠
        .ok () := by simp
    exact iff_of_false hcode (by simp)
  | ok _ => exact iff_of_true rfl rfl

theorem trace_ok {ε : Type} {r : Except ε Unit} (hr : r = .ok ()) (s : IdSys) (t : Ticket)
    (o : PacketObservation) :
    (s.trace t o r).tickets = Function.update s.tickets o.observationId t := by
  rw [hr]
  rfl

theorem trace_refused {ε : Type} {r : Except ε Unit} (hr : r ≠ .ok ()) (s : IdSys) (t : Ticket)
    (o : PacketObservation) : (s.trace t o r).tickets = s.tickets := by
  match r with
  | .ok () => exact absurd rfl hr
  | .error _ => rfl

theorem not_takes {turn : Turn} (hpub : s.publication turn = none) (t : Ticket)
    (o : PacketObservation) : ¬ s.Takes turn t o := by
  intro htakes
  rw [Takes, hpub] at htakes
  nomatch htakes.1

/-- The record that a turn makes gets the ticket of what was published; the others keep theirs. -/
theorem tickets_step (h : s.Inv e) (hash : IdentityInput → UInt64) (turn : Turn) :
    (∃ t o, s.Takes turn t o ∧
      (s.step hash turn).tickets = Function.update s.tickets o.observationId t) ∨
    (∀ t o, ¬ s.Takes turn t o) ∧ (s.step hash turn).tickets = s.tickets := by
  have hengine {e' : EngineRuntime} (he' : s.ffi.engine = some e') : e = e' :=
    Option.some.inj (h.session.engine.symm.trans he')
  cases turn with
  | publish c =>
    simp only [IdSys.step, IdSys.publish]
    match hwaits : s.injecting c with
    | none => exact .inr ⟨not_takes (by rw [publication, hwaits, Option.map_none]), rfl⟩
    | some (clock, t, o) =>
      have hpub : s.publication (.publish c) = some (t, o) := by
        rw [publication, hwaits]
        rfl
      have hiff := injectPublish_eq_ok h.session.engine clock o
      by_cases hok : (exec (injectPublish clock o) s.ffi).1 = .ok ()
      · refine .inl ⟨t, o, ⟨hpub, e, h.session.engine, ?_⟩, trace_ok hok _ t o⟩
        obtain ⟨hingests, hfresh, hroom⟩ := hiff.mp hok
        exact ⟨hfresh, hroom, fun _ _ => hingests⟩
      · refine .inr ⟨fun t' o' htakes => hok ?_, trace_refused hok _ t o⟩
        obtain ⟨hpub', e', he', hfresh, hroom, hingests⟩ := htakes
        obtain ⟨-, rfl⟩ := Prod.mk.inj (Option.some.inj (hpub.symm.trans hpub'))
        obtain rfl := hengine he'
        exact hiff.mpr ⟨hingests c rfl, hfresh, hroom⟩
  | workerPublish =>
    simp only [IdSys.step, IdSys.workerPublish]
    split
    · rename_i session nextId drawn t o hworker
      have hpub : s.publication .workerPublish = some (t, o) := by
        rw [publication, hworker]
        rfl
      have hresult : (exec (onEngine (EngineRuntime.publishCounted o)) s.ffi).1 =
          (exec (EngineRuntime.publishCounted o) e).1 := by rw [onEngine_some _ h.session.engine]
      have hiff := publishCounted_eq_ok o e
      rw [← hresult] at hiff
      by_cases hok : (exec (onEngine (EngineRuntime.publishCounted o)) s.ffi).1 = .ok ()
      · refine .inl ⟨t, o, ⟨hpub, e, h.session.engine, ?_⟩, trace_ok hok _ t o⟩
        obtain ⟨hfresh, hroom⟩ := hiff.mp hok
        exact ⟨hfresh, hroom, fun c hc => by cases hc⟩
      · refine .inr ⟨fun t' o' htakes => hok ?_, trace_refused hok _ t o⟩
        obtain ⟨hpub', e', he', hfresh, hroom, -⟩ := htakes
        obtain ⟨-, rfl⟩ := Prod.mk.inj (Option.some.inj (hpub.symm.trans hpub'))
        obtain rfl := hengine he'
        exact hiff.mpr ⟨hfresh, hroom⟩
    · rename_i hidle
      refine .inr ⟨fun t o htakes => ?_, rfl⟩
      obtain ⟨⟨session, nextId, drawn, pending⟩, hworker, hpending⟩ :=
        Option.bind_eq_some_iff.mp htakes.1
      obtain rfl : pending = some (t, o) := hpending
      exact hidle session nextId drawn t o hworker
  -- No other turn publishes.
  | draw c clock args =>
    refine .inr ⟨not_takes rfl, ?_⟩
    simp only [IdSys.step, IdSys.draw]
    split
    · rfl
    · split <;> rfl
  | captureStart opened spawned =>
    refine .inr ⟨not_takes rfl, ?_⟩
    simp only [IdSys.step, IdSys.captureStart]
    split <;> rfl
  | captureStop =>
    refine .inr ⟨not_takes rfl, ?_⟩
    simp only [IdSys.step, IdSys.captureStop]
    split <;> rfl
  | receive packet captured ingested =>
    refine .inr ⟨not_takes rfl, ?_⟩
    simp only [IdSys.step, IdSys.receive]
    split <;> rfl
  | call call =>
    refine .inr ⟨not_takes rfl, ?_⟩
    simp only [IdSys.step]
    split <;> rfl

theorem captureProcess_keeps_nextInjected (hash : IdentityInput → UInt64) (env : ProcessingEnv)
    (k : UInt64) : Keeps (fun ffi => ffi.nextInjected = k) (captureProcess hash env) := by
  refine Keeps.getState.bind fun _ => ?_
  apply Keeps.ite Keeps.throw
  refine (onEngine_keeps_nextInjected _ k).attempt.bind fun r => ?_
  cases r with
  | ok _ => exact Keeps.pure
  | error _ => exact Keeps.throw

theorem Inv.captureProcess (h : s.Inv e) (hash : IdentityInput → UInt64) (env : ProcessingEnv) :
    ∃ e', ({ s with ffi := (exec (captureProcess hash env) s.ffi).2 } : IdSys).Inv e' := by
  have hwhere : Where s.ffi.packetHandles (Quiet e.packetBus)
      (exec (Ffi.captureProcess hash env) s.ffi).2 := by
    have hrun := captureProcess_triple hash env e.packetBus s.ffi ⟨rfl, e, h.session.engine, rfl⟩
    match hexec : exec (Ffi.captureProcess hash env) s.ffi with
    | (.ok _, ffi) | (.error _, ffi) =>
      rw [hexec] at hrun
      exact hrun
  obtain ⟨hhandles, e', he', hquiet⟩ := hwhere
  refine ⟨e', h.withFfi ⟨he', ?_⟩ ((captureProcess_keeps_nextInjected hash env _).run rfl)
    hquiet.fresh⟩
  rw [hhandles]
  exact h.session.owned.quiet hquiet

end IdSys

/-! ## 2. Lookups and their answers -/

/-- `WorkItem::ReverseDnsLookup`. -/
structure WorkItem where
  observationId : ObservationId
  address : IpAddr
  deriving DecidableEq, Repr

/-- `WorkResult::ReverseDnsLookup`. -/
structure WorkResult where
  observationId : ObservationId
  address : IpAddr
  hostname : Option String
  deriving DecidableEq, Repr

/-- `process_item`: no name is looked up any more. -/
def processItem (item : WorkItem) : Option WorkResult :=
  some ⟨item.observationId, item.address, none⟩

/-- The observation that `packet_read` or `capture_process` processes, if it comes to that. -/
def processing (s : FfiState) : Option PacketObservation :=
  match s.engine with
  | none => none
  | some e =>
    match exec (EngineRuntime.onBus PacketBus.tryRead) e with
    | (.ok (some o), e') =>
      match (exec EngineRuntime.requireRunning e').1 with
      | .ok () => some o
      | .error _ => none
    | _ => none

/-- A session with the metadata store and the worker pool.  Work is traced to the ticket of the
observation it was queued for, and `origins` lists the tickets behind the annotations of an id. -/
structure MetaSys where
  ids : IdSys
  metadata : MetadataStore
  workItems : List (Ticket × WorkItem)
  workResults : List (Ticket × WorkResult)
  origins : ObservationId → List Ticket

/-- What processing finds answered may have been answered while it ran: `arriving` are the places
of these lookups among the queued ones, in the order of their answers. -/
inductive MetaTurn where
  | turn (turn : Turn) (arriving : List Nat)
  | captureProcess (env : ProcessingEnv) (arriving : List Nat)
  /-- A worker answers a queued lookup. -/
  | answer (i : Nat)

namespace MetaSys

section Step

-- `Display for IpAddr`.
variable (display : IpAddr → String)

def annotate (t : Ticket) (id : ObservationId) (key value provenance : String) (s : MetaSys) :
    MetaSys :=
  { s with
    metadata := s.metadata.add id key value provenance
    origins :=
      if Skipped key value then s.origins else Function.update s.origins id (t :: s.origins id) }

/-- What processing writes at once. -/
def annotateNative (t : Ticket) (o : PacketObservation) (s : MetaSys) : MetaSys :=
  let s := o.nativeMetadata.foldl (fun s entry =>
    s.annotate t o.observationId entry.1 entry.2 ("backend:" ++ o.backendSource.debug)) s
  if o.provenance.isEmpty then s
  else s.annotate t o.observationId "observation.provenance" (",".intercalate o.provenance) "engine"

/-- The lookups that the pool takes. -/
def enqueueItems (env : ProcessingEnv) (t : Ticket) (o : PacketObservation) (s : MetaSys) :
    MetaSys :=
  match (ParsedPacket.parse o).toOption with
  | none => s
  | some parsed =>
    let addresses := [parsed.sourceIp, parsed.destinationIp].reduceOption
    let taken := addresses.zipIdx.filter fun a => env.enqueue a.2 = .ok
    { s with workItems := s.workItems ++ taken.map fun a => (t, ⟨o.observationId, a.1⟩) }

def answer (s : MetaSys) (i : Nat) : MetaSys :=
  match s.workItems[i]? with
  | none => s
  | some (t, item) =>
    let results := (processItem item).toList.map fun result => (t, result)
    { s with workItems := s.workItems.eraseIdx i, workResults := s.workResults ++ results }

/-- One round of `drain_metadata_results`. -/
def drainResult (s : MetaSys) (r : Ticket × WorkResult) : MetaSys :=
  match r.2.hostname with
  | some hostname =>
    s.annotate r.1 r.2.observationId "reverse_dns" hostname ("dns:" ++ display r.2.address)
  | none => s.annotate r.1 r.2.observationId "reverse_dns.error" "resolution_failed" "dns"

/-- Processing up to the drain. -/
def prepare (env : ProcessingEnv) (arriving : List Nat) (o : PacketObservation) (s : MetaSys) :
    MetaSys :=
  let t := s.ids.tickets o.observationId
  arriving.foldl answer ((s.annotateNative t o).enqueueItems env t o)

/-- What `process_observation_shared` does to metadata. -/
def process (env : ProcessingEnv) (arriving : List Nat) (o : PacketObservation) (s : MetaSys) :
    MetaSys :=
  let s := s.prepare env arriving o
  s.workResults.foldl (drainResult display) { s with workResults := [] }

/-- The observation that a turn processes. -/
def processed (s : MetaSys) : MetaTurn → Option (ProcessingEnv × List Nat × PacketObservation)
  | .turn (.call (.read env true)) arriving | .captureProcess env arriving =>
    (processing s.ids.ffi).map fun o => (env, arriving, o)
  | _ => none

/-- What a turn does to ids and to the bus. -/
def idStep (hash : IdentityInput → UInt64) (s : IdSys) : MetaTurn → IdSys
  | .turn turn _ => s.step hash turn
  | .captureProcess env _ => { s with ffi := (exec (captureProcess hash env) s.ffi).2 }
  | .answer _ => s

/-- What a turn does to metadata. -/
def metaStep (s : MetaSys) (turn : MetaTurn) : MetaSys :=
  match turn with
  | .answer i => s.answer i
  | turn =>
    match s.processed turn with
    | some (env, arriving, o) => s.process display env arriving o
    | none => s

def step (hash : IdentityInput → UInt64) (s : MetaSys) (turn : MetaTurn) : MetaSys :=
  { s.metaStep display turn with ids := idStep hash s.ids turn }

end Step

/-- The annotations of an id were made of one observation, and of the one the id was last given
to. -/
structure Unmixed (s : MetaSys) : Prop where
  same : ∀ id, ∀ t ∈ s.origins id, ∀ t' ∈ s.origins id, t = t'
  latest : ∀ id, ∀ t ∈ s.origins id, t = s.ids.tickets id

/-- Draws of the same number, up to the wrapping, of two counters or of two laps. -/
def Foreign (t t' : Ticket) : Prop :=
  t.number % 2 ^ 64 = t'.number % 2 ^ 64 ∧ (t.source ≠ t'.source ∨ t.lap ≠ t'.lap)

/-- No observation is taken in while annotations are stored that were made of a draw of the same
number of another counter, capture session or lap, and no answer is drained whose id has been given
to such a draw since its lookup was queued. -/
structure NoForeignMetadata (s : MetaSys) (turn : MetaTurn) : Prop where
  stored : ∀ turn' arriving t o, turn = .turn turn' arriving → s.ids.Takes turn' t o →
    ∀ id, ∀ t' ∈ s.origins id, ¬ Foreign t' t
  drained : ∀ env arriving o, s.processed turn = some (env, arriving, o) →
    ∀ r ∈ (s.prepare env arriving o).workResults, ¬ Foreign r.1 (s.ids.tickets r.2.observationId)

/-! ## 3. What is written under an id -/

theorem not_foreign_self (t : Ticket) : ¬ Foreign t t := by
  intro h
  exact h.2.elim (· rfl) (· rfl)

theorem eq_of_not_foreign {t t' : Ticket} (hid : t.id = t'.id) (h : ¬ Foreign t t') : t = t' := by
  have hsame : t.source = t'.source ∧ t.lap = t'.lap := by
    by_contra hne
    rw [not_and_or] at hne
    exact h ⟨Ticket.id_eq_iff.mp hid, hne⟩
  exact Ticket.eq_of_id_eq hid hsame.1 hsame.2

variable {s : MetaSys} {display : IpAddr → String}

theorem unmixed_of_latest (h : ∀ id, ∀ t ∈ s.origins id, t = s.ids.tickets id) : s.Unmixed where
  same id t ht t' ht' := (h id t ht).trans (h id t' ht').symm
  latest := h

theorem mem_annotate (s : MetaSys) (t t' : Ticket) (id id' : ObservationId)
    (key value provenance : String) :
    t' ∈ (s.annotate t id key value provenance).origins id' ↔
      t' ∈ s.origins id' ∨ (id' = id ∧ t' = t ∧ ¬ Skipped key value) := by
  simp only [annotate]
  split
  · rename_i hskipped
    simp [hskipped]
  · rename_i hkept
    rw [Function.update_apply]
    split
    · rename_i heq
      subst heq
      simp [hkept, or_comm]
    · rename_i hne
      simp [hne]

theorem enqueueItems_origins (s : MetaSys) (env : ProcessingEnv) (t : Ticket)
    (o : PacketObservation) : (s.enqueueItems env t o).origins = s.origins := by
  simp only [enqueueItems]
  split <;> rfl

theorem answer_origins (s : MetaSys) (i : Nat) : (s.answer i).origins = s.origins := by
  simp only [answer]
  split <;> rfl

/-- What every annotation under the id of the observation keeps. -/
theorem annotateNative_inv {I : MetaSys → Prop} {t : Ticket} {o : PacketObservation} (h : I s)
    (hI : ∀ s key value provenance, I s → I (s.annotate t o.observationId key value provenance)) :
    I (s.annotateNative t o) := by
  have hentries : I (o.nativeMetadata.foldl (fun s entry =>
      s.annotate t o.observationId entry.1 entry.2 ("backend:" ++ o.backendSource.debug)) s) :=
    List.foldlRecOn o.nativeMetadata _ h fun s hs entry _ => hI s _ _ _ hs
  simp only [annotateNative]
  split
  · exact hentries
  · exact hI _ _ _ _ hentries

/-- A ticket of the id, which was given to some draw. -/
def Valid (tickets : ObservationId → Ticket) (id : ObservationId) (t : Ticket) : Prop :=
  t.id = id ∧ (tickets id).id = id

/-- What is stored, queued or answered under an id is traced to draws of that id. -/
structure Traced (tickets : ObservationId → Ticket) (s : MetaSys) : Prop where
  origin : ∀ id, ∀ t ∈ s.origins id, Valid tickets id t
  item : ∀ p ∈ s.workItems, Valid tickets p.2.observationId p.1
  result : ∀ r ∈ s.workResults, Valid tickets r.2.observationId r.1 ∧ r.2.hostname = none

namespace Traced

variable {tickets : ObservationId → Ticket} {t : Ticket} {o : PacketObservation}

/-- An id may be given again. -/
theorem give (h : Traced tickets s) (hid : o.observationId = t.id) :
    Traced (Function.update tickets o.observationId t) s := by
  have hvalid {id : ObservationId} {t' : Ticket} (h' : Valid tickets id t') :
      Valid (Function.update tickets o.observationId t) id t' := by
    refine ⟨h'.1, ?_⟩
    rw [Function.update_apply]
    split
    · rename_i heq
      rw [heq, hid]
    · exact h'.2
  exact ⟨fun id t' ht' => hvalid (h.origin id t' ht'), fun p hp => hvalid (h.item p hp),
    fun r hr => ⟨hvalid (h.result r hr).1, (h.result r hr).2⟩⟩

theorem annotate (h : Traced tickets s) {id : ObservationId} (ht : Valid tickets id t)
    (key value provenance : String) : Traced tickets (s.annotate t id key value provenance) := by
  refine ⟨fun id' t' ht' => ?_, h.item, h.result⟩
  rcases (mem_annotate ..).mp ht' with hold | ⟨rfl, rfl, -⟩
  · exact h.origin id' t' hold
  · exact ht

theorem annotateNative (h : Traced tickets s) (ht : Valid tickets o.observationId t) :
    Traced tickets (s.annotateNative t o) :=
  annotateNative_inv h fun _ _ _ _ hs => hs.annotate ht _ _ _

theorem enqueueItems (h : Traced tickets s) (env : ProcessingEnv)
    (ht : Valid tickets o.observationId t) : Traced tickets (s.enqueueItems env t o) := by
  simp only [MetaSys.enqueueItems]
  split
  · exact h
  · refine ⟨h.origin, fun p hp => ?_, h.result⟩
    rcases List.mem_append.mp hp with hold | hnew
    · exact h.item p hold
    · obtain ⟨a, -, rfl⟩ := List.mem_map.mp hnew
      exact ht

theorem answer (h : Traced tickets s) (i : Nat) : Traced tickets (s.answer i) := by
  simp only [MetaSys.answer]
  split
  · exact h
  · rename_i t item hitem
    refine ⟨h.origin, fun p hp => h.item p (List.mem_of_mem_eraseIdx hp), fun r hr => ?_⟩
    rcases List.mem_append.mp hr with hold | hnew
    · exact h.result r hold
    · obtain rfl := List.mem_singleton.mp hnew
      exact ⟨h.item _ (List.mem_of_getElem? hitem), rfl⟩

theorem prepare (h : Traced s.ids.tickets s) (env : ProcessingEnv) (arriving : List Nat)
    (ho : (s.ids.tickets o.observationId).id = o.observationId) :
    Traced s.ids.tickets (s.prepare env arriving o) :=
  List.foldlRecOn arriving MetaSys.answer
    ((h.annotateNative ⟨ho, ho⟩).enqueueItems env ⟨ho, ho⟩) fun _ hs i _ => hs.answer i

end Traced

/-- Up to the drain, only the processed observation is written about, under its own id. -/
theorem mem_prepare {env : ProcessingEnv} {arriving : List Nat} {o : PacketObservation}
    {id : ObservationId} {t : Ticket} (ht : t ∈ (s.prepare env arriving o).origins id) :
    t ∈ s.origins id ∨ (id = o.observationId ∧ t = s.ids.tickets o.observationId) := by
  let Written (s' : MetaSys) : Prop := t ∈ s'.origins id →
    t ∈ s.origins id ∨ (id = o.observationId ∧ t = s.ids.tickets o.observationId)
  have hnative : Written (s.annotateNative (s.ids.tickets o.observationId) o) := by
    apply annotateNative_inv (I := Written) Or.inl
    intro s' key value provenance hs' hmem
    rcases (mem_annotate ..).mp hmem with hold | hnew
    · exact hs' hold
    · exact .inr ⟨hnew.1, hnew.2.1⟩
  have hitems : Written ((s.annotateNative (s.ids.tickets o.observationId) o).enqueueItems env
      (s.ids.tickets o.observationId) o) := by
    intro hmem
    rw [enqueueItems_origins] at hmem
    exact hnative hmem
  have hanswers : Written (s.prepare env arriving o) := by
    apply List.foldlRecOn (motive := Written) arriving answer hitems
    intro s' hs' i _ hmem
    rw [answer_origins] at hmem
    exact hs' hmem
  exact hanswers ht

/-- The failure of a lookup is an annotation that is stored. -/
theorem resolution_failed_kept : ¬ Skipped "reverse_dns.error" "resolution_failed" := by
  decide +kernel

/-- The drain writes under the id of each answer, for the draw it was queued for. -/
theorem mem_drain (results : List (Ticket × WorkResult))
    (hnone : ∀ r ∈ results, r.2.hostname = none) (s : MetaSys) (id : ObservationId) (t : Ticket) :
    t ∈ (results.foldl (drainResult display) s).origins id ↔
      t ∈ s.origins id ∨ ∃ r ∈ results, r.2.observationId = id ∧ r.1 = t := by
  induction results generalizing s with
  | nil => simp
  | cons r results ih =>
    have hround : t ∈ (s.drainResult display r).origins id ↔
        t ∈ s.origins id ∨ (r.2.observationId = id ∧ r.1 = t) := by
      simp only [drainResult, hnone r List.mem_cons_self, mem_annotate, resolution_failed_kept,
        not_false_eq_true, and_true, eq_comm]
    rw [List.foldl_cons, ih fun r' hr' => hnone r' (List.mem_cons_of_mem _ hr'), hround]
    simp only [List.mem_cons, exists_eq_or_imp, or_assoc]

theorem Traced.process {o : PacketObservation} (h : Traced s.ids.tickets s) (env : ProcessingEnv)
    (arriving : List Nat) (ho : (s.ids.tickets o.observationId).id = o.observationId) :
    Traced s.ids.tickets (s.process display env arriving o) := by
  have hprepared := h.prepare env arriving ho
  -- The answers leave the channel before they are written.
  have htaken : Traced s.ids.tickets { s.prepare env arriving o with workResults := [] } :=
    ⟨hprepared.origin, hprepared.item, fun r hr => absurd hr List.not_mem_nil⟩
  apply List.foldlRecOn (s.prepare env arriving o).workResults (drainResult display) htaken
  intro s' hs' r hr
  simp only [drainResult]
  split <;> exact hs'.annotate (hprepared.result r hr).1 _ _ _

/-- Processing mixes nothing as long as no answer it drains is that of another draw. -/
theorem process_latest_iff (display : IpAddr → String) {o : PacketObservation}
    (h : Traced s.ids.tickets s) (hs : s.Unmixed) (env : ProcessingEnv) (arriving : List Nat)
    (ho : (s.ids.tickets o.observationId).id = o.observationId) :
    (∀ id, ∀ t ∈ (s.process display env arriving o).origins id, t = s.ids.tickets id) ↔
      ∀ r ∈ (s.prepare env arriving o).workResults,
        ¬ Foreign r.1 (s.ids.tickets r.2.observationId) := by
  have hprepared := h.prepare env arriving ho
  have hmem (id : ObservationId) (t : Ticket) :
      t ∈ (s.process display env arriving o).origins id ↔
        t ∈ (s.prepare env arriving o).origins id ∨
          ∃ r ∈ (s.prepare env arriving o).workResults, r.2.observationId = id ∧ r.1 = t :=
    mem_drain _ (fun r hr => (hprepared.result r hr).2) _ id t
  constructor
  · intro hlatest r hr hforeign
    have heq := hlatest r.2.observationId r.1 ((hmem _ _).mpr (.inr ⟨r, hr, rfl, rfl⟩))
    rw [heq] at hforeign
    exact not_foreign_self _ hforeign
  · intro hnone id t ht
    rcases (hmem id t).mp ht with hold | ⟨r, hr, rfl, rfl⟩
    · rcases mem_prepare hold with hold | ⟨rfl, rfl⟩
      · exact hs.latest id t hold
      · rfl
    · obtain ⟨hid, hgiven⟩ := (hprepared.result r hr).1
      exact eq_of_not_foreign (hid.trans hgiven.symm) (hnone r hr)

/-! ## 4. One turn -/

/-- What is processed has a record. -/
theorem processing_live {ffi : FfiState} {e : EngineRuntime} {o : PacketObservation}
    (he : ffi.engine = some e) (h : processing ffi = some o) :
    e.packetBus.ownerOf o.observationId ≠ none := by
  have hread : (exec PacketBus.tryRead e.packetBus).1 = .ok (some o) := by
    simp only [processing, he, EngineRuntime.onBus, exec_zoom] at h
    match hexec : exec PacketBus.tryRead e.packetBus with
    | (.ok (some o'), bus) =>
      rw [hexec] at h
      dsimp only at h
      split at h
      · rw [Option.some.inj h]
      · nomatch h
    | (.ok none, bus) | (.error error, bus) =>
      rw [hexec] at h
      nomatch h
  have hquiet := PacketBus.tryRead_quiet e.packetBus e.packetBus rfl
  match hexec : exec PacketBus.tryRead e.packetBus with
  | (.error error, bus) | (.ok none, bus) =>
    rw [hexec] at hread
    cases hread
  | (.ok (some o'), bus) =>
    rw [hexec] at hread hquiet
    obtain rfl : o' = o := by simpa using hread
    -- A record in `Processing` was a record before the read.
    intro hnone
    have hprocessing := hquiet.2 o' rfl
    rw [hquiet.1.fresh _ hnone] at hprocessing
    nomatch hprocessing

/-- An id has origins exactly when it has annotations. -/
def Annotated (s : MetaSys) : Prop := ∀ id, s.origins id = [] ↔ s.metadata.pairs id = []

/-- What holds between two turns. -/
structure Inv (s : MetaSys) : Prop where
  ids : ∃ e, s.ids.Inv e
  traced : Traced s.ids.tickets s
  annotated : s.Annotated

theorem Annotated.annotate (h : s.Annotated) (t : Ticket) (id : ObservationId)
    (key value provenance : String) : (s.annotate t id key value provenance).Annotated := by
  intro id'
  simp only [MetaSys.annotate]
  by_cases hid : id' = id
  · subst hid
    by_cases hskipped : Skipped key value
    · rw [if_pos hskipped, MetadataStore.pairs_add_skipped _ _ hskipped]
      exact h id'
    · rw [if_neg hskipped, Function.update_self]
      refine iff_of_false (List.cons_ne_nil _ _) (List.ne_nil_of_mem (a := ?_) ?_)
      · exact (normalizeKey key, normalizeValue value)
      · exact (MetadataStore.mem_pairs_add _ _ hskipped _ _).mpr (.inl rfl)
  · rw [MetadataStore.pairs_add_other _ hid]
    split
    · exact h id'
    · rw [Function.update_of_ne hid]
      exact h id'

theorem Annotated.answer (h : s.Annotated) (i : Nat) : (s.answer i).Annotated := by
  simp only [MetaSys.answer]
  split <;> exact h

theorem Annotated.process (h : s.Annotated) (env : ProcessingEnv) (arriving : List Nat)
    (o : PacketObservation) : (s.process display env arriving o).Annotated := by
  have hnative : (s.annotateNative (s.ids.tickets o.observationId) o).Annotated :=
    annotateNative_inv h fun _ _ _ _ hs => hs.annotate _ _ _ _ _
  have hitems : ((s.annotateNative (s.ids.tickets o.observationId) o).enqueueItems env
      (s.ids.tickets o.observationId) o).Annotated := by
    simp only [enqueueItems]
    split <;> exact hnative
  have hprepared : (s.prepare env arriving o).Annotated :=
    List.foldlRecOn arriving MetaSys.answer hitems fun _ hs i _ => hs.answer i
  have htaken : Annotated { s.prepare env arriving o with workResults := [] } := hprepared
  apply List.foldlRecOn (s.prepare env arriving o).workResults (drainResult display) htaken
  intro s' hs' r _
  simp only [drainResult]
  split <;> exact hs'.annotate _ _ _ _ _

theorem idStep_inv {ids : IdSys} (h : ∃ e, ids.Inv e) (hash : IdentityInput → UInt64)
    (turn : MetaTurn) : ∃ e, (idStep hash ids turn).Inv e := by
  obtain ⟨e, h⟩ := h
  cases turn with
  | turn turn arriving => exact h.step hash turn
  | captureProcess env arriving => exact h.captureProcess hash env
  | answer i => exact ⟨e, h⟩

/-- A turn that processes publishes nothing. -/
theorem processed_turn {turn : Turn} {arriving : List Nat}
    {p : ProcessingEnv × List Nat × PacketObservation}
    (hp : s.processed (.turn turn arriving) = some p) : s.ids.publication turn = none := by
  cases turn with
  | call call => rfl
  | draw | publish | captureStart | captureStop | receive | workerPublish => cases hp

theorem processed_processing {turn : MetaTurn} {env : ProcessingEnv} {arriving : List Nat}
    {o : PacketObservation} (hp : s.processed turn = some (env, arriving, o)) :
    processing s.ids.ffi = some o := by
  have hmap (env' : ProcessingEnv) (arriving' : List Nat)
      (h : ((processing s.ids.ffi).map fun o => (env', arriving', o)) = some (env, arriving, o)) :
      processing s.ids.ffi = some o := by
    obtain ⟨o', ho', heq⟩ := Option.map_eq_some_iff.mp h
    cases heq
    exact ho'
  unfold processed at hp
  split at hp
  · exact hmap _ _ hp
  · exact hmap _ _ hp
  · nomatch hp

theorem Inv.processed_given (h : s.Inv) {turn : MetaTurn} {env : ProcessingEnv}
    {arriving : List Nat} {o : PacketObservation}
    (hp : s.processed turn = some (env, arriving, o)) :
    (s.ids.tickets o.observationId).id = o.observationId := by
  obtain ⟨e, hids⟩ := h.ids
  exact (hids.record _ (processing_live hids.session.engine (processed_processing hp))).1

/-- Who the ids are given to changes with what is taken in. -/
theorem Inv.tickets_step (h : s.Inv) (hash : IdentityInput → UInt64) (turn : MetaTurn) :
    (∃ turn' arriving t o, turn = .turn turn' arriving ∧ s.ids.Takes turn' t o ∧
      (idStep hash s.ids turn).tickets = Function.update s.ids.tickets o.observationId t) ∨
    (∀ turn' arriving t o, turn = .turn turn' arriving → ¬ s.ids.Takes turn' t o) ∧
      (idStep hash s.ids turn).tickets = s.ids.tickets := by
  obtain ⟨e, hids⟩ := h.ids
  cases turn with
  | captureProcess | answer => exact .inr ⟨fun _ _ _ _ heq => (by cases heq), rfl⟩
  | turn turn arriving =>
    rcases IdSys.tickets_step hids hash turn with ⟨t, o, htakes, hupdate⟩ | ⟨hnone, hsame⟩
    · exact .inl ⟨turn, arriving, t, o, rfl, htakes, hupdate⟩
    · refine .inr ⟨fun turn' arriving' t o heq => ?_, hsame⟩
      cases heq
      exact hnone t o

theorem metaStep_processed {turn : MetaTurn} {env : ProcessingEnv} {arriving : List Nat}
    {o : PacketObservation} (hp : s.processed turn = some (env, arriving, o)) :
    s.metaStep display turn = s.process display env arriving o := by
  cases turn with
  | answer => cases hp
  | turn | captureProcess => simp only [metaStep, hp]

/-- A turn that does not process writes nothing. -/
theorem metaStep_idle (display : IpAddr → String) {turn : MetaTurn} (hp : s.processed turn = none) :
    (∃ i, s.metaStep display turn = s.answer i) ∨ s.metaStep display turn = s := by
  cases turn with
  | answer i => exact .inl ⟨i, rfl⟩
  | turn | captureProcess => exact .inr (by simp only [metaStep, hp])

/-- The step lemma. -/
theorem Inv.unmixed_step_iff (h : s.Inv) (hs : s.Unmixed) (hash : IdentityInput → UInt64)
    (turn : MetaTurn) : (s.step display hash turn).Unmixed ↔ s.NoForeignMetadata turn := by
  match hp : s.processed turn with
  | some (env, arriving, o) =>
    -- A turn that processes takes nothing in.
    have hnone : ∀ turn' arriving' t' o', turn = .turn turn' arriving' →
        ¬ s.ids.Takes turn' t' o' := by
      rintro turn' arriving' t' o' rfl
      exact IdSys.not_takes (processed_turn hp) t' o'
    have htickets : (idStep hash s.ids turn).tickets = s.ids.tickets := by
      rcases h.tickets_step hash turn with ⟨turn', arriving', t', o', hturn, htakes, -⟩ | ⟨-, hsame⟩
      · exact absurd htakes (hnone turn' arriving' t' o' hturn)
      · exact hsame
    have horigins : (s.step display hash turn).origins =
        (s.process display env arriving o).origins := by
      rw [step, metaStep_processed hp]
    have hiff := process_latest_iff display h.traced hs env arriving
      (h.processed_given hp)
    constructor
    · intro hunmixed
      refine ⟨fun turn' arriving' t' o' hturn htakes =>
        absurd htakes (hnone turn' arriving' t' o' hturn), fun env' arriving' o' hp' => ?_⟩
      cases hp.symm.trans hp'
      apply hiff.mp
      intro id t ht
      rw [← horigins] at ht
      rw [hunmixed.latest id t ht, ← htickets]
      rfl
    · intro hclear
      apply unmixed_of_latest
      intro id t ht
      rw [horigins] at ht
      rw [hiff.mpr (hclear.drained env arriving o hp) id t ht, ← htickets]
      rfl
  | none =>
    have horigins : (s.step display hash turn).origins = s.origins := by
      rw [step]
      rcases metaStep_idle display hp with ⟨i, hstep⟩ | hstep
      · rw [hstep, answer_origins]
      · rw [hstep]
    have hdrained (env : ProcessingEnv) (arriving : List Nat) (o : PacketObservation)
        (hp' : s.processed turn = some (env, arriving, o)) :
        ∀ r ∈ (s.prepare env arriving o).workResults,
          ¬ Foreign r.1 (s.ids.tickets r.2.observationId) := by
      rw [hp] at hp'
      nomatch hp'
    rcases h.tickets_step hash turn with
      ⟨turn', arriving, t, o, hturn, htakes, hupdate⟩ | ⟨hnone, hsame⟩
    · obtain ⟨e, hids⟩ := h.ids
      have hid : o.observationId = t.id := (hids.publication htakes.1).1
      -- The id has a new ticket, so every annotation under it has to be of that ticket.
      constructor
      · intro hunmixed
        refine ⟨fun turn₁ arriving₁ t₁ o₁ hturn₁ htakes₁ id t' ht' hforeign => ?_, hdrained⟩
        cases hturn.symm.trans hturn₁
        cases htakes.1.symm.trans htakes₁.1
        have hsameId : id = o.observationId := by
          rw [hid, ← (h.traced.origin id t' ht').1]
          exact Ticket.id_eq_iff.mpr hforeign.1
        rw [← horigins] at ht'
        have hlatest : t' = (idStep hash s.ids turn).tickets id := hunmixed.latest id t' ht'
        rw [hupdate, hsameId, Function.update_self] at hlatest
        rw [hlatest] at hforeign
        exact not_foreign_self t hforeign
      · intro hclear
        apply unmixed_of_latest
        intro id t' ht'
        rw [horigins] at ht'
        show t' = (idStep hash s.ids turn).tickets id
        rw [hupdate, Function.update_apply]
        split
        · rename_i heq
          apply eq_of_not_foreign
          · rw [(h.traced.origin id t' ht').1, heq, hid]
          · exact hclear.stored turn' arriving t o hturn htakes id t' ht'
        · exact hs.latest id t' ht'
    · refine iff_of_true (unmixed_of_latest fun id t ht => ?_)
        ⟨fun turn' arriving t o hturn htakes => absurd htakes (hnone turn' arriving t o hturn),
          hdrained⟩
      rw [horigins] at ht
      show t = (idStep hash s.ids turn).tickets id
      rw [hsame]
      exact hs.latest id t ht

theorem Inv.step (h : s.Inv) (hash : IdentityInput → UInt64) (turn : MetaTurn) :
    (s.step display hash turn).Inv := by
  -- The metadata is traced to the tickets of before the turn, and then to those of after it.
  have hmeta : Traced s.ids.tickets (s.metaStep display turn) ∧
      (s.metaStep display turn).Annotated := by
    match hp : s.processed turn with
    | some (env, arriving, o) =>
      rw [metaStep_processed hp]
      exact ⟨h.traced.process env arriving (h.processed_given hp),
        h.annotated.process env arriving o⟩
    | none =>
      rcases metaStep_idle display hp with ⟨i, hstep⟩ | hstep
      · rw [hstep]
        exact ⟨h.traced.answer i, h.annotated.answer i⟩
      · rw [hstep]
        exact ⟨h.traced, h.annotated⟩
  refine ⟨idStep_inv h.ids hash turn, ?_, hmeta.2⟩
  suffices htraced : Traced (idStep hash s.ids turn).tickets (s.metaStep display turn) from
    ⟨htraced.origin, htraced.item, htraced.result⟩
  rcases h.tickets_step hash turn with ⟨turn', arriving, t, o, -, htakes, hupdate⟩ | ⟨-, hsame⟩
  · obtain ⟨e, hids⟩ := h.ids
    rw [hupdate]
    exact hmeta.1.give (hids.publication htakes.1).1
  · rw [hsame]
    exact hmeta.1

/-! ## 5. Whole sessions -/

/-- The session begins: there is no metadata and no work. -/
def start (ffi : FfiState) : MetaSys := ⟨.start ffi, .new, [], [], fun _ => []⟩

theorem Inv.start {ffi : FfiState} {e : EngineRuntime} {capacity : Nat}
    (hengine : ffi.engine = some e) (hbus : e.packetBus = .new capacity)
    (hhandles : ffi.packetHandles = ∅) : (MetaSys.start ffi).Inv where
  ids := ⟨e, IdSys.Inv.start hengine hbus hhandles⟩
  traced := ⟨fun _ _ ht => absurd ht List.not_mem_nil, fun _ hp => absurd hp List.not_mem_nil,
    fun _ hr => absurd hr List.not_mem_nil⟩
  annotated id := iff_of_true rfl (MetadataStore.pairs_new id)

/-- In every state of every session, the tickets that are listed for an id are those of something
that is stored under it. -/
theorem annotated_run (display : IpAddr → String) (hash : IdentityInput → UInt64) (ffi : FfiState)
    (e : EngineRuntime) (capacity : Nat) (hengine : ffi.engine = some e)
    (hbus : e.packetBus = .new capacity) (hhandles : ffi.packetHandles = ∅)
    (turns : List MetaTurn) :
    Always (step display hash) Annotated (start ffi) turns := by
  intro before _ _
  have hinv : (run (step display hash) (start ffi) before).Inv :=
    run_inv (fun _ turn hs => hs.step hash turn) (Inv.start hengine hbus hhandles) before
  exact hinv.annotated

/-- A session mixes no two packets under one id exactly when in each of its turns nothing is taken
in, and nothing drained, against the draw of the same number of another counter, capture session
or lap. -/
theorem unmixed_run_iff (display : IpAddr → String) (hash : IdentityInput → UInt64)
    (ffi : FfiState) (e : EngineRuntime) (capacity : Nat) (hengine : ffi.engine = some e)
    (hbus : e.packetBus = .new capacity) (hhandles : ffi.packetHandles = ∅)
    (turns : List MetaTurn) :
    Always (step display hash) Unmixed (start ffi) turns ↔
      Along (step display hash) NoForeignMetadata (start ffi) turns := by
  have hempty : (start ffi).Unmixed := unmixed_of_latest fun _ t ht => absurd ht List.not_mem_nil
  apply always_iff_along fun s => s.Inv ∧ s.Unmixed
  · exact fun s hs => hs.2
  · exact fun s turn hs hnone =>
      ⟨hs.1.step hash turn, (hs.1.unmixed_step_iff hs.2 hash turn).mpr hnone⟩
  · exact fun s turn hs => mt (hs.1.unmixed_step_iff hs.2 hash turn).mp
  · exact ⟨Inv.start hengine hbus hhandles, hempty⟩

/-! ### Two captures -/

/-- A packet of a capture session, its first, is received, published and read. -/
def captureFirst (flags : UInt32) : List MetaTurn :=
  [.turn (.captureStart (some 1) true) [],
    .turn (.receive (.fromNative oneByte ⟨.replicate 8 0, flags, 0, .replicate 64 0⟩) ⟨2⟩ ⟨2⟩) [],
    .turn .workerPublish [], .turn (.call (.read ⟨⟨0, 0⟩, fun _ => .ok⟩ true)) []]

/-- The packet is released, the capture is stopped and started again. -/
def captureTwice : List MetaTurn :=
  captureFirst 0 ++ [.turn (.call (.release 1)) [], .turn .captureStop []] ++
    captureFirst 0xFFFFFFFF

theorem unmixed_run_iff_capture :
    Always (step (fun _ => "") fun _ => 0) Unmixed
        (start ⟨some IdSys.captureReady, ∅, 1, 1, ""⟩) (captureFirst 0) ↔
      Along (step (fun _ => "") fun _ => 0) NoForeignMetadata
        (start ⟨some IdSys.captureReady, ∅, 1, 1, ""⟩) (captureFirst 0) :=
  unmixed_run_iff _ _ _ IdSys.captureReady 16 rfl rfl rfl (captureFirst 0)

/-- The second packet is read under the annotations of the first one, of which one is another
value for a key of its own. -/
theorem second_capture_mixes :
    EngineRuntime.initializeRuntime EngineRuntime.smallConfig EngineRuntime.allSucceed (.ok ()) =
        .ok (EngineRuntime.initialEngine EngineRuntime.smallConfig) ∧
      ¬ Always (step (fun _ => "") fun _ => 0) Unmixed
        (start ⟨some IdSys.captureReady, ∅, 1, 1, ""⟩) captureTwice ∧
      [("impostor", "false"), ("impostor", "true")] ⊆ (run (step (fun _ => "") fun _ => 0)
        (start ⟨some IdSys.captureReady, ∅, 1, 1, ""⟩) captureTwice).metadata.pairs 1 := by
  refine ⟨EngineRuntime.initializeRuntime_ok rfl rfl, fun halways => ?_, by decide +kernel⟩
  have hend := halways captureTwice [] (List.append_nil _).symm
  have hfirst : (⟨.capture 0, 1⟩ : Ticket) ∈ (run (step (fun _ => "") fun _ => 0)
      (start ⟨some IdSys.captureReady, ∅, 1, 1, ""⟩) captureTwice).origins 1 := by decide +kernel
  have hsecond : (⟨.capture 1, 1⟩ : Ticket) ∈ (run (step (fun _ => "") fun _ => 0)
      (start ⟨some IdSys.captureReady, ∅, 1, 1, ""⟩) captureTwice).origins 1 := by decide +kernel
  have heq := hend.same 1 _ hfirst _ hsecond
  cases heq

end MetaSys

end Ffi

end NetworkEngine
