import NetworkEngine.Ffi.Protocol

/-!
# ObservationIds — two sources of ids on one bus

`packet_inject` draws its ids from a static counter, the capture worker from a counter that
`capture_start` creates anew; both publish on one bus, which refuses an id that has a record.  The
calls are interleaved at the draw and at the publication.  Each id is traced back to the draw it
came from, its ticket, so that a refusal can be blamed on the two draws that gave the same id.
-/

namespace NetworkEngine

open Rust Transition

namespace Ffi

/-! ## 1. Tickets -/

/-- A counter: the static one, or that of the capture session with the given number. -/
inductive Source where
  | inject
  | capture (session : Nat)
  deriving DecidableEq, Repr

/-- The draw behind an id: the value of its counter, had it not wrapped. -/
structure Ticket where
  source : Source
  number : Nat
  deriving DecidableEq, Repr

namespace Ticket

def id (t : Ticket) : ObservationId := UInt64.ofNat t.number

/-- How often the counter had wrapped. -/
def lap (t : Ticket) : Nat := t.number / 2 ^ 64

theorem id_eq_iff {t t' : Ticket} :
    t.id = t'.id ↔ t.number % 2 ^ 64 = t'.number % 2 ^ 64 := by
  rw [← UInt64.toNat_inj, id, id, UInt64.toNat_ofNat', UInt64.toNat_ofNat']

/-- One counter gives an id once in a lap. -/
theorem eq_of_id_eq {t t' : Ticket} (hid : t.id = t'.id) (hsource : t.source = t'.source)
    (hlap : t.lap = t'.lap) : t = t' := by
  have hmod := id_eq_iff.mp hid
  have hnumber : t.number = t'.number := by
    unfold lap at hlap
    omega
  cases t
  cases t'
  simp only at hsource hnumber
  rw [hsource, hnumber]

end Ticket

/-! ## 2. Interleavings -/

abbrev ClientId := Nat

/-- The capture worker, with the packet it has received and not published yet. -/
structure Worker where
  session : Nat
  nextId : UInt64
  /-- `nextId` without its wrapping. -/
  drawn : Nat
  pending : Option (Ticket × PacketObservation)

/-- The statics, the worker and the clients inside `packet_inject`.  The rest traces the draws:
`injected` is the static counter without its wrapping, `captures` the number of capture sessions
so far, and `tickets` has the ticket of the record of an id. -/
structure IdSys where
  ffi : FfiState
  worker : Option Worker
  injecting : ClientId → Option (InjectClock × Ticket × PacketObservation)
  injected : Nat
  captures : Nat
  tickets : ObservationId → Ticket

inductive Turn where
  /-- `packet_inject` up to its id. -/
  | draw (c : ClientId) (clock : InjectClock) (args : InjectArgs)
  /-- The rest of `packet_inject`. -/
  | publish (c : ClientId)
  | captureStart (opened : Option Nat) (spawned : Bool)
  | captureStop
  /-- The worker receives a packet and draws its id. -/
  | receive (packet : InterceptedPacket) (captured ingested : Timestamp)
  | workerPublish
  /-- A read or an action of the host. -/
  | call (call : PacketCall)

namespace IdSys

/-- The record that a publication makes is traced to its ticket. -/
def trace {ε α : Type} (s : IdSys) (t : Ticket) (o : PacketObservation) : Except ε α → IdSys
  | .ok _ => { s with tickets := Function.update s.tickets o.observationId t }
  | .error _ => s

def draw (s : IdSys) (c : ClientId) (clock : InjectClock) (args : InjectArgs) : IdSys :=
  match s.injecting c with
  | some _ => s
  | none =>
    match exec (injectObservation clock args) s.ffi with
    | (.ok o, ffi) =>
      let pending := some (clock, ⟨.inject, s.injected⟩, o)
      { s with
        ffi, injected := s.injected + 1, injecting := Function.update s.injecting c pending }
    | (.error _, ffi) => { s with ffi }

def publish (s : IdSys) (c : ClientId) : IdSys :=
  match s.injecting c with
  | none => s
  | some (clock, t, o) =>
    let r := exec (injectPublish clock o) s.ffi
    { s with ffi := r.2, injecting := Function.update s.injecting c none }.trace t o r.1

/-- `Arc::new(AtomicU64::new(1))` for each worker. -/
def captureStart (s : IdSys) (opened : Option Nat) (spawned : Bool) : IdSys :=
  match exec (onEngine (EngineRuntime.captureStart opened spawned)) s.ffi with
  | (.ok true, ffi) =>
    { s with ffi, worker := some ⟨s.captures, 1, 1, none⟩, captures := s.captures + 1 }
  | (_, ffi) => { s with ffi }

/-- The worker is joined, so it has published what it received. -/
def captureStop (s : IdSys) : IdSys :=
  match s.worker with
  | some ⟨_, _, _, some _⟩ => s
  | _ => { s with ffi := (exec (onEngine EngineRuntime.captureStop) s.ffi).2, worker := none }

def receive (s : IdSys) (packet : InterceptedPacket) (captured ingested : Timestamp) : IdSys :=
  match s.worker with
  | some ⟨session, nextId, drawn, none⟩ =>
    let pending := some (⟨.capture session, drawn⟩, packet.toObservation nextId captured ingested)
    { s with worker := some ⟨session, nextId + 1, drawn + 1, pending⟩ }
  | _ => s

def workerPublish (s : IdSys) : IdSys :=
  match s.worker with
  | some ⟨session, nextId, drawn, some (t, o)⟩ =>
    let r := exec (onEngine (EngineRuntime.publishCounted o)) s.ffi
    { s with ffi := r.2, worker := some ⟨session, nextId, drawn, none⟩ }.trace t o r.1
  | _ => s

def step (hash : IdentityInput → UInt64) (s : IdSys) : Turn → IdSys
  | .draw c clock args => s.draw c clock args
  | .publish c => s.publish c
  | .captureStart opened spawned => s.captureStart opened spawned
  | .captureStop => s.captureStop
  | .receive packet captured ingested => s.receive packet captured ingested
  | .workerPublish => s.workerPublish
  | .call call => if call.publishes then s else { s with ffi := packetStep hash s.ffi call }

/-- The observation that a turn publishes, with its ticket. -/
def publication (s : IdSys) : Turn → Option (Ticket × PacketObservation)
  | .publish c => (s.injecting c).map (·.2)
  | .workerPublish => s.worker.bind (·.pending)
  | _ => none

/-- No publication on an open bus with room is refused for the record of its id. -/
def NoDuplicate (s : IdSys) (turn : Turn) : Prop :=
  ∀ t o e, s.publication turn = some (t, o) → s.ffi.engine = some e → e.packetBus.queue.Accepts →
    (exec (PacketBus.publishEngineOwned o) e.packetBus).1 ≠ .error PacketBus.duplicateRecord

/-- No publication on an open bus with room meets a record from the draw of the same number, up to
the wrapping, of another counter, of another capture session or of another lap of its own. -/
def NoForeignRecord (s : IdSys) (turn : Turn) : Prop :=
  ∀ t o e id owner, s.publication turn = some (t, o) → s.ffi.engine = some e →
    e.packetBus.queue.Accepts → e.packetBus.ownerOf id = some owner →
    ((s.tickets id).source = t.source ∧ (s.tickets id).lap = t.lap) ∨
      (s.tickets id).number % 2 ^ 64 ≠ t.number % 2 ^ 64

/-! ## 3. Every draw is published once -/

/-- The ticket was drawn. -/
def Drawn (s : IdSys) (t : Ticket) : Prop :=
  match t.source with
  | .inject => t.number < s.injected
  | .capture session =>
    session < s.captures ∧ ∀ w, s.worker = some w → w.session = session → t.number < w.drawn

/-- What holds between two turns, of the engine `e`.  A ticket that waits to be published is not
the ticket of a record, and no two clients wait with the same. -/
structure Inv (s : IdSys) (e : EngineRuntime) : Prop where
  session : Session s.ffi e
  nextInjected : s.ffi.nextInjected = UInt64.ofNat s.injected
  worker : ∀ w, s.worker = some w → w.nextId = UInt64.ofNat w.drawn ∧ w.session < s.captures
  record : ∀ id, e.packetBus.ownerOf id ≠ none →
    (s.tickets id).id = id ∧ s.Drawn (s.tickets id)
  injecting : ∀ c clock t o, s.injecting c = some (clock, t, o) →
    t.source = .inject ∧ s.Drawn t ∧ o.observationId = t.id ∧
    ∀ id, e.packetBus.ownerOf id ≠ none → s.tickets id ≠ t
  unique : ∀ c c' clock clock' t o o', s.injecting c = some (clock, t, o) →
    s.injecting c' = some (clock', t, o') → c = c'
  pending : ∀ w t o, s.worker = some w → w.pending = some (t, o) →
    t.source = .capture w.session ∧ s.Drawn t ∧ o.observationId = t.id ∧
    ∀ id, e.packetBus.ownerOf id ≠ none → s.tickets id ≠ t

variable {s : IdSys} {e e' : EngineRuntime}

/-- A publication waits with a ticket of its id, and no record has that ticket. -/
theorem Inv.publication (h : s.Inv e) {turn : Turn} {t : Ticket} {o : PacketObservation}
    (hpub : s.publication turn = some (t, o)) :
    o.observationId = t.id ∧ ∀ id, e.packetBus.ownerOf id ≠ none → s.tickets id ≠ t := by
  cases turn with
  | publish c =>
    obtain ⟨⟨clock, t', o'⟩, hwaits, heq⟩ := Option.map_eq_some_iff.mp hpub
    obtain ⟨rfl, rfl⟩ := Prod.mk.inj heq
    exact (h.injecting c clock t' o' hwaits).2.2
  | workerPublish =>
    obtain ⟨w, hworker, hwaits⟩ := Option.bind_eq_some_iff.mp hpub
    exact (h.pending w t o hworker hwaits).2.2
  | draw | captureStart | captureStop | receive | call => nomatch hpub

/-- A duplicate always comes from a draw of another counter or lap. -/
theorem Inv.noDuplicate_iff (h : s.Inv e) (turn : Turn) :
    s.NoDuplicate turn ↔ s.NoForeignRecord turn := by
  constructor
  · intro hnodup t o e' id owner hpub he' hroom howner
    obtain rfl := Option.some.inj (h.session.engine.symm.trans he')
    by_contra hforeign
    push Not at hforeign
    -- The record from the draw of the same number has the id of the publication.
    have hlive : e.packetBus.ownerOf id ≠ none := by rw [howner]; nofun
    have hid : o.observationId = id := by
      rw [(h.publication hpub).1, ← (h.record id hlive).1]
      exact (Ticket.id_eq_iff.mpr hforeign.2).symm
    have hrecord : o.observationId ∈ e.packetBus.ownership := by
      by_contra hnone
      rw [← hid, PacketBus.ownerOf_eq_none.mpr hnone] at howner
      nomatch howner
    apply hnodup t o e hpub he' hroom
    rw [← PacketBus.publish, PacketBus.publish_exec, if_pos hrecord]
  · intro hforeign t o e' hpub he' hroom
    obtain rfl := Option.some.inj (h.session.engine.symm.trans he')
    obtain ⟨hid, hnot⟩ := h.publication hpub
    cases howner : e.packetBus.ownerOf o.observationId with
    | none =>
      rw [← PacketBus.publish, PacketBus.publish_ok howner hroom]
      exact nofun
    | some owner =>
      -- Same counter, same lap and same id make the same ticket, which no record has.
      have hlive : e.packetBus.ownerOf o.observationId ≠ none := by rw [howner]; nofun
      have hticket : (s.tickets o.observationId).id = t.id :=
        (h.record _ hlive).1.trans hid
      rcases hforeign t o e _ owner hpub he' hroom howner with ⟨hsource, hlap⟩ | hapart
      · exact absurd (Ticket.eq_of_id_eq hticket hsource hlap) (hnot o.observationId hlive)
      · exact absurd (Ticket.id_eq_iff.mp hticket) hapart

/-! ## 4. One turn -/

/-- What was drawn stays drawn while the counters only advance. -/
theorem Drawn.mono {s' : IdSys} {t : Ticket} (ht : s.Drawn t) (hinjected : s.injected ≤ s'.injected)
    (hcaptures : s.captures ≤ s'.captures)
    (hworker : ∀ w', s'.worker = some w' → w'.session < s.captures →
      ∃ w, s.worker = some w ∧ w.session = w'.session ∧ w.drawn ≤ w'.drawn) : s'.Drawn t := by
  -- Drawn is said per counter: of the inject counter, then of the sessions of the capture.
  unfold IdSys.Drawn at ht ⊢
  split
  · rename_i hsource
    rw [hsource] at ht
    exact Nat.lt_of_lt_of_le ht hinjected
  · rename_i session hsource
    rw [hsource] at ht
    refine ⟨Nat.lt_of_lt_of_le ht.1 hcaptures, fun w' hw' heq => ?_⟩
    obtain ⟨w, hw, hsession, hle⟩ := hworker w' hw' (by rw [heq]; exact ht.1)
    exact Nat.lt_of_lt_of_le (ht.2 w hw (hsession.trans heq)) hle

/-- A turn of the worker, or of a call: no client draws or publishes, and no record is made. -/
theorem Inv.mono {s' : IdSys} (h : s.Inv e) (htickets : s'.tickets = s.tickets)
    (hinjecting : s'.injecting = s.injecting) (hsession : Session s'.ffi e')
    (hnext : s'.ffi.nextInjected = UInt64.ofNat s'.injected)
    (hdrawn : ∀ t, s.Drawn t → s'.Drawn t)
    (hfresh : ∀ id, e.packetBus.ownerOf id = none → e'.packetBus.ownerOf id = none)
    (hworker : ∀ w, s'.worker = some w → w.nextId = UInt64.ofNat w.drawn ∧ w.session < s'.captures)
    (hpending : ∀ w t o, s'.worker = some w → w.pending = some (t, o) →
      t.source = .capture w.session ∧ s'.Drawn t ∧ o.observationId = t.id ∧
      ∀ id, e.packetBus.ownerOf id ≠ none → s.tickets id ≠ t) : s'.Inv e' := by
  have hlive (id : ObservationId) (hid : e'.packetBus.ownerOf id ≠ none) :
      e.packetBus.ownerOf id ≠ none := fun hnone => hid (hfresh id hnone)
  -- A record that is left was there before, so each clause comes from the one before the turn.
  constructor
  · exact hsession
  · exact hnext
  · exact hworker
  · intro id hid
    rw [htickets]
    obtain ⟨hid', hdrawn'⟩ := h.record id (hlive id hid)
    exact ⟨hid', hdrawn _ hdrawn'⟩
  · intro c clock t o hwaits
    rw [hinjecting] at hwaits
    rw [htickets]
    obtain ⟨hsource, hdrawn', hid, hnot⟩ := h.injecting c clock t o hwaits
    exact ⟨hsource, hdrawn t hdrawn', hid, fun id hid' => hnot id (hlive id hid')⟩
  · rw [hinjecting]
    exact h.unique
  · intro w t o hw hwaits
    rw [htickets]
    obtain ⟨hsource, hdrawn', hid, hnot⟩ := hpending w t o hw hwaits
    exact ⟨hsource, hdrawn', hid, fun id hid' => hnot id (hlive id hid')⟩

/-- The turn leaves the counters alone, and makes no record. -/
theorem Inv.withFfi (h : s.Inv e) {ffi : FfiState} (hsession : Session ffi e')
    (hnext : ffi.nextInjected = s.ffi.nextInjected)
    (hfresh : ∀ id, e.packetBus.ownerOf id = none → e'.packetBus.ownerOf id = none) :
    ({ s with ffi } : IdSys).Inv e' :=
  h.mono rfl rfl hsession (hnext.trans h.nextInjected) (fun _ ht => ht) hfresh h.worker h.pending

theorem injectObservation_exec (clock : InjectClock) (args : InjectArgs) (ffi : FfiState) :
    (∃ o, exec (injectObservation clock args) ffi =
        (.ok o, { ffi with nextInjected := ffi.nextInjected + 1 }) ∧
      o.observationId = ffi.nextInjected) ∨
    ∃ code message, exec (injectObservation clock args) ffi =
      (.error code, { ffi with lastError := message }) := by
  unfold injectObservation
  split
  · exact .inr ⟨_, _, rfl⟩
  split
  · exact .inr ⟨_, _, rfl⟩
  split
  · exact .inr ⟨_, _, rfl⟩
  · exact .inr ⟨_, _, rfl⟩
  · exact .inl ⟨_, rfl, rfl⟩

theorem ofNat_succ (n : Nat) : UInt64.ofNat n + 1 = UInt64.ofNat (n + 1) := by
  rw [UInt64.ofNat_add]
  rfl

theorem Inv.draw (h : s.Inv e) (c : ClientId) (clock : InjectClock) (args : InjectArgs) :
    (s.draw c clock args).Inv e := by
  unfold IdSys.draw
  cases hidle : s.injecting c with
  | some _ => exact h
  | none =>
    obtain ⟨o, hexec, hid⟩ | ⟨code, message, hexec⟩ := injectObservation_exec clock args s.ffi
    · simp only [hexec]
      -- The new ticket lies beyond every ticket drawn before.
      have hnew (t : Ticket) (ht : s.Drawn t) : t ≠ ⟨.inject, s.injected⟩ := by
        rintro rfl
        exact Nat.lt_irrefl _ ht
      have hdrawn (t : Ticket) (ht : s.Drawn t) : IdSys.Drawn { s with
          ffi := { s.ffi with nextInjected := s.ffi.nextInjected + 1 }
          injected := s.injected + 1
          injecting := Function.update s.injecting c (some (clock, ⟨.inject, s.injected⟩, o)) } t :=
        ht.mono (Nat.le_succ _) (Nat.le_refl _) fun w hw _ => ⟨w, hw, rfl, Nat.le_refl _⟩
      constructor
      · exact ⟨h.session.engine, h.session.owned⟩
      · show s.ffi.nextInjected + 1 = _
        rw [h.nextInjected, ofNat_succ]
      · exact h.worker
      · exact fun id hlive => ⟨(h.record id hlive).1, hdrawn _ (h.record id hlive).2⟩
      -- The client that drew waits with the new ticket, every other one with its own.
      · intro c' clock' t o' hwaits
        simp only [Function.update_apply] at hwaits
        split at hwaits
        · obtain ⟨rfl, rfl, rfl⟩ := by simpa using hwaits
          refine ⟨rfl, Nat.lt_succ_self _, hid.trans h.nextInjected, fun id hlive => ?_⟩
          exact hnew _ (h.record id hlive).2
        · obtain ⟨hsource, hdrawn', hid', hnot⟩ := h.injecting c' clock' t o' hwaits
          exact ⟨hsource, hdrawn t hdrawn', hid', hnot⟩
      · intro c₁ c₂ clock₁ clock₂ t o₁ o₂ h₁ h₂
        simp only [Function.update_apply] at h₁ h₂
        -- Two clients, each of which is the one that drew or not.
        split at h₁ <;> split at h₂
        · rename_i hc₁ hc₂
          rw [hc₁, hc₂]
        · obtain ⟨rfl, rfl, rfl⟩ := by simpa using h₁
          exact absurd rfl (hnew _ (h.injecting _ _ _ _ h₂).2.1)
        · obtain ⟨rfl, rfl, rfl⟩ := by simpa using h₂
          exact absurd rfl (hnew _ (h.injecting _ _ _ _ h₁).2.1)
        · exact h.unique _ _ _ _ _ _ _ h₁ h₂
      · intro w t o' hworker hwaits
        obtain ⟨hsource, hdrawn', hid', hnot⟩ := h.pending w t o' hworker hwaits
        exact ⟨hsource, hdrawn t hdrawn', hid', hnot⟩
    · simp only [hexec]
      exact h.withFfi ⟨h.session.engine, h.session.owned⟩ rfl fun _ hnone => hnone

/-! ### Publications -/

theorem onEngine_keeps_nextInjected {α : Type} (x : EngineOp α) (k : UInt64) :
    Keeps (fun ffi => ffi.nextInjected = k) (onEngine x) := by
  refine Keeps.of_run fun ffi hffi => ?_
  show (onEngine x ffi).2.nextInjected = k
  unfold onEngine
  split <;> exact hffi

theorem framed_nextInjected (k : UInt64) : TableFramed fun ffi => ffi.nextInjected = k where
  message _ _ hs := hs
  engine x _ := onEngine_keeps_nextInjected x k
  table _ _ _ hs := hs

/-- A ticket that no one waits with gets its record. -/
theorem Inv.published (h : s.Inv e) {t : Ticket} {o : PacketObservation} {ffi : FfiState}
    (hid : o.observationId = t.id) (hdrawn : s.Drawn t)
    (hinjecting : ∀ c clock o', s.injecting c ≠ some (clock, t, o'))
    (hpending : ∀ w o', s.worker = some w → w.pending ≠ some (t, o'))
    (hsession : Session ffi e') (hnext : ffi.nextInjected = s.ffi.nextInjected)
    (hpublished : Published e.packetBus o.observationId e'.packetBus) :
    ({ s with ffi, tickets := Function.update s.tickets o.observationId t } : IdSys).Inv e' := by
  have hlive (id : ObservationId) (hne : id ≠ o.observationId)
      (hid' : e'.packetBus.ownerOf id ≠ none) : e.packetBus.ownerOf id ≠ none := by
    rw [← hpublished.2.2 id hne]
    exact hid'
  -- No other waiting ticket gets a record by this.
  have hnot (t' : Ticket) (hne : t' ≠ t)
      (hnot' : ∀ id, e.packetBus.ownerOf id ≠ none → s.tickets id ≠ t') (id : ObservationId)
      (hid' : e'.packetBus.ownerOf id ≠ none) :
      Function.update s.tickets o.observationId t id ≠ t' := by
    rw [Function.update_apply]
    split
    · exact hne.symm
    · exact hnot' id (hlive id ‹_› hid')
  -- The id of the observation gets the ticket; the other records are as they were.
  constructor
  · exact hsession
  · exact hnext.trans h.nextInjected
  · exact h.worker
  · intro id hid'
    have hrecord : Ticket.id (Function.update s.tickets o.observationId t id) = id ∧
        s.Drawn (Function.update s.tickets o.observationId t id) := by
      rw [Function.update_apply]
      split
      · rename_i heq
        rw [heq]
        exact ⟨hid.symm, hdrawn⟩
      · exact h.record id (hlive id ‹_› hid')
    exact hrecord
  · intro c clock t' o' hwaits
    obtain ⟨hsource, hdrawn', hid', hnot'⟩ := h.injecting c clock t' o' hwaits
    refine ⟨hsource, hdrawn', hid', hnot t' ?_ hnot'⟩
    rintro rfl
    exact hinjecting c clock o' hwaits
  · exact h.unique
  · intro w t' o' hworker hwaits
    obtain ⟨hsource, hdrawn', hid', hnot'⟩ := h.pending w t' o' hworker hwaits
    refine ⟨hsource, hdrawn', hid', hnot t' ?_ hnot'⟩
    rintro rfl
    exact hpending w o' hworker hwaits

/-- A client gives its ticket up. -/
theorem Inv.withdraw (h : s.Inv e) (c : ClientId) :
    ({ s with injecting := Function.update s.injecting c none } : IdSys).Inv e := by
  have hwaits {c' : ClientId} {p : InjectClock × Ticket × PacketObservation}
      (hp : Function.update s.injecting c none c' = some p) : s.injecting c' = some p := by
    rw [Function.update_apply] at hp
    split at hp
    · nomatch hp
    · exact hp
  exact ⟨h.session, h.nextInjected, h.worker, h.record,
    fun c' clock t o hp => h.injecting c' clock t o (hwaits hp),
    fun c₁ c₂ clock₁ clock₂ t o₁ o₂ h₁ h₂ => h.unique _ _ _ _ _ _ _ (hwaits h₁) (hwaits h₂),
    h.pending⟩

/-- A publication makes a record of its ticket or fails, for whoever publishes. -/
theorem Inv.traced {ε α : Type} (h : s.Inv e) {x : Op FfiState ε α} {t : Ticket}
    {o : PacketObservation} (hid : o.observationId = t.id) (hdrawn : s.Drawn t)
    (hinjecting : ∀ c clock o', s.injecting c ≠ some (clock, t, o'))
    (hpending : ∀ w o', s.worker = some w → w.pending ≠ some (t, o'))
    (hx : Triple (Where s.ffi.packetHandles (· = e.packetBus)) x
      (fun _ => Where s.ffi.packetHandles (Published e.packetBus o.observationId))
      (fun _ => Where s.ffi.packetHandles (· = e.packetBus)))
    (hnext : Keeps (fun ffi => ffi.nextInjected = s.ffi.nextInjected) x) :
    ∃ e', (IdSys.trace { s with ffi := (exec x s.ffi).2 } t o (exec x s.ffi).1).Inv e' := by
  have hrun := hx s.ffi ⟨rfl, e, h.session.engine, rfl⟩
  have hcounter := hnext.run (rfl : s.ffi.nextInjected = _)
  match hexec : exec x s.ffi with
  | (.ok _, ffi) =>
    rw [hexec] at hrun hcounter
    obtain ⟨hhandles, e', he', hpublished⟩ := hrun
    have hsession : Session ffi e' := by
      refine ⟨he', ?_⟩
      rw [hhandles]
      exact hpublished.owned h.session.owned
    exact ⟨e', h.published hid hdrawn hinjecting hpending hsession hcounter hpublished⟩
  | (.error _, ffi) =>
    rw [hexec] at hrun hcounter
    obtain ⟨hhandles, e', he', hbus⟩ := hrun
    have hsession : Session ffi e' := by
      refine ⟨he', ?_⟩
      rw [hhandles, hbus]
      exact h.session.owned
    refine ⟨e', h.withFfi hsession hcounter fun id hnone => ?_⟩
    rw [hbus]
    exact hnone

theorem Inv.publish (h : s.Inv e) (c : ClientId) : ∃ e', (s.publish c).Inv e' := by
  unfold IdSys.publish
  match hwaits : s.injecting c with
  | none => exact ⟨e, h⟩
  | some (clock, t, o) =>
    obtain ⟨hsource, hdrawn, hid, -⟩ := h.injecting c clock t o hwaits
    -- The ticket is that of no other client, and not one of the worker's.
    have hinjecting (c' : ClientId) (clock' : InjectClock) (o' : PacketObservation) :
        Function.update s.injecting c none c' ≠ some (clock', t, o') := by
      rw [Function.update_apply]
      split
      · nofun
      · rename_i hne
        exact fun hwaits' => hne (h.unique _ _ _ _ _ _ _ hwaits' hwaits)
    have hpending (w : Worker) (o' : PacketObservation) (hworker : s.worker = some w) :
        w.pending ≠ some (t, o') := by
      intro hpending
      have hcapture := (h.pending w t o' hworker hpending).1
      rw [hsource] at hcapture
      nomatch hcapture
    exact (h.withdraw c).traced hid hdrawn hinjecting hpending
      (injectPublish_triple clock o e.packetBus) ((framed_nextInjected _).injectPublish clock o)

/-- The worker gives its ticket up. -/
theorem Inv.handOver (h : s.Inv e) {w : Worker} (hworker : s.worker = some w) :
    ({ s with worker := some { w with pending := none } } : IdSys).Inv e := by
  refine h.mono rfl rfl h.session h.nextInjected (fun t ht => ?_) (fun _ hnone => hnone) ?_ ?_
  · refine ht.mono (Nat.le_refl _) (Nat.le_refl _) ?_
    rintro _ ⟨⟩ _
    exact ⟨w, hworker, rfl, Nat.le_refl _⟩
  · rintro _ ⟨⟩
    exact h.worker w hworker
  · rintro _ t o ⟨⟩ hwaits
    nomatch hwaits

theorem Inv.workerPublish (h : s.Inv e) : ∃ e', s.workerPublish.Inv e' := by
  unfold IdSys.workerPublish
  split
  · rename_i session nextId drawn t o hworker
    obtain ⟨hsource, hdrawn, hid, -⟩ := h.pending _ t o hworker rfl
    have hidle := h.handOver hworker
    -- A ticket of a capture session is not one of a client's.
    have hinjecting (c : ClientId) (clock : InjectClock) (o' : PacketObservation) :
        s.injecting c ≠ some (clock, t, o') := by
      intro hwaits
      have hinject := (h.injecting c clock t o' hwaits).1
      rw [hsource] at hinject
      nomatch hinject
    refine hidle.traced hid ?_ hinjecting ?_ (onEngine_where (publishCounted_triple o e.packetBus))
      (onEngine_keeps_nextInjected _ _)
    · refine hdrawn.mono (Nat.le_refl _) (Nat.le_refl _) ?_
      rintro _ ⟨⟩ _
      exact ⟨_, hworker, rfl, Nat.le_refl _⟩
    · rintro _ o' ⟨⟩
      nofun
  · exact ⟨e, h⟩

/-! ### The worker -/

theorem Inv.receive (h : s.Inv e) (packet : InterceptedPacket) (captured ingested : Timestamp) :
    (s.receive packet captured ingested).Inv e := by
  unfold IdSys.receive
  split
  · rename_i session nextId drawn hworker
    obtain ⟨hnext, hsession⟩ := h.worker _ hworker
    have hnext : nextId = UInt64.ofNat drawn := hnext
    refine h.mono rfl rfl h.session h.nextInjected (fun t ht => ?_) (fun _ hnone => hnone) ?_ ?_
    · refine ht.mono (Nat.le_refl _) (Nat.le_refl _) ?_
      rintro _ ⟨⟩ _
      exact ⟨_, hworker, rfl, Nat.le_succ _⟩
    · rintro _ ⟨⟩
      refine ⟨?_, hsession⟩
      show nextId + 1 = _
      rw [hnext, ofNat_succ]
    · rintro _ t o ⟨⟩ ⟨⟩
      refine ⟨rfl, ⟨hsession, ?_⟩, hnext, fun id hlive heq => ?_⟩
      · rintro _ ⟨⟩ _
        exact Nat.lt_succ_self drawn
      · -- A record of this ticket would have been drawn before.
        have hdrawn := (h.record id hlive).2
        rw [heq] at hdrawn
        exact Nat.lt_irrefl _ (hdrawn.2 _ hworker rfl)
  · exact h

/-- The calls that start and stop the worker leave the bus alone. -/
theorem Inv.onEngine {α : Type} (h : s.Inv e) {x : EngineOp α}
    (hx : ∀ bus, Keeps (fun e => e.packetBus = bus) x) :
    ∃ e', ∀ ffi, (exec (onEngine x) s.ffi).2 = ffi → Session ffi e' ∧
      ffi.nextInjected = s.ffi.nextInjected ∧ e'.packetBus = e.packetBus := by
  have hkeeps : Keeps (Where s.ffi.packetHandles (· = e.packetBus)) (Ffi.onEngine x) :=
    onEngine_where (P := (· = e.packetBus)) (Q := fun _ => (· = e.packetBus)) (hx e.packetBus)
  obtain ⟨hhandles, e', he', hbus⟩ := hkeeps.run (s := s.ffi) ⟨rfl, e, h.session.engine, rfl⟩
  refine ⟨e', ?_⟩
  rintro _ rfl
  refine ⟨⟨he', ?_⟩, (onEngine_keeps_nextInjected x _).run rfl, hbus⟩
  rw [hhandles, hbus]
  exact h.session.owned

theorem Inv.captureStart (h : s.Inv e) (opened : Option Nat) (spawned : Bool) :
    ∃ e', (s.captureStart opened spawned).Inv e' := by
  obtain ⟨e', hffi⟩ := h.onEngine (x := EngineRuntime.captureStart opened spawned)
    fun bus => EngineRuntime.captureStart_keeps opened spawned (fun _ he => he) (fun _ he => he)
  refine ⟨e', ?_⟩
  unfold IdSys.captureStart
  split
  · rename_i ffi hexec
    obtain ⟨hsession, hnext, hbus⟩ := hffi ffi (by rw [hexec])
    refine h.mono rfl rfl hsession (hnext.trans h.nextInjected) (fun t ht => ?_) ?_ ?_ ?_
    · refine ht.mono (Nat.le_refl _) (Nat.le_succ _) ?_
      -- The new worker has a session of its own.
      rintro _ ⟨⟩ hlt
      exact absurd hlt (Nat.lt_irrefl _)
    · intro id hnone
      rw [hbus]
      exact hnone
    · rintro _ ⟨⟩
      exact ⟨rfl, Nat.lt_succ_self _⟩
    · rintro _ t o ⟨⟩ hwaits
      nomatch hwaits
  · rename_i r ffi hrefused hexec
    obtain ⟨hsession, hnext, hbus⟩ := hffi ffi (by rw [hexec])
    refine h.withFfi hsession hnext fun id hnone => ?_
    rw [hbus]
    exact hnone

theorem Inv.captureStop (h : s.Inv e) : ∃ e', s.captureStop.Inv e' := by
  obtain ⟨e', hffi⟩ := h.onEngine (x := EngineRuntime.captureStop)
    fun bus => Keeps.modifyState fun _ he => he
  unfold IdSys.captureStop
  split
  · exact ⟨e, h⟩
  · obtain ⟨hsession, hnext, hbus⟩ := hffi _ rfl
    refine ⟨e', h.mono rfl rfl hsession (hnext.trans h.nextInjected) (fun t ht => ?_) ?_ ?_ ?_⟩
    · refine ht.mono (Nat.le_refl _) (Nat.le_refl _) fun w hw => ?_
      nomatch (show none = some w from hw)
    · intro id hnone
      rw [hbus]
      exact hnone
    · intro w hw
      nomatch (show none = some w from hw)
    · intro w t o hw
      nomatch (show none = some w from hw)

/-! ### Calls of the host -/

theorem Inv.call (h : s.Inv e) (hash : IdentityInput → UInt64) {call : PacketCall}
    (hcall : call.publishes = false) :
    ∃ e', ({ s with ffi := packetStep hash s.ffi call } : IdSys).Inv e' := by
  obtain ⟨e', hsession⟩ := h.session.step hash call
  have hnext := ((framed_nextInjected s.ffi.nextInjected).perform hash hcall).run rfl
  refine ⟨e', h.withFfi hsession hnext fun id hnone => ?_⟩
  have haccepted : ¬ accepted s.ffi call = some id := by
    cases call with
    | inject | captured => nomatch hcall
    | read | release | drop | pass | modify | reinject => nofun
  obtain ⟨e'', he'', hnone'⟩ := h.session.ownerOf_none hash hnone haccepted
  obtain rfl := Option.some.inj (hsession.engine.symm.trans he'')
  exact hnone'

theorem Inv.step (h : s.Inv e) (hash : IdentityInput → UInt64) (turn : Turn) :
    ∃ e', (s.step hash turn).Inv e' := by
  cases turn with
  | draw c clock args => exact ⟨e, h.draw c clock args⟩
  | publish c => exact h.publish c
  | captureStart opened spawned => exact h.captureStart opened spawned
  | captureStop => exact h.captureStop
  | receive packet captured ingested => exact ⟨e, h.receive packet captured ingested⟩
  | workerPublish => exact h.workerPublish
  | call call =>
    show ∃ e', IdSys.Inv (if call.publishes then s else _) e'
    split
    · exact ⟨e, h⟩
    · exact h.call hash (Bool.eq_false_iff.mpr ‹_›)

/-! ## 5. Whole sessions -/

/-- The session begins: nothing is captured, and no client is inside `packet_inject`. -/
def start (ffi : FfiState) : IdSys :=
  ⟨ffi, none, fun _ => none, ffi.nextInjected.toNat, 0, fun _ => ⟨.inject, 0⟩⟩

theorem Inv.start {ffi : FfiState} {capacity : Nat} (hengine : ffi.engine = some e)
    (hbus : e.packetBus = .new capacity) (hhandles : ffi.packetHandles = ∅) :
    (IdSys.start ffi).Inv e := by
  have hnone (id : ObservationId) : e.packetBus.ownerOf id = none := by
    rw [hbus]
    exact PacketBus.ownerOf_eq_none.mpr Finmap.notMem_empty
  constructor
  · refine ⟨hengine, ?_⟩
    show Owned ffi.packetHandles _
    rw [hhandles, hbus]
    exact Owned.empty capacity
  · exact UInt64.ofNat_toNat.symm
  · intro w hw
    nomatch (show none = some w from hw)
  · exact fun id hlive => absurd (hnone id) hlive
  · intro c clock t o hwaits
    nomatch (show none = some (clock, t, o) from hwaits)
  · intro c c' clock clock' t o o' hwaits
    nomatch (show none = some (clock, t, o) from hwaits)
  · intro w t o hw
    nomatch (show none = some w from hw)

/-- In every interleaving of a session, the duplicates are the records that a draw of the same
number of another counter, capture session or lap has left. -/
theorem noDuplicate_run_iff (hash : IdentityInput → UInt64) (ffi : FfiState) (e : EngineRuntime)
    (capacity : Nat) (hengine : ffi.engine = some e) (hbus : e.packetBus = .new capacity)
    (hhandles : ffi.packetHandles = ∅) (turns : List Turn) :
    Along (step hash) NoDuplicate (start ffi) turns ↔
      Along (step hash) NoForeignRecord (start ffi) turns := by
  refine along_iff (fun s => ∃ e, s.Inv e) ?_ ?_ ⟨e, Inv.start hengine hbus hhandles⟩ turns
  · rintro s turn ⟨e, h⟩ _
    exact h.step hash turn
  · rintro s turn ⟨e, h⟩
    exact h.noDuplicate_iff turn

/-! ### A collision -/

/-- An engine on which `capture_start` finds WinDivert: stopping Npcap has cleared its route. -/
def captureReady : EngineRuntime :=
  run EngineRuntime.step (EngineRuntime.initialEngine EngineRuntime.smallConfig)
    [.startBackend EngineRuntime.allSucceed "npcap", .stopBackend EngineRuntime.allSucceed "npcap"]

/-- One packet is injected, and not read; then a capture receives its first packet. -/
def injectThenCapture : List Turn :=
  [.draw 0 ⟨⟨1⟩, ⟨1⟩, ⟨1⟩⟩ ⟨some oneByte, 0, 0, 1⟩, .publish 0, .captureStart (some 1) true,
    .receive (.fromNative oneByte ⟨.replicate 8 0, 0, 0, .replicate 64 0⟩) ⟨2⟩ ⟨2⟩]

theorem noDuplicate_run_iff_capture :
    (start ⟨some captureReady, ∅, 1, 1, ""⟩).ffi.packetHandles = ∅ ∧
      (Along (step fun _ => 0) NoDuplicate (start ⟨some captureReady, ∅, 1, 1, ""⟩)
          injectThenCapture ↔
        Along (step fun _ => 0) NoForeignRecord (start ⟨some captureReady, ∅, 1, 1, ""⟩)
          injectThenCapture) :=
  ⟨rfl, noDuplicate_run_iff _ _ captureReady 16 rfl rfl rfl injectThenCapture⟩

/-- The first packet of the capture is refused: its id is that of the injected one. -/
theorem capture_refused_as_duplicate :
    EngineRuntime.initializeRuntime EngineRuntime.smallConfig EngineRuntime.allSucceed (.ok ()) =
        .ok (EngineRuntime.initialEngine EngineRuntime.smallConfig) ∧
      ¬ Along (step fun _ => 0) NoDuplicate (start ⟨some captureReady, ∅, 1, 1, ""⟩)
        (injectThenCapture ++ [.workerPublish]) := by
  refine ⟨EngineRuntime.initializeRuntime_ok rfl rfl, fun halong => ?_⟩
  let s := run (step fun _ => 0) (start ⟨some captureReady, ∅, 1, 1, ""⟩) injectThenCapture
  have hcheck : (s.publication .workerPublish).any (fun p => s.ffi.engine.any fun e =>
      decide e.packetBus.queue.Accepts && decide ((exec (PacketBus.publishEngineOwned p.2)
        e.packetBus).1 = .error PacketBus.duplicateRecord)) = true := by
    decide +kernel
  obtain ⟨⟨t, o⟩, hpub, hcheck⟩ := (Option.any_eq_true _ _).mp hcheck
  obtain ⟨e, he, hcheck⟩ := (Option.any_eq_true _ _).mp hcheck
  rw [Bool.and_eq_true, decide_eq_true_iff, decide_eq_true_iff] at hcheck
  exact halong injectThenCapture .workerPublish [] rfl t o e hpub he hcheck.1 hcheck.2

end IdSys

end Ffi

end NetworkEngine
