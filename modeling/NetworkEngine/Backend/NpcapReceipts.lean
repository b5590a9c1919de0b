import Mathlib.Algebra.Ring.Nat
import NetworkEngine.Backend.NpcapSessions

/-!
# NpcapReceipts — the packets that the Npcap backend hands out

Every packet that a session delivers is counted once, by the session it came in on, whether it is
handed out as a packet or as an observation.  Nothing but a delivery, and the end of a session,
changes the counters.
-/

namespace NetworkEngine.Npcap

open Rust Ledger Transition

/-! ## 1. What a session shows of its deliveries -/

/-- The configuration and the two counters. -/
structure Meter where
  config : CaptureConfig
  packets : UInt64
  bytes : UInt64
  deriving DecidableEq

namespace CaptureSession

def meter (s : CaptureSession) : Meter := ⟨s.config, s.packetsReceived, s.bytesReceived⟩

/-- The operation is no delivery. -/
abbrev KeepsMeter {α : Type} (x : SessionOp α) : Prop := ∀ m, Keeps (fun t => t.1.meter = m) x

theorem closeNativeHandle_meter : KeepsMeter closeNativeHandle := by
  intro m
  unfold closeNativeHandle
  refine Triple.readObject_bind fun s => ?_
  cases s.handle with
  | none => exact Triple.pure fun _ h => h.1
  | some handle =>
    refine Triple.bind_with (fun _ t => t.1.meter = m) (Triple.updateObject fun _ h => h.1)
      fun _ => Triple.write fun _ h => h

theorem openNativeHandle_meter (answers : OpenAnswers) (deviceName : String)
    (config : CaptureConfig) : KeepsMeter (openNativeHandle answers deviceName config) := by
  intro m
  refine Triple.reject (fun _ _ h => h) fun _ => ?_
  refine Triple.reject (fun _ _ h => h) fun _ => ?_
  refine Triple.reject (fun _ _ h => h) fun _ => ?_
  cases answers.openLive with
  | none => exact Keeps.throw
  | some handle =>
    refine Triple.bind_with (fun _ t => t.1.meter = m) (Triple.write fun _ h => h) fun _ => ?_
    refine Triple.bind_with (fun _ t => t.1.meter = m) (Triple.write fun _ h => h) fun _ => ?_
    refine Triple.ite (fun _ => ?_) fun _ => Keeps.pure
    refine Triple.bind_with (fun _ t => t.1.meter = m) (Triple.write fun _ h => h) fun _ => ?_
    exact Triple.bind (Triple.throw fun _ h => h) fun _ => Triple.unreachable

theorem start_meter (answers : OpenAnswers) (deviceName : String) :
    KeepsMeter (start answers deviceName) := by
  intro m
  refine Triple.readObject_bind fun s => Triple.reject (fun _ _ h => h.1) fun _ => ?_
  have hfail {e : CaptureError} {f : PUnit → SessionOp Unit} :
      Triple (fun t => t.1.meter = m ∧ t.1 = s)
        (update (fun s => { s with state := .failed }) >>= fun _ => throw e >>= f)
        (fun _ t => t.1.meter = m) (fun _ t => t.1.meter = m) := by
    refine Triple.bind_with (fun _ t => t.1.meter = m) (Triple.updateObject fun _ h => h.1)
      fun _ => ?_
    exact Triple.bind (Triple.throw fun _ h => h) fun _ => Triple.unreachable
  refine Triple.ite (fun _ => hfail) fun _ => Triple.ite (fun _ => hfail) fun _ => ?_
  refine Triple.bind_with (fun _ t => t.1.meter = m) (Triple.updateObject fun _ h => h.1)
    fun _ => ?_
  refine Triple.bind (Keeps.attempt (openNativeHandle_meter answers deviceName s.config m))
    fun r => ?_
  cases r with
  | ok handle => exact Triple.updateObject fun _ h => h
  | error e =>
    refine Triple.bind_with (fun _ t => t.1.meter = m) (Triple.updateObject fun _ h => h)
      fun _ => Triple.throw fun _ h => h

theorem stop_meter : KeepsMeter stop := by
  intro m
  refine Triple.readObject_bind fun s => Triple.reject (fun _ _ h => h.1) fun _ => ?_
  refine Triple.bind ((closeNativeHandle_meter m).pre_mono fun _ h => h.1) fun _ => ?_
  exact Triple.updateObject fun _ h => h

theorem meter_count (packet : CapturedPacket) (s : CaptureSession) :
    (s.count packet).meter = ⟨s.config, saturatingAdd64 s.packetsReceived 1,
      saturatingAdd64 s.bytesReceived (UInt64.ofNat packet.len)⟩ := rfl

/-- A receive counts the packet that it returns, and nothing else. -/
inductive Received (s : CaptureSession) (answer : NextEx) :
    Except CaptureError (Option CapturedPacket) → CaptureSession → Prop where
  | packet {packet : CapturedPacket} (h : Delivered s.config answer packet) :
      Received s answer (.ok (some packet)) (s.count packet)
  | other {r : Except CaptureError (Option CapturedPacket)} {s' : CaptureSession}
      (hr : ∀ packet, r ≠ .ok (some packet)) (hmeter : s'.meter = s.meter) : Received s answer r s'

theorem receivePacket_received (s : CaptureSession) (calls : List (Event Nat)) (answer : NextEx) :
    Received s answer (exec (receivePacket answer) (s, calls)).1
      (exec (receivePacket answer) (s, calls)).2.1 := by
  have hread : exec session (s, calls) = (.ok s, (s, calls)) := rfl
  by_cases hrunning : s.state = .running
  · cases hhandle : s.handle with
    | none =>
      have hrun : s.isRunning = true := decide_eq_true hrunning
      unfold receivePacket
      rw [exec_bind_ok hread, hrun, hhandle]
      exact .other nofun rfl
    | some handle =>
      rw [exec_receivePacket hrunning hhandle]
      cases hdeliver : deliver s.config answer with
      | packet packet => exact .packet (delivered_of_deliver hdeliver)
      | invalid | timeout | failed => exact .other nofun rfl
  · have hrun : s.isRunning = false := decide_eq_false hrunning
    unfold receivePacket
    rw [exec_bind_ok hread, hrun]
    exact .other nofun rfl

end CaptureSession

namespace NpcapBackend

/-! ## 2. What the backend hands out -/

/-- The sessions' meters, and the next id. -/
def Shows (meters : List Meter) (next : UInt64) (t : Logged NpcapBackend (Event Nat)) : Prop :=
  t.1.captures.map (·.meter) = meters ∧ t.1.nextObservationId = next

variable {meters : List Meter} {next : UInt64} {t : Logged NpcapBackend (Event Nat)} {α : Type}

/-- A session that is put back with its meter as it was. -/
theorem map_meter_set {captures : List CaptureSession} {captureId : Nat}
    {capture capture' : CaptureSession} (hcapture : captures[captureId]? = some capture)
    (hmeter : capture'.meter = capture.meter) :
    (captures.set captureId capture').map (·.meter) = captures.map (·.meter) := by
  obtain ⟨hlt, rfl⟩ := List.getElem?_eq_some_iff.mp hcapture
  rw [List.map_set, hmeter]
  apply List.ext_getElem (by simp)
  intro i hi hi'
  rw [List.getElem_set]
  split
  · rename_i h
    subst h
    rw [List.getElem_map]
  · rfl

theorem onCapture_shows {captureId : Nat} {x : SessionOp α} (hx : CaptureSession.KeepsMeter x) :
    Keeps (Shows meters next) (onCapture captureId x) := by
  refine Keeps.of_run fun t h => ?_
  cases hcapture : t.1.captures[captureId]? with
  | none =>
    rw [World.exec_onCapture_none hcapture]
    exact h
  | some capture =>
    rw [World.exec_onCapture hcapture]
    exact ⟨(map_meter_set hcapture ((hx capture.meter).run rfl)).trans h.1, h.2⟩

theorem stopAll_meter (captures : List CaptureSession) (calls : List (Event Nat)) :
    (stopAll captures calls).1.map (·.meter) = captures.map (·.meter) := by
  induction captures generalizing calls with
  | nil => rfl
  | cons capture rest ih =>
    have hstop : (if capture.isRunning then (exec CaptureSession.stop (capture, calls)).2
        else (capture, calls)).1.meter = capture.meter := by
      split
      · exact (CaptureSession.stop_meter capture.meter).run (s := (capture, calls)) rfl
      · rfl
    rw [stopAll, List.map_cons, List.map_cons, hstop, ih]

theorem start_shows : Keeps (Shows meters next) NpcapBackend.start := by
  refine Triple.readObject_bind fun _ => Triple.reject (fun _ _ h => h.1) fun _ => ?_
  refine Triple.bind_with (fun _ => Shows meters next) (Triple.updateObject fun _ h => h.1)
    fun _ => Triple.updateObject fun _ h => h

theorem stop_shows : Keeps (Shows meters next) NpcapBackend.stop := by
  refine Triple.readObject_bind fun _ => Triple.reject (fun _ _ h => h.1) fun _ => ?_
  refine Triple.bind_with (fun _ => Shows meters next) (Triple.updateObject fun _ h => h.1)
    fun _ => ?_
  refine Triple.bind_with (fun _ => Shows meters next) (Triple.modifyState fun t h => ?_)
    fun _ => Triple.updateObject fun _ h => h
  exact ⟨(stopAll_meter t.1.captures t.2).trans h.1, h.2⟩

theorem startCapture_shows (captureId : Nat) (answers : OpenAnswers) :
    Keeps (Shows meters next) (startCapture captureId answers) := by
  refine Triple.readObject_bind fun b => Triple.reject (fun _ _ h => h.1) fun _ => ?_
  dsimp only
  cases b.captures[captureId]? with
  | none => exact Triple.throw fun _ h => h.1
  | some capture =>
    dsimp only
    cases b.adapters.get capture.config.interfaceIndex with
    | error e => exact Triple.throw fun _ h => h.1
    | ok adapter =>
      exact (onCapture_shows (CaptureSession.start_meter answers adapter.name)).pre_mono
        fun _ h => h.1

/-- A session of a configuration that passes its own check, if any. -/
theorem createCapture_shows (config : CaptureConfig) (h : Shows meters next t) :
    Shows meters next (exec (createCapture config) t).2 ∨
      config.validate = true ∧
        Shows (meters ++ [⟨config, 0, 0⟩]) next (exec (createCapture config) t).2 := by
  have hread : exec backend t = (.ok t.1, t) := rfl
  unfold createCapture
  rw [exec_bind_ok hread]
  by_cases hrunning : t.1.isRunning = true
  · rw [hrunning]
    unfold CaptureSession.new
    by_cases hvalid : config.validate = true
    · rw [if_pos hvalid]
      refine .inr ⟨hvalid, ?_, h.2⟩
      show (t.1.captures ++ [_]).map CaptureSession.meter = _
      rw [List.map_append, h.1]
      rfl
    · rw [if_neg hvalid]
      exact .inl h
  · rw [Bool.not_eq_true] at hrunning
    rw [hrunning]
    exact .inl h

/-- What a receive returns, and what it leaves. -/
inductive Receipt (captureId : Nat) (answer : NextEx) (t : Logged NpcapBackend (Event Nat)) :
    Except NpcapError (Option CapturedPacket) → Logged NpcapBackend (Event Nat) → Prop where
  | packet {capture : CaptureSession} {packet : CapturedPacket} {calls : List (Event Nat)}
      (hcapture : t.1.captures[captureId]? = some capture)
      (h : CaptureSession.Delivered capture.config answer packet) :
      Receipt captureId answer t (.ok (some packet))
        ({ t.1 with captures := t.1.captures.set captureId (capture.count packet) }, calls)
  | other {r : Except NpcapError (Option CapturedPacket)} {t' : Logged NpcapBackend (Event Nat)}
      (hr : ∀ packet, r ≠ .ok (some packet))
      (hsame : Shows (t.1.captures.map (·.meter)) t.1.nextObservationId t') :
      Receipt captureId answer t r t'

theorem receivePacket_receipt (captureId : Nat) (answer : NextEx)
    (t : Logged NpcapBackend (Event Nat)) :
    Receipt captureId answer t (exec (NpcapBackend.receivePacket captureId answer) t).1
      (exec (NpcapBackend.receivePacket captureId answer) t).2 := by
  have hread : exec backend t = (.ok t.1, t) := rfl
  unfold NpcapBackend.receivePacket
  rw [exec_bind_ok hread]
  by_cases hstate : !t.1.isRunning ∧ t.1.state ≠ .degraded
  · rw [if_pos hstate]
    exact .other nofun ⟨rfl, rfl⟩
  · rw [if_neg hstate]
    cases hcapture : t.1.captures[captureId]? with
    | none =>
      rw [World.exec_onCapture_none hcapture]
      exact .other nofun ⟨rfl, rfl⟩
    | some capture =>
      rw [World.exec_onCapture hcapture]
      have hreceived := CaptureSession.receivePacket_received capture t.2 answer
      generalize exec (CaptureSession.receivePacket answer) (capture, t.2) = run at hreceived ⊢
      obtain ⟨r, capture', calls⟩ := run
      cases hreceived with
      | packet h => exact .packet hcapture h
      | other hr hmeter =>
        refine .other (fun packet hok => ?_) ⟨map_meter_set hcapture hmeter, rfl⟩
        cases r with
        | error e => nomatch hok
        | ok packet' => exact hr packet (congrArg Except.ok (Except.ok.inj hok))

/-- An observation is made of every packet that is received, and of nothing else. -/
inductive Observed (captureId : Nat) (answer : NextEx) (t : Logged NpcapBackend (Event Nat)) :
    Except NpcapError (PacketObservation × NetworkCore.OwnershipTracker) →
      Logged NpcapBackend (Event Nat) → Prop where
  | packet {packet : CapturedPacket} {t' : Logged NpcapBackend (Event Nat)}
      {observation : PacketObservation}
      (h : exec (NpcapBackend.receivePacket captureId answer) t = (.ok (some packet), t'))
      (hid : observation.observationId = t.1.nextObservationId)
      (hpacket : observation.packet.rawBytes = packet.data) :
      Observed captureId answer t (.ok (observation,
          ⟨.engineOwned, [.allocated, .backendOwned, .engineOwned]⟩))
        ({ t'.1 with nextObservationId := t.1.nextObservationId + 1 }, t'.2)
  | none {e : NpcapError} {t' : Logged NpcapBackend (Event Nat)}
      (h : ∀ packet, (exec (NpcapBackend.receivePacket captureId answer) t).1 ≠ .ok (some packet))
      (ht : t' = (exec (NpcapBackend.receivePacket captureId answer) t).2) :
      Observed captureId answer t (.error e) t'

theorem receiveObservation_observed (captureId : Nat) (answer : NextEx)
    (captured ingested : Timestamp) (t : Logged NpcapBackend (Event Nat)) :
    Observed captureId answer t (exec (receiveObservation captureId answer captured ingested) t).1
      (exec (receiveObservation captureId answer captured ingested) t).2 := by
  have hreceipt := receivePacket_receipt captureId answer t
  rcases hexec : exec (NpcapBackend.receivePacket captureId answer) t with ⟨r, t'⟩
  rw [hexec] at hreceipt
  unfold receiveObservation
  cases hreceipt with
  | @packet capture packet calls hcapture h =>
    rw [exec_bind_ok hexec]
    have hempty : packet.isEmpty = false := by
      have hpos : 0 < packet.data.toList.length := h.nonempty
      rw [CapturedPacket.isEmpty, Bytes.isEmpty, List.isEmpty_eq_false_iff]
      exact List.length_pos_iff.mp hpos
    dsimp only
    have hread (t' : Logged NpcapBackend (Event Nat)) : exec backend t' = (.ok t'.1, t') := rfl
    rw [exec_bind_ok (hread _), hempty]
    exact .packet hexec rfl rfl
  | other hr hsame =>
    cases r with
    | error e =>
      rw [exec_bind_error hexec]
      refine .none (fun packet => ?_) ?_
      · rw [hexec]
        exact hr packet
      · rw [hexec]
    | ok packet =>
      cases packet with
      | some packet => exact absurd rfl (hr packet)
      | none =>
        rw [exec_bind_ok hexec]
        refine .none (fun packet => ?_) ?_
        · rw [hexec]
          intro h
          cases h
        · rw [hexec]
          rfl

namespace World

/-! ## 3. Runs -/

/-- The packets that came in on a session. -/
def packetsOn (w : World) (captureId : Nat) : List CapturedPacket :=
  (w.received.filter (·.1 = captureId)).map Prod.snd

/-- The counters of a session are right, until they stay at their maximum. -/
structure Counted (meter : Meter) (received : List CapturedPacket) : Prop where
  packets : meter.packets.toNat = min received.length (2 ^ 64 - 1)
  bytes : meter.bytes.toNat = min (received.map (·.len)).sum (2 ^ 64 - 1)

/-- The packet is one that a session of this configuration may deliver. -/
structure InBounds (config : CaptureConfig) (packet : CapturedPacket) : Prop where
  nonempty : 0 < packet.len
  snaplen : packet.len ≤ config.snaplen
  original : packet.len ≤ packet.originalLength
  interface : packet.interfaceIndex = config.interfaceIndex

/-- What the backend owes to its callers. -/
structure Receipts (w : World) : Prop where
  counted : ∀ captureId capture, w.native.1.captures[captureId]? = some capture →
    Counted capture.meter (w.packetsOn captureId)
  bounds : ∀ r ∈ w.received, ∃ capture, w.native.1.captures[r.1]? = some capture ∧
    InBounds capture.config r.2
  /-- A session has a configuration that passes its check. -/
  valid : ∀ capture ∈ w.native.1.captures, capture.config.validate = true
  /-- The ids count the observations, and start again with the sessions. -/
  ids : w.observed.map (·.1.observationId) =
    (List.range w.observed.length).map fun i => UInt64.ofNat (i + 1)
  /-- An observation is of a packet that was received, and still the engine's. -/
  observed : ∀ o ∈ w.observed, o.2 = ⟨.engineOwned, [.allocated, .backendOwned, .engineOwned]⟩ ∧
    ∃ r ∈ w.received, o.1.packet.rawBytes = r.2.data
  /-- Whatever comes next: a packet that is received is what the library delivered. -/
  delivers : ∀ captureId answer packet,
    (exec (NpcapBackend.receivePacket captureId answer) w.native).1 = .ok (some packet) →
      ∃ capture, w.native.1.captures[captureId]? = some capture ∧
        CaptureSession.Delivered capture.config answer packet
  /-- And an observation fails only when there is no packet. -/
  observes : ∀ captureId answer captured ingested,
    (exec (receiveObservation captureId answer captured ingested) w.native).1.isOk = true ↔
      ∃ packet, (exec (NpcapBackend.receivePacket captureId answer) w.native).1 = .ok (some packet)

/-- What a run keeps, about the meters of the sessions. -/
structure Books (meters : List Meter) (next : UInt64) (w : World) : Prop where
  counted : ∀ captureId meter, meters[captureId]? = some meter →
    Counted meter (w.packetsOn captureId)
  bounds : ∀ r ∈ w.received, ∃ meter, meters[r.1]? = some meter ∧ InBounds meter.config r.2
  valid : ∀ meter ∈ meters, meter.config.validate = true
  next : next = UInt64.ofNat (w.observed.length + 1)
  ids : w.observed.map (·.1.observationId) =
    (List.range w.observed.length).map fun i => UInt64.ofNat (i + 1)
  observed : ∀ o ∈ w.observed, o.2 = ⟨.engineOwned, [.allocated, .backendOwned, .engineOwned]⟩ ∧
    ∃ r ∈ w.received, o.1.packet.rawBytes = r.2.data

/-- The books, for the sessions as they are. -/
def InOrder (w : World) : Prop :=
  Books (w.native.1.captures.map (·.meter)) w.native.1.nextObservationId w

/-- The books of a backend without sessions, which has handed out nothing. -/
theorem Books.nil (native : Logged NpcapBackend (Event Nat)) : Books [] 1 ⟨native, [], []⟩ where
  counted _ _ h := nomatch h
  bounds _ h := absurd h List.not_mem_nil
  valid _ h := absurd h List.not_mem_nil
  next := rfl
  ids := rfl
  observed _ h := absurd h List.not_mem_nil

variable {w w' : World}

theorem InOrder.of_shows (h : InOrder w)
    (hshows : Shows (w.native.1.captures.map (·.meter)) w.native.1.nextObservationId w'.native)
    (hreceived : w'.received = w.received) (hobserved : w'.observed = w.observed) :
    InOrder w' := by
  unfold InOrder
  rw [hshows.1, hshows.2]
  obtain ⟨native, received, observed⟩ := w'
  obtain rfl : received = w.received := hreceived
  obtain rfl : observed = w.observed := hobserved
  exact ⟨h.counted, h.bounds, h.valid, h.next, h.ids, h.observed⟩

/-- An operation that delivers nothing. -/
theorem InOrder.onBackend {x : BackendOp α}
    (hx : ∀ meters next, Keeps (Shows meters next) x) (h : InOrder w) :
    InOrder (w.onBackend x) :=
  h.of_shows ((hx _ _).run ⟨rfl, rfl⟩) rfl rfl

theorem saturatingAdd64_min {a b : UInt64} {n : Nat} (ha : a.toNat = min n (2 ^ 64 - 1)) :
    (saturatingAdd64 a b).toNat = min (n + b.toNat) (2 ^ 64 - 1) := by
  rw [toNat_saturatingAdd64, ha]
  omega

theorem Counted.count {capture : CaptureSession} {received : List CapturedPacket}
    (h : Counted capture.meter received) (packet : CapturedPacket) :
    Counted (capture.count packet).meter (received ++ [packet]) := by
  have hlen : packet.len < 2 ^ 64 := by
    have hle := packet.data.len_le
    have hmax : isizeMax < 2 ^ 64 := by decide
    exact Nat.lt_of_le_of_lt hle hmax
  constructor
  · rw [List.length_append]
    exact saturatingAdd64_min h.packets
  · have hbytes := saturatingAdd64_min (b := UInt64.ofNat packet.len) h.bytes
    rw [UInt64.toNat_ofNat_of_lt' hlen] at hbytes
    rw [List.map_append, List.sum_append, List.map_singleton, List.sum_singleton]
    exact hbytes

theorem packetsOn_append (w : World) (captureId captureId' : Nat) (packet : CapturedPacket)
    (hreceived : w'.received = w.received ++ [(captureId, packet)]) :
    w'.packetsOn captureId' =
      if captureId = captureId' then w.packetsOn captureId' ++ [packet]
      else w.packetsOn captureId' := by
  unfold packetsOn
  rw [hreceived, List.filter_append, List.map_append]
  by_cases h : captureId = captureId'
  · simp [h]
  · simp [h]

/-- A delivery that is counted. -/
theorem InOrder.packet {captureId : Nat} {capture : CaptureSession} {packet : CapturedPacket}
    {answer : NextEx} (h : InOrder w) (hcapture : w.native.1.captures[captureId]? = some capture)
    (hdelivered : CaptureSession.Delivered capture.config answer packet)
    (hcaptures : w'.native.1.captures = w.native.1.captures.set captureId (capture.count packet))
    (hreceived : w'.received = w.received ++ [(captureId, packet)])
    (hnext : w'.native.1.nextObservationId = UInt64.ofNat (w'.observed.length + 1))
    (hids : w'.observed.map (·.1.observationId) =
      (List.range w'.observed.length).map fun i => UInt64.ofNat (i + 1))
    (hobserved : ∀ o ∈ w'.observed, o ∈ w.observed ∨
      o.2 = ⟨.engineOwned, [.allocated, .backendOwned, .engineOwned]⟩ ∧
        o.1.packet.rawBytes = packet.data) : InOrder w' := by
  obtain ⟨hlt, hget⟩ := List.getElem?_eq_some_iff.mp hcapture
  have hmeters : w'.native.1.captures.map (·.meter) =
      (w.native.1.captures.map (·.meter)).set captureId (capture.count packet).meter := by
    rw [hcaptures, List.map_set]
  have hmeter : (w.native.1.captures.map (·.meter))[captureId]? = some capture.meter := by
    rw [List.getElem?_map, hcapture]
    rfl
  have hlength : captureId < (w.native.1.captures.map (·.meter)).length := by
    rw [List.length_map]
    exact hlt
  unfold InOrder
  rw [hmeters]
  refine ⟨?_, ?_, ?_, hnext, hids, ?_⟩
  · intro captureId' meter hmeter'
    rw [packetsOn_append w captureId captureId' packet hreceived]
    by_cases hid : captureId = captureId'
    · subst hid
      rw [if_pos rfl]
      rw [List.getElem?_set_self hlength] at hmeter'
      obtain rfl := Option.some.inj hmeter'
      exact (h.counted captureId _ hmeter).count packet
    · rw [if_neg hid]
      rw [List.getElem?_set_ne hid] at hmeter'
      exact h.counted captureId' meter hmeter'
  · -- The configuration of a session stays what it was.
    have hkept {i : Nat} {meter : Meter}
        (hi : (w.native.1.captures.map (·.meter))[i]? = some meter) :
        ∃ meter', ((w.native.1.captures.map (·.meter)).set captureId
          (capture.count packet).meter)[i]? = some meter' ∧ meter'.config = meter.config := by
      by_cases hid : captureId = i
      · subst hid
        rw [hmeter] at hi
        obtain rfl := Option.some.inj hi
        exact ⟨_, List.getElem?_set_self hlength, rfl⟩
      · exact ⟨meter, (List.getElem?_set_ne hid).trans hi, rfl⟩
    intro r hr
    rw [hreceived] at hr
    rcases List.mem_append.mp hr with hold | hnew
    · obtain ⟨meter, hi, hbounds⟩ := h.bounds r hold
      obtain ⟨meter', hi', hconfig⟩ := hkept hi
      exact ⟨meter', hi', hconfig ▸ hbounds⟩
    · obtain rfl := List.mem_singleton.mp hnew
      obtain ⟨meter', hi', hconfig⟩ := hkept hmeter
      refine ⟨meter', hi', hconfig ▸ ?_⟩
      exact ⟨hdelivered.nonempty, hdelivered.snaplen, hdelivered.original, hdelivered.interface⟩
  · intro meter hmem
    rcases List.mem_or_eq_of_mem_set hmem with hold | rfl
    · exact h.valid meter hold
    · exact h.valid capture.meter (List.mem_of_getElem? hmeter)
  · intro o ho
    rw [hreceived]
    rcases hobserved o ho with hold | ⟨howner, hpacket⟩
    · obtain ⟨howner, r, hr, hpacket⟩ := h.observed o hold
      exact ⟨howner, r, List.mem_append_left _ hr, hpacket⟩
    · exact ⟨howner, (captureId, packet), List.mem_append_right _ (List.mem_singleton_self _), hpacket⟩

/-- A session that has just been created, on which nothing has come in. -/
theorem InOrder.created {config : CaptureConfig} (h : InOrder w) (hvalid : config.validate = true)
    (hshows : Shows (w.native.1.captures.map (·.meter) ++ [⟨config, 0, 0⟩])
      w.native.1.nextObservationId w'.native)
    (hreceived : w'.received = w.received) (hobserved : w'.observed = w.observed) :
    InOrder w' := by
  unfold InOrder
  rw [hshows.1, hshows.2]
  obtain ⟨native, received, observed⟩ := w'
  obtain rfl : received = w.received := hreceived
  obtain rfl : observed = w.observed := hobserved
  refine ⟨?_, ?_, ?_, h.next, h.ids, h.observed⟩
  · intro captureId meter hmeter
    rcases Nat.lt_or_ge captureId (w.native.1.captures.map (·.meter)).length with hlt | hge
    · rw [List.getElem?_append_left hlt] at hmeter
      exact h.counted captureId meter hmeter
    · have hnone : w.packetsOn captureId = [] := by
        rw [packetsOn, List.map_eq_nil_iff, List.filter_eq_nil_iff]
        intro r hr
        obtain ⟨meter', hr', -⟩ := h.bounds r hr
        obtain ⟨hlt, -⟩ := List.getElem?_eq_some_iff.mp hr'
        simp only [decide_eq_true_eq]
        omega
      rw [List.getElem?_append_right hge] at hmeter
      obtain rfl := List.mem_singleton.mp (List.mem_of_getElem? hmeter)
      show Counted _ (w.packetsOn captureId)
      rw [hnone]
      exact ⟨rfl, rfl⟩
  · intro r hr
    obtain ⟨meter, hmeter, hbounds⟩ := h.bounds r hr
    obtain ⟨hlt, -⟩ := List.getElem?_eq_some_iff.mp hmeter
    exact ⟨meter, (List.getElem?_append_left hlt).trans hmeter, hbounds⟩
  · intro meter hmem
    rcases List.mem_append.mp hmem with hold | hnew
    · exact h.valid meter hold
    · obtain rfl := List.mem_singleton.mp hnew
      exact hvalid

theorem InOrder.step (h : InOrder w) (turn : Turn) : InOrder (w.step turn) := by
  cases turn with
  | start => exact h.onBackend fun _ _ => start_shows
  | stop => exact h.onBackend fun _ _ => stop_shows
  | degrade =>
    refine h.onBackend fun _ _ => Triple.updateObject fun t h => ?_
    show Shows _ _ (if t.1.isRunning then _ else _, _)
    split <;> exact h
  | fail => exact h.onBackend fun _ _ => Triple.updateObject fun _ h => h
  | adaptersMut f => exact h.onBackend fun _ _ => Triple.updateObject fun _ h => h
  | createCapture config =>
    rcases createCapture_shows config ⟨rfl, rfl⟩ with hsame | ⟨hvalid, hnew⟩
    · exact h.of_shows hsame rfl rfl
    · exact h.created hvalid hnew rfl rfl
  | startCapture captureId answers =>
    exact h.onBackend fun _ _ => startCapture_shows captureId answers
  | stopCapture captureId => exact h.onBackend fun _ _ => onCapture_shows CaptureSession.stop_meter
  | receivePacket captureId answer =>
    have hreceipt := receivePacket_receipt captureId answer w.native
    rcases hexec : exec (NpcapBackend.receivePacket captureId answer) w.native with ⟨r, t'⟩
    have hw : w.step (.receivePacket captureId answer) =
        ⟨t', w.received ++ w.receipt captureId answer, w.observed⟩ := by
      rw [World.step, World.onBackend, hexec]
    rw [hw, receipt, hexec]
    rw [hexec] at hreceipt
    cases hreceipt with
    | packet hcapture hdelivered =>
      exact h.packet hcapture hdelivered rfl rfl h.next h.ids fun o ho => .inl ho
    | other hr hsame =>
      refine h.of_shows hsame ?_ rfl
      match r, hr with
      | .error _, _ => exact List.append_nil _
      | .ok none, _ => exact List.append_nil _
      | .ok (some packet), hr => exact absurd rfl (hr packet)
  | receiveObservation captureId answer captured ingested =>
    have hobserved := receiveObservation_observed captureId answer captured ingested w.native
    have hreceipt := receivePacket_receipt captureId answer w.native
    rcases hexec : exec (receiveObservation captureId answer captured ingested) w.native with ⟨r, t'⟩
    have hw : w.step (.receiveObservation captureId answer captured ingested) =
        ⟨t', w.received ++ w.receipt captureId answer, w.observed ++ r.toOption.toList⟩ := by
      rw [World.step, hexec]
    rw [hw, receipt]
    rw [hexec] at hobserved
    cases hobserved with
    | @packet packet t' observation hpacket hid hdata =>
      rw [hpacket] at hreceipt ⊢
      cases hreceipt with
      | packet hcapture hdelivered =>
        refine h.packet hcapture hdelivered rfl rfl ?_ ?_ ?_
        · show w.native.1.nextObservationId + 1 = UInt64.ofNat ((w.observed ++ [_]).length + 1)
          rw [List.length_append, h.next]
          exact (UInt64.ofNat_add _ 1).symm
        · show (w.observed ++ [_]).map _ = (List.range (w.observed ++ [_]).length).map _
          rw [List.length_append, List.length_singleton, List.range_succ, List.map_append,
            List.map_append, h.ids]
          exact congrArg (_ ++ [·]) (hid.trans h.next)
        · intro o ho
          rcases List.mem_append.mp ho with hold | hnew
          · exact .inl hold
          · obtain rfl := List.mem_singleton.mp hnew
            exact .inr ⟨rfl, hdata⟩
      | other hr _ => exact absurd rfl (hr packet)
    | none hnone ht =>
      subst ht
      generalize exec (NpcapBackend.receivePacket captureId answer) w.native = run at hreceipt hnone
      obtain ⟨r, t'⟩ := run
      cases hreceipt with
      | packet _ _ => exact absurd rfl (hnone _)
      | other hr hsame =>
        refine h.of_shows hsame ?_ (List.append_nil _)
        match r, hr with
        | .error _, _ => exact List.append_nil _
        | .ok none, _ => exact List.append_nil _
        | .ok (some packet), hr => exact absurd rfl (hr packet)
  | clearRuntimeState => exact Books.nil _

/-- In every run each packet that a session delivers is counted by it once, within the bounds that
the session was created with, and each observation is of one such packet, still the engine's, with
the next id.  What is delivered are the bytes of the library, and none is lost on the way to an
observation. -/
theorem npcap_receipts (turns : List Turn) : Receipts (run step start turns) := by
  have hstep (w : World) (turn : Turn) (h : InOrder w) : InOrder (w.step turn) := h.step turn
  have hstart : InOrder start := Books.nil _
  have h : InOrder (run step start turns) := run_inv hstep hstart turns
  generalize run step start turns = w at h
  refine ⟨?_, ?_, ?_, h.ids, h.observed, ?_, ?_⟩
  · intro captureId capture hcapture
    refine h.counted captureId capture.meter ?_
    rw [List.getElem?_map, hcapture]
    rfl
  · intro r hr
    obtain ⟨meter, hmeter, hbounds⟩ := h.bounds r hr
    rw [List.getElem?_map] at hmeter
    obtain ⟨capture, hcapture, rfl⟩ := Option.map_eq_some_iff.mp hmeter
    exact ⟨capture, hcapture, hbounds⟩
  · exact fun capture hcapture => h.valid capture.meter (List.mem_map_of_mem hcapture)
  · intro captureId answer packet hok
    have hreceipt := receivePacket_receipt captureId answer w.native
    rw [hok] at hreceipt
    generalize (exec (NpcapBackend.receivePacket captureId answer) w.native).2 = t' at hreceipt
    cases hreceipt with
    | packet hcapture hdelivered => exact ⟨_, hcapture, hdelivered⟩
    | other hr _ => exact absurd rfl (hr packet)
  · intro captureId answer captured ingested
    have hobserved := receiveObservation_observed captureId answer captured ingested w.native
    generalize exec (receiveObservation captureId answer captured ingested) w.native = run at hobserved
    obtain ⟨r, t'⟩ := run
    cases hobserved with
    | @packet packet _ _ hpacket _ _ => exact iff_of_true rfl ⟨packet, by rw [hpacket]⟩
    | none hnone _ => exact iff_of_false Bool.false_ne_true fun ⟨packet, hok⟩ => hnone packet hok

end World

end NpcapBackend

end NetworkEngine.Npcap
