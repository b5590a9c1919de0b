import NetworkEngine.Ffi.Handles

/-!
# Custody — handles and the records behind them

A handle stands for one record of the bus in `Host`.  Two structures behind two locks say so, the
handle table and the ownership map, and each call updates them in several steps with failures in
between.  The triples below say what a call leaves in both.
-/

namespace NetworkEngine

open Rust

abbrev HandleTable := Table UInt64 PacketObservation

/-! ## 1. The table and the bus -/

/-- The handles are the records in `Host`, one for one. -/
structure Owned (handles : HandleTable) (bus : PacketBus) : Prop where
  nonzero : handles.lookup 0 = none
  host : ∀ h o, handles.lookup h = some o → bus.ownerOf o.observationId = some .host
  unique : ∀ h h' o o', handles.lookup h = some o → handles.lookup h' = some o' →
    o.observationId = o'.observationId → h = h'
  complete : ∀ id, bus.ownerOf id = some .host →
    ∃ h o, handles.lookup h = some o ∧ o.observationId = id

/-- From `bus` to `bus'` no record enters or leaves `Host`, and none is made. -/
structure Quiet (bus bus' : PacketBus) : Prop where
  host : ∀ id, bus'.ownerOf id = some .host ↔ bus.ownerOf id = some .host
  fresh : ∀ id, bus.ownerOf id = none → bus'.ownerOf id = none

variable {handles : HandleTable} {bus bus' : PacketBus} {o : PacketObservation} {h : UInt64}

theorem Quiet.refl (bus : PacketBus) : Quiet bus bus := ⟨fun _ => Iff.rfl, fun _ hid => hid⟩

theorem Quiet.trans {bus'' : PacketBus} (h : Quiet bus bus') (h' : Quiet bus' bus'') :
    Quiet bus bus'' :=
  ⟨fun id => (h'.host id).trans (h.host id), fun id hid => h'.fresh id (h.fresh id hid)⟩

theorem Quiet.setItems (items : List PacketObservation) : Quiet bus (bus.setItems items) :=
  ⟨fun _ => Iff.rfl, fun _ hid => hid⟩

/-- A move of a record between owners other than `Host`. -/
theorem Quiet.setOwner {id : ObservationId} {owner target : Owner}
    (howner : bus.ownerOf id = some owner) (hhost : owner ≠ .host) (htarget : target ≠ .host) :
    Quiet bus (bus.setOwner id target) := by
  constructor
  · intro id'
    rw [PacketBus.ownerOf_setOwner]
    split
    · rename_i heq
      subst heq
      rw [howner]
      exact iff_of_false (fun h => htarget (Option.some.inj h)) (fun h => hhost (Option.some.inj h))
    · exact Iff.rfl
  · intro id' hid
    rw [PacketBus.ownerOf_setOwner]
    split
    · rename_i heq
      subst heq
      rw [howner] at hid
      nomatch hid
    · exact hid

/-- A record outside `Host` goes. -/
theorem Quiet.dropRecord {id : ObservationId} (hhost : bus.ownerOf id ≠ some .host) :
    Quiet bus (bus.dropRecord id) := by
  constructor
  · intro id'
    rw [PacketBus.ownerOf_dropRecord]
    split
    · rename_i heq
      subst heq
      exact iff_of_false (fun h => by cases h) hhost
    · exact Iff.rfl
  · intro id' hid
    rw [PacketBus.ownerOf_dropRecord, hid]
    exact ite_self none

namespace Owned

theorem empty (capacity : Nat) : Owned ∅ (.new capacity) := by
  constructor
  · exact Finmap.lookup_empty 0
  · intro h o hlookup
    rw [Finmap.lookup_empty] at hlookup
    nomatch hlookup
  · intro h h' o o' hlookup
    rw [Finmap.lookup_empty] at hlookup
    nomatch hlookup
  · intro id hid
    simp [PacketBus.new, PacketBus.ownerOf] at hid

theorem quiet (howned : Owned handles bus) (hquiet : Quiet bus bus') : Owned handles bus' where
  nonzero := howned.nonzero
  host h o hlookup := (hquiet.host _).mpr (howned.host h o hlookup)
  unique := howned.unique
  complete id hid := howned.complete id ((hquiet.host id).mp hid)

/-- A record goes from `Processing` to `Host` under a new handle. -/
theorem issue (howned : Owned handles bus) (hzero : h ≠ 0) (hnew : handles.lookup h = none)
    (howner : bus.ownerOf o.observationId = some .processing) :
    Owned (handles.insert h o) (bus.setOwner o.observationId .host) := by
  -- No entry of the table has the id: its record would be in `Host`.
  have hother (h' : UInt64) (o' : PacketObservation) (hlookup : handles.lookup h' = some o') :
      o'.observationId ≠ o.observationId := by
    intro heq
    have hhost := howned.host h' o' hlookup
    rw [heq, howner] at hhost
    nomatch hhost
  constructor
  · rw [Table.lookup_insert, if_neg hzero.symm]
    exact howned.nonzero
  · intro h' o' hlookup
    rw [Table.lookup_insert] at hlookup
    rw [PacketBus.ownerOf_setOwner]
    split at hlookup
    · obtain rfl := Option.some.inj hlookup
      rw [if_pos rfl]
    · rw [if_neg (hother h' o' hlookup)]
      exact howned.host h' o' hlookup
  · intro h₁ h₂ o₁ o₂ hlookup₁ hlookup₂ heq
    rw [Table.lookup_insert] at hlookup₁ hlookup₂
    -- Two old handles, the new one twice, or one of each: the last cannot share an id.
    split at hlookup₁ <;> split at hlookup₂
    · rename_i h₁ h₂
      rw [h₁, h₂]
    · obtain rfl := Option.some.inj hlookup₁
      exact absurd heq.symm (hother _ _ hlookup₂)
    · obtain rfl := Option.some.inj hlookup₂
      exact absurd heq (hother _ _ hlookup₁)
    · exact howned.unique _ _ _ _ hlookup₁ hlookup₂ heq
  · intro id hid
    rw [PacketBus.ownerOf_setOwner] at hid
    split at hid
    · rename_i heq
      exact ⟨h, o, by rw [Table.lookup_insert, if_pos rfl], heq.symm⟩
    · obtain ⟨h', o', hlookup, hid'⟩ := howned.complete id hid
      refine ⟨h', o', ?_, hid'⟩
      rw [Table.lookup_insert, if_neg, hlookup]
      rintro rfl
      rw [hnew] at hlookup
      nomatch hlookup

/-- A handle and its record go together. -/
theorem release (howned : Owned handles bus) (hlookup : handles.lookup h = some o) :
    Owned (handles.erase h) (bus.dropRecord o.observationId) := by
  constructor
  · rw [Table.lookup_erase]
    split
    · rfl
    · exact howned.nonzero
  · intro h' o' hlookup'
    rw [Table.lookup_erase] at hlookup'
    split at hlookup'
    · nomatch hlookup'
    · rename_i hne
      rw [PacketBus.ownerOf_dropRecord, if_neg]
      · exact howned.host h' o' hlookup'
      -- Another handle has another record, so the dropped one is not its own.
      · exact fun heq => hne (howned.unique _ _ _ _ hlookup' hlookup heq)
  · intro h₁ h₂ o₁ o₂ hlookup₁ hlookup₂ heq
    rw [Table.lookup_erase] at hlookup₁ hlookup₂
    split at hlookup₁
    · nomatch hlookup₁
    split at hlookup₂
    · nomatch hlookup₂
    exact howned.unique _ _ _ _ hlookup₁ hlookup₂ heq
  · intro id hid
    rw [PacketBus.ownerOf_dropRecord] at hid
    split at hid
    · nomatch hid
    · rename_i hne
      obtain ⟨h', o', hlookup', hid'⟩ := howned.complete id hid
      refine ⟨h', o', ?_, hid'⟩
      rw [Table.lookup_erase, if_neg, hlookup']
      rintro rfl
      rw [hlookup] at hlookup'
      obtain rfl := Option.some.inj hlookup'
      exact hne hid'.symm

end Owned

/-! ## 2. The bus under the calls -/

namespace PacketBus

theorem tryRead_quiet (bus : PacketBus) :
    Triple (· = bus) tryRead
      (fun r b => Quiet bus b ∧ ∀ o, r = some o → b.ownerOf o.observationId = some .processing)
      (fun _ => Quiet bus) := by
  cases hitems : bus.queue.items with
  | nil => exact Triple.of_exec (tryRead_nil hitems) ⟨Quiet.refl bus, nofun⟩
  | cons o rest =>
    -- The record moves when it is where a queued one should be; else the head is gone.
    by_cases howner : bus.ownerOf o.observationId = some .bus
    · refine Triple.of_exec (tryRead_cons hitems howner) ⟨?_, ?_⟩
      · exact (Quiet.setItems rest).trans (Quiet.setOwner howner (by decide) (by decide))
      · rintro _ ⟨⟩
        rw [ownerOf_setOwner, if_pos rfl]
    · obtain ⟨error, hexec⟩ := tryRead_lost hitems howner
      exact Triple.of_exec hexec (Quiet.setItems rest)

/-- Also a requeue that the queue refuses leaves `Host` alone. -/
theorem requeueProcessing_quiet (o : PacketObservation) (bus : PacketBus) :
    Triple (· = bus) (requeueProcessing o) (fun _ => Quiet bus) (fun _ => Quiet bus) := by
  by_cases howner : bus.ownerOf o.observationId = some .processing
  · by_cases hroom : bus.queue.Accepts
    · refine Triple.of_exec (requeueProcessing_ok howner hroom) ?_
      exact (Quiet.setItems _).trans (Quiet.setOwner howner (by decide) (by decide))
    · obtain ⟨error, hexec⟩ := requeueProcessing_stuck howner hroom
      exact Triple.of_exec hexec (Quiet.setOwner howner (by decide) (by decide))
  · obtain ⟨error, hexec⟩ := requeueProcessing_error howner
    exact Triple.of_exec hexec (Quiet.refl bus)

/-- An accepted observation has the only new record. -/
theorem publish_quiet (o : PacketObservation) (bus : PacketBus) :
    Triple (· = bus) (publishEngineOwned o)
      (fun _ b => bus.ownerOf o.observationId = none ∧
        b = (bus.setItems (bus.queue.items ++ [o])).setOwner o.observationId .bus)
      (fun _ b => b = bus) := by
  by_cases haccepted : bus.ownerOf o.observationId = none ∧ bus.queue.Accepts
  · exact Triple.of_exec (publish_ok haccepted.1 haccepted.2) ⟨haccepted.1, rfl⟩
  · obtain ⟨error, hexec⟩ := publish_error haccepted
    exact Triple.of_exec hexec rfl

end PacketBus

namespace Ffi

/-! ## 3. The calls -/

/-- The table is `handles`, and the bus of the engine satisfies `P`. -/
def Where (handles : HandleTable) (P : PacketBus → Prop) (s : FfiState) : Prop :=
  s.packetHandles = handles ∧ ∃ e, s.engine = some e ∧ P e.packetBus

section Where

variable {α : Type} {P R : PacketBus → Prop} {Q : α → PacketBus → Prop}

theorem Where.mono {s : FfiState} (hs : Where handles P s) (hP : ∀ bus, P bus → R bus) :
    Where handles R s := by
  obtain ⟨hhandles, e, he, hbus⟩ := hs
  exact ⟨hhandles, e, he, hP _ hbus⟩

theorem fail_where {code : NeCode} {message : String} {post : α → FfiState → Prop} :
    Triple (Where handles P) (fail code message : FfiOp α) post (fun _ => Where handles P) :=
  fun _ hs => hs

theorem setLastError_where {message : String} {epost : NeCode → FfiState → Prop} :
    Triple (Where handles P) (setLastError message) (fun _ => Where handles P) epost :=
  fun _ hs => hs

theorem requireEngine_where {epost : NeCode → FfiState → Prop} :
    Triple (Where handles P) requireEngine (fun _ => Where handles P) epost := by
  intro s hs
  obtain ⟨hhandles, e, he, hbus⟩ := hs
  rw [requireEngine, exec_bind_ok (exec_getState s), he]
  exact ⟨hhandles, e, he, hbus⟩

theorem onEngine_where {x : EngineOp α}
    (hx : Triple (fun e => P e.packetBus) x (fun a e => Q a e.packetBus)
      (fun _ e => R e.packetBus)) :
    Triple (Where handles P) (onEngine x) (fun a => Where handles (Q a))
      (fun _ => Where handles R) := by
  rintro s ⟨hhandles, e, he, hbus⟩
  have hrun := hx e hbus
  -- There is an engine before and after: no operation takes it away.
  rw [onEngine_some x he]
  match hx : exec x e with
  | (.ok a, e') | (.error error, e') =>
    rw [hx] at hrun
    exact ⟨hhandles, e', rfl, hrun⟩

theorem callEngine_where {x : EngineOp α}
    (hx : Triple (fun e => P e.packetBus) x (fun a e => Q a e.packetBus)
      (fun _ e => R e.packetBus)) :
    Triple (Where handles P) (callEngine x) (fun a => Where handles (Q a))
      (fun _ => Where handles R) := by
  refine (onEngine_where hx).attempt.bind fun r => ?_
  cases r with
  | ok a => exact Triple.pure fun _ hs => hs
  | error error => exact fail_where

theorem onBus_where {x : BusOp α} (hx : Triple P x Q (fun _ => R)) :
    Triple (fun e => P e.packetBus) (EngineRuntime.onBus x) (fun a e => Q a e.packetBus)
      (fun _ e => R e.packetBus) :=
  hx.zoom fun _ _ => rfl

theorem count_where (f : EngineStatistics → EngineStatistics) {epost : NeCode → FfiState → Prop} :
    Triple (Where handles P) (count f) (fun _ => Where handles P) epost := by
  rintro s ⟨hhandles, e, he, hbus⟩
  have hexec : exec (count f) s =
      (.ok (), { s with engine := some { e with statistics := f e.statistics } }) := by
    rw [count, callEngine, exec_bind_ok (exec_attempt s _), onEngine_some _ he]
    rfl
  rw [hexec]
  exact ⟨hhandles, _, rfl, hbus⟩

end Where

/-! ### Actions -/

/-- The work of an action on an entry in `Host`: all or nothing. -/
def Terminal (work : PacketObservation → FfiOp Unit) : Prop :=
  ∀ handles bus o, bus.ownerOf o.observationId = some .host →
    Triple (Where handles (· = bus)) (work o)
      (fun _ => Where handles (· = bus.dropRecord o.observationId))
      (fun _ => Where handles (· = bus))

theorem releaseHostObservation_where (hhost : bus.ownerOf o.observationId = some .host)
    {epost : NeCode → FfiState → Prop} :
    Triple (Where handles (· = bus)) (releaseHostObservation o)
      (fun _ => Where handles (· = bus.dropRecord o.observationId)) epost := by
  have hrelease : Triple (· = bus) (PacketBus.releaseHost o.observationId)
      (fun _ b => b = bus.dropRecord o.observationId) (fun _ _ => False) :=
    Triple.of_exec (PacketBus.releaseFrom_ok (by decide) hhost) rfl
  refine (callEngine_where (onBus_where hrelease)).error_mono ?_
  -- A record in `Host` can always be released.
  rintro _ _ ⟨-, _, -, hfalse⟩
  exact hfalse.elim

theorem releaseWork_terminal (f : EngineStatistics → EngineStatistics) :
    Terminal (releaseWork f) := by
  intro handles bus o hhost
  refine requireEngine_where.bind fun _ => ?_
  refine (releaseHostObservation_where hhost).bind fun _ => ?_
  exact (count_where f).bind fun _ => setLastError_where

theorem windivertReinject_where (n : ReinjectOutcomes) (data context : Bytes)
    {P : PacketBus → Prop} :
    Triple (Where handles P) (callEngine (EngineRuntime.windivertReinject n data context))
      (fun _ => Where handles P) (fun _ => Where handles P) := by
  refine callEngine_where (Keeps.of_run fun e he => ?_)
  obtain ⟨action, heq⟩ :=
    (EngineRuntime.windivertReinject_keeps n data context e).run ⟨e.windivertAction, rfl⟩
  rw [heq]
  exact he

theorem reinjectWork_terminal (n : ReinjectOutcomes) (data : PacketObservation → Bytes)
    (f : EngineStatistics → EngineStatistics) :
    Terminal fun o => reinjectWork n (data o) f o := by
  intro handles bus o hhost
  dsimp only [reinjectWork]
  split
  · exact fail_where
  · refine requireEngine_where.bind fun _ => ?_
    refine (windivertReinject_where n (data o) _).bind fun _ => ?_
    refine (releaseHostObservation_where hhost).bind fun _ => ?_
    exact (count_where f).bind fun _ => setLastError_where

/-- An action succeeds with the handle and its record gone, or fails with both as they were. -/
theorem terminalAction_triple {work : PacketObservation → FfiOp Unit} (hwork : Terminal work)
    (howned : Owned handles bus) (h : UInt64) :
    Triple (Where handles (· = bus)) (terminalAction work h)
      (fun _ s => ∃ o, handles.lookup h = some o ∧
        Where (handles.erase h) (· = bus.dropRecord o.observationId) s)
      (fun _ => Where handles (· = bus)) := by
  intro s hs
  have hhandles : s.packetHandles = handles := hs.1
  rw [terminalAction]
  match hlookup : handles.lookup h with
  | none =>
    obtain ⟨message, htake⟩ := takePacketHandle_none (by rw [hhandles]; exact hlookup)
    rw [exec_bind_error htake]
    exact hs
  | some o =>
    -- Zero is refused by the source, and is no key of the table either.
    have hzero : h ≠ 0 := by
      rintro rfl
      rw [howned.nonzero] at hlookup
      nomatch hlookup
    rw [exec_bind_ok (takePacketHandle_some hzero (by rw [hhandles]; exact hlookup))]
    -- The entry is out of the table, and its record still in `Host`.
    have hout : Where (handles.erase h) (· = bus)
        { s with packetHandles := s.packetHandles.erase h } := ⟨by rw [hhandles], hs.2⟩
    refine (hwork (handles.erase h) bus o (howned.host h o hlookup)).attempt.bind (fun r => ?_) _
      hout
    cases r with
    | ok _ => exact Triple.pure fun s hs => ⟨o, rfl, hs⟩
    | error code =>
      rintro s ⟨herased, hbus⟩
      obtain ⟨r, message, hrestore⟩ := restorePacketHandle_exec s h o
      have hback : Where handles (· = bus) { s with
          packetHandles := s.packetHandles.insert h o, lastError := message } := by
        refine ⟨?_, hbus⟩
        -- Nobody else used the handle in between, so the table is the old one again.
        show s.packetHandles.insert h o = handles
        rw [herased, Table.insert_erase hlookup]
      cases r with
      | error code' =>
        dsimp only
        rw [exec_bind_error hrestore]
        exact hback
      | ok _ =>
        dsimp only
        rw [exec_bind_ok hrestore]
        exact hback

/-! ### Reading -/

/-- The observation was read: its record is in `Processing`. -/
def IsRead (bus : PacketBus) (o : PacketObservation) (b : PacketBus) : Prop :=
  Quiet bus b ∧ b.ownerOf o.observationId = some .processing

theorem nextHandle_where {P : PacketBus → Prop} {epost : NeCode → FfiState → Prop} :
    Triple (Where handles P) nextHandle (fun h s => h ≠ 0 ∧ Where handles P s) epost := by
  intro s hs
  rw [nextHandle, exec_bind_ok (exec_getState s), exec_bind_ok (exec_modifyState s _)]
  -- Only the wrapped counter gives zero, and then the next one is taken.
  by_cases hzero : s.handleCounter = 0
  · rw [if_neg (not_not.mpr hzero), exec_bind_ok (exec_modifyState _ _)]
    refine ⟨?_, hs⟩
    rw [hzero]
    decide
  · rw [if_pos hzero]
    exact ⟨hzero, hs⟩

theorem requeue_where (bus : PacketBus) (o : PacketObservation)
    {epost : NeCode → FfiState → Prop} :
    Triple (Where handles (IsRead bus o)) (requeue o) (fun _ => Where handles (Quiet bus))
      epost := by
  have hrequeue : Triple (IsRead bus o) (PacketBus.requeueProcessing o) (fun _ => Quiet bus)
      (fun _ => Quiet bus) := by
    intro b hb
    have hquiet := PacketBus.requeueProcessing_quiet o b b rfl
    match hexec : exec (PacketBus.requeueProcessing o) b with
    | (.ok _, b') | (.error _, b') =>
      rw [hexec] at hquiet
      exact hb.1.trans hquiet
  refine (onEngine_where (onBus_where hrequeue)).attempt.bind fun r => ?_
  cases r <;> exact Triple.pure fun _ hs => hs

/-- A handle goes out with its record in `Host`, or nothing has changed for the host. -/
theorem issueHandle_triple (bus : PacketBus) (o : PacketObservation) :
    Triple (Where handles (IsRead bus o)) (issueHandle o)
      (fun d s => d.packetHandle ≠ 0 ∧ handles.lookup d.packetHandle = none ∧
        Where (handles.insert d.packetHandle o)
          (fun b => ∃ b₁, IsRead bus o b₁ ∧ b = b₁.setOwner o.observationId .host) s)
      (fun _ => Where handles (Quiet bus)) := by
  refine nextHandle_where.bind fun h => Triple.getState_bind ?_
  rintro s ⟨hzero, hs⟩
  rw [hs.1]
  -- A collision takes the read back and gives nothing out.
  by_cases hnew : h ∈ handles
  · rw [if_pos hnew]
    refine Triple.pre_mono ((requeue_where bus o).bind fun _ => fail_where) ?_
    rintro _ rfl
    exact hs
  · rw [if_neg hnew]
    have hinsert : Triple (· = s)
        (modifyState fun s => { s with packetHandles := s.packetHandles.insert h o })
        (fun _ => Where (handles.insert h o) (IsRead bus o))
        (fun (_ : NeCode) => Where handles (Quiet bus)) := by
      apply Triple.modifyState
      rintro _ rfl
      exact ⟨by rw [hs.1], hs.2⟩
    have htransfer : Triple (IsRead bus o) (PacketBus.transferToHost o.observationId)
        (fun _ b => ∃ b₁, IsRead bus o b₁ ∧ b = b₁.setOwner o.observationId .host)
        (fun _ _ => False) := by
      intro b hb
      rw [PacketBus.transferToHost, PacketBus.transfer_ok rfl hb.2]
      exact ⟨b, hb, rfl⟩
    refine hinsert.bind fun _ => (onEngine_where (onBus_where htransfer)).attempt.bind fun r => ?_
    cases r with
    | ok _ => exact fun s hs => ⟨hzero, Finmap.lookup_eq_none.mpr hnew, hs⟩
    | error error =>
      -- The record was left in `Processing` by the read, and the transfer cannot fail.
      rintro s ⟨-, _, -, hfalse⟩
      exact hfalse.elim

theorem packetRead_triple (hash : IdentityInput → UInt64) (env : ProcessingEnv)
    (descriptorNotNull : Bool) (bus : PacketBus) :
    Triple (Where handles (· = bus)) (packetRead hash env descriptorNotNull)
      (fun d s => d.packetHandle ≠ 0 ∧ handles.lookup d.packetHandle = none ∧
        ∃ o, Where (handles.insert d.packetHandle o)
          (fun b => ∃ b₁, IsRead bus o b₁ ∧ b = b₁.setOwner o.observationId .host) s)
      (fun _ => Where handles (Quiet bus)) := by
  have hsame {s : FfiState} (hs : Where handles (· = bus) s) : Where handles (Quiet bus) s :=
    hs.mono fun b hb => hb ▸ Quiet.refl bus
  unfold packetRead
  split
  · exact Triple.error_mono fail_where fun _ _ hs => hsame hs
  refine requireEngine_where.bind fun _ => ?_
  refine (callEngine_where (onBus_where (PacketBus.tryRead_quiet bus))).bind fun r => ?_
  cases r with
  | none => exact Triple.error_mono fail_where fun _ _ hs => hs.mono fun b hb => hb.1
  | some o =>
    have hread {s : FfiState} (hs : Where handles (fun b => Quiet bus b ∧
        ∀ o', some o = some o' → b.ownerOf o'.observationId = some .processing) s) :
        Where handles (IsRead bus o) s := hs.mono fun b hb => ⟨hb.1, hb.2 o rfl⟩
    -- Processing counts and records the flow, and leaves the bus alone.
    have hprocess : Keeps (fun e => IsRead bus o e.packetBus)
        (EngineRuntime.processObservation hash env o) :=
      Keeps.bind EngineRuntime.requireRunning_keeps fun _ => Keeps.modifyState fun _ he => he
    refine Triple.bind (Triple.pre_mono (Triple.attempt (onEngine_where hprocess))
      fun _ hs => hread hs) fun r => ?_
    cases r with
    | error error => exact (requeue_where bus o).bind fun _ => fail_where
    | ok _ =>
      dsimp only
      -- A packet too long for the C length is put back.
      split
      · exact (requeue_where bus o).bind fun _ => fail_where
      · refine Triple.post_mono (issueHandle_triple bus o) fun d s hs => ?_
        exact ⟨hs.1, hs.2.1, o, hs.2.2⟩

/-- What is processed without the host is read and released. -/
theorem processOne_triple (hash : IdentityInput → UInt64) (env : ProcessingEnv) (bus : PacketBus) :
    Triple (fun e => e.packetBus = bus) (EngineRuntime.processOne hash env)
      (fun _ e => Quiet bus e.packetBus) (fun _ e => Quiet bus e.packetBus) := by
  have hsame {e : EngineRuntime} (he : e.packetBus = bus) : Quiet bus e.packetBus :=
    he ▸ Quiet.refl _
  refine Triple.bind (Triple.error_mono EngineRuntime.requireRunning_keeps fun _ _ => hsame)
    fun _ => (onBus_where (PacketBus.tryRead_quiet bus)).bind fun r => ?_
  cases r with
  | none => exact Triple.pure fun e he => he.1
  | some o =>
    have hprocess : Triple
        (fun e : EngineRuntime => Quiet bus e.packetBus ∧
          ∀ o', some o = some o' → e.packetBus.ownerOf o'.observationId = some .processing)
        (EngineRuntime.processShared hash env o) (fun _ e => IsRead bus o e.packetBus)
        (fun (_ : EngineError) e => Quiet bus e.packetBus) :=
      Triple.modifyState fun e he => ⟨he.1, he.2 o rfl⟩
    have hrelease : Triple (IsRead bus o) (PacketBus.releaseProcessing o.observationId)
        (fun _ => Quiet bus) (fun _ => Quiet bus) := by
      intro b hb
      have hactive : Owner.processing ≠ .released := by decide
      rw [PacketBus.releaseProcessing, PacketBus.releaseFrom_ok hactive hb.2]
      apply hb.1.trans
      apply Quiet.dropRecord
      rw [hb.2]
      decide
    exact hprocess.bind fun _ => (onBus_where hrelease).bind fun _ => Triple.pure fun _ he => he

theorem captureProcess_triple (hash : IdentityInput → UInt64) (env : ProcessingEnv)
    (bus : PacketBus) :
    Triple (Where handles (· = bus)) (captureProcess hash env) (fun _ => Where handles (Quiet bus))
      (fun _ => Where handles (Quiet bus)) := by
  refine Triple.getState_bind fun s hs => ?_
  split
  · exact Triple.throw fun _ hs' => (hs' ▸ hs).mono fun b hb => hb ▸ Quiet.refl bus
  · refine Triple.bind (Triple.pre_mono (Triple.attempt (onEngine_where (P := (· = bus))
      (processOne_triple hash env bus))) fun _ hs' => hs' ▸ hs) fun r => ?_
    cases r with
    | ok _ => exact Triple.pure fun _ hs' => hs'
    | error error => exact Triple.throw fun _ hs' => hs'

/-! ### Publishing -/

/-- The bus as it was, or with one more observation, whose id had no record. -/
def Published (bus : PacketBus) (id : ObservationId) (b : PacketBus) : Prop :=
  bus.ownerOf id = none ∧ b.ownerOf id = some .bus ∧
    ∀ id' ≠ id, b.ownerOf id' = bus.ownerOf id'

theorem Published.owned {id : ObservationId} (h : Published bus id bus')
    (howned : Owned handles bus) : Owned handles bus' := by
  obtain ⟨hnone, hbus, hothers⟩ := h
  have hiff (id' : ObservationId) :
      bus'.ownerOf id' = some .host ↔ bus.ownerOf id' = some .host := by
    -- The new record is in `Bus`, so `Host` gains nothing.
    by_cases heq : id' = id
    · rw [heq, hnone, hbus]
      decide
    · rw [hothers id' heq]
  exact ⟨howned.nonzero, fun h o hlookup => (hiff _).mpr (howned.host h o hlookup), howned.unique,
    fun id' hid => howned.complete id' ((hiff id').mp hid)⟩

theorem publishCounted_triple (o : PacketObservation) (bus : PacketBus) :
    Triple (fun e => e.packetBus = bus) (EngineRuntime.publishCounted o)
      (fun _ e => Published bus o.observationId e.packetBus) (fun _ e => e.packetBus = bus) := by
  have hpublish : Triple (fun e => e.packetBus = bus)
      (EngineRuntime.onBus (PacketBus.publishEngineOwned o))
      (fun _ e => bus.ownerOf o.observationId = none ∧ e.packetBus =
        (bus.setItems (bus.queue.items ++ [o])).setOwner o.observationId .bus)
      (fun _ e => e.packetBus = bus) :=
    (PacketBus.publish_quiet o bus).zoom fun _ _ => rfl
  refine Triple.bind (Triple.attempt hpublish) fun r => ?_
  cases r with
  | ok _ =>
    rintro e ⟨hnone, hbus⟩
    -- One record is new and no other moves.
    refine ⟨hnone, ?_, fun id hid => ?_⟩
    · show e.packetBus.ownerOf _ = _
      rw [hbus, PacketBus.ownerOf_setOwner, if_pos rfl]
    · show e.packetBus.ownerOf _ = _
      rw [hbus, PacketBus.ownerOf_setOwner, if_neg hid]
      rfl
  | error error => exact fun e he => he

theorem capturePacket_triple (id : ObservationId) (packet : InterceptedPacket)
    (captured ingested : Timestamp) (bus : PacketBus) :
    Triple (Where handles (· = bus))
      (onEngine (EngineRuntime.capturePacket id packet captured ingested))
      (fun _ => Where handles (Published bus id)) (fun _ => Where handles (· = bus)) :=
  onEngine_where (P := (· = bus)) (Q := fun _ => Published bus id) (R := (· = bus))
    (publishCounted_triple (packet.toObservation id captured ingested) bus)

theorem ingestObservation_triple (now : Timestamp) (o : PacketObservation) (bus : PacketBus) :
    Triple (fun e => e.packetBus = bus) (EngineRuntime.ingestObservation now o)
      (fun _ e => Published bus o.observationId e.packetBus) (fun _ e => e.packetBus = bus) := by
  refine Triple.bind EngineRuntime.requireRunning_keeps fun _ => ?_
  dsimp only
  -- Both checks stand in front of the bus.
  split
  · exact Triple.throw fun _ he => he
  split
  · exact Triple.throw fun _ he => he
  · exact publishCounted_triple { o with ingestionTimestamp := now } bus

/-- The observation of `packet_inject` has the id that was next. -/
theorem injectObservation_triple (clock : InjectClock) (args : InjectArgs) (id : ObservationId)
    {P : PacketBus → Prop} :
    Triple (fun s => Where handles P s ∧ s.nextInjected = id) (injectObservation clock args)
      (fun o s => Where handles P s ∧ o.observationId = id) (fun _ => Where handles P) := by
  unfold injectObservation
  -- The id is drawn last, so a refused argument leaves the counter alone.
  split
  · exact fun _ hs => hs.1
  split
  · exact fun _ hs => hs.1
  split
  · exact fun _ hs => hs.1
  · exact fun _ hs => hs.1
  · exact fun _ hs => hs

theorem injectPublish_triple (clock : InjectClock) (o : PacketObservation) (bus : PacketBus) :
    Triple (Where handles (· = bus)) (injectPublish clock o)
      (fun _ => Where handles (Published bus o.observationId))
      (fun _ => Where handles (· = bus)) := by
  refine requireEngine_where.bind fun _ => ?_
  refine (callEngine_where (ingestObservation_triple clock.ingested o bus)).bind fun _ => ?_
  exact setLastError_where

theorem packetInject_triple (clock : InjectClock) (args : InjectArgs) (id : ObservationId)
    (bus : PacketBus) :
    Triple (fun s => Where handles (· = bus) s ∧ s.nextInjected = id) (packetInject clock args)
      (fun _ => Where handles (Published bus id)) (fun _ => Where handles (· = bus)) := by
  refine (injectObservation_triple clock args id).bind fun o => ?_
  rintro s ⟨hs, rfl⟩
  exact injectPublish_triple clock o bus s hs

end Ffi

end NetworkEngine
