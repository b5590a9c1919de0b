import Mathlib.Algebra.Ring.Nat
import NetworkEngine.Flow.ConversationGroups
import NetworkEngine.Flow.DedupWindow

/-!
# ProcessingRuns — what the observations of a session leave behind

`process_observation_shared` over whole sessions, with `flow_clear_expired` in between.  The
deduplication filter decides which observations reach the flow table, the table decides what becomes
of them there, and the statistics count every observation.  The three do not look at each other.
-/

namespace NetworkEngine

open Rust Transition FlowPacket

/-- `DEFAULT_DEDUP_CAPACITY`. -/
def dedupCapacity : Nat := 65536

/-- The default idle timeout of a flow table, in nanoseconds. -/
def defaultIdleTimeout : Nat := 300 * 10 ^ 9

namespace ProcessingShared

/-! ## 1. Sessions -/

inductive Turn where
  | process (env : ProcessingEnv) (o : PacketObservation)
  | expire (now : UInt64)

variable (hash : IdentityInput → UInt64)

def step (s : ProcessingShared) : Turn → ProcessingShared
  | .process env o => processObservationShared hash env o s
  | .expire now => { s with flowTable := (s.flowTable.expireIdleNow now).2 }

/-! ## 2. What the three parts make of a session -/

/-- The packet of an observation, if it has a flow key. -/
def flowPacket (env : ProcessingEnv) (o : PacketObservation) : Option FlowPacket :=
  (ObservationMatcher.toFlowKey o).map fun key =>
    ⟨toFlowEngineKey key, o.packetLength, .fromNetworkDirection o.direction, none, env.clock⟩

/-- The identities that have been reported as new, and the calls on the flow table. -/
structure Admission where
  reported : List UInt64
  calls : List FlowTable.Call

/-- An observation reaches the table when its identity is not among the last ones reported. -/
def Admission.turn (a : Admission) : Turn → Admission
  | .process env o =>
    if sourceHash hash o ∈ a.reported.rtake dedupCapacity then a
    else ⟨a.reported ++ [sourceHash hash o],
      a.calls ++ (flowPacket env o).toList.map FlowPacket.call⟩
  | .expire now => { a with calls := a.calls ++ [.expireIdleNow now] }

def admitted (turns : List Turn) : Admission := turns.foldl (Admission.turn hash) ⟨[], []⟩

/-- The answers to the reverse lookups of an observation. -/
def lookups (env : ProcessingEnv) (o : PacketObservation) : List EnqueueOutcome :=
  match (ParsedPacket.parse o).toOption with
  | none => []
  | some parsed =>
    [parsed.sourceIp, parsed.destinationIp].reduceOption.zipIdx.map fun a => env.enqueue a.2

/-- What a turn adds to each of the statistics. -/
structure Tally where
  processed : Nat
  bytes : Nat
  errors : Nat
  saturations : Nat

def tally : Turn → Tally
  | .process env o => {
      processed := 1
      bytes := o.packetLength
      errors := (if (ParsedPacket.parse o).toOption.isNone then 1 else 0) +
        (lookups env o).count .disconnected
      saturations := (lookups env o).count .full }
  | .expire _ => ⟨0, 0, 0, 0⟩

/-! ## 3. The statistics -/

/-- The counters that processing an observation changes. -/
structure Counted (s s' : EngineStatistics) (t : Tally) : Prop where
  processed : s'.totalPacketsProcessed = s.totalPacketsProcessed + .ofNat t.processed
  bytes : s'.totalBytesProcessed = s.totalBytesProcessed + .ofNat t.bytes
  errors : s'.totalErrors = s.totalErrors + .ofNat t.errors
  saturations : s'.queueSaturationEvents = s.queueSaturationEvents + .ofNat t.saturations

theorem Counted.refl (s : EngineStatistics) : Counted s s ⟨0, 0, 0, 0⟩ where
  processed := (UInt64.add_zero _).symm
  bytes := (UInt64.add_zero _).symm
  errors := (UInt64.add_zero _).symm
  saturations := (UInt64.add_zero _).symm

def Tally.add (t t' : Tally) : Tally :=
  ⟨t.processed + t'.processed, t.bytes + t'.bytes, t.errors + t'.errors,
    t.saturations + t'.saturations⟩

theorem ofNat_trans {a b c : UInt64} {m n : Nat} (h : b = a + .ofNat m) (h' : c = b + .ofNat n) :
    c = a + .ofNat (m + n) := by
  rw [h', h, UInt64.ofNat_add, UInt64.add_assoc]

theorem Counted.trans {s s' s'' : EngineStatistics} {t t' : Tally} (h : Counted s s' t)
    (h' : Counted s' s'' t') : Counted s s'' (t.add t') where
  processed := ofNat_trans h.processed h'.processed
  bytes := ofNat_trans h.bytes h'.bytes
  errors := ofNat_trans h.errors h'.errors
  saturations := ofNat_trans h.saturations h'.saturations

theorem counted_outcome (outcome : EnqueueOutcome) (s : EngineStatistics) :
    Counted s (outcome.count s)
      ⟨0, 0, [outcome].count .disconnected, [outcome].count .full⟩ := by
  cases outcome with
  | ok => exact .refl s
  | full => exact ⟨(UInt64.add_zero _).symm, (UInt64.add_zero _).symm, (UInt64.add_zero _).symm, rfl⟩
  | disconnected =>
    exact ⟨(UInt64.add_zero _).symm, (UInt64.add_zero _).symm, rfl, (UInt64.add_zero _).symm⟩

theorem counted_outcomes (outcomes : List EnqueueOutcome) (s : EngineStatistics) :
    Counted s (outcomes.foldl (fun s outcome => outcome.count s) s)
      ⟨0, 0, outcomes.count .disconnected, outcomes.count .full⟩ := by
  induction outcomes generalizing s with
  | nil => exact .refl s
  | cons outcome outcomes ih =>
    have hboth := (counted_outcome outcome s).trans (ih (outcome.count s))
    rw [← List.singleton_append, List.count_append, List.count_append]
    exact hboth

theorem enqueueLookups_eq (env : ProcessingEnv) (o : PacketObservation) (s : EngineStatistics) :
    enqueueLookups env (ParsedPacket.parse o).toOption s =
      (lookups env o).foldl (fun s outcome => outcome.count s) s := by
  unfold enqueueLookups lookups
  cases (ParsedPacket.parse o).toOption with
  | none => rfl
  | some parsed => rw [List.foldl_map]

theorem counted_step (s : ProcessingShared) (turn : Turn) :
    Counted s.statistics (s.step hash turn).statistics (tally turn) := by
  cases turn with
  | expire now => exact .refl _
  | process env o =>
    have herror (s : EngineStatistics) :
        Counted s (if (ParsedPacket.parse o).toOption.isNone then s.recordError else s)
          ⟨0, 0, if (ParsedPacket.parse o).toOption.isNone then 1 else 0, 0⟩ := by
      split
      · exact ⟨(UInt64.add_zero _).symm, (UInt64.add_zero _).symm, rfl, (UInt64.add_zero _).symm⟩
      · exact .refl s
    have hlookups (s : EngineStatistics) := enqueueLookups_eq env o s ▸ counted_outcomes _ s
    have hprocessed (s : EngineStatistics) :
        Counted s (s.recordPacketProcessed (.ofNat o.packetLength)) ⟨1, o.packetLength, 0, 0⟩ :=
      ⟨rfl, rfl, (UInt64.add_zero _).symm, (UInt64.add_zero _).symm⟩
    have hall := ((herror s.statistics).trans (hlookups _)).trans (hprocessed _)
    simp only [Tally.add, Nat.zero_add, Nat.add_zero] at hall
    exact hall

/-- What a session adds to the statistics. -/
def totals (turns : List Turn) : Tally where
  processed := (turns.map fun turn => (tally turn).processed).sum
  bytes := (turns.map fun turn => (tally turn).bytes).sum
  errors := (turns.map fun turn => (tally turn).errors).sum
  saturations := (turns.map fun turn => (tally turn).saturations).sum

theorem counted_run (s : ProcessingShared) (turns : List Turn) :
    Counted s.statistics (run (step hash) s turns).statistics (totals turns) := by
  induction turns generalizing s with
  | nil => exact .refl _
  | cons turn turns ih => exact (counted_step hash s turn).trans (ih _)

/-! ## 4. The flow table -/

/-- The filter is a window on what the admission has reported, and the table has its calls. -/
structure Admits (table : FlowTable) (s : ProcessingShared) (a : Admission) : Prop where
  window : DedupFilter.Window dedupCapacity ⟨s.dedup, a.reported⟩
  flowTable_eq : s.flowTable = run FlowTable.step table a.calls

variable {hash} {table : FlowTable} {s : ProcessingShared} {a : Admission}

theorem recordFlow_eq (env : ProcessingEnv) (o : PacketObservation) (t : FlowTable) :
    recordFlow env.clock o t =
      run FlowTable.step t ((flowPacket env o).toList.map FlowPacket.call) := by
  unfold recordFlow flowPacket
  cases ObservationMatcher.toFlowKey o with
  | none => rfl
  | some key =>
    rw [Option.map_some, Option.toList_some, List.map_singleton, run_cons, run_nil,
      FlowPacket.call, FlowTable.step, FlowTable.perform]
    dsimp only
    cases t.recordPacket (toFlowEngineKey key) o.packetLength (.fromNetworkDirection o.direction)
      none env.clock <;> rfl

theorem Admits.turn (h : Admits table s a) (turn : Turn) :
    Admits table (s.step hash turn) (a.turn hash turn) := by
  cases turn with
  | expire now =>
    refine ⟨h.window, ?_⟩
    show (s.flowTable.expireIdleNow now).2 = run FlowTable.step table (a.calls ++ [.expireIdleNow now])
    rw [run_append, ← h.flowTable_eq]
    rfl
  | process env o =>
    have hwindow := h.window.step (.isDuplicate (sourceHash hash o))
    have hduplicate := h.window.isDuplicate_iff (sourceHash hash o)
    unfold DedupFilter.step at hwindow
    dsimp only at hwindow hduplicate
    unfold Admission.turn
    dsimp only
    by_cases hseen : sourceHash hash o ∈ a.reported.rtake dedupCapacity
    · rw [hduplicate.mpr hseen, if_pos rfl] at hwindow
      rw [if_pos hseen]
      refine ⟨hwindow, ?_⟩
      show (if (s.dedup.isDuplicate (sourceHash hash o)).1 = true then _ else _) = _
      rw [if_pos (hduplicate.mpr hseen)]
      exact h.flowTable_eq
    · have hfresh := Bool.of_not_eq_true (mt hduplicate.mp hseen)
      rw [hfresh, if_neg Bool.false_ne_true] at hwindow
      rw [if_neg hseen]
      refine ⟨hwindow, ?_⟩
      show (if (s.dedup.isDuplicate (sourceHash hash o)).1 = true then _ else _) = _
      rw [if_neg (mt hduplicate.mp hseen), recordFlow_eq, h.flowTable_eq]
      exact (run_append ..).symm

theorem admits_run (h : Admits table s a) (turns : List Turn) :
    Admits table (run (step hash) s turns) (turns.foldl (Admission.turn hash) a) := by
  induction turns generalizing s a with
  | nil => exact h
  | cons turn turns ih => exact ih (h.turn turn)

/-! ## 5. Sessions from the start -/

variable (hash)

/-- **What a session leaves behind.**  The flow table is that of the observations whose identity is
not among the last ones reported as new; a key finds what its conversation makes of them, and as long
as no flow expires and there is room for every conversation this is the flow of all its packets in
their order.  The statistics count every observation, every byte, every failed parse and every
lookup that the resolver did not take. -/
theorem session_run (maxFlows : Nat) (turns : List Turn) :
    let s := run (step hash) (.new maxFlows) turns
    let table := FlowTable.withDefaults maxFlows
    let a := admitted hash turns
    s.flowTable = run FlowTable.step table a.calls ∧
    (∀ key, s.flowTable.get key =
      (exchanges FlowTable.step FlowTable.answer table a.calls).foldl
        (FlowTable.follow defaultIdleTimeout key) none) ∧
    (∀ packets, a.calls = packets.map FlowPacket.call →
      (conversations packets).card ≤ table.maxEntries →
      ∀ key, s.flowTable.get key = group key packets) ∧
    Counted .new s.statistics (totals turns) := by
  intro s table a
  have hadmits : Admits table s a := by
    refine admits_run ⟨?_, rfl⟩ turns
    exact DedupFilter.Window.start dedupCapacity
  refine ⟨hadmits.flowTable_eq, fun key => ?_, fun packets hcalls hroom key => ?_,
    counted_run hash (.new maxFlows) turns⟩
  · rw [hadmits.flowTable_eq]
    exact FlowTable.get_run table.maxEntries defaultIdleTimeout a.calls key
  · rw [hadmits.flowTable_eq, hcalls]
    exact FlowTable.get_grouped defaultIdleTimeout hroom key

end ProcessingShared

end NetworkEngine
