import Mathlib.Algebra.BigOperators.Group.List.Basic
import Mathlib.Algebra.Ring.Nat
import Mathlib.Data.List.Chain
import NetworkEngine.Core.Error
import NetworkEngine.Lib.Checked
import NetworkEngine.Lib.Op
import NetworkEngine.Lib.Table
import NetworkEngine.Lib.Transition

/-!
# WfpFlow — the updates of a flow

`backend_wfp::flow`: the state machine of a flow, its two checked counters, which `record_packet`
moves one after the other, and the time of the last packet, which every packet overwrites.
-/

namespace NetworkEngine

open Rust Transition

/-! ## 1. Flows -/

inductive WfpFlowState where
  | unknown
  | new
  | established
  | closing
  | closed
  | aborted
  deriving DecidableEq, Repr

namespace WfpFlowState

def isTerminal : WfpFlowState → Bool
  | closed | aborted => true
  | _ => false

def canTransitionTo (self next : WfpFlowState) : Bool :=
  self == next ||
    match self, next with
    | unknown, new | unknown, established => true
    | new, established | new, closing | new, aborted => true
    | established, closing | established, closed | established, aborted => true
    | closing, closed | closing, aborted => true
    | _, _ => false

end WfpFlowState

structure WfpFlow where
  flowId : UInt64
  filterId : Option UInt64
  processId : Option UInt32
  localAddress : Option Bytes
  remoteAddress : Option Bytes
  localPort : Option UInt16
  remotePort : Option UInt16
  protocol : UInt8
  state : WfpFlowState
  packetCount : UInt64
  byteCount : UInt64
  createdAtNs : UInt64
  lastSeenNs : UInt64
  deriving DecidableEq, Repr

namespace WfpFlow

def new (flowId : UInt64) (protocol : UInt8) (timestampNs : UInt64) : EngineResult WfpFlow :=
  if flowId = 0 then .error .invalidArgument
  else
    .ok {
      flowId
      filterId := none
      processId := none
      localAddress := none
      remoteAddress := none
      localPort := none
      remotePort := none
      protocol
      state := .new
      packetCount := 0
      byteCount := 0
      createdAtNs := timestampNs
      lastSeenNs := timestampNs }

/-- A flow with what was recorded of it. -/
structure Tracked where
  flow : WfpFlow
  /-- The states that the flow has been given, the first one included. -/
  visited : List WfpFlowState
  /-- The bytes and the timestamps of the packets that were recorded successfully. -/
  recorded : List (UInt64 × UInt64)
  deriving DecidableEq, Repr

abbrev FlowOp := Op Tracked EngineError

/-- `self.state = next`. -/
def setState (next : WfpFlowState) : FlowOp Unit :=
  modifyState fun t => { t with flow.state := next, visited := t.visited ++ [next] }

/-- `EngineError::backend(InvalidStateTransition, "wfp")`. -/
def invalidTransition : EngineError := .backend .invalidStateTransition "wfp" none

def transition (next : WfpFlowState) : FlowOp Unit := do
  let t ← getState
  if !t.flow.state.canTransitionTo next then throw invalidTransition
  setState next

/-- `a.checked_add(b).ok_or_else(EngineError::integer_overflow)`. -/
def addCount (a b : UInt64) : EngineResult UInt64 :=
  if a.toNat + b.toNat < 2 ^ 64 then .ok (a + b) else .error .integerOverflow

def recordPacket (bytes timestampNs : UInt64) : FlowOp Unit := do
  let t ← getState
  if t.flow.state.isTerminal then throw invalidTransition
  let packetCount ← ofResult (addCount t.flow.packetCount 1)
  modifyState fun t => { t with flow.packetCount := packetCount }
  -- The packet stays counted when its bytes do not fit.
  let byteCount ← ofResult (addCount t.flow.byteCount bytes)
  modifyState fun t => { t with flow.byteCount := byteCount }
  modifyState fun t => { t with flow.lastSeenNs := timestampNs }
  if t.flow.state = .new then setState .established
  modifyState fun t => { t with recorded := t.recorded ++ [(bytes, timestampNs)] }

def close : FlowOp Unit := do
  let t ← getState
  if t.flow.state = .closed then return ()
  if t.flow.state = .aborted then throw invalidTransition
  if t.flow.state ≠ .closing then transition .closing
  transition .closed

def abort : FlowOp Unit := do
  let t ← getState
  if t.flow.state.isTerminal then return ()
  transition .aborted

def idleNs (flow : WfpFlow) (nowNs : UInt64) : UInt64 := saturatingSub64 nowNs flow.lastSeenNs

def isIdle (flow : WfpFlow) (nowNs timeoutNs : UInt64) : Bool := timeoutNs ≤ flow.idleNs nowNs

end WfpFlow

structure WfpFlowTable where
  flows : Table UInt64 WfpFlow
  maxEntries : Nat
  deriving DecidableEq

/-- The number of flows that were removed, and the table without them. -/
def WfpFlowTable.expireIdle (nowNs timeoutNs : UInt64) (t : WfpFlowTable) : Nat × WfpFlowTable :=
  ((t.flows.keysWhere (·.isIdle nowNs timeoutNs)).card,
    { t with flows := t.flows.discard (·.isIdle nowNs timeoutNs) })

namespace WfpFlow

/-! ## 2. Runs -/

inductive Call where
  | transition (next : WfpFlowState)
  | recordPacket (bytes timestampNs : UInt64)
  | close
  | abort
  deriving DecidableEq, Repr

/-- The result of a call and the flow after it. -/
def apply (t : Tracked) : Call → EngineResult Unit × Tracked
  | .transition next => exec (transition next) t
  | .recordPacket bytes timestampNs => exec (recordPacket bytes timestampNs) t
  | .close => exec close t
  | .abort => exec abort t

def step (t : Tracked) (call : Call) : Tracked := (apply t call).2

def start (flow : WfpFlow) : Tracked := ⟨flow, [flow.state], []⟩

/-- The flow stands for what was recorded of it. -/
structure Accounted (t : Tracked) : Prop where
  visited : t.visited.IsChain fun a b => a.canTransitionTo b = true
  state : t.visited.getLast? = some t.flow.state
  packets : t.flow.packetCount.toNat = t.recorded.length
  bytes : t.flow.byteCount.toNat = (t.recorded.map (·.1.toNat)).sum
  created : t.flow.createdAtNs ≤ t.flow.lastSeenNs
  latest : ∀ r ∈ t.recorded, r.2 ≤ t.flow.lastSeenNs
  attained : t.flow.lastSeenNs = t.flow.createdAtNs ∨ ∃ r ∈ t.recorded, r.2 = t.flow.lastSeenNs

/-- No table drops the flow while a packet of it is younger than the timeout. -/
def Retained (t : Tracked) : Prop :=
  ∀ (table : WfpFlowTable) (id nowNs timeoutNs : UInt64), table.flows.lookup id = some t.flow →
    (∃ r ∈ t.recorded, saturatingSub64 nowNs r.2 < timeoutNs) →
      (table.expireIdle nowNs timeoutNs).2.flows.lookup id = some t.flow

/-- What a caller may rely on in a step. -/
structure Correct (t : Tracked) (call : Call) : Prop where
  atomic : (apply t call).1 ≠ .ok () → (step t call).flow = t.flow
  final : t.flow.state.isTerminal = true → (step t call).flow = t.flow
  accounted : Accounted (step t call)
  retained : Retained (step t call)

/-- A packet that is counted has room for its bytes, and it is no older than those before it. -/
def InOrder (t : Tracked) : Call → Prop
  | .recordPacket bytes timestampNs =>
    t.flow.state.isTerminal = false → t.flow.packetCount.toNat + 1 < 2 ^ 64 →
      t.flow.byteCount.toNat + bytes.toNat < 2 ^ 64 ∧ t.flow.lastSeenNs ≤ timestampNs
  | .transition _ | .close | .abort => True

/-! ## 3. What a call does -/

variable {t t' : Tracked} {call : Call} {next : WfpFlowState} {bytes timestampNs : UInt64}

/-- The flow in its next state. -/
def entered (next : WfpFlowState) (t : Tracked) : Tracked :=
  { t with flow.state := next, visited := t.visited ++ [next] }

theorem exec_transition (next : WfpFlowState) (t : Tracked) :
    exec (transition next) t =
      if t.flow.state.canTransitionTo next then (.ok (), entered next t)
      else (.error invalidTransition, t) := by
  unfold transition
  rw [exec_bind, exec_getState]
  dsimp only
  cases t.flow.state.canTransitionTo next <;> rfl

theorem exec_close (t : Tracked) :
    exec close t = match t.flow.state with
      | .closed => (.ok (), t)
      | .unknown | .aborted => (.error invalidTransition, t)
      | .closing => (.ok (), entered .closed t)
      | .new | .established => (.ok (), entered .closed (entered .closing t)) := by
  unfold close
  rw [exec_bind, exec_getState]
  dsimp only
  cases hstate : t.flow.state <;>
    simp [exec_bind, exec_transition, hstate, entered, WfpFlowState.canTransitionTo]

theorem exec_abort (t : Tracked) :
    exec abort t =
      if t.flow.state.isTerminal then (.ok (), t)
      else if t.flow.state = .unknown then (.error invalidTransition, t)
      else (.ok (), entered .aborted t) := by
  unfold abort
  rw [exec_bind, exec_getState]
  dsimp only
  cases hstate : t.flow.state <;>
    simp [exec_transition, hstate, WfpFlowState.canTransitionTo, WfpFlowState.isTerminal]

/-- The flow with one more packet, in the state of before. -/
def counted (bytes timestampNs : UInt64) (t : Tracked) : Tracked :=
  { t with
    flow := { t.flow with
      packetCount := t.flow.packetCount + 1
      byteCount := t.flow.byteCount + bytes
      lastSeenNs := timestampNs }
    recorded := t.recorded ++ [(bytes, timestampNs)] }

theorem exec_recordPacket (bytes timestampNs : UInt64) (t : Tracked) :
    exec (recordPacket bytes timestampNs) t =
      if t.flow.state.isTerminal then (.error invalidTransition, t)
      else if t.flow.packetCount.toNat + 1 < 2 ^ 64 then
        if t.flow.byteCount.toNat + bytes.toNat < 2 ^ 64 then
          (.ok (), if t.flow.state = .new then entered .established (counted bytes timestampNs t)
            else counted bytes timestampNs t)
        else (.error .integerOverflow, { t with flow.packetCount := t.flow.packetCount + 1 })
      else (.error .integerOverflow, t) := by
  unfold recordPacket addCount
  rw [exec_bind, exec_getState, UInt64.toNat_one]
  dsimp only
  by_cases hterminal : t.flow.state.isTerminal = true
  · simp [hterminal]
  by_cases hpackets : t.flow.packetCount.toNat + 1 < 2 ^ 64
  · rw [if_neg hterminal, if_neg hterminal, if_pos hpackets, if_pos hpackets]
    by_cases hbytes : t.flow.byteCount.toNat + bytes.toNat < 2 ^ 64
    · rw [if_pos hbytes, if_pos hbytes]
      by_cases hnew : t.flow.state = .new
      · rw [if_pos hnew, if_pos hnew]
        rfl
      · rw [if_neg hnew, if_neg hnew]
        rfl
    · rw [if_neg hbytes, if_neg hbytes]
      rfl
  · rw [if_neg hterminal, if_neg hterminal, if_neg hpackets, if_neg hpackets]
    rfl

/-- What a call comes to. -/
inductive Effect (t : Tracked) : Call → EngineResult Unit × Tracked → Prop
  | none {call : Call} (result : EngineResult Unit) : Effect t call (result, t)
  | enters {call : Call} (next : WfpFlowState)
      (hnext : t.flow.state.canTransitionTo next = true) : Effect t call (.ok (), entered next t)
  | closes {call : Call} (hclosing : t.flow.state.canTransitionTo .closing = true) :
      Effect t call (.ok (), entered .closed (entered .closing t))
  | counts {bytes timestampNs : UInt64} (halive : t.flow.state.isTerminal = false)
      (hpackets : t.flow.packetCount.toNat + 1 < 2 ^ 64)
      (hbytes : t.flow.byteCount.toNat + bytes.toNat < 2 ^ 64) :
      Effect t (.recordPacket bytes timestampNs)
        (.ok (), if t.flow.state = .new then entered .established (counted bytes timestampNs t)
          else counted bytes timestampNs t)
  | overflows {bytes timestampNs : UInt64} (halive : t.flow.state.isTerminal = false)
      (hpackets : t.flow.packetCount.toNat + 1 < 2 ^ 64)
      (hbytes : ¬ t.flow.byteCount.toNat + bytes.toNat < 2 ^ 64) :
      Effect t (.recordPacket bytes timestampNs)
        (.error .integerOverflow, { t with flow.packetCount := t.flow.packetCount + 1 })

theorem effect (t : Tracked) (call : Call) : Effect t call (apply t call) := by
  cases call with
  | transition next =>
    rw [apply, exec_transition]
    split
    · rename_i hnext
      exact .enters next hnext
    · exact .none _
  | recordPacket bytes timestampNs =>
    rw [apply, exec_recordPacket]
    by_cases hterminal : t.flow.state.isTerminal = true
    · rw [if_pos hterminal]
      exact .none _
    rw [if_neg hterminal]
    rw [Bool.not_eq_true] at hterminal
    by_cases hpackets : t.flow.packetCount.toNat + 1 < 2 ^ 64
    · rw [if_pos hpackets]
      by_cases hbytes : t.flow.byteCount.toNat + bytes.toNat < 2 ^ 64
      · rw [if_pos hbytes]
        exact .counts hterminal hpackets hbytes
      · rw [if_neg hbytes]
        exact .overflows hterminal hpackets hbytes
    · rw [if_neg hpackets]
      exact .none _
  | close =>
    rw [apply, exec_close]
    cases hstate : t.flow.state with
    | unknown | closed | aborted => exact .none _
    | closing => exact .enters .closed (by rw [hstate]; rfl)
    | new | established => exact .closes (by rw [hstate]; rfl)
  | abort =>
    rw [apply, exec_abort]
    split_ifs with hterminal hunknown
    · exact .none _
    · exact .none _
    · refine .enters .aborted ?_
      revert hterminal hunknown
      cases t.flow.state <;> decide

/-! ## 4. What a step keeps -/

theorem Accounted.enter (h : Accounted t) (hnext : t.flow.state.canTransitionTo next = true) :
    Accounted (entered next t) where
  visited := by
    refine List.isChain_append.mpr ⟨h.visited, List.isChain_singleton _, ?_⟩
    intro a ha b hb
    rw [h.state, Option.mem_some] at ha
    rw [List.head?_cons, Option.mem_some] at hb
    rw [← ha, ← hb]
    exact hnext
  state := List.getLast?_concat
  packets := h.packets
  bytes := h.bytes
  created := h.created
  latest := h.latest
  attained := h.attained

theorem Accounted.count (h : Accounted t) (hpackets : t.flow.packetCount.toNat + 1 < 2 ^ 64)
    (hbytes : t.flow.byteCount.toNat + bytes.toNat < 2 ^ 64)
    (hlatest : t.flow.lastSeenNs ≤ timestampNs) : Accounted (counted bytes timestampNs t) where
  visited := h.visited
  state := h.state
  packets := by
    show (t.flow.packetCount + 1).toNat = (t.recorded ++ [(bytes, timestampNs)]).length
    rw [toNat_succ hpackets, h.packets, List.length_append, List.length_singleton]
  bytes := by
    show (t.flow.byteCount + bytes).toNat = ((t.recorded ++ [(bytes, timestampNs)]).map _).sum
    rw [UInt64.toNat_add, Nat.mod_eq_of_lt hbytes, h.bytes, List.map_append, List.sum_append,
      List.map_singleton, List.sum_singleton]
  created := UInt64.le_trans h.created hlatest
  latest := by
    intro r hr
    rcases List.mem_append.mp hr with hold | hnew
    · exact UInt64.le_trans (h.latest r hold) hlatest
    · rw [List.mem_singleton.mp hnew]
      exact UInt64.le_refl _
  attained := .inr ⟨_, List.mem_append_right _ (List.mem_singleton_self _), rfl⟩

theorem saturatingSub64_le {a b c : UInt64} (h : b ≤ c) :
    saturatingSub64 a c ≤ saturatingSub64 a b := by
  rw [UInt64.le_iff_toNat_le, toNat_saturatingSub64, toNat_saturatingSub64]
  rw [UInt64.le_iff_toNat_le] at h
  omega

/-- A flow that was seen last with its latest packet is not idle before that packet is. -/
theorem Accounted.retained (h : Accounted t) : Retained t := by
  intro table id nowNs timeoutNs hlookup hyoung
  obtain ⟨r, hr, hlt⟩ := hyoung
  refine Table.lookup_discard_eq_some.mpr ⟨hlookup, decide_eq_false ?_⟩
  have hle : t.flow.idleNs nowNs ≤ saturatingSub64 nowNs r.2 := saturatingSub64_le (h.latest r hr)
  exact UInt64.not_le.mpr (UInt64.lt_of_le_of_lt hle hlt)

theorem accounted_start {flow : WfpFlow} {flowId : UInt64} {protocol : UInt8}
    (h : new flowId protocol timestampNs = .ok flow) : Accounted (start flow) := by
  unfold new at h
  split_ifs at h
  obtain rfl := Except.ok.inj h
  exact {
    visited := List.isChain_singleton _
    state := rfl
    packets := rfl
    bytes := rfl
    created := UInt64.le_refl _
    latest := List.forall_mem_nil _
    attained := .inl rfl }

/-! ## 5. Runs -/

/-- A terminal state is left for no other. -/
theorem eq_of_isTerminal {state : WfpFlowState} (h : state.isTerminal = true)
    (hnext : state.canTransitionTo next = true) : next = state := by
  revert h hnext
  cases state <;> cases next <;> decide

theorem Accounted.correct (h : Accounted t) (horder : InOrder t call) : Correct t call := by
  suffices hparts : ((apply t call).1 ≠ .ok () → (step t call).flow = t.flow) ∧
      (t.flow.state.isTerminal = true → (step t call).flow = t.flow) ∧ Accounted (step t call) from
    ⟨hparts.1, hparts.2.1, hparts.2.2, hparts.2.2.retained⟩
  have heffect := effect t call
  unfold step
  generalize apply t call = outcome at heffect ⊢
  cases heffect with
  | none result => exact ⟨fun _ => rfl, fun _ => rfl, h⟩
  | enters next hnext =>
    refine ⟨fun hfails => absurd rfl hfails, fun hterminal => ?_, h.enter hnext⟩
    rw [eq_of_isTerminal hterminal hnext]
    rfl
  | closes hclosing =>
    refine ⟨fun hfails => absurd rfl hfails, fun hterminal => ?_, ?_⟩
    · rw [← eq_of_isTerminal hterminal hclosing] at hterminal
      cases hterminal
    · exact (h.enter hclosing).enter rfl
  | counts halive hpackets hbytes =>
    have hcounted := h.count hpackets hbytes (horder halive hpackets).2
    refine ⟨fun hfails => absurd rfl hfails, fun hterminal => ?_, ?_⟩
    · rw [halive] at hterminal
      cases hterminal
    · dsimp only
      split
      · rename_i hnew
        refine hcounted.enter ?_
        show t.flow.state.canTransitionTo .established = true
        rw [hnew]
        rfl
      · exact hcounted
  | overflows halive hpackets hbytes => exact absurd (horder halive hpackets).1 hbytes

/-- A packet out of order shows in the flow. -/
theorem Accounted.not_correct (h : Accounted t) (horder : ¬ InOrder t call) :
    ¬ Correct t call := by
  intro hcorrect
  cases call with
  | recordPacket bytes timestampNs =>
    apply horder
    intro halive hpackets
    have happly : apply t (.recordPacket bytes timestampNs) =
        if t.flow.byteCount.toNat + bytes.toNat < 2 ^ 64 then
          (.ok (), if t.flow.state = .new then entered .established (counted bytes timestampNs t)
            else counted bytes timestampNs t)
        else (.error .integerOverflow, { t with flow.packetCount := t.flow.packetCount + 1 }) := by
      rw [apply, exec_recordPacket, halive, if_neg Bool.false_ne_true, if_pos hpackets]
    by_cases hbytes : t.flow.byteCount.toNat + bytes.toNat < 2 ^ 64
    · refine ⟨hbytes, ?_⟩
      rw [if_pos hbytes] at happly
      have hflow : (step t (.recordPacket bytes timestampNs)).flow.lastSeenNs = timestampNs ∧
          (step t (.recordPacket bytes timestampNs)).flow.createdAtNs = t.flow.createdAtNs ∧
          (step t (.recordPacket bytes timestampNs)).recorded =
            t.recorded ++ [(bytes, timestampNs)] := by
        rw [step, happly]
        dsimp only
        split <;> exact ⟨rfl, rfl, rfl⟩
      have hafter := hcorrect.accounted
      have hcreated := hafter.created
      have hlatest := hafter.latest
      rw [hflow.1, hflow.2.1] at hcreated
      rw [hflow.1, hflow.2.2] at hlatest
      -- The time of before is the creation's, or that of a packet recorded before.
      rcases h.attained with hattained | ⟨r, hr, hattained⟩
      · rw [hattained]
        exact hcreated
      · rw [← hattained]
        exact hlatest r (List.mem_append_left _ hr)
    · exfalso
      rw [if_neg hbytes] at happly
      have hsame := hcorrect.atomic (by rw [happly]; intro hok; cases hok)
      rw [step, happly] at hsame
      have hcount : (t.flow.packetCount + 1).toNat = t.flow.packetCount.toNat :=
        congrArg (fun flow : WfpFlow => flow.packetCount.toNat) hsame
      rw [toNat_succ hpackets] at hcount
      omega
  | transition next => exact horder trivial
  | close => exact horder trivial
  | abort => exact horder trivial

instance (t : Tracked) : ∀ call, Decidable (InOrder t call)
  | .recordPacket bytes timestampNs =>
    inferInstanceAs (Decidable (t.flow.state.isTerminal = false →
      t.flow.packetCount.toNat + 1 < 2 ^ 64 →
        t.flow.byteCount.toNat + bytes.toNat < 2 ^ 64 ∧ t.flow.lastSeenNs ≤ timestampNs))
  | .transition _ | .close | .abort => isTrue trivial

/-- The updates of a flow are as its callers expect exactly in the runs whose packets have room for
their bytes and come in the order of their times. -/
theorem flow_updates_iff (flowId : UInt64) (protocol : UInt8) (timestampNs : UInt64)
    (flow : WfpFlow) (h : new flowId protocol timestampNs = .ok flow) (calls : List Call) :
    Along step Correct (start flow) calls ↔ Along step InOrder (start flow) calls := by
  symm
  apply along_iff Accounted _ _ (accounted_start h)
  · exact fun t call ht horder => (ht.correct horder).accounted
  · intro t call ht
    constructor
    · exact ht.correct
    · intro hcorrect
      by_contra horder
      exact ht.not_correct horder hcorrect

/-- The flow of the tests in `flow.rs`. -/
def tested : WfpFlow where
  flowId := 1
  filterId := none
  processId := none
  localAddress := none
  remoteAddress := none
  localPort := none
  remotePort := none
  protocol := 6
  state := .new
  packetCount := 0
  byteCount := 0
  createdAtNs := 100
  lastSeenNs := 100

theorem flow_updates_iff_closed :
    Along step Correct (start tested)
      [.recordPacket 60 100, .recordPacket 1500 250, .close, .recordPacket 60 90, .abort] :=
  (flow_updates_iff 1 6 100 tested rfl _).mpr (by decide)

/-- A failed call that has counted a packet, and a late packet that takes the time of the flow
back, for which the table drops the flow. -/
theorem overflow_and_late_packet :
    ¬ Along step Correct (start tested) [.recordPacket (UInt64.ofNat (2 ^ 64 - 1)) 100,
      .recordPacket 1 100] ∧
    ¬ Along step Correct (start tested) [.recordPacket 60 200, .recordPacket 60 120] := by
  constructor
  · intro h
    have hlast := (along_cons.mp (along_cons.mp h).2).1.atomic (by decide)
    revert hlast
    decide
  · intro h
    have hlast := (along_cons.mp (along_cons.mp h).2).1
    have hkept := hlast.retained ⟨(∅ : Table UInt64 WfpFlow).insert 1
      (run step (start tested) [.recordPacket 60 200, .recordPacket 60 120]).flow, 10⟩ 1 250 100
      (Finmap.lookup_insert _) (by decide)
    have hidle := (Table.lookup_discard_eq_some.mp hkept).2
    revert hidle
    decide

end WfpFlow

end NetworkEngine
