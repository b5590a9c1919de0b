import NetworkEngine.Lib.Checked
import NetworkEngine.Lib.Table
import NetworkEngine.Lib.Threads

/-!
# LoadCounters — reports on the load balancer

`ffi::load_balancer`, interleaved at its atomic operations and lock sections: the reports on one
map of load counters, and `forget`, which removes an entry.  A report takes the write lock to make
sure of its entry and then keeps the read lock while it counts, so that no entry goes away under it.
A poisoned lock is left out: no section panics.
-/

namespace NetworkEngine

open Rust Transition Threads

/-- The words of `BackendLoadCounters`, which `snapshot` copies. -/
structure BackendLoad where
  inFlight : UInt64
  completed : UInt64
  saturated : UInt64
  failed : UInt64
  deriving DecidableEq, Repr

def BackendLoad.new : BackendLoad := ⟨0, 0, 0, 0⟩

namespace LoadBalancer

/-! ## 1. Calls and their steps -/

/-- How a work item has finished. -/
inductive Outcome where
  | completed
  | saturated
  | failed
  deriving DecidableEq, Repr

inductive Report where
  | started
  | finished (outcome : Outcome)
  deriving DecidableEq, Repr

inductive Call where
  | report (report : Report) (backend : String)
  | forget (backend : String)
  deriving DecidableEq, Repr

def reportStarted (backend : String) : Call := .report .started backend

def reportCompleted (backend : String) : Call := .report (.finished .completed) backend

def reportSaturated (backend : String) : Call := .report (.finished .saturated) backend

def reportFailed (backend : String) : Call := .report (.finished .failed) backend

/-- What a call does next. -/
inductive Action where
  /-- A finishing report adds itself to the balancer's own total. -/
  | total (outcome : Outcome)
  /-- `ensure_counters`. -/
  | ensure (report : Report)
  /-- The read lock and the lookup of `with_counters`. -/
  | enter (report : Report)
  | add
  | load (outcome : Outcome)
  | subtract (outcome : Outcome) (amount : UInt64)
  | record (outcome : Outcome)
  /-- `forget`. -/
  | remove
  deriving DecidableEq, Repr

structure Point where
  backend : String
  action : Action
  deriving DecidableEq, Repr

structure Shared where
  counters : Table String BackendLoad
  /-- The calls that hold the read lock. -/
  readers : Nat
  reportedSaturated : UInt64
  reportedCompleted : UInt64
  reportedFailed : UInt64
  /-- The calls made so far. -/
  made : List Call
  deriving DecidableEq

namespace Shared

def new : Shared := ⟨∅, 0, 0, 0, 0, []⟩

def loadOf (s : Shared) (backend : String) : BackendLoad :=
  (s.counters.lookup backend).getD .new

/-- `map.entry(backend).or_insert_with(BackendLoadCounters::new)`. -/
def ensureCounters (s : Shared) (backend : String) : Shared :=
  { s with counters := s.counters.insert backend (s.loadOf backend) }

/-- An atomic operation on the counters found in the map. -/
def update (s : Shared) (backend : String) (f : BackendLoad → BackendLoad) : Shared :=
  match s.counters.lookup backend with
  | some load => { s with counters := s.counters.insert backend (f load) }
  | none => s

/-- The read lock is taken and given back. -/
def lock (s : Shared) : Shared := { s with readers := s.readers + 1 }

def unlock (s : Shared) : Shared := { s with readers := s.readers - 1 }

def forget (s : Shared) (backend : String) : Shared :=
  { s with counters := s.counters.erase backend }

def countReported (s : Shared) : Outcome → Shared
  | .completed => { s with reportedCompleted := s.reportedCompleted + 1 }
  | .saturated => { s with reportedSaturated := s.reportedSaturated + 1 }
  | .failed => { s with reportedFailed := s.reportedFailed + 1 }

end Shared

def addInFlight (load : BackendLoad) : BackendLoad := { load with inFlight := load.inFlight + 1 }

def subInFlight (amount : UInt64) (load : BackendLoad) : BackendLoad :=
  { load with inFlight := load.inFlight - amount }

def countOutcome (outcome : Outcome) (load : BackendLoad) : BackendLoad :=
  match outcome with
  | .completed => { load with completed := load.completed + 1 }
  | .saturated => { load with saturated := load.saturated + 1 }
  | .failed => { load with failed := load.failed + 1 }

def firstAction : Report → Action
  | .started => .ensure .started
  | .finished outcome => .total outcome

/-- What a report does on its counters. -/
def counting : Report → Action
  | .started => .add
  | .finished outcome => .load outcome

def firstPoint : Call → Point
  | .report report backend => ⟨backend, firstAction report⟩
  | .forget backend => ⟨backend, .remove⟩

def begin (call : Call) (s : Shared) : Shared × Option Point :=
  ({ s with made := s.made ++ [call] }, some (firstPoint call))

/-- The step of an action, and the action after it. -/
def act (backend : String) (action : Action) (s : Shared) : Shared × Option Action :=
  match action with
  | .total outcome => (s.countReported outcome, some (.ensure (.finished outcome)))
  | .ensure report =>
    -- A writer waits for the readers.
    if s.readers ≠ 0 then (s, some (.ensure report))
    else (s.ensureCounters backend, some (.enter report))
  | .enter report =>
    match s.counters.lookup backend with
    | some _ => (s.lock, some (counting report))
    | none => (s, none)
  | .add => ((s.update backend addInFlight).unlock, none)
  | .load outcome => (s, some (.subtract outcome (min (s.loadOf backend).inFlight 1)))
  | .subtract outcome amount => (s.update backend (subInFlight amount), some (.record outcome))
  | .record outcome => ((s.update backend (countOutcome outcome)).unlock, none)
  | .remove => if s.readers ≠ 0 then (s, some .remove) else (s.forget backend, none)

def proceed (_ : Unit) (point : Point) (s : Shared) : Shared × Option Point :=
  let (s, next) := act point.backend point.action s
  (s, next.map fun action => ⟨point.backend, action⟩)

def program : Program Shared Point Call Unit := ⟨begin, proceed⟩

abbrev Balancer := Threads.Sys Shared Point

def new : Balancer := ⟨.new, []⟩

/-! ## 2. What the reports owe -/

/-- The weight of a call, where it is on this backend. -/
def weightAt (backend : String) (f : Action → Nat) (point : Point) : Nat :=
  if point.backend = backend then f point.action else 0

/-- The starts that have not added to `in_flight`. -/
def starting : Action → Nat
  | .ensure .started | .enter .started | .add => 1
  | .ensure (.finished _) | .enter (.finished _) | .total _ | .load _ | .subtract _ _ | .record _
  | .remove => 0

/-- The finishing reports that have not subtracted from it. -/
def unsubtracted : Action → Nat
  | .total _ | .ensure (.finished _) | .enter (.finished _) | .load _ | .subtract _ _ => 1
  | .ensure .started | .enter .started | .add | .record _ | .remove => 0

/-- The finishing reports that have not counted their outcome. -/
def unrecorded : Action → Nat
  | .total _ | .ensure (.finished _) | .enter (.finished _) | .load _ | .subtract _ _
  | .record _ => 1
  | .ensure .started | .enter .started | .add | .remove => 0

/-- What a finishing report is about to take off. -/
def taking : Action → Nat
  | .subtract _ amount => amount.toNat
  | .total _ | .ensure _ | .enter _ | .add | .load _ | .record _ | .remove => 0

/-- The calls that hold the read lock. -/
def inside : Action → Nat
  | .add | .load _ | .subtract _ _ | .record _ => 1
  | .total _ | .ensure _ | .enter _ | .remove => 0

def Call.finishes (backend : String) : Call → Bool
  | .report (.finished _) b => b == backend
  | .report .started _ | .forget _ => false

namespace Shared

/-- The `report_started` calls made for a backend. -/
def started (s : Shared) (backend : String) : Nat := s.made.count (reportStarted backend)

/-- The finishing reports made for a backend. -/
def finished (s : Shared) (backend : String) : Nat := s.made.countP (Call.finishes backend)

def inFlight (s : Shared) (backend : String) : Nat := (s.loadOf backend).inFlight.toNat

/-- `completed + saturated + failed`. -/
def done (s : Shared) (backend : String) : Nat :=
  (s.loadOf backend).completed.toNat + (s.loadOf backend).saturated.toNat +
    (s.loadOf backend).failed.toNat

end Shared

/-- The calls of a weight on a backend. -/
def onBackend (s : Balancer) (backend : String) (f : Action → Nat) : Nat :=
  total (weightAt backend f) s.calls

/-- `in_flight` has not wrapped. -/
def Bounded (s : Balancer) : Prop :=
  ∀ backend, s.shared.inFlight backend ≤ s.shared.started backend

/-- At rest the counters are those of the reports. -/
def Settled (s : Balancer) : Prop :=
  s.Quiescent → ∀ backend,
    s.shared.inFlight backend + s.shared.finished backend = s.shared.started backend ∧
      s.shared.done backend = s.shared.finished backend

def Point.loads : Point → Option String
  | ⟨backend, .load _⟩ => some backend
  | _ => none

def Point.removes : Point → Option String
  | ⟨backend, .remove⟩ => some backend
  | _ => none

/-- The backend of a finishing report that a turn makes. -/
def finishing : Turn Call Unit → Option String
  | .start (.report (.finished _) backend) => some backend
  | _ => none

/-- No finishing report finds work in flight that others have found and will take off.  The calls
made so far are no more than a word can count. -/
structure Guarded (s : Balancer) (turn : Turn Call Unit) : Prop where
  load : ∀ backend ∈ (s.point turn).bind Point.loads, s.shared.inFlight backend ≠ 0 →
    onBackend s backend taking < s.shared.inFlight backend
  fits : s.shared.made.length < 2 ^ 64

/-- A finishing report is made after its own start has returned. -/
def Paired (s : Balancer) (turn : Turn Call Unit) : Prop :=
  ∀ backend ∈ finishing turn,
    s.shared.finished backend + onBackend s backend starting < s.shared.started backend

/-- Counters are removed only where nothing has been counted. -/
structure Kept (s : Balancer) (turn : Turn Call Unit) : Prop where
  remove : ∀ backend ∈ (s.point turn).bind Point.removes,
    s.shared.started backend = 0 ∧ s.shared.finished backend = 0
  fits : s.shared.made.length < 2 ^ 64

instance (s : Balancer) (turn : Turn Call Unit) : Decidable (Guarded s turn) :=
  decidable_of_iff
    ((∀ backend ∈ (s.point turn).bind Point.loads, s.shared.inFlight backend ≠ 0 →
        onBackend s backend taking < s.shared.inFlight backend) ∧
      s.shared.made.length < 2 ^ 64)
    ⟨fun h => ⟨h.1, h.2⟩, fun h => ⟨h.load, h.fits⟩⟩

instance (s : Balancer) (turn : Turn Call Unit) : Decidable (Paired s turn) :=
  inferInstanceAs (Decidable (∀ backend ∈ finishing turn, _))

instance (s : Balancer) (turn : Turn Call Unit) : Decidable (Kept s turn) :=
  decidable_of_iff
    ((∀ backend ∈ (s.point turn).bind Point.removes,
        s.shared.started backend = 0 ∧ s.shared.finished backend = 0) ∧
      s.shared.made.length < 2 ^ 64)
    ⟨fun h => ⟨h.1, h.2⟩, fun h => ⟨h.remove, h.fits⟩⟩

/-! ## 3. The counters of a backend -/

variable {s : Shared} {b backend : String} {f : BackendLoad → BackendLoad} {action : Action}

@[simp] theorem loadOf_ensureCounters (s : Shared) (b backend : String) :
    (s.ensureCounters b).loadOf backend = s.loadOf backend := by
  unfold Shared.ensureCounters Shared.loadOf
  rw [Table.lookup_insert]
  by_cases h : backend = b
  · rw [if_pos h, h]
    rfl
  · rw [if_neg h]

theorem loadOf_update_of_ne (s : Shared) (f : BackendLoad → BackendLoad) (h : backend ≠ b) :
    (s.update b f).loadOf backend = s.loadOf backend := by
  unfold Shared.update
  cases hb : s.counters.lookup b with
  | none => rfl
  | some load =>
    simp only [Shared.loadOf]
    rw [Table.lookup_insert, if_neg h]

theorem loadOf_update (f : BackendLoad → BackendLoad) (h : b ∈ s.counters) :
    (s.update b f).loadOf b = f (s.loadOf b) := by
  rcases Finmap.mem_iff.mp h with ⟨load, hload⟩
  unfold Shared.update Shared.loadOf
  rw [hload]
  dsimp only
  rw [Table.lookup_insert, if_pos rfl]
  rfl

theorem loadOf_forget (s : Shared) (b backend : String) :
    (s.forget b).loadOf backend = if backend = b then .new else s.loadOf backend := by
  unfold Shared.forget Shared.loadOf
  rw [Table.lookup_erase]
  by_cases h : backend = b
  · rw [if_pos h, if_pos h]
    rfl
  · rw [if_neg h, if_neg h]

@[simp] theorem countReported_counters (s : Shared) (outcome : Outcome) :
    (s.countReported outcome).counters = s.counters := by
  cases outcome <;> rfl

theorem mem_update (s : Shared) (f : BackendLoad → BackendLoad) :
    backend ∈ (s.update b f).counters ↔ backend ∈ s.counters := by
  unfold Shared.update
  cases hb : s.counters.lookup b with
  | none => rfl
  | some load =>
    have hmem : b ∈ s.counters := Finmap.mem_of_lookup_eq_some hb
    rw [Finmap.mem_insert]
    constructor
    · intro h
      rcases h with rfl | h
      · exact hmem
      · exact h
    · exact .inr

theorem update_made (s : Shared) (b : String) (f : BackendLoad → BackendLoad) :
    (s.update b f).made = s.made := by
  unfold Shared.update
  split
  · rfl
  · rfl

theorem update_readers (s : Shared) (b : String) (f : BackendLoad → BackendLoad) :
    (s.update b f).readers = s.readers := by
  unfold Shared.update
  split
  · rfl
  · rfl

/-- What every operation on the shared state leaves alone, a step leaves alone. -/
theorem act_frame {α : Type} {g : Shared → α} (action : Action) (s : Shared)
    (hcount : ∀ outcome, g (s.countReported outcome) = g s)
    (hensure : g (s.ensureCounters b) = g s) (hlock : g s.lock = g s)
    (hunlock : ∀ s, g s.unlock = g s) (hupdate : ∀ f, g (s.update b f) = g s)
    (hforget : g (s.forget b) = g s) : g (act b action s).1 = g s := by
  cases action with
  | total outcome => exact hcount outcome
  | ensure report =>
    simp only [act]
    split
    · rfl
    · exact hensure
  | enter report =>
    simp only [act]
    split
    · exact hlock
    · rfl
  | add => exact (hunlock _).trans (hupdate addInFlight)
  | load outcome => rfl
  | subtract outcome amount => exact hupdate (subInFlight amount)
  | record outcome => exact (hunlock _).trans (hupdate (countOutcome outcome))
  | remove =>
    simp only [act]
    split
    · rfl
    · exact hforget

/-- A step touches no counters but those of its backend. -/
theorem loadOf_act_of_ne (action : Action) (s : Shared) (h : backend ≠ b) :
    (act b action s).1.loadOf backend = s.loadOf backend := by
  apply act_frame (g := fun s => s.loadOf backend)
  · intro outcome
    cases outcome <;> rfl
  · exact loadOf_ensureCounters s b backend
  · rfl
  · exact fun _ => rfl
  · exact fun f => loadOf_update_of_ne s f h
  · rw [loadOf_forget, if_neg h]

/-- Only the start of a call is a call made. -/
theorem act_made (b : String) (action : Action) (s : Shared) : (act b action s).1.made = s.made := by
  apply act_frame (g := Shared.made)
  · intro outcome
    cases outcome <;> rfl
  · rfl
  · rfl
  · exact fun _ => rfl
  · exact update_made s b
  · rfl

/-- What a step does to the counters of its backend, if it does not remove them. -/
def effect : Action → BackendLoad → BackendLoad
  | .add => addInFlight
  | .subtract _ amount => subInFlight amount
  | .record outcome => countOutcome outcome
  | .total _ | .ensure _ | .enter _ | .load _ | .remove => id

theorem loadOf_act (action : Action) (hpresent : inside action = 1 → b ∈ s.counters)
    (hkept : action = .remove → s.readers ≠ 0) :
    (act b action s).1.loadOf b = effect action (s.loadOf b) := by
  cases action with
  | total outcome => cases outcome <;> rfl
  | ensure report =>
    simp only [act]
    split
    · rfl
    · exact loadOf_ensureCounters s b b
  | enter report =>
    simp only [act]
    split
    · rfl
    · rfl
  | add => exact loadOf_update addInFlight (hpresent rfl)
  | load outcome => rfl
  | subtract outcome amount => exact loadOf_update (subInFlight amount) (hpresent rfl)
  | record outcome => exact loadOf_update (countOutcome outcome) (hpresent rfl)
  | remove =>
    rw [act, if_pos (hkept rfl)]
    rfl

/-! ## 4. The read lock -/

variable {l : Balancer} {i : Nat} {point : Point}

/-- Who is inside is counted, and finds the entry. -/
structure Locked (l : Balancer) : Prop where
  readers : l.shared.readers = total (fun point => inside point.action) l.calls
  present : ∀ point ∈ l.calls, inside point.action = 1 → point.backend ∈ l.shared.counters

/-- What a step does to the lock and to the map. -/
theorem act_lock (b : String) (action : Action) (s : Shared)
    (hreaders : inside action ≤ s.readers) :
    (act b action s).1.readers + inside action =
      s.readers + weigh inside (act b action s).2 := by
  cases action with
  | total outcome =>
    cases outcome <;> rfl
  | ensure report =>
    simp only [act]
    split
    · rfl
    · rfl
  | enter report =>
    simp only [act]
    split
    · cases report <;> rfl
    · rfl
  | add =>
    simp only [act, Shared.unlock, inside, weigh_none] at hreaders ⊢
    rw [update_readers]
    omega
  | load outcome => rfl
  | subtract outcome amount =>
    simp only [act, inside, weigh_some]
    rw [update_readers]
  | record outcome =>
    simp only [act, Shared.unlock, inside, weigh_none] at hreaders ⊢
    rw [update_readers]
    omega
  | remove =>
    simp only [act]
    split
    · rfl
    · rfl

/-- An entry goes away in a `forget` that finds nobody inside. -/
theorem act_mem (b : String) (action : Action) (s : Shared) (h : backend ∈ s.counters)
    (hkeep : action = .remove → s.readers = 0 → backend ≠ b) :
    backend ∈ (act b action s).1.counters := by
  cases action with
  | total outcome => simpa [act] using h
  | ensure report =>
    simp only [act]
    split
    · exact h
    · exact Finmap.mem_insert.mpr (.inr h)
  | enter report =>
    simp only [act]
    split
    · exact h
    · exact h
  | add => exact (mem_update s addInFlight).mpr h
  | load outcome => exact h
  | subtract outcome amount => exact (mem_update s (subInFlight amount)).mpr h
  | record outcome => exact (mem_update s (countOutcome outcome)).mpr h
  | remove =>
    simp only [act]
    split
    · exact h
    · rename_i hnobody
      exact Finmap.mem_erase.mpr ⟨hkeep rfl (not_not.mp hnobody), h⟩

/-- Who is inside after a step was inside, or has found the entry. -/
theorem act_inside (b : String) {next : Action} (hnext : (act b action s).2 = some next)
    (hin : inside next = 1) : inside action = 1 ∨ b ∈ (act b action s).1.counters := by
  cases action with
  | total outcome =>
    obtain rfl := Option.some.inj hnext
    nomatch hin
  | ensure report =>
    simp only [act] at hnext
    split at hnext
    · obtain rfl := Option.some.inj hnext
      nomatch hin
    · obtain rfl := Option.some.inj hnext
      nomatch hin
  | enter report =>
    cases hb : s.counters.lookup b with
    | none => simp [act, hb] at hnext
    | some load =>
      refine .inr ?_
      simp only [act, hb]
      exact Finmap.mem_of_lookup_eq_some hb
  | add => exact .inl rfl
  | load outcome => exact .inl rfl
  | subtract outcome amount => exact .inl rfl
  | record outcome => exact .inl rfl
  | remove =>
    simp only [act] at hnext
    split at hnext
    · obtain rfl := Option.some.inj hnext
      nomatch hin
    · nomatch hnext

theorem Locked.new : Locked new := ⟨rfl, List.forall_mem_nil _⟩

theorem proceed_eq (u : Unit) (point : Point) (s : Shared) :
    proceed u point s = ((act point.backend point.action s).1,
      (act point.backend point.action s).2.map fun action => ⟨point.backend, action⟩) := rfl

theorem weigh_next (f : Action → Nat) (b : String) (o : Option Action) :
    weigh (fun point : Point => f point.action) (o.map fun action => ⟨b, action⟩) = weigh f o := by
  cases o <;> rfl

theorem inside_first (call : Call) : inside (firstPoint call).action = 0 := by
  cases call with
  | report report backend => cases report <;> rfl
  | forget backend => rfl

theorem Locked.start (h : Locked l) (call : Call) : Locked (program.step l (.start call)) where
  readers := by
    have htotal := total_append (fun point : Point => inside point.action) l.calls
      (some (firstPoint call))
    rw [weigh_some, inside_first] at htotal
    exact h.readers.trans htotal.symm
  present point hpoint hin := by
    rcases mem_start (o := some (firstPoint call)) hpoint with hold | hnew
    · exact h.present point hold hin
    · rw [← Option.some.inj hnew, inside_first] at hin
      nomatch hin

theorem Locked.next (h : Locked l) (u : Unit) (hk : l.calls[i]? = some point) :
    Locked ⟨(proceed u point l.shared).1, move l.calls i (proceed u point l.shared).2⟩ where
  readers := by
    have hmove := total_move (fun point : Point => inside point.action) hk
      (proceed u point l.shared).2
    have hin : inside point.action ≤ l.shared.readers :=
      h.readers ▸ le_total (fun point : Point => inside point.action) hk
    have hlock := act_lock point.backend point.action l.shared hin
    rw [proceed_eq, weigh_next] at hmove
    have hreaders := h.readers
    rw [proceed_eq]
    dsimp only at hmove ⊢
    omega
  present point' hpoint' hin := by
    have hinside {point : Point} (hmem : point ∈ l.calls) (hin : inside point.action = 1) :
        l.shared.readers ≠ 0 := by
      rcases List.getElem?_of_mem hmem with ⟨j, hj⟩
      have hle := le_total (fun point : Point => inside point.action) hj
      rw [hin, ← h.readers] at hle
      omega
    rw [proceed_eq] at hpoint' ⊢
    rcases mem_move hpoint' with hold | hnew
    · exact act_mem _ _ _ (h.present point' hold hin) fun _ hnobody =>
        absurd hnobody (hinside hold hin)
    · rcases Option.map_eq_some_iff.mp hnew with ⟨next, hnext, rfl⟩
      rcases act_inside point.backend hnext hin with hbefore | hfound
      · have hmem := List.mem_of_getElem? hk
        exact act_mem _ _ _ (h.present point hmem hbefore) fun _ hnobody =>
          absurd hnobody (hinside hmem hbefore)
      · exact hfound

theorem Locked.step (h : Locked l) (turn : Turn Call Unit) : Locked (program.step l turn) :=
  inv_step turn (fun call _ => h.start call) (fun _ u _ _ hk => h.next u hk) h

/-! ## 5. Weights on one backend -/

theorem onBackend_start (f : Action → Nat) (l : Balancer) (b : String) (call : Call) :
    onBackend (program.step l (.start call)) b f =
      onBackend l b f + weightAt b f (firstPoint call) :=
  total_append (weightAt b f) l.calls (some (firstPoint call))

/-- The balancer after a step of call `i`. -/
def after (l : Balancer) (i : Nat) (backend : String) (action : Action) : Balancer :=
  ⟨(act backend action l.shared).1,
    move l.calls i ((act backend action l.shared).2.map fun action => ⟨backend, action⟩)⟩

/-- A step of a call on this backend. -/
theorem onBackend_after (f : Action → Nat) (hk : l.calls[i]? = some ⟨b, action⟩) :
    onBackend (after l i b action) b f + f action =
      onBackend l b f + weigh f (act b action l.shared).2 := by
  have hmove := total_move (weightAt b f) hk
    ((act b action l.shared).2.map fun action => ⟨b, action⟩)
  rw [weightAt, if_pos rfl] at hmove
  refine hmove.trans (congrArg (_ + ·) ?_)
  cases (act b action l.shared).2 with
  | none => rfl
  | some next => exact if_pos rfl

/-- A step of a call on another. -/
theorem onBackend_after_of_ne (f : Action → Nat) (hk : l.calls[i]? = some ⟨backend, action⟩)
    (h : b ≠ backend) : onBackend (after l i backend action) b f = onBackend l b f := by
  have hmove := total_move (weightAt b f) hk
    ((act backend action l.shared).2.map fun action => ⟨backend, action⟩)
  rw [weightAt, if_neg (Ne.symm h)] at hmove
  refine hmove.trans ?_
  cases (act backend action l.shared).2 with
  | none => rfl
  | some next => exact congrArg (_ + ·) (if_neg (Ne.symm h))

theorem le_onBackend (f : Action → Nat) (hk : l.calls[i]? = some ⟨b, action⟩) :
    f action ≤ onBackend l b f :=
  le_of_eq_of_le (if_pos rfl).symm (le_total (weightAt b f) hk)

/-! ## 6. The numbers of one backend -/

theorem inFlight_forget (s : Shared) (b : String) : (s.forget b).inFlight b = 0 := by
  rw [Shared.inFlight, loadOf_forget, if_pos rfl]
  rfl

/-- The amount of a guard. -/
theorem toNat_min_one (a : UInt64) : (min a 1).toNat = min a.toNat 1 := by
  have hone : (1 : UInt64).toNat = 1 := rfl
  show (if a ≤ 1 then a else 1).toNat = _
  by_cases h : a ≤ 1
  · have hle := UInt64.le_iff_toNat_le.mp h
    rw [if_pos h]
    omega
  · have hlt := UInt64.lt_iff_toNat_lt.mp (UInt64.not_le.mp h)
    rw [if_neg h]
    omega

/-- What a step adds to `in_flight`. -/
def adds : Action → Nat
  | .add => 1
  | .total _ | .ensure _ | .enter _ | .load _ | .subtract _ _ | .record _ | .remove => 0

def records : Action → Nat
  | .record _ => 1
  | .total _ | .ensure _ | .enter _ | .add | .load _ | .subtract _ _ | .remove => 0

/-- A step removes the entry, or changes `in_flight` by what it adds and takes. -/
theorem inFlight_act (action : Action) (hpresent : inside action = 1 → b ∈ s.counters)
    (hadds : action = .add → s.inFlight b + 1 < 2 ^ 64) (htaking : taking action ≤ s.inFlight b)
    (hkept : action = .remove → s.readers ≠ 0) :
    (act b action s).1.inFlight b + taking action = s.inFlight b + adds action := by
  rw [Shared.inFlight, loadOf_act action hpresent hkept]
  cases action with
  | add => exact toNat_succ (hadds rfl)
  | subtract outcome amount =>
    have hsub : (subInFlight amount (s.loadOf b)).inFlight.toNat = s.inFlight b - amount.toNat :=
      UInt64.toNat_sub_of_le _ _ (UInt64.le_iff_toNat_le.mpr htaking)
    simp only [effect, taking, adds] at htaking ⊢
    omega
  | record outcome => cases outcome <;> rfl
  | total outcome => rfl
  | ensure report => rfl
  | enter report => rfl
  | load outcome => rfl
  | remove => rfl

/-- A load is the first half of a guard. -/
theorem taking_act (action : Action) (s : Shared) :
    weigh taking (act b action s).2 = 0 ∨
      (∃ outcome, action = .load outcome) ∧
        weigh taking (act b action s).2 = min (s.inFlight b) 1 := by
  cases action with
  | load outcome => exact .inr ⟨⟨outcome, rfl⟩, toNat_min_one _⟩
  | enter report =>
    refine .inl ?_
    simp only [act]
    split
    · cases report <;> rfl
    · rfl
  | ensure report =>
    refine .inl ?_
    simp only [act]
    split
    · rfl
    · rfl
  | remove =>
    refine .inl ?_
    simp only [act]
    split
    · rfl
    · rfl
  | total outcome => exact .inl rfl
  | add => exact .inl rfl
  | subtract outcome amount => exact .inl rfl
  | record outcome => exact .inl rfl

/-- A start that is still to add goes on, adds, or has not found the entry. -/
theorem starting_act (action : Action) (s : Shared) :
    weigh starting (act b action s).2 + adds action ≤ starting action := by
  cases action with
  | enter report =>
    simp only [act]
    split
    · cases report <;> exact Nat.le_refl _
    · exact Nat.zero_le _
  | ensure report =>
    simp only [act]
    split
    · exact Nat.le_refl _
    · cases report <;> exact Nat.le_refl _
  | remove =>
    simp only [act]
    split
    · exact Nat.le_refl _
    · exact Nat.le_refl _
  | total outcome => exact Nat.le_refl _
  | add => exact Nat.le_refl _
  | load outcome => exact Nat.le_refl _
  | subtract outcome amount => exact Nat.le_refl _
  | record outcome => exact Nat.le_refl _

theorem started_le (s : Shared) (b : String) : s.started b ≤ s.made.length := List.count_le_length

theorem finished_le (s : Shared) (b : String) : s.finished b ≤ s.made.length :=
  List.countP_le_length

theorem started_act (backend : String) (action : Action) (s : Shared) (b : String) :
    (act backend action s).1.started b = s.started b := by
  rw [Shared.started, act_made]
  rfl

theorem finished_act (backend : String) (action : Action) (s : Shared) (b : String) :
    (act backend action s).1.finished b = s.finished b := by
  rw [Shared.finished, act_made]
  rfl

theorem started_begin (call : Call) (s : Shared) (b : String) :
    (begin call s).1.started b = s.started b + if call = reportStarted b then 1 else 0 := by
  simp [begin, Shared.started, List.count_singleton]

theorem finished_begin (call : Call) (s : Shared) (b : String) :
    (begin call s).1.finished b = s.finished b + if call.finishes b then 1 else 0 := by
  simp [begin, Shared.finished, List.countP_singleton]

/-! ### The first step -/

theorem starting_first (call : Call) (b : String) :
    weightAt b starting (firstPoint call) = if call = reportStarted b then 1 else 0 := by
  cases call with
  | report report backend =>
    cases report with
    | started =>
      show (if backend = b then 1 else 0) = _
      simp [reportStarted]
    | finished outcome =>
      show (if backend = b then 0 else 0) = _
      simp [reportStarted]
  | forget backend =>
    show (if backend = b then 0 else 0) = _
    simp [reportStarted]

theorem finishing_first {f : Action → Nat} (hstarted : f (.ensure .started) = 0)
    (hfinished : ∀ outcome, f (.total outcome) = 1) (hremove : f .remove = 0) (call : Call)
    (b : String) : weightAt b f (firstPoint call) = if call.finishes b then 1 else 0 := by
  cases call with
  | report report backend =>
    cases report with
    | started =>
      show (if backend = b then f (.ensure .started) else 0) = _
      simp [hstarted, Call.finishes]
    | finished outcome =>
      show (if backend = b then f (.total outcome) else 0) = _
      simp [hfinished, Call.finishes]
  | forget backend =>
    show (if backend = b then f .remove else 0) = _
    simp [hremove, Call.finishes]

theorem finishing_of_finishes {call : Call} (h : call.finishes b = true) :
    b ∈ finishing (.start call) := by
  cases call with
  | report report backend =>
    cases report with
    | started => nomatch h
    | finished outcome => exact congrArg some (eq_of_beq h)
  | forget backend => nomatch h

theorem taking_first (call : Call) (b : String) : weightAt b taking (firstPoint call) = 0 := by
  have hzero : taking (firstPoint call).action = 0 := by
    cases call with
    | report report backend => cases report <;> rfl
    | forget backend => rfl
  rw [weightAt, hzero]
  exact ite_self 0

/-! ## 7. Guarded runs -/

/-- What is about to be taken off is there, and what is there has been started. -/
structure Guard (b : String) (l : Balancer) : Prop where
  taken : onBackend l b taking ≤ l.shared.inFlight b
  bounded : l.shared.inFlight b + onBackend l b starting ≤ l.shared.started b

theorem Guard.start (h : Guard b l) (call : Call) : Guard b (program.step l (.start call)) := by
  have hbounded := h.bounded
  have hstarted := started_begin call l.shared b
  have hfirst := starting_first call b
  constructor
  · rw [onBackend_start, taking_first]
    exact h.taken
  · rw [onBackend_start]
    show l.shared.inFlight b + _ ≤ (begin call l.shared).1.started b
    omega

/-- Nothing is about to be taken off where nobody is inside. -/
theorem Locked.taking_eq_zero (h : Locked l) (hnobody : l.shared.readers = 0) (b : String) :
    onBackend l b taking = 0 := by
  apply total_of_forall_eq_zero
  intro point hpoint
  have hinside := total_eq_zero (h.readers.symm.trans hnobody) hpoint
  have hzero : taking point.action = 0 := by
    cases hpoint : point.action <;> first | rfl | simp [hpoint, inside] at hinside
  rw [weightAt, hzero]
  exact ite_self 0

theorem Guard.next (h : Guard b l) (hlocked : Locked l) {u : Unit}
    (hcond : Guarded l (.next i u)) (hk : l.calls[i]? = some ⟨backend, action⟩) :
    Guard b (after l i backend action) := by
  have htaken := h.taken
  have hbounded := h.bounded
  have hstarted : (after l i backend action).shared.started b = l.shared.started b :=
    started_act backend action l.shared b
  by_cases hother : b ≠ backend
  · have hflight : (after l i backend action).shared.inFlight b = l.shared.inFlight b :=
      congrArg (·.inFlight.toNat) (loadOf_act_of_ne action l.shared hother)
    have htaking := onBackend_after_of_ne taking hk hother
    have hstarting := onBackend_after_of_ne starting hk hother
    constructor
    · omega
    · omega
  obtain rfl : b = backend := not_not.mp hother
  have htaking := onBackend_after taking hk
  have hstarting := onBackend_after starting hk
  have hle := starting_act (b := b) action l.shared
  have hown := le_onBackend taking hk
  by_cases hremove : action = .remove ∧ l.shared.readers = 0
  · obtain ⟨rfl, hnobody⟩ := hremove
    have hact : act b .remove l.shared = (l.shared.forget b, none) := by
      rw [act, if_neg (not_not.mpr hnobody)]
    have hflight : (after l i b .remove).shared.inFlight b = 0 := by
      rw [after, hact]
      exact inFlight_forget l.shared b
    have hnone := hlocked.taking_eq_zero hnobody b
    rw [hact] at htaking hstarting
    simp only [weigh_none, taking, starting] at htaking hstarting
    constructor
    · omega
    · omega
  · have hadds (hadd : action = .add) : l.shared.inFlight b + 1 < 2 ^ 64 := by
      have hone : starting action ≤ onBackend l b starting := le_onBackend starting hk
      have hmade := started_le l.shared b
      have hfits := hcond.fits
      rw [hadd, starting] at hone
      omega
    have hflight : (after l i b action).shared.inFlight b + taking action =
        l.shared.inFlight b + adds action :=
      inFlight_act action (hlocked.present _ (List.mem_of_getElem? hk)) hadds
        (hown.trans htaken) (fun heq hnobody => hremove ⟨heq, hnobody⟩)
    have hnext : weigh taking (act b action l.shared).2 + onBackend l b taking ≤
        l.shared.inFlight b + adds action := by
      rcases taking_act (b := b) action l.shared with hzero | ⟨⟨outcome, rfl⟩, hmin⟩
      · omega
      · have hguard := hcond.load b (by simp [Sys.point, hk, Point.loads])
        omega
    constructor
    · omega
    · omega

structure Guards (l : Balancer) : Prop where
  locked : Locked l
  guard : ∀ b, Guard b l

theorem Guards.new : Guards new where
  locked := .new
  guard _ := ⟨Nat.le_refl 0, Nat.le_refl 0⟩

theorem Guards.step (h : Guards l) {turn : Turn Call Unit} (hcond : Guarded l turn) :
    Guards (program.step l turn) := by
  refine ⟨h.locked.step turn, fun b => inv_step turn ?_ ?_ (h.guard b)⟩
  · exact fun call _ => (h.guard b).start call
  · intro i u point hturn hk
    rw [hturn] at hcond
    exact (h.guard b).next h.locked hcond hk

theorem Guards.bounded (h : Guards l) : Bounded l := by
  intro b
  have hbounded := (h.guard b).bounded
  omega

/-! ## 8. Paired runs -/

/-- Every report on a backend is in its counters, but for what is still under way. -/
structure Account (b : String) (l : Balancer) : Prop where
  flow : l.shared.inFlight b + l.shared.finished b + onBackend l b starting =
    l.shared.started b + onBackend l b unsubtracted
  outcomes : l.shared.done b + onBackend l b unrecorded = l.shared.finished b
  paired : l.shared.finished b + onBackend l b starting ≤ l.shared.started b

/-- A report past `ensure_counters` finds its entry, and a guard has found work in flight. -/
def Ready (s : Shared) (b : String) : Action → Prop
  | .enter _ => b ∈ s.counters
  | .subtract _ amount => amount = 1
  | .total _ | .ensure _ | .add | .load _ | .record _ | .remove => True

structure Orderly (l : Balancer) : Prop where
  locked : Locked l
  account : ∀ b, Account b l
  ready : ∀ point ∈ l.calls, Ready l.shared point.backend point.action

theorem unsubtracted_le (l : Balancer) (b : String) :
    onBackend l b unsubtracted ≤ onBackend l b unrecorded := by
  apply total_mono
  intro point
  unfold weightAt
  split
  · cases point.action with
    | ensure report => cases report <;> exact Nat.le_refl _
    | enter report => cases report <;> exact Nat.le_refl _
    | record outcome => exact Nat.zero_le _
    | total outcome => exact Nat.le_refl _
    | add => exact Nat.le_refl _
    | load outcome => exact Nat.le_refl _
    | subtract outcome amount => exact Nat.le_refl _
    | remove => exact Nat.le_refl _
  · exact Nat.le_refl 0

theorem Account.bounded (h : Account b l) : l.shared.inFlight b ≤ l.shared.started b := by
  have hflow := h.flow
  have houtcomes := h.outcomes
  have hle := unsubtracted_le l b
  omega

/-- What finishing reports will still take off is in flight. -/
theorem Account.owed (h : Account b l) : onBackend l b unsubtracted ≤ l.shared.inFlight b := by
  have hflow := h.flow
  have hpaired := h.paired
  omega

/-- Where no report has been made, none is under way and nothing is counted. -/
theorem Account.of_none (h : Account b l) (hstarted : l.shared.started b = 0)
    (hfinished : l.shared.finished b = 0) :
    onBackend l b starting = 0 ∧ onBackend l b unrecorded = 0 ∧ onBackend l b unsubtracted = 0 := by
  have houtcomes := h.outcomes
  have hpaired := h.paired
  have hle := unsubtracted_le l b
  omega

/-! ### Steps of a report -/

/-- A report that finds its entry does what it owes, or goes on owing it. -/
theorem owes_act (action : Action) (hready : Ready s b action) :
    weigh starting (act b action s).2 + adds action = starting action ∧
      weigh unsubtracted (act b action s).2 + taking action = unsubtracted action ∧
      weigh unrecorded (act b action s).2 + records action = unrecorded action := by
  cases action with
  | enter report =>
    rcases Finmap.mem_iff.mp hready with ⟨load, hload⟩
    simp only [act, hload]
    cases report <;> exact ⟨rfl, rfl, rfl⟩
  | subtract outcome amount =>
    obtain rfl : amount = 1 := hready
    exact ⟨rfl, rfl, rfl⟩
  | ensure report =>
    simp only [act]
    split
    · exact ⟨rfl, rfl, rfl⟩
    · cases report <;> exact ⟨rfl, rfl, rfl⟩
  | remove =>
    simp only [act]
    split
    · exact ⟨rfl, rfl, rfl⟩
    · exact ⟨rfl, rfl, rfl⟩
  | total outcome => exact ⟨rfl, rfl, rfl⟩
  | add => exact ⟨rfl, rfl, rfl⟩
  | load outcome => exact ⟨rfl, rfl, rfl⟩
  | record outcome => exact ⟨rfl, rfl, rfl⟩

theorem done_of_loadOf {s' : Shared} (h : s'.loadOf b = s.loadOf b) : s'.done b = s.done b := by
  rw [Shared.done, h]
  rfl

theorem done_act (action : Action) (hpresent : inside action = 1 → b ∈ s.counters)
    (hrecords : records action = 1 → s.done b + 1 < 2 ^ 64)
    (hkept : action = .remove → s.readers ≠ 0) :
    (act b action s).1.done b = s.done b + records action := by
  rw [Shared.done, loadOf_act action hpresent hkept]
  cases action with
  | record outcome =>
    have hfits := hrecords rfl
    unfold Shared.done at hfits ⊢
    cases outcome with
    | completed =>
      have hsucc := toNat_succ (a := (s.loadOf b).completed) (by omega)
      simp only [effect, countOutcome, records]
      omega
    | saturated =>
      have hsucc := toNat_succ (a := (s.loadOf b).saturated) (by omega)
      simp only [effect, countOutcome, records]
      omega
    | failed =>
      have hsucc := toNat_succ (a := (s.loadOf b).failed) (by omega)
      simp only [effect, countOutcome, records]
      omega
  | total outcome => rfl
  | ensure report => rfl
  | enter report => rfl
  | add => rfl
  | load outcome => rfl
  | subtract outcome amount => rfl
  | remove => rfl

theorem Account.start (h : Account b l) {call : Call} (hpaired : Paired l (.start call)) :
    Account b (program.step l (.start call)) := by
  have hflow := h.flow
  have houtcomes := h.outcomes
  have hbefore := h.paired
  have hstarted : (program.step l (.start call)).shared.started b = _ :=
    started_begin call l.shared b
  have hfinished : (program.step l (.start call)).shared.finished b = _ :=
    finished_begin call l.shared b
  have hflight : (program.step l (.start call)).shared.inFlight b = l.shared.inFlight b := rfl
  have hdone : (program.step l (.start call)).shared.done b = l.shared.done b := rfl
  have hstarting := onBackend_start starting l b call
  have hunsubtracted := onBackend_start unsubtracted l b call
  have hunrecorded := onBackend_start unrecorded l b call
  rw [starting_first] at hstarting
  rw [finishing_first rfl (fun _ => rfl) rfl] at hunsubtracted hunrecorded
  refine ⟨by omega, by omega, ?_⟩
  by_cases hfinishes : call.finishes b = true
  · have hown := hpaired b (finishing_of_finishes hfinishes)
    rw [if_pos hfinishes] at hfinished
    omega
  · rw [if_neg hfinishes] at hfinished
    omega

/-- Counters that nothing has touched are removed. -/
theorem Account.remove (h : Account b l) (hk : l.calls[i]? = some ⟨b, .remove⟩)
    (hnobody : l.shared.readers = 0) (hstarted : l.shared.started b = 0)
    (hfinished : l.shared.finished b = 0) : Account b (after l i b .remove) := by
  have hact : act b .remove l.shared = (l.shared.forget b, none) := by
    rw [act, if_neg (not_not.mpr hnobody)]
  have hnone := h.of_none hstarted hfinished
  have hstarting := onBackend_after starting hk
  have hunsubtracted := onBackend_after unsubtracted hk
  have hunrecorded := onBackend_after unrecorded hk
  simp only [hact, weigh_none, starting, unsubtracted, unrecorded]
    at hstarting hunsubtracted hunrecorded
  have hstarted' : (after l i b .remove).shared.started b = 0 :=
    (started_act b .remove l.shared b).trans hstarted
  have hfinished' : (after l i b .remove).shared.finished b = 0 :=
    (finished_act b .remove l.shared b).trans hfinished
  have hflight : (after l i b .remove).shared.inFlight b = 0 := by
    rw [after, hact]
    exact inFlight_forget l.shared b
  have hdone : (after l i b .remove).shared.done b = 0 := by
    rw [after, hact, Shared.done, loadOf_forget, if_pos rfl]
    rfl
  refine ⟨by omega, by omega, by omega⟩

theorem Account.next (h : Account b l) (hlocked : Locked l) {u : Unit}
    (hkept : Kept l (.next i u)) (hk : l.calls[i]? = some ⟨backend, action⟩)
    (hready : Ready l.shared backend action) : Account b (after l i backend action) := by
  have hflow := h.flow
  have houtcomes := h.outcomes
  have hpaired := h.paired
  have hstarted : (after l i backend action).shared.started b = l.shared.started b :=
    started_act backend action l.shared b
  have hfinished : (after l i backend action).shared.finished b = l.shared.finished b :=
    finished_act backend action l.shared b
  by_cases hother : b ≠ backend
  · have hload := loadOf_act_of_ne action l.shared hother
    have hflight : (after l i backend action).shared.inFlight b = l.shared.inFlight b :=
      congrArg (·.inFlight.toNat) hload
    have hdone : (after l i backend action).shared.done b = l.shared.done b := done_of_loadOf hload
    have hstarting := onBackend_after_of_ne starting hk hother
    have hunsubtracted := onBackend_after_of_ne unsubtracted hk hother
    have hunrecorded := onBackend_after_of_ne unrecorded hk hother
    exact ⟨by omega, by omega, by omega⟩
  obtain rfl : b = backend := not_not.mp hother
  by_cases hremove : action = .remove ∧ l.shared.readers = 0
  · obtain ⟨rfl, hnobody⟩ := hremove
    have hnone := hkept.remove b (by simp [Sys.point, hk, Point.removes])
    exact h.remove hk hnobody hnone.1 hnone.2
  have hstarting := onBackend_after starting hk
  have hunsubtracted := onBackend_after unsubtracted hk
  have hunrecorded := onBackend_after unrecorded hk
  have howes := owes_act action hready
  have hpresent := hlocked.present _ (List.mem_of_getElem? hk)
  have hstays (heq : action = .remove) : l.shared.readers ≠ 0 := fun hnobody =>
    hremove ⟨heq, hnobody⟩
  have hfits := hkept.fits
  have hmade := started_le l.shared b
  have hadds (hadd : action = .add) : l.shared.inFlight b + 1 < 2 ^ 64 := by
    have hone : starting action ≤ onBackend l b starting := le_onBackend starting hk
    have hle := unsubtracted_le l b
    rw [hadd, starting] at hone
    omega
  have hrecords (hrecord : records action = 1) : l.shared.done b + 1 < 2 ^ 64 := by
    have hone : unrecorded action ≤ onBackend l b unrecorded := le_onBackend unrecorded hk
    omega
  have htaking : taking action ≤ l.shared.inFlight b := by
    have hone : unsubtracted action ≤ onBackend l b unsubtracted := le_onBackend unsubtracted hk
    have howed := h.owed
    omega
  have hflight : (after l i b action).shared.inFlight b + taking action =
      l.shared.inFlight b + adds action := inFlight_act action hpresent hadds htaking hstays
  have hdone : (after l i b action).shared.done b = l.shared.done b + records action :=
    done_act action hpresent hrecords hstays
  exact ⟨by omega, by omega, by omega⟩

theorem Ready.start {call : Call} : Ready s (firstPoint call).backend (firstPoint call).action := by
  cases call with
  | report report backend => cases report <;> trivial
  | forget backend => trivial

/-- A report under way on a backend has been made. -/
theorem Account.made (h : Account b l) {report : Report} {i : Nat}
    (hk : l.calls[i]? = some ⟨b, .enter report⟩) :
    ¬ (l.shared.started b = 0 ∧ l.shared.finished b = 0) := by
  intro hnone
  have hzero := h.of_none hnone.1 hnone.2
  have hstarting : starting (.enter report) ≤ _ := le_onBackend starting hk
  have hunrecorded : unrecorded (.enter report) ≤ _ := le_onBackend unrecorded hk
  cases report with
  | started =>
    rw [starting] at hstarting
    omega
  | finished outcome =>
    rw [unrecorded] at hunrecorded
    omega

/-- The step of a report leaves it ready for the next. -/
theorem Ready.act (h : Account b l) (hk : l.calls[i]? = some ⟨b, action⟩) {next : Action}
    (hnext : (act b action l.shared).2 = some next) :
    Ready (act b action l.shared).1 b next := by
  cases action with
  | total outcome =>
    obtain rfl := Option.some.inj hnext
    trivial
  | ensure report =>
    rw [LoadBalancer.act] at hnext ⊢
    split at hnext
    · obtain rfl := Option.some.inj hnext
      trivial
    · rename_i hnobody
      obtain rfl := Option.some.inj hnext
      rw [if_neg hnobody]
      exact Finmap.mem_insert.mpr (.inl rfl)
  | enter report =>
    cases hb : l.shared.counters.lookup b with
    | none => simp [LoadBalancer.act, hb] at hnext
    | some load =>
      simp only [LoadBalancer.act, hb, Option.some.injEq] at hnext
      obtain rfl := hnext
      cases report <;> trivial
  | add => nomatch hnext
  | load outcome =>
    obtain rfl := Option.some.inj hnext
    -- The report's own start is still in flight.
    have hone : unsubtracted (.load outcome) ≤ _ := le_onBackend unsubtracted hk
    have howed := h.owed
    have hmin := toNat_min_one (l.shared.loadOf b).inFlight
    rw [unsubtracted] at hone
    unfold Shared.inFlight at howed
    apply UInt64.toNat_inj.mp
    rw [hmin]
    exact Nat.min_eq_right (hone.trans howed)
  | subtract outcome amount =>
    obtain rfl := Option.some.inj hnext
    trivial
  | record outcome => nomatch hnext
  | remove =>
    rw [LoadBalancer.act] at hnext
    split at hnext
    · obtain rfl := Option.some.inj hnext
      trivial
    · nomatch hnext

theorem Orderly.new : Orderly new where
  locked := .new
  account _ := ⟨rfl, rfl, Nat.le_refl 0⟩
  ready := List.forall_mem_nil _

theorem Orderly.next (h : Orderly l) {u : Unit} (hkept : Kept l (.next i u))
    (hk : l.calls[i]? = some ⟨backend, action⟩) : Orderly (after l i backend action) where
  locked := h.locked.next u hk
  account b := (h.account b).next h.locked hkept hk (h.ready _ (List.mem_of_getElem? hk))
  ready point hpoint := by
    rcases mem_move hpoint with hold | hnew
    · have hready := h.ready point hold
      obtain ⟨b, other⟩ := point
      cases other with
      | enter report =>
        apply act_mem backend action l.shared hready
        intro heq _ hb
        obtain rfl : b = backend := hb
        rcases List.getElem?_of_mem hold with ⟨j, hj⟩
        apply (h.account b).made hj
        obtain rfl := heq
        exact hkept.remove b (by simp [Sys.point, hk, Point.removes])
      | subtract outcome amount => exact hready
      | total outcome => trivial
      | ensure report => trivial
      | add => trivial
      | load outcome => trivial
      | record outcome => trivial
      | remove => trivial
    · rcases Option.map_eq_some_iff.mp hnew with ⟨next, hnext, rfl⟩
      exact Ready.act (h.account backend) hk hnext

theorem Orderly.step (h : Orderly l) {turn : Turn Call Unit} (hpaired : Paired l turn)
    (hkept : Kept l turn) : Orderly (program.step l turn) := by
  apply inv_step turn ?_ ?_ h
  · intro call hturn
    rw [hturn] at hpaired
    refine ⟨h.locked.start call, fun b => (h.account b).start hpaired, ?_⟩
    intro point hpoint
    rcases mem_start (o := some (firstPoint call)) hpoint with hold | hnew
    · exact h.ready point hold
    · rw [← Option.some.inj hnew]
      exact Ready.start
  · intro i u point hturn hk
    rw [hturn] at hkept
    exact h.next hkept hk

theorem Orderly.bounded (h : Orderly l) : Bounded l := fun b => (h.account b).bounded

theorem Orderly.settled (h : Orderly l) : Settled l := by
  intro hquiet b
  have hflow := (h.account b).flow
  have houtcomes := (h.account b).outcomes
  have hzero (f : Action → Nat) : onBackend l b f = 0 := by
    rw [onBackend, hquiet]
    rfl
  rw [hzero] at hflow houtcomes
  rw [hzero] at hflow
  exact ⟨hflow, houtcomes⟩

/-! ## 9. Whole runs -/

/-- Where no two finishing reports guard with the same work in flight, `in_flight` does not wrap.
Where every finishing report has its start and no counters are removed that count anything, it does
not wrap either, and the counters at rest are those of the reports. -/
theorem load_counters_run (turns : List (Turn Call Unit)) :
    (Along program.step Guarded new turns → Always program.step Bounded new turns) ∧
      (Along program.step Paired new turns → Along program.step Kept new turns →
        Always program.step Bounded new turns ∧ Always program.step Settled new turns) := by
  constructor
  · intro hrun before after hsplit
    have hall := always_of_along (P := Guarded) (fun _ _ h => Guards.step h) Guards.new hrun
    exact (hall before after hsplit).bounded
  · intro hpaired hkept
    have hall := always_of_along (P := fun l turn => Paired l turn ∧ Kept l turn)
      (fun _ _ hinv hcond => Orderly.step hinv hcond.1 hcond.2) Orderly.new
      (along_and.mpr ⟨hpaired, hkept⟩)
    constructor
    · exact fun before after hsplit => (hall before after hsplit).bounded
    · exact fun before after hsplit => (hall before after hsplit).settled

/-- Two work items, one completed while the other starts. -/
def served : List (Turn Call Unit) :=
  [.start (reportStarted "npcap"), .next 0 (), .next 0 (), .next 0 (),
    .start (reportCompleted "npcap"), .start (reportStarted "npcap"), .next 0 (), .next 0 (),
    .next 1 (), .next 0 (), .next 0 (), .next 1 (), .next 0 (), .next 1 (), .next 0 ()]

theorem load_counters_run_served :
    Always program.step Bounded new served ∧
      Always program.step Bounded new served ∧ Always program.step Settled new served :=
  ⟨(load_counters_run served).1 (by decide),
    (load_counters_run served).2 (by decide) (by decide)⟩

/-- Two finishing reports load the one work item in flight, and both take it off. -/
def guardedTwice : List (Turn Call Unit) :=
  [.start (reportStarted "npcap"), .next 0 (), .next 0 (), .next 0 (),
    .start (reportCompleted "npcap"), .start (reportFailed "npcap"), .next 0 (), .next 0 (),
    .next 1 (), .next 1 (), .next 0 (), .next 0 (), .next 1 (), .next 1 (), .next 0 (), .next 1 ()]

/-- A work item starts, and its backend is stopped. -/
def forgotten : List (Turn Call Unit) :=
  [.start (reportStarted "npcap"), .next 0 (), .next 0 (), .next 0 (), .start (.forget "npcap"),
    .next 0 ()]

theorem in_flight_wraps_and_is_forgotten :
    ¬ Always program.step Bounded new guardedTwice ∧
      Along program.step Paired new forgotten ∧ ¬ Always program.step Settled new forgotten := by
  refine ⟨?_, by decide, ?_⟩
  · intro h
    exact absurd (h guardedTwice [] (List.append_nil _).symm "npcap") (by decide)
  · intro h
    exact absurd (h forgotten [] (List.append_nil _).symm rfl "npcap").1 (by decide)

end LoadBalancer

end NetworkEngine
