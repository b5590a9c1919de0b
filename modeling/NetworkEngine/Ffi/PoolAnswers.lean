import Mathlib.Logic.Relation
import NetworkEngine.Engine.WorkerPool

/-!
# PoolAnswers — the worker pool behind the lookups

`MetaSys` has one list of queued lookups, any of which may be answered next, and one of results that
`drain_metadata_results` takes in order.  Whatever the worker pool does, `MetaSys` can do as well:
its lookups are those that the pool has not answered, its results those in the result channel.
-/

namespace NetworkEngine

open Transition Threads WorkerPool

namespace Ffi

/-! ## 1. What is under way -/

/-- The lookups that a worker has not answered. -/
def unanswered (w : MetadataWorker) : List WorkItem := w.queue ++ w.sending.toList.map itemOf

/-- A lookup joins the list, one of the list is answered, or a result is taken. -/
inductive Answering (t : Ticket) (m : MetaSys) : MetaSys → Prop where
  | idle : Answering t m m
  | enqueue (item : WorkItem) : Answering t m { m with workItems := m.workItems ++ [(t, item)] }
  | answer (i : Nat) : Answering t m (m.answer i)
  | drain : Answering t m { m with workResults := m.workResults.tail }

/-- The lookups and results of `MetaSys` are those of the pool. -/
structure Behind (m : MetaSys) (p : WorkerPool) : Prop where
  items : (m.workItems.map (·.2)).Perm (p.workers.flatMap unanswered)
  results : m.workResults.map (·.2) = p.results
  sending : ∀ w ∈ p.workers, ∀ result, w.sending = some result →
    processItem (itemOf result) = some result

variable {t : Ticket} {m : MetaSys} {p p' : WorkerPool} {s : WorkerPool.Sys}
  {w w' : MetadataWorker} {workers : List MetadataWorker} {i : Nat}

/-- What one worker loses or gains, all of them do. -/
theorem unanswered_set (gone come : List WorkItem) (hw : workers[i]? = some w)
    (h : (unanswered w' ++ gone).Perm (unanswered w ++ come)) :
    ((workers.set i w').flatMap unanswered ++ gone).Perm (workers.flatMap unanswered ++ come) := by
  rw [List.perm_iff_count] at h ⊢
  intro item
  have hmove : ((workers.set i w').flatMap unanswered).count item + (unanswered w).count item =
      (workers.flatMap unanswered).count item + (unanswered w').count item := by
    rw [List.count_flatMap, List.count_flatMap]
    exact total_move (fun w => (unanswered w).count item) hw (some w')
  have hworker := h item
  simp only [List.count_append] at hworker ⊢
  omega

theorem unanswered_congr (hw : workers[i]? = some w) (h : (unanswered w').Perm (unanswered w)) :
    ((workers.set i w').flatMap unanswered).Perm (workers.flatMap unanswered) := by
  have hset := unanswered_set [] [] hw (h.append_right [])
  rw [List.append_nil, List.append_nil] at hset
  exact hset

/-- The pool with other workers and results. -/
theorem Behind.congr (h : Behind m p) (hworkers : p'.workers = p.workers)
    (hresults : p'.results = p.results) : Behind m p' where
  items := by
    rw [hworkers]
    exact h.items
  results := by
    rw [hresults]
    exact h.results
  sending := by
    rw [hworkers]
    exact h.sending

/-! ## 2. Moves -/

theorem Behind.sending_set (h : Behind m p)
    (hw' : ∀ result, w'.sending = some result → processItem (itemOf result) = some result) :
    ∀ v ∈ p.workers.set i w', ∀ result, v.sending = some result →
      processItem (itemOf result) = some result := by
  intro v hv
  rcases List.mem_or_eq_of_mem_set hv with hold | rfl
  · exact h.sending v hold
  · exact hw'

/-- A queued lookup that the pool answers is one of the list. -/
theorem Behind.answer (h : Behind m p) {result : WorkResult} {rest : List WorkItem}
    (hresult : processItem (itemOf result) = some result)
    (hrest : (rest ++ [itemOf result]).Perm (p.workers.flatMap unanswered)) :
    ∃ i, ((m.answer i).workItems.map (·.2)).Perm rest ∧
      (m.answer i).workResults.map (·.2) = p.results ++ [result] := by
  have hall := h.items.trans hrest.symm
  have hmem : itemOf result ∈ m.workItems.map (·.2) :=
    hall.mem_iff.mpr (List.mem_append_right _ List.mem_cons_self)
  obtain ⟨⟨t, item⟩, hentry, rfl⟩ := List.mem_map.mp hmem
  obtain ⟨i, hi⟩ := List.getElem?_of_mem hentry
  have hanswer : m.answer i = { m with
      workItems := m.workItems.eraseIdx i
      workResults := m.workResults ++ [(t, result)] } := by
    rw [MetaSys.answer, hi]
    dsimp only
    rw [hresult]
    rfl
  refine ⟨i, ?_, ?_⟩
  · -- The other lookups stay.
    obtain ⟨hlt, hget⟩ := List.getElem?_eq_some_iff.mp hi
    have hsplit := (List.getElem_cons_eraseIdx_perm hlt).map (·.2)
    rw [hget, List.map_cons] at hsplit
    rw [hanswer]
    exact ((hsplit.trans hall).trans List.perm_append_comm).cons_inv
  · rw [hanswer, List.map_append, h.results]
    rfl

/-- The worker's step. -/
theorem Behind.stepped (h : Behind m p) (t : Ticket) {sent : Option WorkResult}
    (hw : p.workers[i]? = some w) (hstep : Stepped w w' sent) :
    ∃ m', Answering t m m' ∧ Behind m'
      { p with workers := p.workers.set i w', results := p.results ++ sent.toList } := by
  have hsending := h.sending w (List.mem_of_getElem? hw)
  have hidle (hsame : (unanswered w').Perm (unanswered w))
      (hw' : ∀ result, w'.sending = some result → processItem (itemOf result) = some result) :
      Behind m { p with workers := p.workers.set i w', results := p.results ++ [] } :=
    ⟨h.items.trans (unanswered_congr hw hsame).symm, h.results.trans (List.append_nil _).symm,
      h.sending_set hw'⟩
  cases hstep with
  | blocked => exact ⟨m, .idle, hidle (.refl _) hsending⟩
  | ended _ _ => exact ⟨m, .idle, hidle (.refl _) hsending⟩
  | @taken given queue hnone hqueue =>
    refine ⟨m, .idle, hidle ?_ ?_⟩
    · rw [unanswered, unanswered, hnone, hqueue, Option.toList_none, List.map_nil, List.append_nil]
      exact List.perm_append_singleton given queue
    · intro result hresult
      cases hresult
      rfl
  | @sent result hsome =>
    have hrest : ((p.workers.set i { w with sending := none }).flatMap unanswered ++
        [itemOf result]).Perm (p.workers.flatMap unanswered) := by
      have hworker : unanswered { w with sending := none } ++ [itemOf result] =
          unanswered w ++ [] := by
        rw [unanswered, unanswered, hsome, List.append_nil, List.append_assoc]
        rfl
      have hset := unanswered_set [itemOf result] [] hw (.of_eq hworker)
      rw [List.append_nil] at hset
      exact hset
    obtain ⟨k, hitems, hresults⟩ := h.answer (hsending result hsome) hrest
    exact ⟨m.answer k, .answer k, hitems, hresults, h.sending_set nofun⟩

/-- An accepted lookup joins the list. -/
theorem Behind.trySend (h : Behind m p) (t : Ticket) {index : Nat} {item : WorkItem}
    (hsend : p.trySend index item = .ok p') :
    ∃ m', Answering t m m' ∧ Behind m' p' := by
  obtain ⟨w, hw, -, rfl⟩ := trySend_ok hsend
  refine ⟨_, .enqueue item, ?_, h.results, h.sending_set (h.sending w (List.mem_of_getElem? hw))⟩
  have hworker : (unanswered { w with queue := w.queue ++ [item] } ++ []).Perm
      (unanswered w ++ [item]) := by
    rw [unanswered, unanswered, List.append_nil, List.append_assoc, List.append_assoc]
    exact List.perm_append_comm.append_left _
  have hset := unanswered_set [] [item] hw hworker
  rw [List.append_nil] at hset
  rw [List.map_append]
  exact (h.items.append_right _).trans hset.symm

/-- A receive takes the first result, if there is one. -/
theorem Behind.tail (h : Behind m p) (hworkers : p'.workers = p.workers)
    (hresults : p'.results = p.results.tail) :
    Behind { m with workResults := m.workResults.tail } p' where
  items := by
    rw [hworkers]
    exact h.items
  results := by
    rw [hresults, ← h.results, List.map_tail]
  sending := by
    rw [hworkers]
    exact h.sending

theorem Behind.receive (h : Behind m p) (t : Ticket) (more done : StopPhase) :
    ∃ m', Answering t m m' ∧ Behind m' (p.receive more done).1 := by
  cases hresults : p.results with
  | nil =>
    rw [receive_nil hresults]
    exact ⟨m, .idle, h.congr rfl rfl⟩
  | cons result results =>
    rw [receive_cons hresults]
    exact ⟨_, .drain, h.tail rfl (by rw [hresults]; rfl)⟩

theorem Behind.drain (h : Behind m p) (t : Ticket) :
    ∃ m', Answering t m m' ∧ Behind m' p.drain.1 := by
  rw [WorkerPool.drain]
  cases p.phase with
  | looping =>
    dsimp only
    split
    · exact ⟨m, .idle, h.congr rfl rfl⟩
    · exact h.receive t _ _
  | draining => exact h.receive t _ _
  | finishing => exact h.receive t _ _
  | running => exact ⟨m, .idle, h⟩
  | stopped => exact ⟨m, .idle, h⟩

theorem Behind.tryRecvResult (h : Behind m s.pool) (t : Ticket) :
    ∃ m', Answering t m m' ∧ Behind m' s.tryRecvResult.pool := by
  rw [WorkerPool.Sys.tryRecvResult, WorkerPool.tryRecvResult]
  cases hresults : s.pool.results with
  | nil =>
    rw [tryRecv_nil hresults]
    cases s.pool.allFinished <;> exact ⟨m, .idle, h⟩
  | cons result results =>
    rw [tryRecv_cons hresults]
    exact ⟨_, .drain, h.tail rfl (by rw [hresults]; rfl)⟩

theorem Behind.probe (h : Behind m s.pool) (t : Ticket) (k : Nat) :
    ∃ m', Answering t m m' ∧ Behind m' (s.probe k).pool := by
  have hstep := probed s k
  generalize s.probe k = s' at hstep
  cases hstep with
  | idle _ => exact ⟨m, .idle, h⟩
  | accepted _ hsend => exact h.trySend t hsend
  | refused _ _ _ => exact ⟨m, .idle, h⟩
  | failed _ _ _ _ => exact ⟨m, .idle, h⟩

/-! ## 3. Runs -/

theorem behind_step (h : Behind m s.pool) (t : Ticket) (move : Move) :
    ∃ m', Answering t m m' ∧ Behind m' (WorkerPool.step s move).pool := by
  cases move with
  | enqueue item =>
    refine ⟨m, .idle, ?_⟩
    rw [WorkerPool.step, WorkerPool.Sys.enqueue]
    split
    · split <;> exact h.congr rfl rfl
    · exact h
  | probe k => exact h.probe t k
  | work i =>
    rw [WorkerPool.step, WorkerPool.work]
    cases hw : s.pool.workers[i]? with
    | none => exact ⟨m, .idle, h⟩
    | some w => exact h.stepped t hw (WorkerPool.stepped _ _ w)
  | tryRecvResult =>
    rw [WorkerPool.step]
    split
    · exact h.tryRecvResult t
    · exact ⟨m, .idle, h⟩
  | stopAll =>
    refine ⟨m, .idle, ?_⟩
    rw [WorkerPool.step]
    split
    · exact h.congr rfl rfl
    · exact h
  | drain => exact h.drain t

theorem behind_new (hitems : m.workItems = []) (hresults : m.workResults = [])
    (count queueCapacity : Nat) : Behind m (.withQueueCapacity count queueCapacity) where
  items := by
    have hempty : (List.replicate (max count 1) MetadataWorker.new).flatMap unanswered = [] := by
      apply List.flatMap_eq_nil_iff.mpr
      intro w hw
      rw [List.eq_of_mem_replicate hw]
      rfl
    rw [hitems]
    exact .of_eq hempty.symm
  results := by
    rw [hresults]
    rfl
  sending := by
    intro w hw result hresult
    rw [List.eq_of_mem_replicate hw] at hresult
    cases hresult

/-- `MetaSys` follows every run of the pool.  The pool knows nothing of tickets, so that any will do
for the lookups it accepts. -/
theorem pool_run_followed (hitems : m.workItems = []) (hresults : m.workResults = [])
    (count queueCapacity : Nat) (t : Ticket) (moves : List Move) :
    ∃ m', Relation.ReflTransGen (Answering t) m m' ∧
      Behind m' (run WorkerPool.step (WorkerPool.Sys.new count queueCapacity) moves).pool := by
  induction moves using List.reverseRecOn with
  | nil => exact ⟨m, .refl, behind_new hitems hresults count queueCapacity⟩
  | append_singleton moves move ih =>
    obtain ⟨m', hrun, hbehind⟩ := ih
    obtain ⟨m'', hstep, hbehind'⟩ := behind_step hbehind t move
    rw [run_append]
    exact ⟨m'', hrun.tail hstep, hbehind'⟩

end Ffi

end NetworkEngine
