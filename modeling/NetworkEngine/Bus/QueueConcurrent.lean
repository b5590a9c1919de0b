import NetworkEngine.Bus.PacketBus
import NetworkEngine.Lib.Monitor

/-!
# QueueConcurrent — producers and consumers of one queue

Any number of clients call the observation queue, each call a section under its mutex.  `enqueue`
and `dequeue` wait on a condition variable and evaluate their loop again when they are woken.  What
was accepted is what was dequeued followed by what is queued, in one order; a closed queue accepts
nothing more and is drained.
-/

namespace NetworkEngine

open Transition Monitor

namespace ObservationQueue

/-! ## 1. Calls -/

inductive Call where
  | tryEnqueue (o : PacketObservation)
  | enqueue (o : PacketObservation)
  | tryDequeue
  | dequeue
  | close
  deriving DecidableEq, Repr

inductive Return where
  | enqueued (r : Except QueueError Unit)
  | tryDequeued (r : Except QueueError (Option PacketObservation))
  | dequeued (r : Except QueueError PacketObservation)
  | closed

/-- What a section returns, and the queue it leaves. -/
def sectionResult {α : Type} (q : ObservationQueue) :
    Except QueueError (α × ObservationQueue) → Except QueueError α × ObservationQueue
  | .ok (a, q') => (.ok a, q')
  | .error e => (.error e, q)

def body : Body ObservationQueue Call Return
  | .tryEnqueue o, q => some ((sectionResult q (q.tryEnqueue o)).map .enqueued id)
  | .enqueue o, q => (q.enqueue o).map fun r => (sectionResult q r).map .enqueued id
  | .tryDequeue, q => some ((sectionResult q q.tryDequeue).map .tryDequeued id)
  | .dequeue, q => q.dequeue.map fun r => (sectionResult q r).map .dequeued id
  | .close, q => some (.closed, q.close)

/-- The observation that a completed call put into the queue. -/
def acceptedBy : Call × Return → Option PacketObservation
  | (.tryEnqueue o, .enqueued (.ok ())) | (.enqueue o, .enqueued (.ok ())) => some o
  | _ => none

/-- The observation that a completed call took out of the queue. -/
def dequeuedBy : Call × Return → Option PacketObservation
  | (_, .tryDequeued (.ok (some o))) | (_, .dequeued (.ok o)) => some o
  | _ => none

/-- The accepted observations, in acceptance order. -/
def accepted (history : List (Call × Return)) : List PacketObservation :=
  history.filterMap acceptedBy

/-- The dequeued observations, in the order of the dequeues. -/
def dequeued (history : List (Call × Return)) : List PacketObservation :=
  history.filterMap dequeuedBy

abbrev Clients := Sys ObservationQueue Call Return

/-- What a run of the clients of a new queue has to satisfy. -/
structure BoundedFifo (capacity : Nat) (turns : List (ClientId × Turn Call)) : Prop where
  /-- The completed calls, in the order of their last sections, are a sequential run. -/
  linearized : Always (Sys.step body)
    (fun s : Clients => Replays body (.new capacity) s.history s.object) (.new (.new capacity)) turns
  fifo : Always (Sys.step body)
    (fun s : Clients => dequeued s.history ++ s.object.items = accepted s.history)
    (.new (.new capacity)) turns
  bounded : Always (Sys.step body) (fun s : Clients => s.object.items.length ≤ capacity)
    (.new (.new capacity)) turns
  /-- A queue is closed for good, and accepts nothing while it is closed. -/
  closed : Along (Sys.step body)
    (fun (s : Clients) input => s.object.closed = true →
      (s.step body input).object.closed = true ∧
        accepted (s.step body input).history = accepted s.history)
    (.new (.new capacity)) turns
  /-- Whoever calls `close` closes the queue, and no later turn of any client is accepted. -/
  closes : Always (Sys.step body)
    (fun s : Clients => ∀ c, s.waiting c = none → ∀ later,
      let t := run (Sys.step body) (s.step body (c, .call .close)) later
      t.object.closed = true ∧ accepted t.history = accepted s.history)
    (.new (.new capacity)) turns
  /-- Whatever is queued, a client that dequeues now gets its head. -/
  served : Always (Sys.step body)
    (fun s : Clients => ∀ o rest c, s.object.items = o :: rest → s.waiting c = none →
      s.returned body (c, .call .dequeue) = some (.dequeued (.ok o)) ∧
        s.returned body (c, .call .tryDequeue) = some (.tryDequeued (.ok (some o))))
    (.new (.new capacity)) turns
  /-- A client alone can dequeue all that was accepted, before the queue was closed and after. -/
  drained : Always (Sys.step body)
    (fun s : Clients => ∀ c, s.waiting c = none →
      dequeued (run (Sys.step body) s
        (List.replicate s.object.items.length (c, .call .dequeue))).history = accepted s.history)
    (.new (.new capacity)) turns
  /-- `Closed` is the one error of `dequeue`, and it says that the queue is closed and empty. -/
  refused : Along (Sys.step body)
    (fun (s : Clients) input => ∀ e, s.returned body input = some (.dequeued (.error e)) →
      e = .closed ∧ s.object.closed = true ∧ s.object.items = [])
    (.new (.new capacity)) turns

/-! ## 2. One section -/

variable {q q' : ObservationQueue} {k : Call} {r : Return} {o : PacketObservation}
  {rest : List PacketObservation}

/-- All that a completed section can do: what it accepts, what it takes out, the queue it leaves. -/
inductive Effect (q : ObservationQueue) :
    Option PacketObservation → Option PacketObservation → ObservationQueue → Prop where
  | accepts (o : PacketObservation) (hopen : q.closed = false)
      (hroom : q.items.length < q.capacity) :
      Effect q (some o) none { q with items := q.items ++ [o] }
  | dequeues (o : PacketObservation) (rest : List PacketObservation) (h : q.items = o :: rest) :
      Effect q none (some o) { q with items := rest }
  | keeps : Effect q none none q
  | closes : Effect q none none q.close

theorem tryEnqueue_effect (o : PacketObservation) :
    Effect q (acceptedBy (.tryEnqueue o, .enqueued (sectionResult q (q.tryEnqueue o)).1))
      none (sectionResult q (q.tryEnqueue o)).2 := by
  unfold tryEnqueue
  split
  · exact .keeps
  · split
    · exact .keeps
    · rename_i hclosed hroom
      exact .accepts o (Bool.eq_false_iff.mpr hclosed) (by omega)

theorem enqueue_effect {result : Except QueueError (Unit × ObservationQueue)}
    (h : q.enqueue o = some result) :
    Effect q (acceptedBy (.enqueue o, .enqueued (sectionResult q result).1))
      none (sectionResult q result).2 := by
  unfold enqueue at h
  split_ifs at h with hclosed hcapacity hroom
  · obtain rfl := Option.some.inj h
    exact .keeps
  · obtain rfl := Option.some.inj h
    exact .keeps
  · obtain rfl := Option.some.inj h
    exact .accepts o (Bool.eq_false_iff.mpr hclosed) hroom

theorem tryDequeue_effect :
    Effect q none (dequeuedBy (.tryDequeue, .tryDequeued (sectionResult q q.tryDequeue).1))
      (sectionResult q q.tryDequeue).2 := by
  unfold tryDequeue
  cases hitems : q.items with
  | nil => exact .keeps
  | cons o rest => exact .dequeues o rest hitems

theorem dequeue_effect {result : Except QueueError (PacketObservation × ObservationQueue)}
    (h : q.dequeue = some result) :
    Effect q none (dequeuedBy (.dequeue, .dequeued (sectionResult q result).1))
      (sectionResult q result).2 := by
  unfold dequeue at h
  cases hitems : q.items with
  | nil =>
    rw [hitems] at h
    dsimp only at h
    split_ifs at h
    obtain rfl := Option.some.inj h
    exact .keeps
  | cons o rest =>
    rw [hitems] at h
    obtain rfl := Option.some.inj h
    exact .dequeues o rest hitems

theorem body_effect (h : body k q = some (r, q')) :
    Effect q (acceptedBy (k, r)) (dequeuedBy (k, r)) q' := by
  cases k with
  | tryEnqueue o =>
    obtain ⟨rfl, rfl⟩ := Prod.mk.inj (Option.some.inj h)
    exact tryEnqueue_effect o
  | enqueue o =>
    rcases Option.map_eq_some_iff.mp h with ⟨result, hresult, hpair⟩
    obtain ⟨rfl, rfl⟩ := Prod.mk.inj hpair
    exact enqueue_effect hresult
  | tryDequeue =>
    obtain ⟨rfl, rfl⟩ := Prod.mk.inj (Option.some.inj h)
    exact tryDequeue_effect
  | dequeue =>
    rcases Option.map_eq_some_iff.mp h with ⟨result, hresult, hpair⟩
    obtain ⟨rfl, rfl⟩ := Prod.mk.inj hpair
    exact dequeue_effect hresult
  | close =>
    obtain ⟨rfl, rfl⟩ := Prod.mk.inj (Option.some.inj h)
    exact .closes

theorem accepted_concat (history : List (Call × Return)) (entry : Call × Return) :
    accepted (history ++ [entry]) = accepted history ++ (acceptedBy entry).toList := by
  rw [accepted, List.filterMap_append]
  cases h : acceptedBy entry <;> simp [accepted, h]

theorem dequeued_concat (history : List (Call × Return)) (entry : Call × Return) :
    dequeued (history ++ [entry]) = dequeued history ++ (dequeuedBy entry).toList := by
  rw [dequeued, List.filterMap_append]
  cases h : dequeuedBy entry <;> simp [dequeued, h]

/-- The queue holds what was accepted and not yet dequeued, within its capacity. -/
structure Fifo (capacity : Nat) (q : ObservationQueue) (history : List (Call × Return)) : Prop where
  order : dequeued history ++ q.items = accepted history
  bounded : q.items.length ≤ q.capacity
  capacity : q.capacity = capacity

theorem Fifo.concat {capacity : Nat} {history : List (Call × Return)}
    (h : Fifo capacity q history) (hbody : body k q = some (r, q')) :
    Fifo capacity q' (history ++ [(k, r)]) := by
  have heffect := body_effect hbody
  have horder : dequeued (history ++ [(k, r)]) ++ q'.items = accepted (history ++ [(k, r)]) ∧
      q'.items.length ≤ q'.capacity ∧ q'.capacity = q.capacity := by
    rw [accepted_concat, dequeued_concat, ← h.order]
    have hbounded := h.bounded
    generalize acceptedBy (k, r) = a at heffect
    generalize dequeuedBy (k, r) = d at heffect
    cases heffect with
    | accepts o hopen hroom => simp; omega
    | dequeues o rest hitems =>
      rw [hitems] at hbounded ⊢
      simp at hbounded ⊢
      omega
    | keeps => simpa using hbounded
    | closes => simpa [close] using hbounded
  exact ⟨horder.1, horder.2.1, horder.2.2.trans h.capacity⟩

/-! ## 3. Whole runs -/

variable {capacity : Nat} {s : Clients} {input : ClientId × Turn Call} {c : ClientId}

theorem fifo_step (h : Fifo capacity s.object s.history) :
    Fifo capacity (s.step body input).object (s.step body input).history :=
  inv_step (I := Fifo capacity) (fun _ _ _ _ _ hbefore hbody => hbefore.concat hbody) h

theorem fifo_new : Fifo capacity (.new capacity) [] := ⟨rfl, Nat.zero_le _, rfl⟩

theorem fifo_run (turns : List (ClientId × Turn Call)) :
    Fifo capacity (run (Sys.step body) (.new (.new capacity)) turns).object
      (run (Sys.step body) (.new (.new capacity)) turns).history := by
  have hstep (s : Clients) (input : ClientId × Turn Call) (h : Fifo capacity s.object s.history) :
      Fifo capacity (s.step body input).object (s.step body input).history := fifo_step h
  exact run_inv hstep fifo_new turns

theorem closed_step (h : s.object.closed = true) :
    (s.step body input).object.closed = true ∧
      accepted (s.step body input).history = accepted s.history := by
  rcases @step_cases _ _ _ body s input with hsame | hcall
  · rw [hsame.1, hsame.2.1]
    exact ⟨h, rfl⟩
  · rcases hcall with ⟨k, r, -, hbody, hhistory, -⟩
    rw [hhistory, accepted_concat]
    have heffect := body_effect hbody
    generalize acceptedBy (k, r) = a at heffect
    generalize dequeuedBy (k, r) = d at heffect
    generalize (s.step body input).object = q' at heffect
    cases heffect with
    | accepts o hopen hroom =>
      rw [h] at hopen
      cases hopen
    | dequeues o rest hitems => exact ⟨h, List.append_nil _⟩
    | keeps => exact ⟨h, List.append_nil _⟩
    | closes => exact ⟨rfl, List.append_nil _⟩

/-- What a closed queue has accepted is all that it will have accepted. -/
theorem closed_run (h : s.object.closed = true) (later : List (ClientId × Turn Call)) :
    (run (Sys.step body) s later).object.closed = true ∧
      accepted (run (Sys.step body) s later).history = accepted s.history := by
  have hstep (t : Clients) (input : ClientId × Turn Call)
      (ht : t.object.closed = true ∧ accepted t.history = accepted s.history) :
      (t.step body input).object.closed = true ∧
        accepted (t.step body input).history = accepted s.history := by
    have hnext : (t.step body input).object.closed = true ∧ _ := closed_step ht.1
    exact ⟨hnext.1, hnext.2.trans ht.2⟩
  exact run_inv hstep ⟨h, rfl⟩ later

theorem close_call (hidle : s.waiting c = none) :
    (s.step body (c, .call .close)).object.closed = true ∧
      accepted (s.step body (c, .call .close)).history = accepted s.history := by
  rw [step_call hidle (show body .close s.object = some (.closed, s.object.close) from rfl)]
  refine ⟨rfl, ?_⟩
  rw [accepted_concat]
  exact List.append_nil _

theorem body_dequeue (h : q.items = o :: rest) :
    body .dequeue q = some (.dequeued (.ok o), { q with items := rest }) := by
  rw [body, dequeue, h]
  rfl

theorem body_tryDequeue (h : q.items = o :: rest) :
    body .tryDequeue q = some (.tryDequeued (.ok (some o)), { q with items := rest }) := by
  rw [body, tryDequeue, h]
  rfl

/-- A client that calls is served the head of the queue. -/
theorem served_call (hitems : s.object.items = o :: rest) (hidle : s.waiting c = none) :
    s.returned body (c, .call .dequeue) = some (.dequeued (.ok o)) ∧
      s.returned body (c, .call .tryDequeue) = some (.tryDequeued (.ok (some o))) := by
  rw [returned_call hidle, returned_call hidle, body_dequeue hitems, body_tryDequeue hitems]
  exact ⟨rfl, rfl⟩

theorem dequeued_drain (hidle : s.waiting c = none) (items : List PacketObservation)
    (hitems : s.object.items = items) :
    dequeued (run (Sys.step body) s (List.replicate items.length (c, .call .dequeue))).history =
      dequeued s.history ++ items := by
  induction items generalizing s with
  | nil => exact (List.append_nil _).symm
  | cons o rest ih =>
    rw [List.length_cons, List.replicate_succ, run_cons, step_call hidle (body_dequeue hitems),
      ih (Function.update_self ..) rfl, dequeued_concat, List.append_assoc]
    rfl

theorem refused_step {e : QueueError} (h : s.returned body input = some (.dequeued (.error e))) :
    e = .closed ∧ s.object.closed = true ∧ s.object.items = [] := by
  rcases Option.bind_eq_some_iff.mp h with ⟨k, -, hreturn⟩
  rcases Option.map_eq_some_iff.mp hreturn with ⟨result, hbody, hresult⟩
  cases k with
  | dequeue =>
    rcases Option.map_eq_some_iff.mp hbody with ⟨answer, hanswer, rfl⟩
    unfold dequeue at hanswer
    cases hitems : s.object.items with
    | nil =>
      rw [hitems] at hanswer
      dsimp only at hanswer
      split_ifs at hanswer with hclosed
      obtain rfl := Option.some.inj hanswer
      cases hresult
      exact ⟨rfl, hclosed, rfl⟩
    | cons o rest =>
      rw [hitems] at hanswer
      obtain rfl := Option.some.inj hanswer
      cases hresult
  | tryEnqueue o | tryDequeue | close =>
    obtain rfl := Option.some.inj hbody
    cases hresult
  | enqueue o =>
    rcases Option.map_eq_some_iff.mp hbody with ⟨answer, hanswer, rfl⟩
    cases hresult

/-- The queue is a linearizable bounded FIFO for any number of clients and any interleaving. -/
theorem queue_is_bounded_fifo (capacity : Nat) (turns : List (ClientId × Turn Call)) :
    BoundedFifo capacity turns where
  linearized before _ _ := replays_run _ before
  fifo before _ _ := (fifo_run before).order
  bounded before _ _ := by
    have hfifo : Fifo capacity _ _ := fifo_run before
    exact hfifo.bounded.trans_eq hfifo.capacity
  closed before input _ _ hclosed := closed_step hclosed
  closes before _ _ c hidle later := by
    obtain ⟨hclosed, hsame⟩ := close_call hidle
    obtain ⟨hlater, haccepted⟩ := closed_run hclosed later
    exact ⟨hlater, haccepted.trans hsame⟩
  served before _ _ o rest c hitems hidle := served_call hitems hidle
  drained before _ _ c hidle := by
    rw [dequeued_drain hidle _ rfl]
    exact (fifo_run before).order
  refused before input _ _ e hrefused := refused_step hrefused

end ObservationQueue

end NetworkEngine
