import NetworkEngine.Flow.Accounting
import NetworkEngine.Lib.CasLoop

/-!
# CountersConcurrent — one set of flow counters, shared by threads

`FlowCounters` takes no lock: `record` updates its four words one after the other, each in a loop
around a weak exchange.  The accesses of concurrent calls come in any order, and an exchange may fail
for no reason.

A reader can meet the four words at different points of a call.  Each word by itself is always that of
a sequence of whole calls, and once no call is under way the four are those of one such sequence.
-/

namespace NetworkEngine

open Rust Transition Threads CasLoop NetworkEngine.Flow

/-! ## 1. The calls -/

/-- The words of `FlowCounters`. -/
inductive CounterWord where
  | packets
  | bytes
  | firstSeenNs
  | lastSeenNs
  deriving DecidableEq, Repr

/-- The arguments of a call of `FlowCounters::record`. -/
structure RecordCall where
  bytes : UInt64
  timestampNs : UInt64
  deriving DecidableEq, Repr

namespace FlowCounters

/-- `saturating_add` always exchanges. -/
def saturatingAddLoop (value : UInt64) : Update UInt64 :=
  fun current => some (saturatingAdd64 current value)

def updateFirstSeen (timestampNs : UInt64) : Update UInt64 :=
  fun current => if current ≠ 0 ∧ current ≤ timestampNs then none else some timestampNs

def updateLastSeen (timestampNs : UInt64) : Update UInt64 :=
  fun current => if timestampNs ≤ current then none else some timestampNs

/-- `FlowCounters::record`, as its loops. -/
def recordLoops : Calls CounterWord UInt64 RecordCall where
  script _ := [.packets, .bytes, .firstSeenNs, .lastSeenNs]
  update call
    | .packets => saturatingAddLoop 1
    | .bytes => saturatingAddLoop call.bytes
    | .firstSeenNs => updateFirstSeen call.timestampNs
    | .lastSeenNs => updateLastSeen call.timestampNs
  looped _ _ := true

def read (c : FlowCounters) : CounterWord → UInt64
  | .packets => c.packets
  | .bytes => c.bytes
  | .firstSeenNs => c.firstSeenNs
  | .lastSeenNs => c.lastSeenNs

/-- What `Clone` makes of the four words, read while nothing else happens. -/
def ofWords (words : CounterWord → UInt64) : FlowCounters :=
  ⟨words .packets, words .bytes, words .firstSeenNs, words .lastSeenNs⟩

/-- The calls one after the other. -/
def recordAll (c : FlowCounters) (calls : List RecordCall) : FlowCounters :=
  calls.foldl (fun c call => c.record call.bytes call.timestampNs) c

/-- The counters with calls under way, after these turns. -/
def after (c : FlowCounters) (turns : List (Turn RecordCall Bool)) :
    Sys (Shared CounterWord UInt64 RecordCall) (Point CounterWord UInt64 RecordCall) :=
  run (program recordLoops).step (CasLoop.new c.read) turns

/-! ## 2. One word -/

theorem apply_updateFirstSeen (timestampNs current : UInt64) :
    (updateFirstSeen timestampNs).apply current =
      if current ≠ 0 ∧ current ≤ timestampNs then current else timestampNs := by
  unfold Update.apply updateFirstSeen
  split <;> rfl

theorem apply_updateLastSeen (timestampNs current : UInt64) :
    (updateLastSeen timestampNs).apply current =
      if timestampNs ≤ current then current else timestampNs := by
  unfold Update.apply updateLastSeen
  split <;> rfl

/-- A loop leaves in its word what the call by itself does. -/
theorem apply_update (call : RecordCall) (word : CounterWord) (c : FlowCounters) :
    (recordLoops.update call word).apply (c.read word) =
      (c.record call.bytes call.timestampNs).read word := by
  cases word with
  | packets | bytes => rfl
  | firstSeenNs => exact apply_updateFirstSeen _ _
  | lastSeenNs => exact apply_updateLastSeen _ _

theorem foldl_apply (calls : List RecordCall) (word : CounterWord) (c : FlowCounters) :
    calls.foldl (fun v call => (recordLoops.update call word).apply v) (c.read word) =
      (c.recordAll calls).read word := by
  induction calls generalizing c with
  | nil => rfl
  | cons call calls ih =>
    rw [List.foldl_cons, apply_update, ih]
    rfl

/-- Only the first-seen time ever gets smaller. -/
theorem le_apply {word : CounterWord} (hword : word ≠ .firstSeenNs) (call : RecordCall)
    (v : UInt64) : v ≤ (recordLoops.update call word).apply v := by
  cases word with
  | packets | bytes =>
    show v ≤ saturatingAdd64 v _
    rw [UInt64.le_iff_toNat_le, toNat_saturatingAdd64]
    have hlt := v.toNat_lt
    omega
  | firstSeenNs => exact absurd rfl hword
  | lastSeenNs =>
    show v ≤ (updateLastSeen call.timestampNs).apply v
    rw [apply_updateLastSeen]
    split
    · exact UInt64.le_refl v
    · exact UInt64.le_of_lt (UInt64.not_le.mp ‹_›)

theorem count_script (word : CounterWord) (call : RecordCall) :
    (recordLoops.script call).count word = 1 := by
  cases word <;> rfl

/-! ## 3. Runs -/

/-- Calls whose times can be exchanged leave the same counters in any order. -/
theorem recordAll_perm {calls calls' : List RecordCall} (hperm : calls.Perm calls')
    (htimes : ∀ a ∈ calls', ∀ b ∈ calls', Exchangeable a.timestampNs b.timestampNs)
    (c : FlowCounters) : c.recordAll calls = c.recordAll calls' :=
  hperm.foldl_eq' (fun a ha b hb c => counters_right_comm
    (htimes a (hperm.subset ha) b (hperm.subset hb)) a.bytes b.bytes c) _

/-- **The counters without a lock.**  Whatever the order of the accesses, each word is that of the
calls made one after the other, of all that have returned and of some under way.  Packets, bytes and
the last-seen time never get smaller.  With no call under way the four words are together those of
the calls one after the other, if no two times differ of which one is zero. -/
theorem record_concurrent (c : FlowCounters) (turns : List (Turn RecordCall Bool)) :
    (∀ word, ∃ calls, (c.after turns).shared.finished.Subperm calls ∧
      calls.Subperm (startedBy turns) ∧
      (c.after turns).shared.store word = (c.recordAll calls).read word) ∧
    (∀ more word, word ≠ .firstSeenNs →
      (c.after turns).shared.store word ≤ (c.after (turns ++ more)).shared.store word) ∧
    ((c.after turns).Quiescent →
      (∀ a ∈ startedBy turns, ∀ b ∈ startedBy turns, Exchangeable a.timestampNs b.timestampNs) →
      ofWords (c.after turns).shared.store = c.recordAll (startedBy turns)) := by
  have hinv : Inv recordLoops c.read (c.after turns) := CasLoop.run_inv recordLoops c.read turns
  have hstarted : (c.after turns).shared.started = startedBy turns :=
    started_eq recordLoops c.read turns
  have hvalue (word : CounterWord) : (c.after turns).shared.store word =
      (c.recordAll ((c.after turns).shared.log word)).read word := by
    rw [hinv.value, foldl_apply]
  constructor
  · intro word
    have hbetween := hinv.between (count_script word)
    rw [hstarted] at hbetween
    exact ⟨_, hbetween.1, hbetween.2, hvalue word⟩
  constructor
  · intro more word hword
    unfold after
    rw [run_append]
    exact run_below UInt64.le_refl UInt64.le_trans recordLoops (le_apply hword) _ more
  · intro hquiet htimes
    have hsame (word : CounterWord) : (c.after turns).shared.store word =
        (c.recordAll (startedBy turns)).read word := by
      have hperm := hinv.perm hquiet (count_script word)
      rw [hstarted] at hperm
      rw [hvalue, recordAll_perm hperm htimes]
    unfold ofWords
    rw [hsame, hsame, hsame, hsame]
    rfl

end FlowCounters

end NetworkEngine
