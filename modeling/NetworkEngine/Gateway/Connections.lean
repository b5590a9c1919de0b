import NetworkEngine.Core.Observation
import NetworkEngine.Lib.Table
import NetworkEngine.Lib.Transition

/-!
# Connections — the gateway's connection state table

`gateway_capability::connection_state`.  An entry carries the state of one connection, what was
forwarded for it and the second it was last seen.  Expiry is lazy: a lookup hides an expired entry
and a purge removes it.  Every call takes the second its clock shows.
-/

namespace NetworkEngine

open Rust Transition

/-! ## 1. Keys and states -/

inductive ConnectionProtocol where
  | tcp
  | udp
  | icmp
  | icmpV6
  | other (number : UInt8)
  deriving DecidableEq, Repr

structure ConnectionKey where
  srcIp : IpAddr
  srcPort : UInt16
  dstIp : IpAddr
  dstPort : UInt16
  protocol : ConnectionProtocol
  deriving DecidableEq, Repr

def ConnectionKey.reverse (k : ConnectionKey) : ConnectionKey :=
  ⟨k.dstIp, k.dstPort, k.srcIp, k.srcPort, k.protocol⟩

inductive ConnectionState where
  | new
  | established
  | closing
  | closed
  | failed
  deriving DecidableEq, Repr

namespace ConnectionState

def canTransitionTo : ConnectionState → ConnectionState → Bool
  | .new, .new | .new, .established | .new, .failed => true
  | .established, .established | .established, .closing | .established, .failed => true
  | .closing, .closing | .closing, .closed | .closing, .failed => true
  | .failed, .failed | .closed, .closed => true
  | _, _ => false

def isTerminal : ConnectionState → Bool
  | .closed | .failed => true
  | .new | .established | .closing => false

end ConnectionState

inductive ConnectionStateError where
  | invalidTransition (source target : ConnectionState)
  | capacityExceeded
  | alreadyExists
  | notFound
  | invalidTimeout
  deriving DecidableEq, Repr

/-! ## 2. Entries -/

structure ConnectionEntry where
  key : ConnectionKey
  state : ConnectionState
  createdAt : UInt64
  lastSeen : UInt64
  timeoutSecs : UInt64
  packetsForwarded : UInt64
  bytesForwarded : UInt64
  deriving DecidableEq, Repr

namespace ConnectionEntry

/-- `ConnectionEntry::new` at clock reading `now`. -/
def new (key : ConnectionKey) (timeoutSecs now : UInt64) :
    Except ConnectionStateError ConnectionEntry :=
  if timeoutSecs = 0 then .error .invalidTimeout
  else .ok ⟨key, .new, now, now, timeoutSecs, 0, 0⟩

def isExpired (e : ConnectionEntry) (now : UInt64) : Bool :=
  -- A clock that stands before `lastSeen` shows an idle time of zero.
  e.timeoutSecs ≤ saturatingSub64 now e.lastSeen

def touch (e : ConnectionEntry) (now : UInt64) : ConnectionEntry := { e with lastSeen := now }

/-- `bytes` is a `usize`, of 64 bits. -/
def recordPacket (e : ConnectionEntry) (bytes now : UInt64) : ConnectionEntry :=
  touch { e with
    packetsForwarded := saturatingAdd64 e.packetsForwarded 1
    bytesForwarded := saturatingAdd64 e.bytesForwarded bytes } now

/-- Only a change of state touches the entry. -/
def transition (e : ConnectionEntry) (next : ConnectionState) (now : UInt64) :
    Except ConnectionStateError Unit × ConnectionEntry :=
  -- A transition to the same state succeeds and leaves even `lastSeen` alone.
  if e.state = next then (.ok (), e)
  else if !e.state.canTransitionTo next then (.error (.invalidTransition e.state next), e)
  else (.ok (), touch { e with state := next } now)

end ConnectionEntry

/-! ## 3. The table -/

structure ConnectionStateTable where
  entries : Table ConnectionKey ConnectionEntry
  maxEntries : Nat
  deriving DecidableEq

namespace ConnectionStateTable

def new (maxEntries : Nat) : ConnectionStateTable := ⟨∅, maxEntries⟩

def len (t : ConnectionStateTable) : Nat := t.entries.keys.card

def lookup (t : ConnectionStateTable) (key : ConnectionKey) (now : UInt64) :
    Option ConnectionEntry := do
  let entry ← t.entries.lookup key
  if entry.isExpired now then none else some entry

def lookupReverse (t : ConnectionStateTable) (key : ConnectionKey) (now : UInt64) :
    Option ConnectionEntry :=
  t.lookup key.reverse now

def removeExpired (now : UInt64) (t : ConnectionStateTable) : Nat × ConnectionStateTable :=
  ((t.entries.keysWhere (·.isExpired now)).card,
    { t with entries := t.entries.discard (·.isExpired now) })

def insert (entry : ConnectionEntry) (now : UInt64) (t : ConnectionStateTable) :
    Except ConnectionStateError Unit × ConnectionStateTable :=
  -- The purge stays, also when one of the two refusals below follows.
  let t := (t.removeExpired now).2
  if entry.key ∈ t.entries then (.error .alreadyExists, t)
  else if t.maxEntries ≤ t.len then (.error .capacityExceeded, t)
  else (.ok (), { t with entries := t.entries.insert entry.key entry })

def transition (key : ConnectionKey) (next : ConnectionState) (now : UInt64)
    (t : ConnectionStateTable) : Except ConnectionStateError Unit × ConnectionStateTable :=
  -- `get_mut` finds an entry whether or not it has expired, here and in `recordPacket`.
  match t.entries.lookup key with
  | none => (.error .notFound, t)
  | some entry =>
    let (result, entry) := entry.transition next now
    (result, { t with entries := t.entries.insert key entry })

def recordPacket (key : ConnectionKey) (bytes now : UInt64) (t : ConnectionStateTable) :
    Except ConnectionStateError Unit × ConnectionStateTable :=
  match t.entries.lookup key with
  | none => (.error .notFound, t)
  | some entry => (.ok (), { t with entries := t.entries.insert key (entry.recordPacket bytes now) })

def remove (key : ConnectionKey) (t : ConnectionStateTable) :
    Option ConnectionEntry × ConnectionStateTable :=
  (t.entries.lookup key, { t with entries := t.entries.erase key })

def clear (t : ConnectionStateTable) : ConnectionStateTable := { t with entries := ∅ }

/-! ## 4. Calls -/

inductive Operation where
  | insert (entry : ConnectionEntry)
  | transition (key : ConnectionKey) (next : ConnectionState)
  | recordPacket (key : ConnectionKey) (bytes : UInt64)
  | remove (key : ConnectionKey)
  | removeExpired
  | clear
  deriving DecidableEq, Repr

/-- An operation and the clock it reads. -/
structure Call where
  operation : Operation
  now : UInt64
  deriving DecidableEq, Repr

/-- Whether a call goes well, and the table it leaves; `remove` and `remove_expired` always do. -/
def perform (t : ConnectionStateTable) (call : Call) :
    Except ConnectionStateError Unit × ConnectionStateTable :=
  match call.operation with
  | .insert entry => t.insert entry call.now
  | .transition key next => t.transition key next call.now
  | .recordPacket key bytes => t.recordPacket key bytes call.now
  | .remove key => (.ok (), (t.remove key).2)
  | .removeExpired => (.ok (), (t.removeExpired call.now).2)
  | .clear => (.ok (), t.clear)

def step (t : ConnectionStateTable) (call : Call) : ConnectionStateTable := (t.perform call).2

/-- The call puts a new entry under `key`. -/
def Inserts (t : ConnectionStateTable) (key : ConnectionKey) (call : Call) : Prop :=
  (t.perform call).1 = .ok () ∧ ∃ entry, call.operation = .insert entry ∧ entry.key = key

/-! ## 5. What a call does to an entry -/

/-- What a call makes of the entry stored under `key`, when it keeps one. -/
inductive Evolves (key : ConnectionKey) (call : Call) (e : ConnectionEntry) :
    ConnectionEntry → Prop where
  -- Not for a packet of this key: where there is an entry, its packets are always counted.
  | kept (hother : ∀ bytes, call.operation ≠ .recordPacket key bytes) : Evolves key call e e
  | moved {next : ConnectionState} (hcall : call.operation = .transition key next)
      (hne : e.state ≠ next) (hcan : e.state.canTransitionTo next = true) :
      Evolves key call e (ConnectionEntry.touch { e with state := next } call.now)
  | counted {bytes : UInt64} (hcall : call.operation = .recordPacket key bytes) :
      Evolves key call e (e.recordPacket bytes call.now)

variable {t : ConnectionStateTable} {key : ConnectionKey} {call : Call}
  {e e' entry : ConnectionEntry} {now : UInt64}

theorem lookup_removeExpired :
    ((t.removeExpired now).2).entries.lookup key = some e ↔
      t.entries.lookup key = some e ∧ e.isExpired now = false :=
  Table.lookup_discard_eq_some

/-- An insertion adds the entry to the purged table, or leaves the purged table. -/
theorem insert_cases (entry : ConnectionEntry) (now : UInt64) (t : ConnectionStateTable) :
    (∃ err, t.insert entry now = (.error err, (t.removeExpired now).2)) ∨
      (entry.key ∉ (t.removeExpired now).2.entries ∧
        (t.removeExpired now).2.len < t.maxEntries ∧
        t.insert entry now = (.ok (), { (t.removeExpired now).2 with
          entries := (t.removeExpired now).2.entries.insert entry.key entry })) := by
  unfold insert
  dsimp only
  split
  · exact .inl ⟨_, rfl⟩
  · rename_i habsent
    split
    · exact .inl ⟨_, rfl⟩
    · rename_i hroom
      exact .inr ⟨habsent, Nat.lt_of_not_le hroom, rfl⟩

theorem transition_cases (e : ConnectionEntry) (next : ConnectionState) (now : UInt64) :
    (e.transition next now).2 = e ∨
      e.state ≠ next ∧ e.state.canTransitionTo next = true ∧
        e.transition next now = (.ok (), ConnectionEntry.touch { e with state := next } now) := by
  unfold ConnectionEntry.transition
  split
  · exact .inl rfl
  · rename_i hne
    split
    · exact .inl rfl
    · rename_i hcan
      exact .inr ⟨hne, by simpa using hcan, rfl⟩

/-- All that a call can do: the result it returns and the table it leaves. -/
inductive Outcome (t : ConnectionStateTable) (call : Call) :
    Except ConnectionStateError Unit → ConnectionStateTable → Prop where
  | refused {err : ConnectionStateError}
      (habsent : ∀ key bytes, call.operation = .recordPacket key bytes →
        t.entries.lookup key = none) : Outcome t call (.error err) t
  | purged {r : Except ConnectionStateError Unit}
      (hother : ∀ key bytes, call.operation ≠ .recordPacket key bytes) :
      Outcome t call r (t.removeExpired call.now).2
  | inserted {entry : ConnectionEntry} (hcall : call.operation = .insert entry)
      (habsent : entry.key ∉ (t.removeExpired call.now).2.entries)
      (hroom : (t.removeExpired call.now).2.len < t.maxEntries) :
      Outcome t call (.ok ()) { (t.removeExpired call.now).2 with
        entries := (t.removeExpired call.now).2.entries.insert entry.key entry }
  | replaced {r : Except ConnectionStateError Unit} {slot : ConnectionKey}
      {e e' : ConnectionEntry} (hslot : t.entries.lookup slot = some e)
      (hevolves : Evolves slot call e e') (herror : ∀ err, r = .error err → e' = e)
      (hother : ∀ key bytes, call.operation = .recordPacket key bytes → key = slot) :
      Outcome t call r { t with entries := t.entries.insert slot e' }
  | removed {slot : ConnectionKey}
      (hother : ∀ key bytes, call.operation ≠ .recordPacket key bytes) :
      Outcome t call (.ok ()) { t with entries := t.entries.erase slot }
  | cleared : Outcome t call (.ok ()) t.clear

theorem insert_outcome (entry : ConnectionEntry) (now : UInt64) (t : ConnectionStateTable) :
    Outcome t ⟨.insert entry, now⟩ (t.insert entry now).1 (t.insert entry now).2 := by
  rcases insert_cases entry now t with ⟨err, heq⟩ | ⟨habsent, hroom, heq⟩
  · rw [heq]
    exact .purged fun _ _ hcall => nomatch hcall
  · rw [heq]
    exact .inserted rfl habsent hroom

theorem transition_outcome (slot : ConnectionKey) (next : ConnectionState) (now : UInt64)
    (t : ConnectionStateTable) :
    Outcome t ⟨.transition slot next, now⟩ (t.transition slot next now).1
      (t.transition slot next now).2 := by
  unfold transition
  cases hslot : t.entries.lookup slot with
  | none => exact .refused fun _ _ hcall => nomatch hcall
  | some e =>
    have hother (key bytes) : Operation.transition slot next = .recordPacket key bytes →
      key = slot := fun hcall => nomatch hcall
    -- The entry keeps its value (refused, or already there), or it moves along the matrix.
    rcases transition_cases e next now with heq | ⟨hne, hcan, heq⟩
    · refine .replaced hslot ?_ (fun _ _ => heq) hother
      rw [heq]
      exact .kept fun _ hcall => nomatch hcall
    · refine .replaced hslot ?_ (fun err herr => ?_) hother
      · rw [heq]
        exact .moved rfl hne hcan
      · have hok : (e.transition next now).1 = .error err := herr
        rw [heq] at hok
        cases hok

theorem recordPacket_outcome (slot : ConnectionKey) (bytes now : UInt64)
    (t : ConnectionStateTable) :
    Outcome t ⟨.recordPacket slot bytes, now⟩ (t.recordPacket slot bytes now).1
      (t.recordPacket slot bytes now).2 := by
  unfold recordPacket
  cases hslot : t.entries.lookup slot with
  | none =>
    apply Outcome.refused
    intro key bytes' hcall
    rw [← (Operation.recordPacket.inj hcall).1]
    exact hslot
  | some e =>
    exact .replaced hslot (.counted rfl) (fun _ herr => nomatch herr)
      (fun _ _ hcall => (Operation.recordPacket.inj hcall).1.symm)

theorem perform_outcome (t : ConnectionStateTable) (call : Call) :
    Outcome t call (t.perform call).1 (t.step call) := by
  rcases call with ⟨operation, now⟩
  cases operation with
  | insert entry => exact insert_outcome entry now t
  | transition key next => exact transition_outcome key next now t
  | recordPacket key bytes => exact recordPacket_outcome key bytes now t
  | remove key => exact .removed fun _ _ hcall => nomatch hcall
  | removeExpired => exact .purged fun _ _ hcall => nomatch hcall
  | clear => exact .cleared

theorem Outcome.lookup_origin {r : Except ConnectionStateError Unit} {t' : ConnectionStateTable}
    (h : Outcome t call r t') (he' : t'.entries.lookup key = some e') :
    (r = .ok () ∧ call.operation = .insert e' ∧ e'.key = key) ∨
      ∃ e, t.entries.lookup key = some e ∧ Evolves key call e e' := by
  -- Only `inserted` and `replaced` write, each to one key; other keys keep what they had.
  cases h with
  | refused habsent =>
    refine .inr ⟨e', he', .kept fun bytes hcall => ?_⟩
    rw [habsent key bytes hcall] at he'
    cases he'
  | purged hother => exact .inr ⟨e', (lookup_removeExpired.mp he').1, .kept (hother key)⟩
  | @inserted entry hcall =>
    have hsplit := he'
    rw [Table.lookup_insert] at hsplit
    split at hsplit
    · rename_i hkey
      rw [← Option.some.inj hsplit]
      exact .inl ⟨rfl, hcall, hkey.symm⟩
    · refine .inr ⟨e', (lookup_removeExpired.mp hsplit).1, .kept fun bytes hrecord => ?_⟩
      rw [hcall] at hrecord
      cases hrecord
  | @replaced _ slot e _ hslot hevolves _ hother =>
    have hsplit := he'
    rw [Table.lookup_insert] at hsplit
    split at hsplit
    · rename_i hkey
      subst hkey
      rw [← Option.some.inj hsplit]
      exact .inr ⟨e, hslot, hevolves⟩
    · rename_i hkey
      exact .inr ⟨e', hsplit, .kept fun bytes hcall => hkey (hother key bytes hcall)⟩
  | removed hother =>
    have hsplit := he'
    rw [Table.lookup_erase] at hsplit
    split at hsplit
    · cases hsplit
    · exact .inr ⟨e', hsplit, .kept (hother key)⟩
  | cleared => cases (show (none : Option ConnectionEntry) = some e' from he')

/-- An entry stored after a call was put there by it, or was there and has evolved. -/
theorem step_origin (h : (t.step call).entries.lookup key = some e') :
    (t.Inserts key call ∧ call.operation = .insert e') ∨
      ∃ e, t.entries.lookup key = some e ∧ Evolves key call e e' := by
  rcases (perform_outcome t call).lookup_origin h with ⟨hok, hcall, hkey⟩ | hevolved
  · exact .inl ⟨⟨hok, e', hcall, hkey⟩, hcall⟩
  · exact .inr hevolved

theorem operation_of_inserts (hin : t.Inserts key call)
    (h : (t.step call).entries.lookup key = some e') : call.operation = .insert e' := by
  rcases hin with ⟨hok, entry, hcall, rfl⟩
  rcases call with ⟨operation, now⟩
  subst hcall
  change (t.insert entry now).1 = .ok () at hok
  change ((t.insert entry now).2).entries.lookup entry.key = some e' at h
  rcases insert_cases entry now t with ⟨err, heq⟩ | ⟨-, -, heq⟩
  · rw [heq] at hok
    exact nomatch hok
  · rw [heq] at h
    have hentry := (Finmap.lookup_insert _).symm.trans h
    exact congrArg Operation.insert (Option.some.inj hentry)

theorem step_lookup (h : (t.step call).entries.lookup key = some e') :
    (t.Inserts key call ∧ call.operation = .insert e') ∨
      ¬ t.Inserts key call ∧ ∃ e, t.entries.lookup key = some e ∧ Evolves key call e e' := by
  -- An insertion that succeeds leaves its own entry, so the two cases exclude each other.
  by_cases hin : t.Inserts key call
  · exact .inl ⟨hin, operation_of_inserts hin h⟩
  · rcases step_origin h with hput | hevolved
    · exact absurd hput.1 hin
    · exact .inr ⟨hin, hevolved⟩

/-! ## 6. Expiry over runs -/

/-- The entry of `key` is stored and has expired. -/
def Dead (t : ConnectionStateTable) (key : ConnectionKey) (now : UInt64) : Prop :=
  ∃ e, t.entries.lookup key = some e ∧ e.isExpired now = true

theorem lookup_eq_none_iff :
    t.lookup key now = none ↔
      ∀ e, t.entries.lookup key = some e → e.isExpired now = true := by
  unfold lookup
  cases hentry : t.entries.lookup key with
  | none => exact iff_of_true rfl (fun e he => nomatch he)
  | some e =>
    show (if e.isExpired now then none else some e) = none ↔ _
    cases hexpired : e.isExpired now with
    | true =>
      refine iff_of_true rfl (fun e' he' => ?_)
      rw [← Option.some.inj he', hexpired]
    | false =>
      refine iff_of_false (fun hnone => nomatch hnone) (fun hall => ?_)
      have htrue := hall e rfl
      rw [hexpired] at htrue
      exact nomatch htrue

theorem isExpired_iff : e.isExpired now = true ↔
    e.timeoutSecs.toNat ≤ now.toNat - e.lastSeen.toNat := by
  rw [ConnectionEntry.isExpired, decide_eq_true_eq, UInt64.le_iff_toNat_le,
    toNat_saturatingSub64]

/-- Time only takes an untouched entry further past its timeout. -/
theorem isExpired_mono {later : UInt64} (hle : now ≤ later) (h : e.isExpired now = true) :
    e.isExpired later = true := by
  rw [isExpired_iff] at h ⊢
  have hnat := UInt64.le_iff_toNat_le.mp hle
  omega

theorem isExpired_touch : (e.touch now).isExpired now = true ↔ e.timeoutSecs = 0 := by
  rw [isExpired_iff]
  show e.timeoutSecs.toNat ≤ now.toNat - now.toNat ↔ _
  rw [Nat.sub_self, Nat.le_zero, ← UInt64.toNat_inj]
  rfl

/-- The call refreshes an entry that has already expired: a packet is counted for it or its state
changes.  An entry whose timeout is zero stays expired all the same. -/
def Revives (t : ConnectionStateTable) (call : Call) : Prop :=
  ∃ key e, t.entries.lookup key = some e ∧ e.isExpired call.now = true ∧ e.timeoutSecs ≠ 0 ∧
    ((∃ bytes, call.operation = .recordPacket key bytes) ∨
      ∃ next, call.operation = .transition key next ∧ e.state ≠ next ∧
        e.state.canTransitionTo next = true)

/-- The clock never goes back along the calls. -/
def Timed (calls : List Call) : Prop := calls.Pairwise (fun a b => a.now ≤ b.now)

/-- Once the entry of a key has expired, lookups of the key find nothing, until the key is
inserted again. -/
def StaysDead (t : ConnectionStateTable) (calls : List Call) : Prop :=
  ∀ before mid after key now later, calls = before ++ mid ++ after →
    (∀ call ∈ before, call.now ≤ now) → (∀ call ∈ mid ++ after, now ≤ call.now) →
    Dead (run step t before) key now →
    Along step (fun t call => ¬ t.Inserts key call) (run step t before) mid →
    now ≤ later → (∀ call ∈ mid, call.now ≤ later) →
    (run step t (before ++ mid)).lookup key later = none

theorem lookup_step_eq_none (h : t.lookup key call.now = none) (hinsert : ¬ t.Inserts key call)
    (hrevive : ¬ t.Revives call) : (t.step call).lookup key call.now = none := by
  rw [lookup_eq_none_iff] at h ⊢
  intro e' he'
  rcases step_lookup he' with ⟨hin, -⟩ | ⟨-, e, he, hevolves⟩
  · exact absurd hin hinsert
  have hexpired := h e he
  -- The call may touch the entry only when its timeout is zero.
  cases hevolves with
  | kept => exact hexpired
  | @moved next hcall hne hcan =>
    apply isExpired_touch.mpr
    by_contra htimeout
    exact hrevive ⟨key, e, he, hexpired, htimeout, .inr ⟨next, hcall, hne, hcan⟩⟩
  | @counted bytes hcall =>
    apply isExpired_touch.mpr
    by_contra htimeout
    exact hrevive ⟨key, e, he, hexpired, htimeout, .inl ⟨bytes, hcall⟩⟩

theorem lookup_mono {later : UInt64} (hle : now ≤ later) (h : t.lookup key now = none) :
    t.lookup key later = none := by
  rw [lookup_eq_none_iff] at h ⊢
  exact fun e he => isExpired_mono hle (h e he)

/-- A run without revivals and without insertions of the key finds nothing under it. -/
theorem lookup_run_eq_none {calls : List Call} {later : UInt64} (htimed : Timed calls)
    (hstart : ∀ call ∈ calls, now ≤ call.now) (hend : ∀ call ∈ calls, call.now ≤ later)
    (hle : now ≤ later) (h : t.lookup key now = none)
    (hinsert : Along step (fun t call => ¬ t.Inserts key call) t calls)
    (hrevive : Along step (fun t call => ¬ t.Revives call) t calls) :
    (run step t calls).lookup key later = none := by
  -- The clock moves on to the call, the call leaves the key out of sight, and the rest follows.
  induction calls generalizing t now with
  | nil => exact lookup_mono hle h
  | cons call calls ih =>
    have hnow := hstart call List.mem_cons_self
    have hlater := hend call List.mem_cons_self
    have htimed' := List.pairwise_cons.mp htimed
    have hinsert' := along_cons.mp hinsert
    have hrevive' := along_cons.mp hrevive
    apply ih htimed'.2 htimed'.1 (fun c hc => hend c (List.mem_cons_of_mem _ hc)) hlater
    · exact lookup_step_eq_none (lookup_mono hnow h) hinsert'.1 hrevive'.1
    · exact hinsert'.2
    · exact hrevive'.2

theorem lookup_touched (htimeout : e.timeoutSecs ≠ 0)
    (h : t.entries.lookup key = some (e.touch now)) : t.lookup key now ≠ none := by
  intro hnone
  exact htimeout (isExpired_touch.mp (lookup_eq_none_iff.mp hnone _ h))

/-- A revival makes the key visible again in the second it happens. -/
theorem lookup_of_revives (h : t.Revives call) :
    ∃ key, Dead t key call.now ∧ ¬ t.Inserts key call ∧
      (t.step call).lookup key call.now ≠ none := by
  rcases h with ⟨key, e, he, hexpired, htimeout, hcall⟩
  rcases call with ⟨operation, now⟩
  rcases hcall with ⟨bytes, hcall⟩ | ⟨next, hcall, hne, hcan⟩
  · subst hcall
    refine ⟨key, ⟨e, he, hexpired⟩, fun hin => ?_, ?_⟩
    · rcases hin with ⟨-, entry, hentry, -⟩
      exact nomatch hentry
    · apply lookup_touched (e := { e with
        packetsForwarded := saturatingAdd64 e.packetsForwarded 1
        bytesForwarded := saturatingAdd64 e.bytesForwarded bytes }) htimeout
      show ((t.recordPacket key bytes now).2).entries.lookup key = _
      unfold recordPacket
      rw [he]
      exact Finmap.lookup_insert _
  · subst hcall
    refine ⟨key, ⟨e, he, hexpired⟩, fun hin => ?_, ?_⟩
    · rcases hin with ⟨-, entry, hentry, -⟩
      exact nomatch hentry
    · apply lookup_touched (e := { e with state := next }) htimeout
      have hmoved : (e.transition next now).2 =
          ConnectionEntry.touch { e with state := next } now := by
        unfold ConnectionEntry.transition
        rw [if_neg hne, hcan]
        rfl
      show ((t.transition key next now).2).entries.lookup key = _
      unfold transition
      rw [he, ← hmoved]
      exact Finmap.lookup_insert _

theorem Dead.lookup (h : Dead t key now) : t.lookup key now = none := by
  rcases h with ⟨e, he, hexpired⟩
  rw [lookup_eq_none_iff]
  intro e' he'
  rw [← Option.some.inj (he.symm.trans he')]
  exact hexpired

/-- Expired connections stay dead exactly on the runs that never revive one. -/
theorem staysDead_iff (maxEntries : Nat) (calls : List Call) (htimed : Timed calls) :
    StaysDead (new maxEntries) calls ↔
      Along step (fun t call => ¬ t.Revives call) (new maxEntries) calls := by
  constructor
  -- A revival is itself a piece of the run that breaks the property.
  · intro hdead before call after hsplit hrevives
    rcases lookup_of_revives hrevives with ⟨key, hkey, hinsert, hfound⟩
    rw [hsplit] at htimed
    have hpair := List.pairwise_append.mp htimed
    have hcall := List.pairwise_cons.mp hpair.2.1
    apply hfound
    have hnone := hdead before [call] after key call.now call.now (by rw [hsplit]; simp)
      (fun c hc => hpair.2.2 c hc call List.mem_cons_self) ?_ hkey ?_ (UInt64.le_refl _) ?_
    · rw [run_append] at hnone
      exact hnone
    · intro c hc
      rcases List.mem_cons.mp hc with rfl | hin
      · exact UInt64.le_refl _
      · exact hcall.1 c hin
    · exact along_cons.mpr ⟨hinsert, along_nil⟩
    · intro c hc
      rw [List.mem_singleton.mp hc]
      exact UInt64.le_refl _
  -- Without revivals the middle piece finds nothing, whatever surrounds it.
  · intro hrevive before mid after key now later hsplit _ hstart hkey hinsert hle hend
    rw [run_append]
    apply lookup_run_eq_none _ (fun c hc => hstart c (List.mem_append_left _ hc)) hend hle
      hkey.lookup hinsert
    · intro b call a hmid
      have hstep := hrevive (before ++ b) call (a ++ after) (by rw [hsplit, hmid]; simp)
      rw [run_append] at hstep
      exact hstep
    · rw [hsplit, Timed, List.append_assoc] at htimed
      exact (List.pairwise_append.mp (List.pairwise_append.mp htimed).2.1).1

def webKey : ConnectionKey :=
  ⟨.v4 ⟨192, 168, 1, 10⟩, 50000, .v4 ⟨8, 8, 8, 8⟩, 443, .tcp⟩

/-- Made in second 0 with a timeout of ten seconds. -/
def webEntry : ConnectionEntry := ⟨webKey, .new, 0, 0, 10, 0, 0⟩

theorem staysDead_iff_web :
    Timed [⟨.insert webEntry, 0⟩, ⟨.recordPacket webKey 100, 5⟩] ∧
      (StaysDead (new 1) [⟨.insert webEntry, 0⟩, ⟨.recordPacket webKey 100, 5⟩] ↔
        Along step (fun t call => ¬ t.Revives call) (new 1)
          [⟨.insert webEntry, 0⟩, ⟨.recordPacket webKey 100, 5⟩]) :=
  ⟨by unfold Timed; decide, staysDead_iff 1 _ (by unfold Timed; decide)⟩

/-- A packet in second 20 brings back a connection that was not seen for ten seconds. -/
theorem late_packet_revives :
    Timed [⟨.insert webEntry, 0⟩, ⟨.recordPacket webKey 100, 20⟩] ∧
      ¬ StaysDead (new 1) [⟨.insert webEntry, 0⟩, ⟨.recordPacket webKey 100, 20⟩] := by
  refine ⟨by unfold Timed; decide, fun hdead => ?_⟩
  have hexpired : Dead (run step (new 1) [⟨.insert webEntry, 0⟩]) webKey 20 :=
    ⟨webEntry, by decide, by decide⟩
  have hother : ¬ (run step (new 1) [⟨.insert webEntry, 0⟩]).Inserts webKey
      ⟨.recordPacket webKey 100, 20⟩ := by
    intro hin
    rcases hin with ⟨-, entry, hentry, -⟩
    exact nomatch hentry
  have hnone := hdead [⟨.insert webEntry, 0⟩] [⟨.recordPacket webKey 100, 20⟩] [] webKey 20 20 rfl
    (by decide) (by decide) hexpired (along_cons.mpr ⟨hother, along_nil⟩) (by decide) (by decide)
  exact absurd hnone (by decide)

/-! ## 7. The life of an entry -/

/-- The edges of a connection's life: forward one state at a time, or to `failed` while the
connection is not over. -/
inductive Edge : ConnectionState → ConnectionState → Prop where
  | establish : Edge .new .established
  | close : Edge .established .closing
  | finish : Edge .closing .closed
  | fail {s : ConnectionState} (hs : s.isTerminal = false) : Edge s .failed

/-- From one state of a run to the next. -/
def Follows (s s' : ConnectionState) : Prop := s = s' ∨ Edge s s'

theorem edge_of_canTransitionTo {s s' : ConnectionState} (hne : s ≠ s')
    (h : s.canTransitionTo s' = true) : Edge s s' := by
  cases s <;> cases s'
  -- Two states that differ and may follow each other are an edge; the other pairs are refuted.
  case new.established => exact .establish
  case established.closing => exact .close
  case closing.closed => exact .finish
  case new.failed => exact .fail rfl
  case established.failed => exact .fail rfl
  case closing.failed => exact .fail rfl
  all_goals first | exact absurd rfl hne | exact nomatch h

theorem Edge.canTransitionTo {s s' : ConnectionState} (h : Edge s s') :
    s.canTransitionTo s' = true := by
  cases h with
  | establish | close | finish => rfl
  | fail hs =>
    cases s with
    | new | established | closing => rfl
    | closed | failed => cases hs

/-- A transition goes well along an edge, or when the entry is there already, and then takes the
entry to the state that is asked for. -/
theorem transition_follows (e : ConnectionEntry) (next : ConnectionState) (now : UInt64) :
    ((e.transition next now).1 = .ok () ↔ Follows e.state next) ∧
      (Follows e.state next → (e.transition next now).2.state = next) := by
  unfold ConnectionEntry.transition
  by_cases hsame : e.state = next
  · rw [if_pos hsame]
    exact ⟨iff_of_true rfl (.inl hsame), fun _ => hsame⟩
  · rw [if_neg hsame]
    by_cases hcan : e.state.canTransitionTo next = true
    · rw [if_neg (by simpa using hcan)]
      exact ⟨iff_of_true rfl (.inr (edge_of_canTransitionTo hsame hcan)), fun _ => rfl⟩
    · have hnot : ¬ Follows e.state next := by
        rintro (heq | hedge)
        · exact hsame heq
        · exact hcan hedge.canTransitionTo
      rw [if_pos (by simpa using hcan)]
      exact ⟨iff_of_false nofun hnot, fun hfollows => absurd hfollows hnot⟩

theorem Evolves.follows (h : Evolves key call e e') : Follows e.state e'.state := by
  cases h with
  | kept => exact .inl rfl
  | moved hcall hne hcan => exact .inr (edge_of_canTransitionTo hne hcan)
  | counted => exact .inl rfl

/-- The sizes of the packets the calls record under `key`. -/
def recorded (key : ConnectionKey) (calls : List Call) : List UInt64 :=
  calls.filterMap fun call =>
    match call.operation with
    | .recordPacket key' bytes => if key' = key then some bytes else none
    | _ => none

def totalBytes : List UInt64 → Nat
  | [] => 0
  | bytes :: sizes => bytes.toNat + totalBytes sizes

/-- The entry under `key` from the state `t` it was inserted in to the end of the calls: it is
there in every state, no other insertion replaces it, `life` lists it, and `e` is its last
value. -/
structure Life (t : ConnectionStateTable) (key : ConnectionKey) (calls : List Call)
    (life : List ConnectionEntry) (e : ConnectionEntry) : Prop where
  present : (trace step t calls).map (fun t => t.entries.lookup key) = life.map some
  uninterrupted : Along step (fun t call => ¬ t.Inserts key call) t calls
  born : life.head?.map (·.state) = some .new
  last : life.getLast? = some e
  path : (life.map (·.state)).IsChain Follows
  packets : e.packetsForwarded.toNat = min (recorded key calls).length (2 ^ 64 - 1)
  bytes : e.bytesForwarded.toNat = min (totalBytes (recorded key calls)) (2 ^ 64 - 1)

theorem totalBytes_append (sizes sizes' : List UInt64) :
    totalBytes (sizes ++ sizes') = totalBytes sizes + totalBytes sizes' := by
  induction sizes with
  | nil => exact (Nat.zero_add _).symm
  | cons bytes sizes ih =>
    show bytes.toNat + totalBytes (sizes ++ sizes') = bytes.toNat + totalBytes sizes + _
    rw [ih, Nat.add_assoc]

theorem recorded_concat (key : ConnectionKey) (calls : List Call) (call : Call) :
    recorded key (calls ++ [call]) = recorded key calls ++ recorded key [call] :=
  List.filterMap_append

theorem recorded_counted {bytes : UInt64} (h : call.operation = .recordPacket key bytes) :
    recorded key [call] = [bytes] := by
  simp [recorded, h]

theorem recorded_other (h : ∀ bytes, call.operation ≠ .recordPacket key bytes) :
    recorded key [call] = [] := by
  rcases call with ⟨operation, now⟩
  cases operation with
  | recordPacket key' bytes =>
    have hne : key' ≠ key := fun heq => h bytes (by rw [← heq])
    simp [recorded, hne]
  | _ => rfl

theorem Life.concat {calls : List Call} {life : List ConnectionEntry}
    (h : Life t key calls life e)
    (hstored : (step (run step t calls) call).entries.lookup key = some e')
    (hother : ¬ (run step t calls).Inserts key call) (hevolves : Evolves key call e e') :
    Life t key (calls ++ [call]) (life ++ [e']) e' where
  present := by
    rw [trace_concat, List.map_append, List.map_append, h.present, List.map_singleton,
      List.map_singleton, hstored]
  uninterrupted := h.uninterrupted.concat hother
  born := by
    have hborn := h.born
    cases life with
    | nil => exact nomatch hborn
    | cons first life => exact hborn
  last := List.getLast?_concat
  path := by
    rw [List.map_append, List.map_singleton, List.isChain_append]
    -- The new state follows the last one of the life so far.
    refine ⟨h.path, .singleton _, ?_⟩
    intro s hs s' hs'
    rw [List.getLast?_map, h.last] at hs
    rw [← Option.some.inj hs, ← Option.some.inj hs']
    exact hevolves.follows
  packets := by
    rw [recorded_concat, List.length_append]
    cases hevolves with
    | kept hother =>
      rw [recorded_other hother]
      exact h.packets
    | moved hcall =>
      rw [recorded_other (fun bytes hrecord => by rw [hcall] at hrecord; exact nomatch hrecord)]
      exact h.packets
    | counted hcall =>
      rw [recorded_counted hcall]
      show (saturatingAdd64 e.packetsForwarded 1).toNat = _
      rw [toNat_saturatingAdd64, h.packets]
      -- A counter at its bound stays there, so saturating once or at every packet is the same.
      show min (min _ _ + 1) _ = min (_ + 1) _
      omega
  bytes := by
    rw [recorded_concat, totalBytes_append]
    cases hevolves with
    | kept hother =>
      rw [recorded_other hother]
      exact h.bytes
    | moved hcall =>
      rw [recorded_other (fun bytes hrecord => by rw [hcall] at hrecord; exact nomatch hrecord)]
      exact h.bytes
    | @counted bytes hcall =>
      rw [recorded_counted hcall]
      show (saturatingAdd64 e.bytesForwarded bytes).toNat = _
      rw [toNat_saturatingAdd64, h.bytes]
      show min (min _ _ + bytes.toNat) _ = min (_ + (bytes.toNat + 0)) _
      omega

/-- The entry is as `ConnectionEntry::new` makes it. -/
def Made (entry : ConnectionEntry) : Prop :=
  ∃ key timeoutSecs now, ConnectionEntry.new key timeoutSecs now = .ok entry

theorem Made.fresh (h : Made entry) :
    entry.state = .new ∧ entry.packetsForwarded = 0 ∧ entry.bytesForwarded = 0 := by
  rcases h with ⟨key, timeoutSecs, now, hnew⟩
  unfold ConnectionEntry.new at hnew
  split at hnew
  · exact nomatch hnew
  · rw [← Except.ok.inj hnew]
    exact ⟨rfl, rfl, rfl⟩

theorem Life.start (hmade : Made e) (hstored : t.entries.lookup key = some e) :
    Life t key [] [e] e where
  present := congrArg (fun o => [o]) hstored
  uninterrupted := along_nil
  born := congrArg some hmade.fresh.1
  last := rfl
  path := .singleton _
  packets := by
    rw [hmade.fresh.2.1]
    rfl
  bytes := by
    rw [hmade.fresh.2.2]
    rfl

/-- Every insertion of the run is of an entry as `ConnectionEntry::new` makes it. -/
def InsertsMade (calls : List Call) : Prop :=
  ∀ call ∈ calls, ∀ entry, call.operation = .insert entry → Made entry

/-- A stored entry was inserted by some call of the run and has lived since. -/
theorem exists_life (maxEntries : Nat) (calls : List Call) (hmade : InsertsMade calls)
    (h : (run step (new maxEntries) calls).entries.lookup key = some e) :
    ∃ before call after life, calls = before ++ call :: after ∧
      (run step (new maxEntries) before).Inserts key call ∧
      Life (step (run step (new maxEntries) before) call) key after life e := by
  -- The induction adds the last call of the run: it inserts the entry, or the life goes on.
  induction calls using List.reverseRecOn generalizing e with
  | nil => exact nomatch (show (none : Option ConnectionEntry) = some e from h)
  | append_singleton calls call ih =>
    have hmade' : InsertsMade calls := fun c hc => hmade c (List.mem_append_left _ hc)
    rw [run_append] at h
    rcases step_lookup h with ⟨hinserts, hentry⟩ | ⟨hother, before, hbefore, hevolves⟩
    · have hfresh := hmade call (List.mem_append_right _ List.mem_cons_self) e hentry
      exact ⟨calls, call, [], [e], rfl, hinserts, .start hfresh h⟩
    · rcases ih hmade' hbefore with ⟨b, c, after, life, rfl, hinserts, hlife⟩
      refine ⟨b, c, after ++ [call], life ++ [e], by simp, hinserts, ?_⟩
      rw [run_append] at h hother
      exact hlife.concat h hother hevolves

/-! ## 8. Whole runs -/

/-- The entries fit and each is stored under its own key. -/
structure WellStored (t : ConnectionStateTable) : Prop where
  len_le : t.len ≤ t.maxEntries
  own_key : ∀ key e, t.entries.lookup key = some e → e.key = key

theorem Evolves.key_eq (h : Evolves key call e e') : e'.key = e.key := by
  cases h <;> rfl

theorem maxEntries_step (t : ConnectionStateTable) (call : Call) :
    (t.step call).maxEntries = t.maxEntries := by
  have hcall := perform_outcome t call
  generalize (t.perform call).1 = r, t.step call = t' at hcall ⊢
  cases hcall <;> rfl

theorem len_removeExpired_le (now : UInt64) (t : ConnectionStateTable) :
    (t.removeExpired now).2.len ≤ t.len :=
  Table.card_discard_le _ _

theorem len_step_le (h : t.len ≤ t.maxEntries) (call : Call) :
    (t.step call).len ≤ t.maxEntries := by
  have hcall := perform_outcome t call
  generalize (t.perform call).1 = r, t.step call = t' at hcall ⊢
  cases hcall with
  | refused => exact h
  | purged => exact Nat.le_trans (len_removeExpired_le call.now t) h
  | @inserted entry _ habsent hroom =>
    show ((t.removeExpired call.now).2.entries.insert entry.key entry).keys.card ≤ _
    rw [Table.card_insert_of_notMem _ habsent]
    exact hroom
  | @replaced _ slot e e' hslot =>
    show (t.entries.insert slot e').keys.card ≤ _
    rw [Table.card_insert_of_mem _ (Finmap.mem_of_lookup_eq_some hslot)]
    exact h
  | removed => exact Nat.le_trans (Table.card_erase_le _ _) h
  | cleared => exact Nat.zero_le _

theorem WellStored.step (h : t.WellStored) (call : Call) : (t.step call).WellStored where
  len_le := by
    rw [maxEntries_step]
    exact len_step_le h.len_le call
  own_key key e he := by
    rcases step_lookup he with ⟨⟨-, entry, hentry, hkey⟩, hcall⟩ | ⟨-, before, hbefore, hevolves⟩
    · rw [hcall] at hentry
      rw [Operation.insert.inj hentry]
      exact hkey
    · rw [hevolves.key_eq]
      exact h.own_key key before hbefore

theorem WellStored.new (maxEntries : Nat) : (new maxEntries).WellStored where
  len_le := Nat.zero_le _
  own_key _ _ h := nomatch h

theorem maxEntries_run (calls : List Call) (t : ConnectionStateTable) :
    (Transition.run step t calls).maxEntries = t.maxEntries := by
  induction calls generalizing t with
  | nil => rfl
  | cons call calls ih => exact (ih _).trans (maxEntries_step t call)

/-- A call that fails leaves the entries that have not expired. -/
theorem lookup_of_error {err : ConnectionStateError} (h : (t.perform call).1 = .error err)
    (he : t.entries.lookup key = some e) (hlive : e.isExpired call.now = false) :
    (t.step call).entries.lookup key = some e := by
  have hcall := perform_outcome t call
  rw [h] at hcall
  generalize t.step call = t' at hcall ⊢
  cases hcall with
  | refused => exact he
  | purged => exact lookup_removeExpired.mpr ⟨he, hlive⟩
  | @replaced _ slot e₀ e' hslot _ herror =>
    show (t.entries.insert slot e').lookup key = some e
    rw [Table.lookup_insert, herror err rfl]
    split
    · rename_i hkey
      rw [← hslot, ← hkey]
      exact he
    · exact he

/-- Every run of the table: it is bounded and keyed, its entries have lives, a transition is made
exactly along the edges, and failed calls leave what has not expired. -/
theorem connection_lifecycle (maxEntries : Nat) (calls : List Call) (hmade : InsertsMade calls) :
    let t := run step (new maxEntries) calls
    t.len ≤ maxEntries ∧
      (∀ key e, t.entries.lookup key = some e → e.key = key) ∧
      (∀ key e, t.entries.lookup key = some e →
        ∃ before call after life, calls = before ++ call :: after ∧
          (run step (new maxEntries) before).Inserts key call ∧
          Life (step (run step (new maxEntries) before) call) key after life e) ∧
      (∀ key e next now, t.entries.lookup key = some e →
        ((t.perform ⟨.transition key next, now⟩).1 = .ok () ↔ Follows e.state next) ∧
          (Follows e.state next → ∃ e', (t.step ⟨.transition key next, now⟩).entries.lookup key =
            some e' ∧ e'.state = next)) ∧
      ∀ call err, (t.perform call).1 = .error err →
        ∀ key e, t.entries.lookup key = some e → e.isExpired call.now = false →
          (t.step call).entries.lookup key = some e := by
  have hstored : (run step (new maxEntries) calls).WellStored :=
    run_inv (fun t call ht => ht.step call) (.new maxEntries) calls
  have hmax : (run step (new maxEntries) calls).maxEntries = maxEntries := maxEntries_run calls _
  refine ⟨Nat.le_trans hstored.len_le (Nat.le_of_eq hmax), hstored.own_key, ?_, ?_, ?_⟩
  · intro key e he
    exact exists_life maxEntries calls hmade he
  · intro key e next now he
    have hperform : (run step (new maxEntries) calls).perform ⟨.transition key next, now⟩ =
        ((e.transition next now).1, { run step (new maxEntries) calls with
          entries := (run step (new maxEntries) calls).entries.insert key
            (e.transition next now).2 }) := by
      show transition _ _ _ _ = _
      rw [transition, he]
    unfold step at hperform ⊢
    rw [hperform]
    refine ⟨(transition_follows e next now).1, fun hfollows => ?_⟩
    exact ⟨_, Finmap.lookup_insert _, (transition_follows e next now).2 hfollows⟩
  · intro call err herror key e he hlive
    exact lookup_of_error herror he hlive

/-- A connection that is made, sees a packet and is established. -/
def webRun : List Call := [⟨.insert webEntry, 0⟩, ⟨.recordPacket webKey 100, 5⟩,
  ⟨.transition webKey .established, 6⟩]

theorem connection_lifecycle_web :
    InsertsMade webRun ∧ ∃ before call after life, webRun = before ++ call :: after ∧
      (run step (new 1) before).Inserts webKey call ∧
      Life (step (run step (new 1) before) call) webKey after life
        ⟨webKey, .established, 0, 6, 10, 1, 100⟩ := by
  have hmade : InsertsMade webRun := by
    intro call hcall entry hentry
    rcases List.mem_cons.mp hcall with rfl | hcall
    · rw [← Operation.insert.inj hentry]
      exact ⟨webKey, 10, 0, rfl⟩
    rcases List.mem_cons.mp hcall with rfl | hcall
    · exact nomatch hentry
    rw [List.mem_singleton.mp hcall] at hentry
    exact nomatch hentry
  exact ⟨hmade, (connection_lifecycle 1 _ hmade).2.2.1 webKey _ (by decide)⟩

end ConnectionStateTable

end NetworkEngine
