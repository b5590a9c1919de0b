import NetworkEngine.Core.Observation
import NetworkEngine.Lib.Table
import NetworkEngine.Lib.Transition

/-!
# Nat — the gateway's translation table

`gateway_capability::nat`.  The entries are stored by id and found by their original and by their
translated tuple through two indexes.  The clock readings a call makes are its inputs, and a clock
may go backwards.
-/

namespace NetworkEngine

open Rust Transition

/-! ## 1. Entries -/

inductive NatProtocol where
  | tcp
  | udp
  | icmp
  | icmpV6
  | other (number : UInt8)
  deriving DecidableEq, Repr

structure NatTuple where
  srcIp : IpAddr
  srcPort : UInt16
  dstIp : IpAddr
  dstPort : UInt16
  protocol : NatProtocol
  deriving DecidableEq, Repr

structure NatEntry where
  id : UInt64
  original : NatTuple
  translated : NatTuple
  createdAt : UInt64
  lastSeen : UInt64
  timeoutSecs : UInt64
  enabled : Bool
  deriving DecidableEq, Repr

namespace NatEntry

/-- `NatEntry::new` at clock reading `now`. -/
def new (id : UInt64) (original translated : NatTuple) (timeoutSecs now : UInt64) : NatEntry :=
  ⟨id, original, translated, now, now, timeoutSecs, true⟩

def isExpired (e : NatEntry) (now : UInt64) : Bool :=
  -- A clock that stands before `lastSeen` shows an idle time of zero.
  e.timeoutSecs ≤ saturatingSub64 now e.lastSeen

def touch (e : NatEntry) (now : UInt64) : NatEntry := { e with lastSeen := now }

end NatEntry

inductive NatError where
  | capacityExceeded
  | duplicateMapping
  | mappingNotFound
  | invalidTimeout
  deriving DecidableEq, Repr

inductive NatLookupDirection where
  | original
  | translated
  deriving DecidableEq, Repr

/-! ## 2. The table -/

structure NatTable where
  entries : Table UInt64 NatEntry
  originalIndex : Table NatTuple UInt64
  translatedIndex : Table NatTuple UInt64
  maxEntries : Nat
  nextId : UInt64
  deriving DecidableEq

/-- The clock readings of one `insert`: of the purge, and of the new entry. -/
structure NatClock where
  purged : UInt64
  created : UInt64
  deriving DecidableEq, Repr

namespace NatTable

def new (maxEntries : Nat) : NatTable := ⟨∅, ∅, ∅, maxEntries, 1⟩

def len (t : NatTable) : Nat := t.entries.keys.card

def lookupOriginal (t : NatTable) (tuple : NatTuple) : Option NatEntry := do
  let id ← t.originalIndex.lookup tuple
  t.entries.lookup id

def lookupTranslated (t : NatTable) (tuple : NatTuple) : Option NatEntry := do
  let id ← t.translatedIndex.lookup tuple
  t.entries.lookup id

def lookup (t : NatTable) (tuple : NatTuple) : NatLookupDirection → Option NatEntry
  | .original => t.lookupOriginal tuple
  | .translated => t.lookupTranslated tuple

def touch (id now : UInt64) (t : NatTable) : Bool × NatTable :=
  match t.entries.lookup id with
  | some e => (true, { t with entries := t.entries.insert id (e.touch now) })
  | none => (false, t)

def remove (id : UInt64) (t : NatTable) : Option NatEntry × NatTable :=
  match t.entries.lookup id with
  | some e => (some e, { t with
      entries := t.entries.erase id
      originalIndex := t.originalIndex.erase e.original
      translatedIndex := t.translatedIndex.erase e.translated })
  | none => (none, t)

/-- The body of the purge loop. -/
def removeId (t : NatTable) (id : UInt64) : NatTable := (t.remove id).2

theorem removeId_some {t : NatTable} {id : UInt64} {e : NatEntry}
    (h : t.entries.lookup id = some e) :
    t.removeId id = { t with
      entries := t.entries.erase id
      originalIndex := t.originalIndex.erase e.original
      translatedIndex := t.translatedIndex.erase e.translated } := by
  unfold removeId remove
  rw [h]

theorem removeId_none {t : NatTable} {id : UInt64} (h : t.entries.lookup id = none) :
    t.removeId id = t := by
  unfold removeId remove
  rw [h]

theorem lookup_removeId (t : NatTable) (id id' : UInt64) :
    (t.removeId id).entries.lookup id' = if id' = id then none else t.entries.lookup id' := by
  cases hlookup : t.entries.lookup id with
  | none =>
    rw [removeId_none hlookup]
    split
    · rename_i heq
      rw [heq, hlookup]
    · rfl
  | some e =>
    rw [removeId_some hlookup]
    exact Table.lookup_erase _ _ _

instance : RightCommutative removeId where
  right_comm t a b := by
    by_cases hab : a = b
    · rw [hab]
    have hb : (t.removeId a).entries.lookup b = t.entries.lookup b := by
      rw [lookup_removeId, if_neg (Ne.symm hab)]
    have ha : (t.removeId b).entries.lookup a = t.entries.lookup a := by
      rw [lookup_removeId, if_neg hab]
    cases hea : t.entries.lookup a with
    | none => rw [removeId_none hea, removeId_none (ha.trans hea)]
    | some e =>
      cases heb : t.entries.lookup b with
      | none => rw [removeId_none heb, removeId_none (hb.trans heb)]
      | some f =>
        rw [removeId_some (hb.trans heb), removeId_some (ha.trans hea), removeId_some hea,
          removeId_some heb]
        -- Erasures commute key by key, whether or not the two entries share a tuple.
        simp only [Table.erase_comm _ a b, Table.erase_comm _ e.original f.original,
          Table.erase_comm _ e.translated f.translated]

def removeExpired (now : UInt64) (t : NatTable) : Nat × NatTable :=
  let expired := t.entries.keysWhere (·.isExpired now)
  (expired.card, Table.forEach removeId t expired)

def clear (t : NatTable) : NatTable :=
  { t with entries := ∅, originalIndex := ∅, translatedIndex := ∅ }

/-- Ids wrap around and skip zero. -/
def allocateId (t : NatTable) : UInt64 × NatTable :=
  -- The stored ids are not consulted: only their count keeps an allocated id new.
  let next := t.nextId + 1
  (t.nextId, { t with nextId := if next = 0 then 1 else next })

def insert (original translated : NatTuple) (timeoutSecs : UInt64) (clock : NatClock)
    (t : NatTable) : Except NatError UInt64 × NatTable :=
  if timeoutSecs = 0 then (.error .invalidTimeout, t)
  else
    -- The purge stays, also when one of the two refusals below follows.
    let t := (t.removeExpired clock.purged).2
    if t.maxEntries ≤ t.len then (.error .capacityExceeded, t)
    else if original ∈ t.originalIndex ∨ translated ∈ t.translatedIndex then
      (.error .duplicateMapping, t)
    else
      let (id, t) := t.allocateId
      (.ok id, { t with
        entries := t.entries.insert id (.new id original translated timeoutSecs clock.created)
        originalIndex := t.originalIndex.insert original id
        translatedIndex := t.translatedIndex.insert translated id })

/-! ## 3. The invariant -/

/-- The entries fit, each is stored under its own id, and both indexes are indexes of them. -/
structure Consistent (t : NatTable) : Prop where
  len_le : t.len ≤ t.maxEntries
  own_id : ∀ id e, t.entries.lookup id = some e → e.id = id
  original : Table.IsIndex NatEntry.original t.originalIndex t.entries
  translated : Table.IsIndex NatEntry.translated t.translatedIndex t.entries

variable {t : NatTable} {id now : UInt64}

theorem Consistent.new (maxEntries : Nat) : (new maxEntries).Consistent where
  len_le := Nat.zero_le _
  own_id _ _ h := nomatch h
  original := Table.isIndex_empty
  translated := Table.isIndex_empty

theorem Consistent.clear (t : NatTable) : t.clear.Consistent where
  len_le := Nat.zero_le _
  own_id _ _ h := nomatch h
  original := Table.isIndex_empty
  translated := Table.isIndex_empty

theorem Consistent.touch (h : t.Consistent) (id now : UInt64) : (t.touch id now).2.Consistent := by
  unfold NatTable.touch
  cases hlookup : t.entries.lookup id with
  | none => exact h
  | some e =>
    constructor
    · show (t.entries.insert id (e.touch now)).keys.card ≤ t.maxEntries
      rw [Table.card_insert_of_mem _ (Finmap.mem_of_lookup_eq_some hlookup)]
      exact h.len_le
    · intro id' e' he'
      have hsplit : (t.entries.insert id (e.touch now)).lookup id' = some e' := he'
      rw [Table.lookup_insert] at hsplit
      split at hsplit
      · rename_i heq
        rw [← Option.some.inj hsplit, heq]
        exact h.own_id id e hlookup
      · exact h.own_id id' e' hsplit
    -- The touched entry keeps both tuples, so neither index needs a change.
    · exact h.original.modify hlookup rfl
    · exact h.translated.modify hlookup rfl

theorem Consistent.removeId (h : t.Consistent) (id : UInt64) : (t.removeId id).Consistent := by
  cases hlookup : t.entries.lookup id with
  | none =>
    rw [removeId_none hlookup]
    exact h
  | some e =>
    constructor
    · rw [removeId_some hlookup]
      exact Nat.le_trans (Table.card_erase_le _ _) h.len_le
    · intro id' e' he'
      rw [lookup_removeId] at he'
      split at he'
      · exact nomatch he'
      · exact h.own_id id' e' he'
    · rw [removeId_some hlookup]
      exact h.original.erase hlookup
    · rw [removeId_some hlookup]
      exact h.translated.erase hlookup

/-! ## 4. The purge -/

/-- The table after a purge at clock reading `now`. -/
def purged (now : UInt64) (t : NatTable) : NatTable := (t.removeExpired now).2

/-- A purge keeps exactly the entries that have not expired. -/
theorem lookup_purged {e : NatEntry} :
    (t.purged now).entries.lookup id = some e ↔
      t.entries.lookup id = some e ∧ e.isExpired now = false :=
  Table.lookup_forEach_remove NatTable.entries lookup_removeId

theorem Consistent.purged (h : t.Consistent) (now : UInt64) : (t.purged now).Consistent :=
  Table.forEach_inv Consistent (fun _ id ht => ht.removeId id) _ h

theorem purged_frame (now : UInt64) (t : NatTable) :
    (t.purged now).maxEntries = t.maxEntries ∧ (t.purged now).nextId = t.nextId := by
  apply Table.forEach_inv (fun u : NatTable => u.maxEntries = t.maxEntries ∧ u.nextId = t.nextId)
  · intro u id hu
    unfold removeId remove
    split <;> exact hu
  · exact ⟨rfl, rfl⟩

/-! ## 5. Insertion -/

variable {original translated : NatTuple} {timeoutSecs : UInt64} {clock : NatClock}

/-- The table with a new entry. -/
def withEntry (original translated : NatTuple) (timeoutSecs now : UInt64) (t : NatTable) :
    NatTable :=
  { t.allocateId.2 with
    entries := t.entries.insert t.nextId (.new t.nextId original translated timeoutSecs now)
    originalIndex := t.originalIndex.insert original t.nextId
    translatedIndex := t.translatedIndex.insert translated t.nextId }

/-- An insertion fails on the table or on the purged table, or it adds an entry under the next id
to a purged table that has room and knows neither tuple. -/
theorem insert_cases {r : Except NatError UInt64} {t' : NatTable}
    (h : t.insert original translated timeoutSecs clock = (r, t')) :
    (∃ err, r = .error err ∧ (t' = t ∨ t' = t.purged clock.purged)) ∨
      (r = .ok t.nextId ∧ timeoutSecs ≠ 0 ∧
        (t.purged clock.purged).len < (t.purged clock.purged).maxEntries ∧
        original ∉ (t.purged clock.purged).originalIndex ∧
        translated ∉ (t.purged clock.purged).translatedIndex ∧
        t' = (t.purged clock.purged).withEntry original translated timeoutSecs clock.created) := by
  unfold insert at h
  split at h
  · have h' := Prod.mk.inj h
    exact .inl ⟨_, h'.1.symm, .inl h'.2.symm⟩
  rename_i htimeout
  -- Everything from here on is decided on the purged table.
  change (if (t.purged clock.purged).maxEntries ≤ (t.purged clock.purged).len then _ else _) = _
    at h
  split at h
  · have h' := Prod.mk.inj h
    exact .inl ⟨_, h'.1.symm, .inr h'.2.symm⟩
  rename_i hroom
  split at h
  · have h' := Prod.mk.inj h
    exact .inl ⟨_, h'.1.symm, .inr h'.2.symm⟩
  rename_i hfree
  have h' := Prod.mk.inj h
  refine .inr ⟨?_, htimeout, Nat.lt_of_not_le hroom, fun hin => hfree (.inl hin),
    fun hin => hfree (.inr hin), h'.2.symm⟩
  rw [← h'.1, ← (purged_frame clock.purged t).2]
  rfl

theorem Consistent.withEntry (h : t.Consistent) (hroom : t.len < t.maxEntries)
    (horiginal : original ∉ t.originalIndex) (htranslated : translated ∉ t.translatedIndex)
    (hid : t.nextId ∉ t.entries) (now : UInt64) :
    (t.withEntry original translated timeoutSecs now).Consistent := by
  constructor
  · show (t.entries.insert t.nextId _).keys.card ≤ t.maxEntries
    rw [Table.card_insert_of_notMem _ hid]
    exact hroom
  · intro id e he
    have hsplit : (t.entries.insert t.nextId
        (.new t.nextId original translated timeoutSecs now)).lookup id = some e := he
    rw [Table.lookup_insert] at hsplit
    split at hsplit
    · rename_i heq
      rw [← Option.some.inj hsplit, heq]
      rfl
    · exact h.own_id id e hsplit
  · exact Table.IsIndex.insert (v := .new t.nextId original translated timeoutSecs now)
      h.original hid horiginal
  · exact Table.IsIndex.insert (v := .new t.nextId original translated timeoutSecs now)
      h.translated hid htranslated

theorem nextId_withEntry (h : t.nextId.toNat + 1 < 2 ^ 64) (now : UInt64) :
    (t.withEntry original translated timeoutSecs now).nextId.toNat = t.nextId.toNat + 1 := by
  have hnext : (t.nextId + 1).toNat = t.nextId.toNat + 1 := by
    rw [UInt64.toNat_add]
    exact Nat.mod_eq_of_lt h
  show (if t.nextId + 1 = 0 then 1 else t.nextId + 1).toNat = _
  rw [if_neg ?_]
  · exact hnext
  · intro hzero
    rw [hzero] at hnext
    exact Nat.noConfusion hnext

/-! ## 6. Runs -/

/-- One call on the table, with the clock readings it makes. -/
inductive Call where
  | insert (original translated : NatTuple) (timeoutSecs : UInt64) (clock : NatClock)
  | touch (id now : UInt64)
  | remove (id : UInt64)
  | removeExpired (now : UInt64)
  | clear
  deriving DecidableEq, Repr

def step (t : NatTable) : Call → NatTable
  | .insert original translated timeoutSecs clock =>
    (t.insert original translated timeoutSecs clock).2
  | .touch id now => (t.touch id now).2
  | .remove id => (t.remove id).2
  | .removeExpired now => (t.removeExpired now).2
  | .clear => t.clear

/-- The id a call returns, when it is an insertion that succeeds. -/
def issuedBy (t : NatTable) : Call → Option UInt64
  | .insert original translated timeoutSecs clock =>
    (t.insert original translated timeoutSecs clock).1.toOption
  | _ => none

/-- The ids a run returns. -/
def issued : NatTable → List Call → List UInt64
  | _, [] => []
  | t, call :: calls => (t.issuedBy call).toList ++ issued (t.step call) calls

/-- Consistent, and every stored id was allocated before the next one. -/
structure Sound (t : NatTable) : Prop extends Consistent t where
  allocated : ∀ id ∈ t.entries, id.toNat < t.nextId.toNat

theorem Sound.new (maxEntries : Nat) : (new maxEntries).Sound where
  toConsistent := .new maxEntries
  allocated _ h := absurd h Finmap.notMem_empty

theorem Sound.of_subset (h : t.Sound) {t' : NatTable} (hconsistent : t'.Consistent)
    (hsubset : ∀ id ∈ t'.entries, id ∈ t.entries) (hnext : t'.nextId = t.nextId) : t'.Sound where
  toConsistent := hconsistent
  allocated id hid := by
    rw [hnext]
    exact h.allocated id (hsubset id hid)

theorem Sound.purged (h : t.Sound) (now : UInt64) : (t.purged now).Sound := by
  apply h.of_subset (h.toConsistent.purged now)
  · intro id hid
    rcases Finmap.mem_iff.mp hid with ⟨e, he⟩
    exact Finmap.mem_iff.mpr ⟨e, (lookup_purged.mp he).1⟩
  · exact (purged_frame now t).2

theorem Sound.withEntry (h : t.Sound) (hroom : t.len < t.maxEntries)
    (horiginal : original ∉ t.originalIndex) (htranslated : translated ∉ t.translatedIndex)
    (hnext : t.nextId.toNat + 1 < 2 ^ 64) (now : UInt64) :
    (t.withEntry original translated timeoutSecs now).Sound where
  toConsistent := by
    apply h.toConsistent.withEntry hroom horiginal htranslated
    intro hin
    exact Nat.lt_irrefl _ (h.allocated _ hin)
  allocated id hid := by
    rw [nextId_withEntry hnext]
    rcases Finmap.mem_insert.mp hid with heq | hin
    · rw [heq]
      exact Nat.lt_succ_self _
    · exact Nat.lt_succ_of_lt (h.allocated id hin)

/-- A call returns no id and keeps the next one, or returns the next id and moves on. -/
theorem Sound.step (h : t.Sound) (call : Call)
    (hnext : ∀ id, t.issuedBy call = some id → t.nextId.toNat + 1 < 2 ^ 64) :
    (t.step call).Sound ∧
      (t.issuedBy call = none ∧ (t.step call).nextId = t.nextId ∨
        t.issuedBy call = some t.nextId ∧
          (t.step call).nextId.toNat = t.nextId.toNat + 1) := by
  cases call with
  | insert original translated timeoutSecs clock =>
    rcases hinsert : t.insert original translated timeoutSecs clock with ⟨r, t'⟩
    have hissued : t.issuedBy (.insert original translated timeoutSecs clock) = r.toOption := by
      show (t.insert original translated timeoutSecs clock).1.toOption = _
      rw [hinsert]
    have hstep : t.step (.insert original translated timeoutSecs clock) = t' := by
      show (t.insert original translated timeoutSecs clock).2 = _
      rw [hinsert]
    rw [hissued] at hnext ⊢
    rw [hstep]
    -- A refusal keeps the table or purges it; an insertion adds the next id to the purged table.
    rcases insert_cases hinsert with ⟨err, rfl, rfl | rfl⟩ |
      ⟨rfl, -, hroom, horiginal, htranslated, rfl⟩
    · exact ⟨h, .inl ⟨rfl, rfl⟩⟩
    · exact ⟨h.purged _, .inl ⟨rfl, (purged_frame _ t).2⟩⟩
    · have hpurged := (purged_frame clock.purged t).2
      have hlt : (t.purged clock.purged).nextId.toNat + 1 < 2 ^ 64 := by
        rw [hpurged]
        exact hnext _ rfl
      refine ⟨(h.purged _).withEntry hroom horiginal htranslated hlt _, .inr ⟨rfl, ?_⟩⟩
      rw [nextId_withEntry hlt, hpurged]
  | touch id now =>
    -- The touched id was stored before, so the set of stored ids is the same.
    have hframe : (t.step (.touch id now)).nextId = t.nextId ∧
        ∀ id' ∈ (t.step (.touch id now)).entries, id' ∈ t.entries := by
      show (t.touch id now).2.nextId = t.nextId ∧ ∀ id' ∈ (t.touch id now).2.entries, _
      unfold NatTable.touch
      cases hlookup : t.entries.lookup id with
      | none => exact ⟨rfl, fun _ hin => hin⟩
      | some e =>
        refine ⟨rfl, fun id' hin => ?_⟩
        rcases Finmap.mem_insert.mp hin with heq | hin
        · rw [heq]
          exact Finmap.mem_of_lookup_eq_some hlookup
        · exact hin
    exact ⟨h.of_subset (h.toConsistent.touch id now) hframe.2 hframe.1, .inl ⟨rfl, hframe.1⟩⟩
  | remove id =>
    have hsubset : ∀ id' ∈ (t.removeId id).entries, id' ∈ t.entries := by
      intro id' hin
      rcases Finmap.mem_iff.mp hin with ⟨e, he⟩
      rw [lookup_removeId] at he
      split at he
      · exact nomatch he
      · exact Finmap.mem_of_lookup_eq_some he
    have hkept : (t.removeId id).nextId = t.nextId := by
      unfold NatTable.removeId remove
      split <;> rfl
    exact ⟨h.of_subset (h.toConsistent.removeId id) hsubset hkept, .inl ⟨rfl, hkept⟩⟩
  | removeExpired now => exact ⟨h.purged now, .inl ⟨rfl, (purged_frame now t).2⟩⟩
  | clear =>
    refine ⟨h.of_subset (.clear t) (fun id hin => ?_) rfl, .inl ⟨rfl, rfl⟩⟩
    exact absurd hin Finmap.notMem_empty

/-- A run keeps the table sound and returns strictly increasing ids, as long as they last. -/
theorem Sound.run (calls : List Call) (h : t.Sound)
    (hcount : t.nextId.toNat + (t.issued calls).length < 2 ^ 64) :
    (Transition.run NatTable.step t calls).Sound ∧
      (t.issued calls).Pairwise (fun a b => a.toNat < b.toNat) ∧
      ∀ id ∈ t.issued calls, t.nextId.toNat ≤ id.toNat := by
  -- A call that returns an id uses up one of the ids that are left; any other call keeps them.
  induction calls generalizing t with
  | nil => exact ⟨h, .nil, fun _ hin => nomatch hin⟩
  | cons call calls ih =>
    simp only [issued, List.length_append] at hcount
    have hnext (id : UInt64) (hid : t.issuedBy call = some id) : t.nextId.toNat + 1 < 2 ^ 64 := by
      rw [hid] at hcount
      simp only [Option.toList_some, List.length_singleton] at hcount
      omega
    rcases h.step call hnext with ⟨hsound, ⟨hnone, hkept⟩ | ⟨hsome, hmoved⟩⟩
    · rw [hnone, Option.toList_none, List.length_nil, Nat.zero_add] at hcount
      rcases ih hsound (by rw [hkept]; exact hcount) with ⟨hrun, hincreasing, hbelow⟩
      simp only [issued, hnone, Option.toList_none, List.nil_append, run_cons]
      rw [hkept] at hbelow
      exact ⟨hrun, hincreasing, hbelow⟩
    · rw [hsome, Option.toList_some, List.length_singleton] at hcount
      rcases ih hsound (by rw [hmoved]; omega) with ⟨hrun, hincreasing, hbelow⟩
      simp only [issued, hsome, Option.toList_some, List.singleton_append, run_cons]
      refine ⟨hrun, List.pairwise_cons.mpr ⟨fun id hid => ?_, hincreasing⟩, fun id hid => ?_⟩
      · have hle := hbelow id hid
        omega
      · rcases List.mem_cons.mp hid with rfl | hin
        · exact Nat.le_refl _
        · have hle := hbelow id hin
          omega

theorem step_maxEntries (t : NatTable) (call : Call) : (t.step call).maxEntries = t.maxEntries := by
  cases call with
  | insert original translated timeoutSecs clock =>
    rcases hinsert : t.insert original translated timeoutSecs clock with ⟨r, t'⟩
    have hstep : t.step (.insert original translated timeoutSecs clock) = t' := by
      show (t.insert original translated timeoutSecs clock).2 = _
      rw [hinsert]
    rw [hstep]
    rcases insert_cases hinsert with ⟨err, -, rfl | rfl⟩ | ⟨-, -, -, -, -, rfl⟩
    · rfl
    · exact (purged_frame _ t).1
    · exact (purged_frame _ t).1
  | touch id now =>
    show (t.touch id now).2.maxEntries = t.maxEntries
    unfold NatTable.touch
    split <;> rfl
  | remove id =>
    show (t.remove id).2.maxEntries = t.maxEntries
    unfold remove
    split <;> rfl
  | removeExpired now => exact (purged_frame now t).1
  | clear => rfl

theorem run_maxEntries (calls : List Call) (t : NatTable) :
    (Transition.run step t calls).maxEntries = t.maxEntries := by
  induction calls generalizing t with
  | nil => rfl
  | cons call calls ih => exact (ih _).trans (step_maxEntries t call)

theorem lookupOriginal_eq {e : NatEntry} (h : t.Consistent) (he : t.entries.lookup id = some e) :
    t.lookupOriginal e.original = some e := by
  unfold lookupOriginal
  rw [h.original.lookup_field he]
  exact he

theorem lookupTranslated_eq {e : NatEntry} (h : t.Consistent)
    (he : t.entries.lookup id = some e) : t.lookupTranslated e.translated = some e := by
  unfold lookupTranslated
  rw [h.translated.lookup_field he]
  exact he

/-- What a failed insertion at a purge reading of `now` may change. -/
structure OnlyPurged (now : UInt64) (t t' : NatTable) : Prop where
  kept : ∀ id e, t.entries.lookup id = some e → e.isExpired now = false →
    t'.entries.lookup id = some e
  nothing_new : ∀ id e, t'.entries.lookup id = some e → t.entries.lookup id = some e
  maxEntries : t'.maxEntries = t.maxEntries
  nextId : t'.nextId = t.nextId

theorem insert_error {err : NatError} {t' : NatTable}
    (h : t.insert original translated timeoutSecs clock = (.error err, t')) :
    OnlyPurged clock.purged t t' := by
  rcases insert_cases h with ⟨-, -, rfl | rfl⟩ | ⟨hok, -⟩
  · exact ⟨fun _ _ he _ => he, fun _ _ he => he, rfl, rfl⟩
  · exact ⟨fun _ _ he hlive => lookup_purged.mpr ⟨he, hlive⟩, fun _ _ he => (lookup_purged.mp he).1,
      (purged_frame _ t).1, (purged_frame _ t).2⟩
  · exact nomatch hok

/-- The three maps stay in lockstep over every run that does not exhaust the ids. -/
theorem natTable_indexes_agree (maxEntries : Nat) (calls : List Call)
    (hcount : ((new maxEntries).issued calls).length < 2 ^ 64 - 1) :
    let t := run step (new maxEntries) calls
    t.len ≤ maxEntries ∧
      (∀ id e, t.entries.lookup id = some e → e.id = id) ∧
      (∀ tuple id, t.originalIndex.lookup tuple = some id ↔
        ∃ e, t.entries.lookup id = some e ∧ e.original = tuple) ∧
      (∀ tuple id, t.translatedIndex.lookup tuple = some id ↔
        ∃ e, t.entries.lookup id = some e ∧ e.translated = tuple) ∧
      (∀ id e, t.entries.lookup id = some e →
        t.lookupOriginal e.original = some e ∧ t.lookupTranslated e.translated = some e) ∧
      (∀ id id' e e', t.entries.lookup id = some e → t.entries.lookup id' = some e' →
        e.original = e'.original ∨ e.translated = e'.translated → id = id') ∧
      ((new maxEntries).issued calls).Nodup ∧
      ∀ original translated timeoutSecs clock err t',
        t.insert original translated timeoutSecs clock = (.error err, t') →
        OnlyPurged clock.purged t t' := by
  have hnew : (new maxEntries).nextId.toNat = 1 := rfl
  rcases (Sound.new maxEntries).run calls (by rw [hnew]; omega) with ⟨hsound, hincreasing, -⟩
  have hmax : (run step (new maxEntries) calls).maxEntries = maxEntries := run_maxEntries calls _
  refine ⟨?_, hsound.own_id, hsound.original, hsound.translated, ?_, ?_, ?_, ?_⟩
  · exact Nat.le_trans hsound.len_le (Nat.le_of_eq hmax)
  · intro id e he
    exact ⟨lookupOriginal_eq hsound.toConsistent he, lookupTranslated_eq hsound.toConsistent he⟩
  · intro id id' e e' he he' hsame
    rcases hsame with hsame | hsame
    · exact hsound.original.key_unique he he' hsame
    · exact hsound.translated.key_unique he he' hsame
  -- Strictly increasing ids are distinct.
  · apply hincreasing.imp
    intro a b hlt heq
    rw [heq] at hlt
    exact Nat.lt_irrefl _ hlt
  · intro original translated timeoutSecs clock err t' hinsert
    exact insert_error hinsert

/-- A client behind the gateway, and its connection as a server sees it. -/
def clientTuple : NatTuple :=
  ⟨.v4 ⟨192, 168, 1, 10⟩, 50000, .v4 ⟨8, 8, 8, 8⟩, 443, .tcp⟩

def publicTuple : NatTuple :=
  ⟨.v4 ⟨203, 0, 113, 1⟩, 40000, .v4 ⟨8, 8, 8, 8⟩, 443, .tcp⟩

theorem natTable_indexes_agree_reinserted :
    ((new 1).issued [.insert clientTuple publicTuple 60 ⟨0, 0⟩,
        .insert publicTuple clientTuple 60 ⟨59, 59⟩,
        .insert clientTuple publicTuple 60 ⟨60, 60⟩]) = [1, 2] ∧
      (run step (new 1) [.insert clientTuple publicTuple 60 ⟨0, 0⟩,
        .insert publicTuple clientTuple 60 ⟨59, 59⟩,
        .insert clientTuple publicTuple 60 ⟨60, 60⟩]).len ≤ 1 :=
  ⟨by decide, (natTable_indexes_agree 1 _ (by decide)).1⟩

end NatTable

end NetworkEngine
