import NetworkEngine.Gateway.Runtime
import NetworkEngine.Lib.Expiry

/-!
# Expiry — the gateway's tables against tables that purge all the time

Connections, translations and neighbors expire lazily: a lookup hides some of what has expired, an
insertion purges, and `cleanup_expired` purges when the host calls it, and says how much.  The
reference purges each table before every call on it.  It ends in the same tables as long as no call
gets hold of an entry that has expired, and it answers the same exactly as long as, besides, no
cleanup has anything to remove.
-/

namespace NetworkEngine

open Rust Transition Expiry

/-! ## 1. Connections -/

namespace ConnectionStateTable

/-- A call on the table, with the lookups. -/
inductive Request where
  | insert (entry : ConnectionEntry)
  | get (key : ConnectionKey)
  | lookup (key : ConnectionKey)
  | lookupReverse (key : ConnectionKey)
  | transition (key : ConnectionKey) (next : ConnectionState)
  | recordPacket (key : ConnectionKey) (bytes : UInt64)
  | remove (key : ConnectionKey)
  | removeExpired
  | clear
  deriving DecidableEq, Repr

inductive Answer where
  | result (r : Except ConnectionStateError Unit)
  | entry (e : Option ConnectionEntry)
  | removed (count : Nat)
  | done

def purge (now : UInt64) (t : ConnectionStateTable) : ConnectionStateTable := (t.removeExpired now).2

def serve (now : UInt64) (t : ConnectionStateTable) : Request → Answer × ConnectionStateTable
  | .insert entry => (.result (t.insert entry now).1, (t.insert entry now).2)
  | .get key => (.entry (t.entries.lookup key), t)
  | .lookup key => (.entry (t.lookup key now), t)
  | .lookupReverse key => (.entry (t.lookupReverse key now), t)
  | .transition key next =>
    (.result (t.transition key next now).1, (t.transition key next now).2)
  | .recordPacket key bytes =>
    (.result (t.recordPacket key bytes now).1, (t.recordPacket key bytes now).2)
  | .remove key => (.entry (t.remove key).1, (t.remove key).2)
  | .removeExpired => (.removed (t.removeExpired now).1, (t.removeExpired now).2)
  | .clear => (.done, t.clear)

/-- The entry that a call gets hold of without a look at the clock. -/
def handed (t : ConnectionStateTable) : Request → Option ConnectionEntry
  | .get key | .transition key _ | .recordPacket key _ | .remove key => t.entries.lookup key
  | .insert _ | .lookup _ | .lookupReverse _ | .removeExpired | .clear => none

def Touches (now : UInt64) (t : ConnectionStateTable) (request : Request) : Prop :=
  ∃ e, t.handed request = some e ∧ e.isExpired now = true

/-- The answer tells of an expired entry: it is handed out, or counted. -/
def Tells (now : UInt64) (t : ConnectionStateTable) (request : Request) : Prop :=
  t.Touches now request ∨ request = .removeExpired ∧ t.entries.HasDead (·.isExpired now)

variable {t t' : ConnectionStateTable} {key : ConnectionKey} {now later : UInt64}

theorem purge_eq_iff : t.purge now = t'.purge now ↔
    Table.Agree (·.isExpired now) t.entries t'.entries ∧ t.maxEntries = t'.maxEntries := by
  rw [← Table.discard_eq_iff]
  show ConnectionStateTable.mk _ _ = .mk _ _ ↔ _
  rw [ConnectionStateTable.mk.injEq]

theorem agree_purge (h : ∀ e : ConnectionEntry, e.isExpired now = true → e.isExpired later = true)
    (t : ConnectionStateTable) :
    Table.Agree (·.isExpired later) (t.purge now).entries t.entries :=
  Table.agree_discard h t.entries

theorem agree_self (now : UInt64) (t : ConnectionStateTable) :
    Table.Agree (·.isExpired now) (t.purge now).entries t.entries :=
  agree_purge (fun _ h => h) t

theorem purge_purge (hle : now ≤ later) (t : ConnectionStateTable) :
    (t.purge now).purge later = t.purge later :=
  purge_eq_iff.mpr ⟨agree_purge (fun _ h => isExpired_mono hle h) t, rfl⟩

theorem purge_self (t : ConnectionStateTable) (now : UInt64) :
    (t.purge now).purge now = t.purge now :=
  purge_purge (UInt64.le_refl now) t

/-- Outside the expired entries a purge is not seen. -/
theorem lookup_purge (h : ¬ t.Dead key now) :
    (t.purge now).entries.lookup key = t.entries.lookup key :=
  Table.lookup_discard_of_live fun e he => Bool.eq_false_iff.mpr fun hexpired => h ⟨e, he, hexpired⟩

theorem lookup_purge_of_dead (h : t.Dead key now) : (t.purge now).entries.lookup key = none := by
  obtain ⟨e, he, hexpired⟩ := h
  refine Option.eq_none_iff_forall_ne_some.mpr fun e' he' => ?_
  obtain ⟨hfound, hlive⟩ := lookup_removeExpired.mp he'
  rw [he] at hfound
  rw [← Option.some.inj hfound, hexpired] at hlive
  cases hlive

theorem find_purge (t : ConnectionStateTable) (key : ConnectionKey) (now : UInt64) :
    (t.purge now).lookup key now = t.lookup key now := by
  by_cases hdead : t.Dead key now
  · have hnone := lookup_purge_of_dead hdead
    rw [hdead.lookup, ConnectionStateTable.lookup, hnone]
    rfl
  · rw [ConnectionStateTable.lookup, ConnectionStateTable.lookup, lookup_purge hdead]

theorem insert_purge (entry : ConnectionEntry) (now : UInt64) (t : ConnectionStateTable) :
    (t.purge now).insert entry now = t.insert entry now := by
  have hsame : ((t.purge now).removeExpired now).2 = (t.removeExpired now).2 := purge_self t now
  unfold insert
  rw [hsame]

/-- A call that writes the entry it finds. -/
theorem agree_write {now : UInt64} (h : ¬ t.Dead key now)
    (f : ConnectionEntry → ConnectionEntry) :
    Table.Agree (·.isExpired now)
      (((t.purge now).entries.lookup key).elim (t.purge now).entries
        fun e => (t.purge now).entries.insert key (f e))
      ((t.entries.lookup key).elim t.entries fun e => t.entries.insert key (f e)) := by
  have hagree := agree_self now t
  rw [lookup_purge h]
  cases t.entries.lookup key with
  | none => exact hagree
  | some e => exact hagree.insert key (f e)

theorem transition_fst (key : ConnectionKey) (next : ConnectionState) (now : UInt64)
    (t : ConnectionStateTable) : (t.transition key next now).1 =
      (t.entries.lookup key).elim (.error .notFound) fun e => (e.transition next now).1 := by
  unfold transition
  cases t.entries.lookup key <;> rfl

theorem transition_snd (key : ConnectionKey) (next : ConnectionState) (now : UInt64)
    (t : ConnectionStateTable) : (t.transition key next now).2 = { t with
      entries := (t.entries.lookup key).elim t.entries fun e =>
        t.entries.insert key (e.transition next now).2 } := by
  unfold transition
  cases t.entries.lookup key <;> rfl

theorem recordPacket_fst (key : ConnectionKey) (bytes now : UInt64) (t : ConnectionStateTable) :
    (t.recordPacket key bytes now).1 =
      (t.entries.lookup key).elim (.error .notFound) fun _ => .ok () := by
  unfold recordPacket
  cases t.entries.lookup key <;> rfl

theorem recordPacket_snd (key : ConnectionKey) (bytes now : UInt64) (t : ConnectionStateTable) :
    (t.recordPacket key bytes now).2 = { t with
      entries := (t.entries.lookup key).elim t.entries fun e =>
        t.entries.insert key (e.recordPacket bytes now) } := by
  unfold recordPacket
  cases t.entries.lookup key <;> rfl

theorem transition_ne_notFound (e : ConnectionEntry) (next : ConnectionState) (now : UInt64) :
    (e.transition next now).1 ≠ .error .notFound := by
  unfold ConnectionEntry.transition
  split
  · exact fun h => nomatch h
  · split
    · exact fun h => nomatch h
    · exact fun h => nomatch h

theorem removed_purge (t : ConnectionStateTable) (now : UInt64) :
    ((t.purge now).removeExpired now).1 = 0 :=
  Table.card_keysWhere_discard _ t.entries

theorem removed_ne_zero_iff :
    (t.removeExpired now).1 ≠ 0 ↔ t.entries.HasDead (·.isExpired now) :=
  Table.card_keysWhere_ne_zero_iff

theorem answer_purge {request : Request} (huntold : ¬ Tells now t request) :
    ((t.purge now).serve now request).1 = (t.serve now request).1 := by
  have huntouched : ¬ Touches now t request := fun htouches => huntold (.inl htouches)
  cases request with
  | insert entry => simp only [serve, insert_purge]
  | get key =>
    have hlive : ¬ t.Dead key now := huntouched
    simp only [serve, lookup_purge hlive]
  | lookup key => simp only [serve, find_purge]
  | lookupReverse key => simp only [serve, lookupReverse, find_purge]
  | transition key next =>
    have hlive : ¬ t.Dead key now := huntouched
    simp only [serve, transition_fst, lookup_purge hlive]
  | recordPacket key bytes =>
    have hlive : ¬ t.Dead key now := huntouched
    simp only [serve, recordPacket_fst, lookup_purge hlive]
  | remove key =>
    have hlive : ¬ t.Dead key now := huntouched
    simp only [serve, ConnectionStateTable.remove, lookup_purge hlive]
  | removeExpired =>
    have hnone : (t.removeExpired now).1 = 0 := by
      by_contra hne
      exact huntold (.inr ⟨rfl, removed_ne_zero_iff.mp hne⟩)
    simp only [serve, removed_purge, hnone]
  | clear => rfl

theorem serve_purge {request : Request} (huntouched : ¬ Touches now t request) :
    ((t.purge now).serve now request).2.purge now = (t.serve now request).2.purge now := by
  cases request with
  | insert entry => simp only [serve, insert_purge]
  | get key | lookup key | lookupReverse key => exact purge_self t now
  | transition key next =>
    have hlive : ¬ t.Dead key now := huntouched
    simp only [serve, transition_snd]
    exact purge_eq_iff.mpr ⟨agree_write hlive fun e => (e.transition next now).2, rfl⟩
  | recordPacket key bytes =>
    have hlive : ¬ t.Dead key now := huntouched
    simp only [serve, recordPacket_snd]
    exact purge_eq_iff.mpr ⟨agree_write hlive fun e => e.recordPacket bytes now, rfl⟩
  | remove key => exact purge_eq_iff.mpr ⟨(agree_self now t).erase key, rfl⟩
  | removeExpired => exact congrArg (purge now) (purge_self t now)
  | clear => rfl

/-- Whoever gets hold of an expired entry, or removes one, sees that it is still there. -/
theorem answer_purge_ne {request : Request} (htells : Tells now t request) :
    ((t.purge now).serve now request).1 ≠ (t.serve now request).1 := by
  obtain ⟨e, he, hexpired⟩ | ⟨rfl, hdead⟩ := htells
  case inr =>
    have hsome := removed_ne_zero_iff.mpr hdead
    simp only [serve, removed_purge]
    exact fun heq => hsome (Answer.removed.inj heq).symm
  cases request with
  | insert entry | lookup key | lookupReverse key | removeExpired | clear => cases he
  | get key =>
    have hfound : t.entries.lookup key = some e := he
    simp only [serve, lookup_purge_of_dead ⟨e, hfound, hexpired⟩, hfound]
    exact fun h => nomatch h
  | transition key next =>
    have hfound : t.entries.lookup key = some e := he
    simp only [serve, transition_fst, lookup_purge_of_dead ⟨e, hfound, hexpired⟩, hfound]
    exact fun h => transition_ne_notFound e next now (Answer.result.inj h).symm
  | recordPacket key bytes =>
    have hfound : t.entries.lookup key = some e := he
    simp only [serve, recordPacket_fst, lookup_purge_of_dead ⟨e, hfound, hexpired⟩, hfound]
    exact fun h => nomatch h
  | remove key =>
    have hfound : t.entries.lookup key = some e := he
    simp only [serve, ConnectionStateTable.remove, lookup_purge_of_dead ⟨e, hfound, hexpired⟩,
      hfound]
    exact fun h => nomatch h

end ConnectionStateTable

/-! ## 2. Translations -/

namespace NatTable

inductive Request where
  /-- The new entry reads the clock again. -/
  | insert (original translated : NatTuple) (timeoutSecs created : UInt64)
  | get (id : UInt64)
  | lookup (tuple : NatTuple) (direction : NatLookupDirection)
  | touch (id : UInt64)
  | remove (id : UInt64)
  | removeExpired
  | clear
  deriving DecidableEq, Repr

inductive Answer where
  | id (r : Except NatError UInt64)
  | touched (found : Bool)
  | entry (e : Option NatEntry)
  | removed (count : Nat)
  | done

def serve (now : UInt64) (t : NatTable) : Request → Answer × NatTable
  | .insert original translated timeoutSecs created =>
    (.id (t.insert original translated timeoutSecs ⟨now, created⟩).1,
      (t.insert original translated timeoutSecs ⟨now, created⟩).2)
  | .get id => (.entry (t.entries.lookup id), t)
  | .lookup tuple direction => (.entry (t.lookup tuple direction), t)
  | .touch id => (.touched (t.touch id now).1, (t.touch id now).2)
  | .remove id => (.entry (t.remove id).1, (t.remove id).2)
  | .removeExpired => (.removed (t.removeExpired now).1, (t.removeExpired now).2)
  | .clear => (.done, t.clear)

/-- The entry that a call gets hold of: none of them looks at the clock. -/
def handed (t : NatTable) : Request → Option NatEntry
  | .get id | .touch id | .remove id => t.entries.lookup id
  | .lookup tuple direction => t.lookup tuple direction
  | .insert .. | .removeExpired | .clear => none

def Touches (now : UInt64) (t : NatTable) (request : Request) : Prop :=
  ∃ e, t.handed request = some e ∧ e.isExpired now = true

def Tells (now : UInt64) (t : NatTable) (request : Request) : Prop :=
  t.Touches now request ∨ request = .removeExpired ∧ t.entries.HasDead (·.isExpired now)

/-- Sound, with ids for so many more insertions. -/
structure Lasts (n : ℕ) (t : NatTable) : Prop extends Sound t where
  room : t.nextId.toNat + n < 2 ^ 64

variable {t t' : NatTable} {id now later : UInt64} {n : ℕ}

theorem isExpired_mono {e : NatEntry} (hle : now ≤ later) (h : e.isExpired now = true) :
    e.isExpired later = true := by
  by_contra hlive
  rw [Bool.not_eq_true, GatewayRuntime.isExpired_eq_false] at hlive
  have hlt := UInt64.le_iff_toNat_le.mp hle
  rw [GatewayRuntime.isExpired_eq_false.mpr (by omega)] at h
  cases h

theorem entries_purged (now : UInt64) (t : NatTable) :
    (t.purged now).entries = t.entries.discard (·.isExpired now) := by
  apply Finmap.ext_lookup
  intro id
  ext e
  show _ ↔ (t.entries.discard (·.isExpired now)).lookup id = some e
  rw [Table.lookup_discard_eq_some]
  exact lookup_purged

/-- The entries determine both indexes. -/
theorem Consistent.ext (h : t.Consistent) (h' : t'.Consistent) (hentries : t.entries = t'.entries)
    (hmax : t.maxEntries = t'.maxEntries) (hnext : t.nextId = t'.nextId) : t = t' := by
  obtain ⟨entries, originalIndex, translatedIndex, maxEntries, nextId⟩ := t
  obtain ⟨entries', originalIndex', translatedIndex', maxEntries', nextId'⟩ := t'
  dsimp only at hentries hmax hnext
  subst hentries hmax hnext
  congr 1
  · exact Table.IsIndex.unique h.original h'.original
  · exact Table.IsIndex.unique h.translated h'.translated

theorem Consistent.purged_eq (h : t.Consistent) (h' : t'.Consistent)
    (hagree : Table.Agree (·.isExpired now) t.entries t'.entries)
    (hmax : t.maxEntries = t'.maxEntries) (hnext : t.nextId = t'.nextId) :
    t.purged now = t'.purged now := by
  have hframe := purged_frame now t
  have hframe' := purged_frame now t'
  apply (h.purged now).ext (h'.purged now)
  · rw [entries_purged, entries_purged]
    exact Table.discard_eq_iff.mpr hagree
  · rw [hframe.1, hframe'.1, hmax]
  · rw [hframe.2, hframe'.2, hnext]

theorem agree_purged (h : ∀ e : NatEntry, e.isExpired now = true → e.isExpired later = true)
    (t : NatTable) : Table.Agree (·.isExpired later) (t.purged now).entries t.entries := by
  rw [entries_purged]
  exact Table.agree_discard h t.entries

theorem agree_self (now : UInt64) (t : NatTable) :
    Table.Agree (·.isExpired now) (t.purged now).entries t.entries :=
  agree_purged (fun _ h => h) t

theorem Consistent.purged_purged (h : t.Consistent) (hle : now ≤ later) :
    (t.purged now).purged later = t.purged later := by
  have hframe := purged_frame now t
  exact (h.purged now).purged_eq h (agree_purged (fun _ hexpired => isExpired_mono hle hexpired) t)
    hframe.1 hframe.2

theorem Consistent.purged_self (h : t.Consistent) (now : UInt64) :
    (t.purged now).purged now = t.purged now :=
  h.purged_purged (UInt64.le_refl now)

/-- Outside the expired entries a purge is not seen. -/
theorem get_purged (h : ∀ e, t.entries.lookup id = some e → e.isExpired now = false) :
    (t.purged now).entries.lookup id = t.entries.lookup id := by
  rw [entries_purged]
  exact Table.lookup_discard_of_live h

theorem lookup_eq_some (h : t.Consistent) {tuple : NatTuple} {direction : NatLookupDirection}
    {e : NatEntry} : t.lookup tuple direction = some e ↔ ∃ id, t.entries.lookup id = some e ∧
      (match direction with
        | .original => e.original
        | .translated => e.translated) = tuple := by
  have hfind {field : NatEntry → NatTuple} {index : Table NatTuple UInt64}
      (hindex : Table.IsIndex field index t.entries) :
      (index.lookup tuple >>= fun id => t.entries.lookup id) = some e ↔
        ∃ id, t.entries.lookup id = some e ∧ field e = tuple := by
    rw [Option.bind_eq_bind, Option.bind_eq_some_iff]
    constructor
    · rintro ⟨id, hid, he⟩
      obtain ⟨e', he', hfield⟩ := (hindex tuple id).mp hid
      rw [he] at he'
      exact ⟨id, he, Option.some.inj he' ▸ hfield⟩
    · rintro ⟨id, he, hfield⟩
      exact ⟨id, (hindex tuple id).mpr ⟨e, he, hfield⟩, he⟩
  cases direction with
  | original => exact hfind h.original
  | translated => exact hfind h.translated

theorem Consistent.lookup_purged_eq_some (h : t.Consistent) {tuple : NatTuple}
    {direction : NatLookupDirection} {e : NatEntry} :
    (t.purged now).lookup tuple direction = some e ↔
      t.lookup tuple direction = some e ∧ e.isExpired now = false := by
  rw [lookup_eq_some (h.purged now), lookup_eq_some h]
  simp only [NatTable.lookup_purged]
  constructor
  · rintro ⟨id, ⟨he, hlive⟩, hfield⟩
    exact ⟨⟨id, he, hfield⟩, hlive⟩
  · rintro ⟨⟨id, he, hfield⟩, hlive⟩
    exact ⟨id, ⟨he, hlive⟩, hfield⟩

theorem lookup_of_agree {tuple : NatTuple} {direction : NatLookupDirection} (h : t.Consistent)
    (hlive : ∀ e, t.lookup tuple direction = some e → e.isExpired now = false) :
    (t.purged now).lookup tuple direction = t.lookup tuple direction := by
  ext e
  show (t.purged now).lookup tuple direction = some e ↔ t.lookup tuple direction = some e
  rw [h.lookup_purged_eq_some]
  exact and_iff_left_of_imp (hlive e)

theorem insert_purged (h : t.Consistent) (original translated : NatTuple) (timeoutSecs : UInt64)
    (created : UInt64) :
    (t.purged now).insert original translated timeoutSecs ⟨now, created⟩ =
      if timeoutSecs = 0 then (.error .invalidTimeout, t.purged now)
      else t.insert original translated timeoutSecs ⟨now, created⟩ := by
  have hsame : ((t.purged now).removeExpired now).2 = (t.removeExpired now).2 := h.purged_self now
  unfold insert
  dsimp only
  rw [hsame]
  split
  · rfl
  · rfl

theorem touch_fst (id now : UInt64) (t : NatTable) :
    (t.touch id now).1 = (t.entries.lookup id).isSome := by
  unfold NatTable.touch
  cases t.entries.lookup id <;> rfl

theorem touch_entries (id now : UInt64) (t : NatTable) :
    (t.touch id now).2.entries = (t.entries.lookup id).elim t.entries
      fun e => t.entries.insert id (e.touch now) := by
  unfold NatTable.touch
  cases t.entries.lookup id <;> rfl

theorem touch_frame (id now : UInt64) (t : NatTable) :
    (t.touch id now).2.maxEntries = t.maxEntries ∧ (t.touch id now).2.nextId = t.nextId := by
  unfold NatTable.touch
  cases t.entries.lookup id <;> exact ⟨rfl, rfl⟩

theorem remove_fst (id : UInt64) (t : NatTable) : (t.remove id).1 = t.entries.lookup id := by
  unfold NatTable.remove
  cases h : t.entries.lookup id <;> rfl

theorem remove_entries (id : UInt64) (t : NatTable) :
    (t.removeId id).entries = t.entries.erase id := by
  apply Finmap.ext_lookup
  intro id'
  rw [lookup_removeId]
  exact (Table.lookup_erase _ _ _).symm

theorem remove_frame (id : UInt64) (t : NatTable) :
    (t.removeId id).maxEntries = t.maxEntries ∧ (t.removeId id).nextId = t.nextId := by
  unfold NatTable.removeId NatTable.remove
  cases t.entries.lookup id <;> exact ⟨rfl, rfl⟩

theorem Lasts.purged (h : t.Lasts n) (now : UInt64) : (t.purged now).Lasts n where
  toSound := h.toSound.purged now
  room := by
    rw [(purged_frame now t).2]
    exact h.room

/-- The call that a request makes, when it changes the table. -/
def Request.call (now : UInt64) : Request → Option Call
  | .insert original translated timeoutSecs created =>
    some (.insert original translated timeoutSecs ⟨now, created⟩)
  | .touch id => some (.touch id now)
  | .remove id => some (.remove id)
  | .removeExpired => some (.removeExpired now)
  | .clear => some .clear
  | .get _ | .lookup .. => none

theorem serve_snd (now : UInt64) (t : NatTable) (request : Request) :
    (t.serve now request).2 = (request.call now).elim t t.step := by
  cases request <;> rfl

theorem Lasts.serve (h : t.Lasts (n + 1)) (now : UInt64) (request : Request) :
    (t.serve now request).2.Lasts n := by
  have hroom := h.room
  rw [serve_snd]
  cases request.call now with
  | none =>
    refine ⟨h.toSound, ?_⟩
    show t.nextId.toNat + n < 2 ^ 64
    omega
  | some call =>
    have hstep := h.toSound.step call fun _ _ => by omega
    refine ⟨hstep.1, ?_⟩
    show (t.step call).nextId.toNat + n < 2 ^ 64
    obtain ⟨-, hkept⟩ | ⟨-, hmoved⟩ := hstep.2
    · rw [hkept]
      omega
    · rw [hmoved]
      omega

theorem removed_purged (t : NatTable) (now : UInt64) :
    ((t.purged now).removeExpired now).1 = 0 := by
  show ((t.purged now).entries.keysWhere (·.isExpired now)).card = 0
  rw [entries_purged]
  exact Table.card_keysWhere_discard _ t.entries

theorem removed_ne_zero_iff :
    (t.removeExpired now).1 ≠ 0 ↔ t.entries.HasDead (·.isExpired now) :=
  Table.card_keysWhere_ne_zero_iff

theorem answer_purged (h : t.Lasts n) {request : Request} (huntold : ¬ Tells now t request) :
    ((t.purged now).serve now request).1 = (t.serve now request).1 := by
  have huntouched : ¬ Touches now t request := fun htouches => huntold (.inl htouches)
  have hlive (e : NatEntry) (he : t.handed request = some e) : e.isExpired now = false :=
    Bool.eq_false_iff.mpr fun hexpired => huntouched ⟨e, he, hexpired⟩
  cases request with
  | insert original translated timeoutSecs created =>
    show Answer.id _ = .id _
    rw [insert_purged h.toConsistent]
    split
    · rename_i hzero
      rw [insert, if_pos hzero]
    · rfl
  | get id => exact congrArg Answer.entry (get_purged hlive)
  | lookup tuple direction => exact congrArg Answer.entry (lookup_of_agree h.toConsistent hlive)
  | touch id =>
    show Answer.touched _ = .touched _
    rw [touch_fst, touch_fst, get_purged hlive]
  | remove id =>
    show Answer.entry _ = .entry _
    rw [remove_fst, remove_fst, get_purged hlive]
  | removeExpired =>
    have hnone : (t.removeExpired now).1 = 0 := by
      by_contra hne
      exact huntold (.inr ⟨rfl, removed_ne_zero_iff.mp hne⟩)
    simp only [serve, removed_purged, hnone]
  | clear => rfl

theorem serve_purged (h : t.Lasts (n + 1)) {request : Request}
    (huntouched : ¬ Touches now t request) :
    ((t.purged now).serve now request).2.purged now = (t.serve now request).2.purged now := by
  have hlive (e : NatEntry) (he : t.handed request = some e) : e.isExpired now = false :=
    Bool.eq_false_iff.mpr fun hexpired => huntouched ⟨e, he, hexpired⟩
  have hagree := agree_self now t
  have hframe := purged_frame now t
  have hsame := h.toConsistent.purged_self now
  have hpurged := (h.purged now).serve now request
  have hplain := h.serve now request
  cases request with
  | insert original translated timeoutSecs created =>
    show NatTable.purged now (NatTable.insert _ _ _ _ (t.purged now)).2 = _
    rw [insert_purged h.toConsistent]
    split
    · rename_i hzero
      show _ = NatTable.purged now (NatTable.insert _ _ _ _ t).2
      rw [insert, if_pos hzero]
      exact hsame
    · rfl
  | get id | lookup tuple direction => exact hsame
  | touch id =>
    refine Consistent.purged_eq hpurged.toConsistent hplain.toConsistent ?_ ?_ ?_
    · show Table.Agree _ (NatTable.touch id now (t.purged now)).2.entries (t.touch id now).2.entries
      rw [touch_entries, touch_entries, get_purged hlive]
      cases t.entries.lookup id with
      | none => exact hagree
      | some e => exact hagree.insert id (e.touch now)
    · show (NatTable.touch id now (t.purged now)).2.maxEntries = (t.touch id now).2.maxEntries
      rw [(touch_frame _ _ _).1, (touch_frame _ _ _).1, hframe.1]
    · show (NatTable.touch id now (t.purged now)).2.nextId = (t.touch id now).2.nextId
      rw [(touch_frame _ _ _).2, (touch_frame _ _ _).2, hframe.2]
  | remove id =>
    refine Consistent.purged_eq hpurged.toConsistent hplain.toConsistent ?_ ?_ ?_
    · show Table.Agree _ ((t.purged now).removeId id).entries (t.removeId id).entries
      rw [remove_entries, remove_entries]
      exact hagree.erase id
    · show ((t.purged now).removeId id).maxEntries = (t.removeId id).maxEntries
      rw [(remove_frame _ _).1, (remove_frame _ _).1, hframe.1]
    · show ((t.purged now).removeId id).nextId = (t.removeId id).nextId
      rw [(remove_frame _ _).2, (remove_frame _ _).2, hframe.2]
  | removeExpired => exact congrArg (NatTable.purged now) hsame
  | clear =>
    show NatTable.purged now (t.purged now).clear = t.clear.purged now
    unfold NatTable.clear
    rw [hframe.1, hframe.2]

theorem answer_purged_ne (h : t.Lasts n) {request : Request} (htells : Tells now t request) :
    ((t.purged now).serve now request).1 ≠ (t.serve now request).1 := by
  obtain ⟨e, he, hexpired⟩ | ⟨rfl, hdead⟩ := htells
  case inr =>
    have hsome := removed_ne_zero_iff.mpr hdead
    simp only [serve, removed_purged]
    exact fun heq => hsome (Answer.removed.inj heq).symm
  -- What is handed out of the purged table has not expired.
  have hgone {id : UInt64} (hfound : t.entries.lookup id = some e) :
      (t.purged now).entries.lookup id = none := by
    refine Option.eq_none_iff_forall_ne_some.mpr fun e' he' => ?_
    obtain ⟨hfound', hlive⟩ := lookup_purged.mp he'
    rw [hfound] at hfound'
    rw [← Option.some.inj hfound', hexpired] at hlive
    cases hlive
  cases request with
  | insert original translated timeoutSecs created => cases he
  | removeExpired | clear => cases he
  | get id =>
    show Answer.entry ((t.purged now).entries.lookup id) ≠ .entry (t.entries.lookup id)
    have hfound : t.entries.lookup id = some e := he
    rw [hgone hfound, hfound]
    exact fun heq => nomatch heq
  | lookup tuple direction =>
    show Answer.entry ((t.purged now).lookup tuple direction) ≠ .entry (t.lookup tuple direction)
    have hfound : t.lookup tuple direction = some e := he
    rw [hfound]
    intro heq
    have hlive := (h.toConsistent.lookup_purged_eq_some.mp (Answer.entry.inj heq)).2
    rw [hexpired] at hlive
    cases hlive
  | touch id =>
    show Answer.touched (NatTable.touch id now (t.purged now)).1 ≠ .touched (t.touch id now).1
    have hfound : t.entries.lookup id = some e := he
    rw [touch_fst, touch_fst, hgone hfound, hfound]
    exact fun heq => nomatch heq
  | remove id =>
    show Answer.entry (NatTable.remove id (t.purged now)).1 ≠ .entry (t.remove id).1
    have hfound : t.entries.lookup id = some e := he
    rw [remove_fst, remove_fst, hgone hfound, hfound]
    exact fun heq => nomatch heq

end NatTable

/-! ## 3. Neighbors -/

namespace NeighborCache

inductive Request where
  | insert (entry : NeighborEntry)
  | upsert (entry : NeighborEntry)
  | get (address : IpAddr) (interfaceId : UInt32)
  | lookup (address : IpAddr) (interfaceId : UInt32)
  | resolve (address : IpAddr) (interfaceId : UInt32)
  | setState (address : IpAddr) (interfaceId : UInt32) (state : NeighborState)
  | remove (address : IpAddr) (interfaceId : UInt32)
  | removeExpired
  | clear
  deriving DecidableEq, Repr

inductive Answer where
  | result (r : Except NeighborError Unit)
  | entry (e : Option NeighborEntry)
  | address (r : Except NeighborError (Vector UInt8 6))
  | removed (count : Nat)
  | done

def purge (now : UInt64) (c : NeighborCache) : NeighborCache := (c.removeExpired now).2

def serve (now : UInt64) (c : NeighborCache) : Request → Answer × NeighborCache
  | .insert entry => (.result (c.insert entry now).1, (c.insert entry now).2)
  | .upsert entry => (.result (c.upsert entry now).1, (c.upsert entry now).2)
  | .get address interfaceId => (.entry (c.get address interfaceId), c)
  | .lookup address interfaceId => (.entry (c.lookup address interfaceId now), c)
  | .resolve address interfaceId => (.address (c.resolve address interfaceId now), c)
  | .setState address interfaceId state =>
    (.result (c.setState address interfaceId state now).1,
      (c.setState address interfaceId state now).2)
  | .remove address interfaceId =>
    (.entry (c.remove address interfaceId).1, (c.remove address interfaceId).2)
  | .removeExpired => (.removed (c.removeExpired now).1, (c.removeExpired now).2)
  | .clear => (.done, c.clear)

/-- The entry that a call gets hold of without a look at the clock. -/
def handed (c : NeighborCache) : Request → Option NeighborEntry
  | .get address interfaceId | .setState address interfaceId _ | .remove address interfaceId =>
    c.get address interfaceId
  | .insert _ | .upsert _ | .lookup .. | .resolve .. | .removeExpired | .clear => none

def Touches (now : UInt64) (c : NeighborCache) (request : Request) : Prop :=
  ∃ e, c.handed request = some e ∧ e.isExpired now = true

def Tells (now : UInt64) (c : NeighborCache) (request : Request) : Prop :=
  c.Touches now request ∨ request = .removeExpired ∧ c.entries.HasDead (·.isExpired now)

variable {c c' : NeighborCache} {address : IpAddr} {interfaceId : UInt32} {now later : UInt64}

theorem isExpired_mono {e : NeighborEntry} (hle : now ≤ later) (h : e.isExpired now = true) :
    e.isExpired later = true := by
  unfold NeighborEntry.isExpired at h ⊢
  cases hexpires : e.expiresAt with
  | none =>
    rw [hexpires] at h
    cases h
  | some expiresAt =>
    rw [hexpires] at h
    exact decide_eq_true (UInt64.le_trans (of_decide_eq_true h) hle)

theorem purge_eq_iff : c.purge now = c'.purge now ↔
    Table.Agree (·.isExpired now) c.entries c'.entries ∧ c.maxEntries = c'.maxEntries := by
  rw [← Table.discard_eq_iff]
  show NeighborCache.mk _ _ = .mk _ _ ↔ _
  rw [NeighborCache.mk.injEq]

theorem agree_purge (h : ∀ e : NeighborEntry, e.isExpired now = true → e.isExpired later = true)
    (c : NeighborCache) : Table.Agree (·.isExpired later) (c.purge now).entries c.entries :=
  Table.agree_discard h c.entries

theorem agree_self (now : UInt64) (c : NeighborCache) :
    Table.Agree (·.isExpired now) (c.purge now).entries c.entries :=
  agree_purge (fun _ h => h) c

theorem purge_purge (hle : now ≤ later) (c : NeighborCache) :
    (c.purge now).purge later = c.purge later :=
  purge_eq_iff.mpr ⟨agree_purge (fun _ h => isExpired_mono hle h) c, rfl⟩

theorem purge_self (c : NeighborCache) (now : UInt64) : (c.purge now).purge now = c.purge now :=
  purge_purge (UInt64.le_refl now) c

theorem get_purge_eq_some {e : NeighborEntry} : (c.purge now).get address interfaceId = some e ↔
    c.get address interfaceId = some e ∧ e.isExpired now = false :=
  Table.lookup_discard_eq_some

/-- Outside the expired entries a purge is not seen. -/
theorem get_purge (h : ∀ e, c.get address interfaceId = some e → e.isExpired now = false) :
    (c.purge now).get address interfaceId = c.get address interfaceId :=
  Table.lookup_discard_of_live h

theorem lookup_purge (c : NeighborCache) (address : IpAddr) (interfaceId : UInt32) (now : UInt64) :
    (c.purge now).lookup address interfaceId now = c.lookup address interfaceId now := by
  ext e
  show (c.purge now).lookup address interfaceId now = some e ↔
    c.lookup address interfaceId now = some e
  rw [lookup_eq_some, lookup_eq_some, get_purge_eq_some]
  constructor
  · rintro ⟨⟨he, -⟩, husable⟩
    exact ⟨he, husable⟩
  · rintro ⟨he, husable⟩
    exact ⟨⟨he, NeighborEntry.isExpired_of_isUsable husable⟩, husable⟩

theorem put_purge (replace : Bool) (entry : NeighborEntry) (now : UInt64) (c : NeighborCache) :
    (c.purge now).put replace entry now =
      if entry.key.interfaceId = 0 then (.error .invalidInterface, c.purge now)
      else c.put replace entry now := by
  have hsame : ((c.purge now).removeExpired now).2 = (c.removeExpired now).2 := purge_self c now
  unfold put
  rw [hsame]
  split
  · rfl
  · rfl

theorem put_fst_purge (replace : Bool) (entry : NeighborEntry) (now : UInt64) (c : NeighborCache) :
    ((c.purge now).put replace entry now).1 = (c.put replace entry now).1 := by
  rw [put_purge]
  split
  · rename_i hzero
    rw [put, if_pos hzero]
  · rfl

theorem put_snd_purge (replace : Bool) (entry : NeighborEntry) (now : UInt64) (c : NeighborCache) :
    ((c.purge now).put replace entry now).2.purge now =
      (c.put replace entry now).2.purge now := by
  rw [put_purge]
  split
  · rename_i hzero
    rw [put, if_pos hzero]
    exact purge_self c now
  · rfl

theorem setState_fst (state : NeighborState) (c : NeighborCache) :
    (c.setState address interfaceId state now).1 =
      (c.get address interfaceId).elim (.error .notFound) fun _ => .ok () := by
  unfold setState
  cases c.get address interfaceId <;> rfl

theorem setState_snd (state : NeighborState) (c : NeighborCache) :
    (c.setState address interfaceId state now).2 = { c with
      entries := (c.get address interfaceId).elim c.entries fun e =>
        c.entries.insert ⟨address, interfaceId⟩ (e.setState state now) } := by
  unfold setState
  cases c.get address interfaceId <;> rfl

theorem removed_purge (c : NeighborCache) (now : UInt64) :
    ((c.purge now).removeExpired now).1 = 0 :=
  Table.card_keysWhere_discard _ c.entries

theorem removed_ne_zero_iff :
    (c.removeExpired now).1 ≠ 0 ↔ c.entries.HasDead (·.isExpired now) :=
  Table.card_keysWhere_ne_zero_iff

theorem answer_purge {request : Request} (huntold : ¬ Tells now c request) :
    ((c.purge now).serve now request).1 = (c.serve now request).1 := by
  have huntouched : ¬ Touches now c request := fun htouches => huntold (.inl htouches)
  have hlive (e : NeighborEntry) (he : c.handed request = some e) : e.isExpired now = false :=
    Bool.eq_false_iff.mpr fun hexpired => huntouched ⟨e, he, hexpired⟩
  cases request with
  | insert entry => exact congrArg Answer.result (put_fst_purge false entry now c)
  | upsert entry => exact congrArg Answer.result (put_fst_purge true entry now c)
  | get address interfaceId => exact congrArg Answer.entry (get_purge hlive)
  | lookup address interfaceId => exact congrArg Answer.entry (lookup_purge c address interfaceId now)
  | resolve address interfaceId => simp only [serve, resolve, lookup_purge]
  | setState address interfaceId state => simp only [serve, setState_fst, get_purge hlive]
  | remove address interfaceId => exact congrArg Answer.entry (get_purge hlive)
  | removeExpired =>
    have hnone : (c.removeExpired now).1 = 0 := by
      by_contra hne
      exact huntold (.inr ⟨rfl, removed_ne_zero_iff.mp hne⟩)
    simp only [serve, removed_purge, hnone]
  | clear => rfl

theorem serve_purge {request : Request} (huntouched : ¬ Touches now c request) :
    ((c.purge now).serve now request).2.purge now = (c.serve now request).2.purge now := by
  have hlive (e : NeighborEntry) (he : c.handed request = some e) : e.isExpired now = false :=
    Bool.eq_false_iff.mpr fun hexpired => huntouched ⟨e, he, hexpired⟩
  have hagree := agree_self now c
  cases request with
  | insert entry => exact put_snd_purge false entry now c
  | upsert entry => exact put_snd_purge true entry now c
  | get address interfaceId | lookup address interfaceId => exact purge_self c now
  | resolve address interfaceId => exact purge_self c now
  | setState address interfaceId state =>
    simp only [serve, setState_snd, get_purge hlive]
    refine purge_eq_iff.mpr ⟨?_, rfl⟩
    cases c.get address interfaceId with
    | none => exact hagree
    | some e => exact hagree.insert _ _
  | remove address interfaceId => exact purge_eq_iff.mpr ⟨hagree.erase _, rfl⟩
  | removeExpired => exact congrArg (purge now) (purge_self c now)
  | clear => rfl

theorem answer_purge_ne {request : Request} (htells : Tells now c request) :
    ((c.purge now).serve now request).1 ≠ (c.serve now request).1 := by
  obtain ⟨e, he, hexpired⟩ | ⟨rfl, hdead⟩ := htells
  case inr =>
    have hsome := removed_ne_zero_iff.mpr hdead
    simp only [serve, removed_purge]
    exact fun heq => hsome (Answer.removed.inj heq).symm
  have hgone {address : IpAddr} {interfaceId : UInt32} (hfound : c.get address interfaceId = some e) :
      (c.purge now).get address interfaceId = none := by
    refine Option.eq_none_iff_forall_ne_some.mpr fun e' he' => ?_
    obtain ⟨hfound', hlive⟩ := get_purge_eq_some.mp he'
    rw [hfound] at hfound'
    rw [← Option.some.inj hfound', hexpired] at hlive
    cases hlive
  cases request with
  | insert entry | upsert entry => cases he
  | lookup address interfaceId | resolve address interfaceId => cases he
  | removeExpired | clear => cases he
  | get address interfaceId | remove address interfaceId =>
    have hfound : c.get address interfaceId = some e := he
    show Answer.entry ((c.purge now).get address interfaceId) ≠ .entry (c.get address interfaceId)
    rw [hgone hfound, hfound]
    exact fun heq => nomatch heq
  | setState address interfaceId state =>
    have hfound : c.get address interfaceId = some e := he
    simp only [serve, setState_fst, hgone hfound, hfound]
    exact fun heq => nomatch heq

end NeighborCache

/-! ## 4. The gateway -/

namespace GatewayRuntime

inductive Request where
  | connection (request : ConnectionStateTable.Request)
  | nat (request : NatTable.Request)
  | neighbor (request : NeighborCache.Request)
  deriving DecidableEq, Repr

inductive Answer where
  | connection (answer : ConnectionStateTable.Answer)
  | nat (answer : NatTable.Answer)
  | neighbor (answer : NeighborCache.Answer)

/-- `cleanup_expired`, all of it in one second. -/
def purge (now : UInt64) (g : GatewayRuntime) : GatewayRuntime := (g.cleanupExpired now now now).2

def serve (now : UInt64) (g : GatewayRuntime) : Request → Answer × GatewayRuntime
  | .connection request =>
    (.connection (g.connections.serve now request).1,
      { g with connections := (g.connections.serve now request).2 })
  | .nat request =>
    (.nat (g.nat.serve now request).1, { g with nat := (g.nat.serve now request).2 })
  | .neighbor request =>
    (.neighbor (g.neighbors.serve now request).1,
      { g with neighbors := (g.neighbors.serve now request).2 })

def store : Store UInt64 GatewayRuntime Request Answer := ⟨purge, serve⟩

/-- The call gets hold of an entry that has expired. -/
def Touches (now : UInt64) (g : GatewayRuntime) : Request → Prop
  | .connection request => g.connections.Touches now request
  | .nat request => g.nat.Touches now request
  | .neighbor request => g.neighbors.Touches now request

/-- Its answer tells of an entry that has expired. -/
def Tells (now : UInt64) (g : GatewayRuntime) : Request → Prop
  | .connection request => g.connections.Tells now request
  | .nat request => g.nat.Tells now request
  | .neighbor request => g.neighbors.Tells now request

/-- `cleanup_expired` is three calls, each at its own reading of the clock, and returns what they
return. -/
theorem cleanupExpired_run (connectionsAt natAt neighborsAt : UInt64) (g : GatewayRuntime) :
    let calls := [(connectionsAt, Request.connection .removeExpired), (natAt, .nat .removeExpired),
      (neighborsAt, .neighbor .removeExpired)]
    let cleaned := g.cleanupExpired connectionsAt natAt neighborsAt
    cleaned.2 = run store.step g calls ∧
      (exchanges store.step store.answer g calls).map Prod.snd =
        [.connection (.removed cleaned.1.1), .nat (.removed cleaned.1.2.1),
          .neighbor (.removed cleaned.1.2.2)] := ⟨rfl, rfl⟩

theorem lasts_serve {n : ℕ} {g : GatewayRuntime} (h : g.nat.Lasts (n + 1)) (now : UInt64)
    (request : Request) : (g.serve now request).2.nat.Lasts n := by
  cases request with
  | nat request => exact h.serve now request
  | connection request | neighbor request =>
    have hroom := h.room
    refine ⟨h.toSound, ?_⟩
    show g.nat.nextId.toNat + n < 2 ^ 64
    omega

theorem tells_of_touches {now : UInt64} {g : GatewayRuntime} {request : Request}
    (h : g.Touches now request) : g.Tells now request := by
  cases request with
  | connection request | nat request | neighbor request => exact .inl h

theorem lazy : Lazy store Touches Tells fun n g => g.nat.Lasts n where
  le_refl := UInt64.le_refl
  tells := tells_of_touches
  inv_purge h now := h.purged now
  inv_perform h now request := lasts_serve h now request
  purge_purge := by
    intro n g h now later hle
    show GatewayRuntime.mk _ _ _ = .mk _ _ _
    congr 1
    · exact ConnectionStateTable.purge_purge hle g.connections
    · exact h.toConsistent.purged_purged hle
    · exact NeighborCache.purge_purge hle g.neighbors
  answer_eq := by
    intro n g h now request huntold
    cases request with
    | connection request =>
      exact congrArg Answer.connection (ConnectionStateTable.answer_purge huntold)
    | nat request => exact congrArg Answer.nat (NatTable.answer_purged h huntold)
    | neighbor request => exact congrArg Answer.neighbor (NeighborCache.answer_purge huntold)
  purge_eq := by
    intro n g h now request huntouched
    -- The call is served by one table, and the other two are purged once more.
    have hconnections := ConnectionStateTable.purge_self g.connections now
    have hnat := h.toConsistent.purged_self now
    have hneighbors := NeighborCache.purge_self g.neighbors now
    show GatewayRuntime.mk _ _ _ = .mk _ _ _
    cases request with
    | connection request =>
      congr 1
      exact ConnectionStateTable.serve_purge huntouched
    | nat request =>
      congr 1
      exact NatTable.serve_purged h huntouched
    | neighbor request =>
      congr 1
      exact NeighborCache.serve_purge huntouched
  answer_ne := by
    intro n g h now request htells
    cases request with
    | connection request =>
      exact fun heq => ConnectionStateTable.answer_purge_ne htells (Answer.connection.inj heq)
    | nat request => exact fun heq => NatTable.answer_purged_ne h htells (Answer.nat.inj heq)
    | neighbor request =>
      exact fun heq => NeighborCache.answer_purge_ne htells (Answer.neighbor.inj heq)

end GatewayRuntime

end NetworkEngine
